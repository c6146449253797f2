/-!
Halves of surrogate pairs. An escape can name such a half, though it is no character. A text holds
it as a character far from all that are assigned; where a text is quoted, the half is written. In
the same way a file name or an argument has halves for bytes that are not UTF-8. The order of texts
with halves is outside the model: the character for a half does not stand where the half stands.
-/

namespace ComponentBuild.Text

def isHalf (n : Nat) : Bool := 0xD800 ≤ n && n ≤ 0xDFFF

def halfOffset : Nat := 0xB0000

def ofCodePoint (n : Nat) : Char := Char.ofNat (if isHalf n then n + halfOffset else n)

def codePoint (c : Char) : Nat :=
  if isHalf (c.toNat - halfOffset) then c.toNat - halfOffset else c.toNat

/-- There are no bytes for a half in UTF-8. -/
def fitsUtf8 (s : String) : Bool := s.toList.all fun c => !isHalf (codePoint c)

end ComponentBuild.Text
