import ComponentBuild.Text.Blank
import ComponentBuild.Text.Digit

namespace ComponentBuild.Decimal

def digitValue (c : Char) : Option Nat :=
  if '0' ≤ c ∧ c ≤ '9' then some (c.toNat - 48)
  else if 'a' ≤ c ∧ c ≤ 'z' then some (c.toNat - 87)
  else if 'A' ≤ c ∧ c ≤ 'Z' then some (c.toNat - 55)
  else none

def isDigitOf (base : Nat) (c : Char) : Bool := (digitValue c).any (· < base)

def joinDigits (base : Nat) : List Char → Option (List Char)
  | [] => none
  | [c] => if isDigitOf base c then some [c] else none
  | c :: '_' :: d :: cs =>
    if isDigitOf base c && isDigitOf base d then (joinDigits base (d :: cs)).map (c :: ·) else none
  | c :: d :: cs =>
    if isDigitOf base c then (joinDigits base (d :: cs)).map (c :: ·) else none

def natOfDigits (base : Nat) (cs : List Char) : Nat :=
  cs.foldl (fun n c => n * base + (digitValue c).getD 0) 0

def takeSign : List Char → Bool × List Char
  | '-' :: cs => (true, cs)
  | '+' :: cs => (false, cs)
  | cs => (false, cs)

def basePrefixes (base : Nat) : List Char :=
  if base = 2 then ['b', 'B'] else if base = 8 then ['o', 'O'] else if base = 16 then ['x', 'X']
  else []

def dropBasePrefix (base : Nat) : List Char → List Char
  | '0' :: p :: '_' :: cs =>
    if p ∈ basePrefixes base then cs else '0' :: p :: '_' :: cs
  | '0' :: p :: cs => if p ∈ basePrefixes base then cs else '0' :: p :: cs
  | cs => cs

def isNumberBlank (c : Char) : Bool := Text.isBlank c && !(28 ≤ c.toNat && c.toNat ≤ 31)

def numberChars (cs : List Char) : List Char :=
  let cs := cs.dropWhile isNumberBlank
  ((cs.reverse.dropWhile isNumberBlank).reverse).map Text.plainDigit

def leadingDigits (cs : List Char) : Nat :=
  ((takeSign (numberChars cs)).2.takeWhile Char.isDigit).length

def readInt? (base : Nat) (cs : List Char) : Option Int :=
  let (negative, cs) := takeSign (numberChars cs)
  (joinDigits base (dropBasePrefix base cs)).map fun ds =>
    let n : Int := natOfDigits base ds
    if negative then -n else n

def scaled (digits : List Char) (power : Int) : Float :=
  let digits := digits.dropWhile (· == '0')
  let top := power + digits.length
  if digits.isEmpty || top < -400 then 0.0
  else if 400 < top then 1.0 / 0.0
  else Float.ofScientific (natOfDigits 10 digits) (power < 0) power.natAbs

def digitRun (cs : List Char) : Option (List Char) :=
  if cs.isEmpty then some [] else joinDigits 10 cs

def readExponent : List Char → Option Int
  | [] => some 0
  | _ :: cs =>
    let (negative, cs) := takeSign cs
    (joinDigits 10 cs).map fun ds =>
      let ds := ds.dropWhile (· == '0')
      let n : Int := if 9 < ds.length then 1000000000 else natOfDigits 10 ds
      if negative then -n else n

def readMagnitude (cs : List Char) : Option Float := do
  let mantissa := cs.takeWhile fun c => c != 'e' && c != 'E'
  let exponent ← readExponent (cs.dropWhile fun c => c != 'e' && c != 'E')
  let whole ← digitRun (mantissa.takeWhile (· != '.'))
  let fraction ← digitRun ((mantissa.dropWhile (· != '.')).drop 1)
  if whole.isEmpty && fraction.isEmpty then none
  else some (scaled (whole ++ fraction) (exponent - fraction.length))

def readFloat? (cs : List Char) : Option Float :=
  let (negative, cs) := takeSign (numberChars cs)
  let lower := String.ofList (cs.map Char.toLower)
  let magnitude :=
    if lower = "inf" ∨ lower = "infinity" then some (1.0 / 0.0)
    else if lower = "nan" then some (0.0 / 0.0)
    else readMagnitude cs
  magnitude.map fun x => if negative then -x else x

end ComponentBuild.Decimal
