namespace ComponentBuild.Text

def isBlank (c : Char) : Bool :=
  let n := c.toNat
  (9 ≤ n && n ≤ 13) || (28 ≤ n && n ≤ 32) || n == 0x85 || n == 0xA0 || n == 0x1680
    || (0x2000 ≤ n && n ≤ 0x200A) || n == 0x2028 || n == 0x2029 || n == 0x202F || n == 0x205F
    || n == 0x3000

def trimStart (cs : List Char) : List Char := cs.dropWhile isBlank

def trimEnd (cs : List Char) : List Char := (trimStart cs.reverse).reverse

def trimChars (cs : List Char) : List Char := trimEnd (trimStart cs)

def trim (s : String) : String := String.ofList (trimChars s.toList)

def isBlankText (s : String) : Bool := s.toList.all isBlank

theorem trimStart_of_head {c : Char} {cs : List Char} (h : isBlank c = false) :
    trimStart (c :: cs) = c :: cs := by
  simp [trimStart, h]

theorem trimStart_of_head? {c : Char} {cs : List Char} (h : cs.head? = some c)
    (hc : isBlank c = false) : trimStart cs = cs := by
  obtain ⟨rest, rfl⟩ := List.head?_eq_some_iff.1 h
  exact trimStart_of_head hc

theorem trimStart_eq_nil {cs : List Char} : trimStart cs = [] ↔ cs.all isBlank = true := by
  induction cs with
  | nil => simp [trimStart]
  | cons c cs ih => by_cases h : isBlank c = true <;> simp_all [trimStart]

theorem all_trimStart (cs : List Char) : (trimStart cs).all isBlank = cs.all isBlank := by
  induction cs with
  | nil => rfl
  | cons c cs ih => by_cases h : isBlank c = true <;> simp_all [trimStart]

theorem trimChars_eq_nil {cs : List Char} : trimChars cs = [] ↔ cs.all isBlank = true := by
  rw [trimChars, trimEnd, List.reverse_eq_nil_iff, trimStart_eq_nil, List.all_reverse,
    all_trimStart]

theorem trimChars_of_ends {c d : Char} {cs : List Char} (hc : cs.head? = some c)
    (hd : cs.getLast? = some d) (hcb : isBlank c = false) (hdb : isBlank d = false) :
    trimChars cs = cs := by
  have hback : cs.reverse.head? = some d := by rw [List.head?_reverse, hd]
  rw [trimChars, trimStart_of_head? hc hcb, trimEnd, trimStart_of_head? hback hdb,
    List.reverse_reverse]

end ComponentBuild.Text
