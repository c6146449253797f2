import ComponentBuild.Pattern.Basic

namespace ComponentBuild.Pattern

variable {s : String} {cs : List Char}

/-- A text that is its own normal form: no backslash, and neither a blank nor a slash at its ends. -/
structure Tidy (s : String) : Prop where
  unslashed : '\\' ∉ s.toList
  start : ∃ c, s.toList.head? = some c ∧ Text.isBlank c = false ∧ c ≠ '/'
  ending : ∃ c, s.toList.getLast? = some c ∧ Text.isBlank c = false ∧ c ≠ '/'

theorem map_slashed_of_not_mem (h : '\\' ∉ cs) : cs.map slashed = cs := by
  have hkept : ∀ c ∈ cs, slashed c = c := by
    intro c hc
    apply if_neg
    rintro rfl
    exact h hc
  rw [List.map_congr_left hkept, List.map_id']

theorem Tidy.normalText?_eq (h : Tidy s) : normalText? s = some s.toList := by
  obtain ⟨c, hc, hcb, hcs⟩ := h.start
  obtain ⟨d, hd, hdb, hds⟩ := h.ending
  obtain ⟨rest, hrest⟩ := List.head?_eq_some_iff.1 hc
  simp only [normalText?, Text.trimChars_of_ends hc hd hcb hdb, map_slashed_of_not_mem h.unslashed,
    hd, if_neg hds]
  rw [hrest, List.dropWhile_cons_of_neg (by simpa using hcs)]

theorem Tidy.ofText?_eq (h : Tidy s) : ofText? s = some ⟨s, piecesOf s.toList⟩ := by
  rw [ofText?, h.normalText?_eq, Option.map_some, String.ofList_toList]

theorem any_rests {test : Char → Bool} {takes : List Char → Bool} (run : List Char)
    {rest : List Char} (hrun : run.all test = true) (h : takes rest = true) :
    (rests test (run ++ rest)).any takes = true :=
  List.any_eq_true.2 ⟨rest, mem_rests.2 ⟨run, rfl, hrun⟩, h⟩

theorem matchPieces_piecesOf (cs : List Char) : matchPieces (piecesOf cs) cs = true := by
  fun_induction piecesOf cs with
  | case1 => rfl
  | case2 cs ih =>
    -- Of the two ways to take two stars and a slash only the one with a slash in it will do.
    rw [matchPieces, Bool.or_eq_true]
    have hslash : '*' :: '*' :: '/' :: cs = ['*', '*'] ++ '/' :: cs := rfl
    rw [hslash]
    exact .inr (any_rests ['*', '*'] rfl ih)
  | case3 => rfl
  | case4 cs _ ih => exact any_rests ['*', '*'] rfl ih
  | case5 cs _ _ ih => exact any_rests ['*'] rfl ih
  | case6 cs ih => exact ih
  | case7 c cs _ _ _ _ _ ih =>
    rw [matchPieces, beq_self_eq_true, Bool.true_and, ih]

theorem Tidy.fits_itself (h : Tidy s) : ∃ p, ofText? s = some p ∧ p.fits s = true :=
  ⟨_, h.ofText?_eq, matchPieces_piecesOf _⟩

end ComponentBuild.Pattern
