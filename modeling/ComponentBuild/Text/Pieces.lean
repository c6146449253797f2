namespace ComponentBuild.Text

def pieces (mark : Char) : List Char → List (List Char)
  | [] => [[]]
  | c :: cs =>
    if c = mark then [] :: pieces mark cs
    else match pieces mark cs with
      | [] => [[c]]
      | p :: ps => (c :: p) :: ps

def split (mark : Char) (s : String) : List String := (pieces mark s.toList).map String.ofList

def cut? (mark : Char) : List Char → Option (List Char × List Char)
  | [] => none
  | c :: cs =>
    if c = mark then some ([], cs) else (cut? mark cs).map fun r => (c :: r.1, r.2)

theorem cut?_eq_some {mark : Char} {cs before after : List Char} :
    cut? mark cs = some (before, after) ↔ cs = before ++ mark :: after ∧ mark ∉ before := by
  induction cs generalizing before with
  | nil => simp [cut?]
  | cons c cs ih =>
    rw [cut?]
    split
    · rename_i hc
      cases before with
      | nil => simp [hc]
      | cons d before => grind
    · rename_i hc
      cases before with
      | nil => simp [hc]
      | cons d before =>
        simp only [Option.map_eq_some_iff, Prod.exists]
        grind

theorem cut?_eq_none {mark : Char} {cs : List Char} : cut? mark cs = none ↔ mark ∉ cs := by
  induction cs with
  | nil => simp [cut?]
  | cons c cs ih =>
    rw [cut?]
    split
    · rename_i hc
      simp [hc]
    · rename_i hc
      simp [ih, Ne.symm hc]

theorem pieces_ne_nil (mark : Char) (cs : List Char) : pieces mark cs ≠ [] := by
  induction cs with
  | nil => simp [pieces]
  | cons c cs ih =>
    simp only [pieces]
    split
    · simp
    · split <;> simp_all

theorem pieces_intercalate (mark : Char) (cs : List Char) :
    [mark].intercalate (pieces mark cs) = cs := by
  induction cs with
  | nil => rfl
  | cons c cs ih =>
    simp only [pieces]
    split
    · rename_i h
      cases hp : pieces mark cs with
      | nil => exact absurd hp (pieces_ne_nil mark cs)
      | cons p ps => simp [List.intercalate, List.intersperse, h] at ih ⊢; simp [hp] at ih; exact ih
    · cases hp : pieces mark cs with
      | nil => exact absurd hp (pieces_ne_nil mark cs)
      | cons p ps =>
        rw [hp] at ih
        cases ps <;> simp_all [List.intercalate, List.intersperse]

theorem pieces_of_not_mem {mark : Char} {cs : List Char} (h : mark ∉ cs) :
    pieces mark cs = [cs] := by
  induction cs with
  | nil => rfl
  | cons c cs ih =>
    simp only [List.mem_cons, not_or] at h
    simp [pieces, ih h.2, Ne.symm h.1]

theorem pieces_append (mark : Char) (cs rest : List Char) :
    pieces mark (cs ++ mark :: rest) = pieces mark cs ++ pieces mark rest := by
  induction cs with
  | nil => simp [pieces]
  | cons c cs ih =>
    simp only [List.cons_append, pieces]
    split
    · rw [ih, List.cons_append]
    · rw [ih]
      cases hp : pieces mark cs with
      | nil => exact absurd hp (pieces_ne_nil mark cs)
      | cons p ps => rfl

theorem not_mem_of_mem_pieces {mark : Char} {cs p : List Char} (h : p ∈ pieces mark cs) :
    mark ∉ p := by
  induction cs generalizing p with
  | nil => simp_all [pieces]
  | cons c cs ih =>
    simp only [pieces] at h
    split at h
    · rcases List.mem_cons.1 h with rfl | h
      · simp
      · exact ih h
    · split at h
      · simp_all [Ne.symm]
      · rename_i hc _ q qs hq
        rcases List.mem_cons.1 h with rfl | h
        · simp only [List.mem_cons, not_or]
          exact ⟨Ne.symm hc, ih (hq ▸ List.mem_cons_self ..)⟩
        · exact ih (hq ▸ List.mem_cons_of_mem _ h)

theorem suffix_of_suffix_append_mark {mark : Char} {w cs x : List Char}
    (h : w <:+ cs ++ mark :: x) (hw : mark ∉ w) : w <:+ x := by
  have hx : mark :: x <:+ cs ++ mark :: x := List.suffix_append ..
  rcases List.suffix_or_suffix_of_suffix h hx with hw' | hw'
  · rcases List.suffix_cons_iff.1 hw' with rfl | hw'
    · exact absurd List.mem_cons_self hw
    · exact hw'
  · exact absurd (hw'.subset List.mem_cons_self) hw

theorem append_mark_inj {mark : Char} {cs ds x y : List Char} (hx : mark ∉ x) (hy : mark ∉ y) :
    cs ++ mark :: x = ds ++ mark :: y ↔ cs = ds ∧ x = y := by
  constructor
  · intro h
    have hleft : x <:+ ds ++ mark :: y := by
      rw [← h]
      exact (List.suffix_cons mark x).trans (List.suffix_append ..)
    have hright : y <:+ cs ++ mark :: x := by
      rw [h]
      exact (List.suffix_cons mark y).trans (List.suffix_append ..)
    have hxy := suffix_of_suffix_append_mark hleft hx
    have hyx := suffix_of_suffix_append_mark hright hy
    obtain rfl := hxy.eq_of_length (Nat.le_antisymm hxy.length_le hyx.length_le)
    exact ⟨List.append_cancel_right h, rfl⟩
  · rintro ⟨rfl, rfl⟩
    rfl

end ComponentBuild.Text
