namespace ComponentBuild.Text

variable {α : Type}

def insertBy (key : α → String) (a : α) : List α → List α
  | [] => [a]
  | b :: bs => if key a ≤ key b then a :: b :: bs else b :: insertBy key a bs

def sortBy (key : α → String) (as : List α) : List α := as.foldr (insertBy key) []

def sortTexts (ss : List String) : List String := sortBy id ss

theorem insertBy_perm (key : α → String) (a : α) (bs : List α) :
    (insertBy key a bs).Perm (a :: bs) := by
  induction bs with
  | nil => exact .refl _
  | cons b bs ih =>
    simp only [insertBy]
    split
    · exact .refl _
    · exact (ih.cons b).trans (.swap a b bs)

theorem sortBy_perm (key : α → String) (as : List α) : (sortBy key as).Perm as := by
  induction as with
  | nil => exact .refl _
  | cons a as ih => exact (insertBy_perm key a _).trans (ih.cons a)

theorem mem_sortBy {key : α → String} {a : α} {as : List α} : a ∈ sortBy key as ↔ a ∈ as :=
  (sortBy_perm key as).mem_iff

theorem insertBy_sorted {key : α → String} {a : α} {bs : List α}
    (h : bs.Pairwise fun x y => key x ≤ key y) :
    (insertBy key a bs).Pairwise fun x y => key x ≤ key y := by
  induction bs with
  | nil => simp [insertBy]
  | cons b bs ih =>
    obtain ⟨hb, hbs⟩ := List.pairwise_cons.1 h
    simp only [insertBy]
    split
    · rename_i hab
      refine List.pairwise_cons.2 ⟨?_, h⟩
      intro c hc
      rcases List.mem_cons.1 hc with rfl | hc
      · exact hab
      · exact String.le_trans hab (hb c hc)
    · rename_i hab
      refine List.pairwise_cons.2 ⟨?_, ih hbs⟩
      intro c hc
      rcases List.mem_cons.1 ((insertBy_perm key a bs).mem_iff.1 hc) with rfl | hc
      · exact (String.le_total (key c) (key b)).resolve_left hab
      · exact hb c hc

theorem sortBy_sorted (key : α → String) (as : List α) :
    (sortBy key as).Pairwise fun x y => key x ≤ key y := by
  induction as with
  | nil => exact .nil
  | cons a as ih => exact insertBy_sorted ih

end ComponentBuild.Text
