import ComponentBuild.SourceSet.Listing

namespace ComponentBuild

/-- Whether the first names lead to a file that a walk comes to before that of the second. -/
def Before : List Name → List Name → Prop
  | [m], [n] => m.text < n.text
  | [_], _ :: _ :: _ => True
  | d :: m :: ms, e :: n :: ns => d.text < e.text ∨ d = e ∧ Before (m :: ms) (n :: ns)
  | _, _ => False

theorem Name.text_injective {m n : Name} (h : m.text = n.text) : m = n := by
  cases m
  cases n
  simpa using h

namespace Before

theorem cons_cons (d e : Name) {ms ns : List Name} (hm : ms ≠ []) (hn : ns ≠ []) :
    Before (d :: ms) (e :: ns) ↔ d.text < e.text ∨ d = e ∧ Before ms ns := by
  cases ms with
  | nil => exact absurd rfl hm
  | cons m ms =>
    cases ns with
    | nil => exact absurd rfl hn
    | cons n ns => rfl

theorem append (dir : List Name) {ms ns : List Name} (hm : ms ≠ []) (hn : ns ≠ []) :
    Before (dir ++ ms) (dir ++ ns) ↔ Before ms ns := by
  induction dir with
  | nil => rfl
  | cons d dir ih =>
    rw [List.cons_append, List.cons_append, cons_cons _ _ (by simp [hm]) (by simp [hn]), ih]
    constructor
    · rintro (h | ⟨-, h⟩)
      · exact absurd h (String.lt_irrefl _)
      · exact h
    · intro h
      exact .inr ⟨rfl, h⟩

theorem file_directory (dir : List Name) (n d : Name) {ms : List Name} (hm : ms ≠ []) :
    Before (dir ++ [n]) (dir ++ d :: ms) := by
  rw [append dir (by simp) (by simp)]
  cases ms with
  | nil => exact absurd rfl hm
  | cons m ms => trivial

theorem files (dir : List Name) {m n : Name} (h : m.text < n.text) :
    Before (dir ++ [m]) (dir ++ [n]) := by
  apply (append dir (by simp) (by simp)).2
  exact h

theorem directories (dir : List Name) {d e : Name} (h : d.text < e.text) {ms ns : List Name}
    (hm : ms ≠ []) (hn : ns ≠ []) : Before (dir ++ d :: ms) (dir ++ e :: ns) := by
  apply (append dir (by simp) (by simp)).2
  apply (cons_cons d e hm hn).2
  left
  exact h

theorem ne_nil {ms ns : List Name} (h : Before ms ns) : ms ≠ [] ∧ ns ≠ [] := by
  cases ms with
  | nil => simp [Before] at h
  | cons m ms =>
    cases ns with
    | nil => cases ms <;> simp [Before] at h
    | cons n ns => simp

theorem asymm {ms ns : List Name} (h : Before ms ns) : ¬ Before ns ms := by
  induction ms generalizing ns with
  | nil => simp [Before] at h
  | cons m ms ih =>
    cases ns with
    | nil => exact absurd rfl h.ne_nil.2
    | cons n ns =>
      cases ms with
      | nil =>
        cases ns with
        | nil => exact String.lt_asymm h
        | cons k ns => simp [Before]
      | cons j ms =>
        cases ns with
        | nil => simp [Before] at h
        | cons k ns =>
          rw [cons_cons _ _ (by simp) (by simp)] at h ⊢
          rintro (h' | ⟨rfl, h'⟩)
          · rcases h with h | ⟨rfl, -⟩
            · exact String.lt_asymm h h'
            · exact String.lt_irrefl _ h'
          · rcases h with h | ⟨-, h⟩
            · exact String.lt_irrefl _ h
            · exact ih h h'

theorem irrefl {ms : List Name} (h : Before ms ms) : False := h.asymm h

end Before

def Sorted (ns : List Name) : Prop := ns.Pairwise fun m n => m.text < n.text

namespace Tree

theorem names_nodup (t : Tree) (loc : Location) : (t.names loc).Nodup := by
  rw [names, (Text.sortBy_perm _ _).nodup_iff]
  have h : ((t.entries.map Prod.fst).filterMap (entryName? loc)).Pairwise (· ≠ ·) := by
    apply List.Pairwise.filterMap _ _ t.distinct
    intro l l' hne n hn n' hn' he
    apply hne
    rw [entryName?_eq_some.1 hn, entryName?_eq_some.1 hn', he]
  rwa [List.filterMap_map] at h

theorem names_sorted (t : Tree) (loc : Location) : Sorted (t.names loc) := by
  have hle := Text.sortBy_sorted Name.text (t.entries.filterMap fun e => entryName? loc e.1)
  apply (hle.and (names_nodup t loc)).imp
  rintro m n ⟨hmn, hne⟩
  rcases String.le_total n.text m.text with h | h
  · exact absurd (Name.text_injective (String.le_antisymm hmn h)) hne
  · by_cases hlt : m.text < n.text
    · exact hlt
    · exact absurd (Name.text_injective (String.le_antisymm h hlt)) hne

end Tree

end ComponentBuild
