import ComponentBuild.Proofs.Path.Text
import ComponentBuild.Proofs.Pattern.Anywhere
import ComponentBuild.Proofs.SourceSet.Collect

namespace ComponentBuild.SourceSet

variable {dirs names : List Name} {n : Name}

theorem toList_relativeText_concat (hd : dirs ≠ []) (n : Name) :
    (relativeText (dirs ++ [n])).toList = (relativeText dirs).toList ++ '/' :: n.text.toList := by
  have hm : dirs.map Name.text ≠ [] := by simpa using hd
  rw [relativeText, List.map_append, List.map_singleton, Text.intercalate_concat hm]
  simp [relativeText]

theorem mem_relativeText {c : Char} (hc : c ≠ '/') :
    c ∈ (relativeText names).toList ↔ ∃ n ∈ names, c ∈ n.text.toList := by
  induction names using List.reverseRecOn with
  | nil => simp [relativeText]
  | append_singleton names n ih =>
    by_cases hn : names = []
    · subst hn
      simp [relativeText]
    · rw [toList_relativeText_concat hn, List.mem_append, List.mem_cons, ih]
      simp [hc, or_and_right, exists_or]

theorem segments_relativeText (h : names ≠ []) :
    Pattern.segments (relativeText names).toList = names.map fun n => n.text.toList := by
  have hslash : ∀ p ∈ names.map fun n => n.text.toList, '/' ∉ p := by
    intro p hp
    obtain ⟨n, -, rfl⟩ := List.mem_map.1 hp
    exact n.slash_not_mem_text
  have hp := Text.pieces_intercalate_of_not_mem (by simpa using h) hslash
  rw [relativeText, String.toList_intercalate, List.map_map]
  exact hp

theorem matchPieces_relativeText {q : List Char} (hq : '/' ∉ q) (dirs : List Name) (n : Name) :
    Pattern.matchPieces (.leading :: q.map Pattern.namePiece)
        (relativeText (dirs ++ [n])).toList = true ↔
      Pattern.nameFits q n.text.toList = true ∧ ∀ d ∈ dirs, '\n' ∉ d.text.toList := by
  rw [Pattern.matchPieces_leading_name hq]
  have hn := n.slash_not_mem_text
  by_cases hd : dirs = []
  · subst hd
    have hrel : relativeText [n] = n.text := by simp [relativeText]
    rw [List.nil_append, hrel]
    constructor
    · rintro (⟨-, hf⟩ | ⟨run, x, hcs, -⟩)
      · exact ⟨hf, by simp⟩
      · exact absurd (by simp [hcs]) hn
    · rintro ⟨hf, -⟩
      exact .inl ⟨hn, hf⟩
  · have hlines : '\n' ∉ (relativeText dirs).toList ↔ ∀ d ∈ dirs, '\n' ∉ d.text.toList := by
      rw [mem_relativeText (by decide)]
      simp
    rw [toList_relativeText_concat hd, ← hlines]
    constructor
    · rintro (⟨hslash, -⟩ | ⟨run, x, hcs, hrun, hx, hf⟩)
      · exact absurd (by simp) hslash
      · obtain ⟨rfl, rfl⟩ := (Text.append_mark_inj hn hx).1 hcs
        exact ⟨hf, hrun⟩
    · rintro ⟨hf, hrun⟩
      exact .inr ⟨_, _, rfl, hrun, hn, hf⟩

end ComponentBuild.SourceSet
