import ComponentBuild.Proofs.Pattern.Segments

namespace ComponentBuild.Pattern

section Leading

theorem matchPieces_ofName {q : List Char} (hq : '/' ∉ q) (cs : List Char) :
    matchPieces (q.map namePiece) cs = true ↔ '/' ∉ cs ∧ nameFits q cs = true := by
  have hname := matchPieces_name hq [] cs
  rw [List.append_nil] at hname
  rw [hname]
  constructor
  · rintro ⟨u, v, rfl, hu, hf, hv⟩
    obtain rfl := List.isEmpty_iff.1 hv
    rw [List.append_nil]
    exact ⟨hu, hf⟩
  · rintro ⟨hc, hf⟩
    exact ⟨cs, [], by simp, hc, hf, rfl⟩

theorem matchPieces_leading_name {q : List Char} (hq : '/' ∉ q) (cs : List Char) :
    matchPieces (.leading :: q.map namePiece) cs = true ↔
      ('/' ∉ cs ∧ nameFits q cs = true) ∨
        ∃ run x, cs = run ++ '/' :: x ∧ '\n' ∉ run ∧ '/' ∉ x ∧ nameFits q x = true := by
  simp only [matchPieces, Bool.or_eq_true, List.any_eq_true, mem_rests_withinLine,
    matchPieces_ofName hq]
  apply or_congr_right
  constructor
  · rintro ⟨r, ⟨run, rfl, hrun⟩, h⟩
    split at h
    · rename_i x
      obtain ⟨hx, hf⟩ := (matchPieces_ofName hq x).1 h
      exact ⟨run, x, rfl, hrun, hx, hf⟩
    · cases h
  · rintro ⟨run, x, rfl, hrun, hx, hf⟩
    exact ⟨'/' :: x, ⟨run, rfl, hrun⟩, (matchPieces_ofName hq x).2 ⟨hx, hf⟩⟩

end Leading

section Anywhere

theorem nameFits_of_plain {q : List Char} (hs : '*' ∉ q) (hq : '?' ∉ q) (x : List Char) :
    nameFits q x = true ↔ x = q := by
  induction q generalizing x with
  | nil => simp [nameFits]
  | cons c q ih =>
    simp only [List.mem_cons, not_or] at hs hq
    rw [nameFits_other q x (Ne.symm hs.1) (Ne.symm hq.1)]
    constructor
    · rintro ⟨y, rfl, hy⟩
      rw [(ih hs.2 hq.2 y).1 hy]
    · rintro rfl
      exact ⟨q, rfl, (ih hs.2 hq.2 q).2 rfl⟩

theorem segmentsFit_anywhere {q : List Char} (hq : q ≠ anyNames) (xs : List (List Char)) :
    segmentsFit [anyNames, q, anyNames] xs = true ↔ ∃ x ∈ xs, nameFits q x = true := by
  have hfit : ∀ ys, segmentsFit [q, anyNames] ys = true ↔
      ∃ x zs, ys = x :: zs ∧ nameFits q x = true := by
    intro ys
    cases ys with
    | nil => simp [segmentsFit, hq]
    | cons x zs =>
      have htail : segmentsFit [anyNames] zs = true := segmentsFit_anyNames zs
      rw [segmentsFit.eq_def]
      simp [hq, htail]
  simp only [segmentsFit.eq_def [anyNames, q, anyNames], if_true, List.any_eq_true, List.mem_tails,
    hfit]
  constructor
  · rintro ⟨ys, hys, x, zs, rfl, hf⟩
    exact ⟨x, hys.subset List.mem_cons_self, hf⟩
  · rintro ⟨x, hx, hf⟩
    obtain ⟨before, after, rfl⟩ := List.append_of_mem hx
    exact ⟨_, List.suffix_append _ _, x, after, rfl, hf⟩

theorem regular_anywhere {q : List Char} (hq : '*' ∉ q) : Regular [anyNames, q, anyNames] where
  whole := by
    intro r hr hi
    simp only [List.mem_cons, List.not_mem_nil, or_false] at hr
    rcases hr with rfl | rfl | rfl
    · rfl
    · exact absurd (hi.subset List.mem_cons_self) hq
    · rfl
  apart := by
    intro hi
    have hne : q ≠ anyNames := by
      rintro rfl
      exact hq List.mem_cons_self
    have heq := List.infix_cons_iff.1 hi
    simp [List.infix_cons_iff, hne.symm] at heq

theorem fits_anywhere {s path : String} {q : List Char}
    (hs : normalText? s = some (anyNames ++ '/' :: (q ++ '/' :: anyNames)))
    (hslash : '/' ∉ q) (hstar : '*' ∉ q) (hone : '?' ∉ q) (hp : '\n' ∉ path.toList) :
    ∃ p, ofText? s = some p ∧ (p.fits path = true ↔ q ∈ segments path.toList) := by
  have hq : q ≠ anyNames := by
    rintro rfl
    exact hstar List.mem_cons_self
  have hseg : segments (anyNames ++ '/' :: (q ++ '/' :: anyNames)) = [anyNames, q, anyNames] := by
    have hname : segments q = [q] := Text.pieces_of_not_mem hslash
    rw [segments_append_slash, segments_append_slash, hname]
    rfl
  have hr := regular_anywhere hstar
  rw [← hseg] at hr
  obtain ⟨p, ho, hf⟩ := fits_eq_segmentsFit hs hr hp
  refine ⟨p, ho, ?_⟩
  rw [hf, hseg, segmentsFit_anywhere hq]
  simp [nameFits_of_plain hstar hone]

end Anywhere

end ComponentBuild.Pattern
