import ComponentBuild.Proofs.Pattern.Name
import ComponentBuild.Text.Pieces

/-!
Patterns read segment by segment: two stars are any number of names of a path, any other segment
is one name. A pattern whose stars stand that way fits the same paths in both readings.
-/

namespace ComponentBuild.Pattern

def segmentsFit : List (List Char) → List (List Char) → Bool
  | [], xs => xs.isEmpty
  | q :: qs, xs =>
    if q = anyNames then xs.tails.any (segmentsFit qs)
    else
      match xs with
      | x :: xs => nameFits q x && segmentsFit qs xs
      | [] => false

/-- Two stars are a segment of their own, and never two such segments in a row. -/
structure Regular (qs : List (List Char)) : Prop where
  whole : ∀ q ∈ qs, anyNames <:+: q → q = anyNames
  apart : ¬ [anyNames, anyNames] <:+: qs

theorem Regular.tail {q : List Char} {qs : List (List Char)} (h : Regular (q :: qs)) :
    Regular qs where
  whole r hr := h.whole r (List.mem_cons_of_mem _ hr)
  apart hi := h.apart (List.infix_cons hi)

theorem Regular.second_ne {r : List Char} {qs : List (List Char)}
    (h : Regular (anyNames :: r :: qs)) : r ≠ anyNames := by
  rintro rfl
  apply h.apart
  exact ⟨[], qs, rfl⟩

abbrev segments (cs : List Char) : List (List Char) := Text.pieces '/' cs

section Segments

def joined (qs : List (List Char)) : List Char := ['/'].intercalate qs

def afterFirst : List (List Char) → List Char
  | [] => []
  | q :: qs => '/' :: joined (q :: qs)

theorem joined_cons (q : List Char) (qs : List (List Char)) :
    joined (q :: qs) = q ++ afterFirst qs := by
  cases qs with
  | nil => simp [joined, afterFirst]
  | cons r qs => simp [joined, afterFirst]

theorem segments_cons (c : Char) (cs : List Char) :
    segments (c :: cs) =
      if c = '/' then [] :: segments cs
      else match segments cs with
        | [] => [[c]]
        | p :: ps => (c :: p) :: ps := rfl

theorem segments_append_slash (run ds : List Char) :
    segments (run ++ '/' :: ds) = segments run ++ segments ds :=
  Text.pieces_append '/' run ds

theorem eq_append_of_segments {cs x : List Char} {xs : List (List Char)}
    (h : segments cs = x :: xs) :
    ∃ v, cs = x ++ v ∧ '/' ∉ x ∧
      (v = [] ∧ xs = [] ∨ ∃ ds, v = '/' :: ds ∧ xs = segments ds) := by
  induction cs generalizing x with
  | nil =>
    obtain ⟨rfl, rfl⟩ := List.cons.inj h
    exact ⟨[], rfl, by simp, .inl ⟨rfl, rfl⟩⟩
  | cons c cs ih =>
    rw [segments_cons] at h
    by_cases hc : c = '/'
    · rw [if_pos hc] at h
      obtain ⟨rfl, rfl⟩ := List.cons.inj h
      exact ⟨c :: cs, rfl, by simp, .inr ⟨cs, by rw [hc], rfl⟩⟩
    · rw [if_neg hc] at h
      cases hp : segments cs with
      | nil => exact absurd hp (Text.pieces_ne_nil _ _)
      | cons p ps =>
        simp only [hp, List.cons.injEq] at h
        obtain ⟨rfl, rfl⟩ := h
        obtain ⟨v, rfl, hx, hv⟩ := ih hp
        exact ⟨v, rfl, by simp [hx, Ne.symm hc], hv⟩

theorem suffix_segments {cs : List Char} {zs : List (List Char)} (hz : zs ≠ []) :
    zs <:+ segments cs ↔
      zs = segments cs ∨ ∃ run ds, cs = run ++ '/' :: ds ∧ zs = segments ds := by
  constructor
  · induction cs with
    | nil =>
      intro h
      simp only [segments, Text.pieces, List.suffix_cons_iff, List.suffix_nil] at h
      exact .inl (h.resolve_right hz)
    | cons c cs ih =>
      intro h
      rw [segments_cons] at h ⊢
      by_cases hc : c = '/'
      · subst hc
        rw [if_pos rfl] at h ⊢
        rcases List.suffix_cons_iff.1 h with h | h
        · exact .inl h
        · right
          obtain rfl | ⟨run, ds, rfl, rfl⟩ := ih h
          · exact ⟨[], cs, rfl, rfl⟩
          · exact ⟨'/' :: run, ds, rfl, rfl⟩
      · rw [if_neg hc] at h ⊢
        cases hp : segments cs with
        | nil => exact absurd hp (Text.pieces_ne_nil _ _)
        | cons p ps =>
          simp only [hp] at h ⊢
          rcases List.suffix_cons_iff.1 h with h | h
          · exact .inl h
          · right
            have hsuffix : zs <:+ segments cs := by
              rw [hp]
              exact h.trans (List.suffix_cons p ps)
            obtain rfl | ⟨run, ds, rfl, rfl⟩ := ih hsuffix
            · have hlen := h.length_le
              simp only [hp, List.length_cons] at hlen
              omega
            · exact ⟨c :: run, ds, rfl, rfl⟩
  · rintro (rfl | ⟨run, ds, rfl, rfl⟩)
    · exact List.suffix_refl _
    · rw [segments_append_slash]
      exact List.suffix_append ..

end Segments

section Fits

def AtSlash (v : List Char) : Prop := v = [] ∨ v.head? = some '/'

theorem append_atSlash_inj {x u w v : List Char} (hx : '/' ∉ x) (hu : '/' ∉ u)
    (hw : AtSlash w) (hv : AtSlash v) (h : x ++ w = u ++ v) : x = u ∧ w = v := by
  induction x generalizing u with
  | nil =>
    cases u with
    | nil => exact ⟨rfl, h⟩
    | cons c u =>
      simp only [List.nil_append] at h
      rcases hw with rfl | hw
      · simp at h
      · simp_all
  | cons c x ih =>
    cases u with
    | nil =>
      simp only [List.nil_append] at h
      rcases hv with rfl | hv
      · simp at h
      · simp [← h] at hv
        simp [hv] at hx
    | cons d u =>
      simp only [List.mem_cons, not_or] at hx hu
      obtain ⟨rfl, h'⟩ := List.cons.inj h
      obtain ⟨rfl, rfl⟩ := ih hx.2 hu.2 h'
      exact ⟨rfl, rfl⟩

theorem matchPieces_name_append {q x v : List Char} {ps : List Piece} (hq : '/' ∉ q) (hx : '/' ∉ x)
    (hv : AtSlash v) (hps : ∀ w, matchPieces ps w = true → AtSlash w) :
    matchPieces (q.map namePiece ++ ps) (x ++ v) = true ↔
      nameFits q x = true ∧ matchPieces ps v = true := by
  rw [matchPieces_name hq]
  constructor
  · rintro ⟨u, w, h, hu, hf, hm⟩
    obtain ⟨rfl, rfl⟩ := append_atSlash_inj hx hu hv (hps w hm) h
    exact ⟨hf, hm⟩
  · rintro ⟨hf, hm⟩
    exact ⟨x, v, rfl, hx, hf, hm⟩

theorem any_rests_withinLine {cs : List Char} (h : '\n' ∉ cs) :
    (rests withinLine cs).any (matchPieces []) = true := by
  have hrest : [] ∈ rests withinLine cs := mem_rests_withinLine.2 ⟨cs, by simp, h⟩
  exact List.any_eq_true.2 ⟨[], hrest, rfl⟩

theorem segmentsFit_anyNames (xs : List (List Char)) : segmentsFit [anyNames] xs = true := by
  simp only [segmentsFit, if_true, List.any_eq_true, List.mem_tails]
  exact ⟨[], List.nil_suffix, rfl⟩

theorem matchPieces_leading {ps : List Piece} {qs : List (List Char)} {cs : List Char}
    (hc : '\n' ∉ cs) (hqs : segmentsFit qs [] = false)
    (ih : ∀ ds, '\n' ∉ ds → matchPieces ps ds = segmentsFit qs (segments ds)) :
    matchPieces (.leading :: ps) cs = segmentsFit (anyNames :: qs) (segments cs) := by
  rw [Bool.eq_iff_iff]
  simp only [matchPieces, segmentsFit, if_true, Bool.or_eq_true, List.any_eq_true, List.mem_tails]
  constructor
  · rintro (h | ⟨r, hr, h⟩)
    · exact ⟨segments cs, List.suffix_refl _, ih cs hc ▸ h⟩
    · obtain ⟨run, rfl, -⟩ := mem_rests_withinLine.1 hr
      simp only [List.mem_append, not_or] at hc
      split at h
      · rename_i ds
        have hds : '\n' ∉ ds := by
          intro hd
          apply hc.2
          exact List.mem_cons_of_mem _ hd
        have hsuffix : segments ds <:+ segments (run ++ '/' :: ds) := by
          rw [segments_append_slash]
          exact List.suffix_append ..
        rw [ih ds hds] at h
        exact ⟨segments ds, hsuffix, h⟩
      · simp at h
  · rintro ⟨zs, hz, h⟩
    have hne : zs ≠ [] := by
      rintro rfl
      rw [hqs] at h
      cases h
    obtain rfl | ⟨run, ds, rfl, rfl⟩ := (suffix_segments hne).1 hz
    · left
      rw [ih cs hc]
      exact h
    · simp only [List.mem_append, List.mem_cons, not_or] at hc
      have hrest : '/' :: ds ∈ rests withinLine (run ++ '/' :: ds) :=
        mem_rests_withinLine.2 ⟨run, rfl, hc.1⟩
      right
      exact ⟨'/' :: ds, hrest, (ih ds hc.2.2).trans h⟩

theorem matchPieces_first {q cs : List Char} {ps : List Piece} {qs : List (List Char)}
    (hq : '/' ∉ q) (hw : q ≠ anyNames) (hps : ∀ w, matchPieces ps w = true → AtSlash w)
    (hend : matchPieces ps [] = segmentsFit qs [])
    (hslash : ∀ ds, ('\n' ∈ ds → '\n' ∈ cs) →
      matchPieces ps ('/' :: ds) = segmentsFit qs (segments ds)) :
    matchPieces (q.map namePiece ++ ps) cs = segmentsFit (q :: qs) (segments cs) := by
  cases h : segments cs with
  | nil => exact absurd h (Text.pieces_ne_nil _ _)
  | cons x xs =>
    obtain ⟨v, rfl, hx, hv⟩ := eq_append_of_segments h
    have hat : AtSlash v := by
      rcases hv with ⟨rfl, -⟩ | ⟨ds, rfl, -⟩
      · exact .inl rfl
      · exact .inr rfl
    rw [Bool.eq_iff_iff, matchPieces_name_append hq hx hat hps]
    simp only [segmentsFit, if_neg hw, Bool.and_eq_true]
    rcases hv with ⟨rfl, rfl⟩ | ⟨ds, rfl, rfl⟩
    · rw [hend]
    · rw [hslash ds fun hd => by simp [hd]]

theorem matchPieces_final {q : List Char} (hq : '/' ∉ q) (hw : q ≠ anyNames) (cs : List Char) :
    matchPieces (q.map namePiece ++ []) cs = segmentsFit [q] (segments cs) := by
  apply matchPieces_first hq hw
  · intro w h
    exact .inl (List.isEmpty_iff.1 h)
  · rfl
  · intro ds _
    cases hs : segments ds with
    | nil => exact absurd hs (Text.pieces_ne_nil _ _)
    | cons y ys => rfl

theorem matchPieces_inner {q cs : List Char} {ps : List Piece} {qs : List (List Char)}
    (hq : '/' ∉ q) (hw : q ≠ anyNames) (hc : '\n' ∉ cs) (hqs : segmentsFit qs [] = false)
    (ih : ∀ ds, '\n' ∉ ds → matchPieces ps ds = segmentsFit qs (segments ds)) :
    matchPieces (q.map namePiece ++ .char '/' :: ps) cs = segmentsFit (q :: qs) (segments cs) := by
  apply matchPieces_first hq hw
  · intro w h
    cases w with
    | nil => exact .inl rfl
    | cons d w =>
      simp only [matchPieces, Bool.and_eq_true, beq_iff_eq] at h
      right
      rw [h.1]
      rfl
  · exact hqs.symm
  · intro ds hd
    simp only [matchPieces, beq_self_eq_true, Bool.true_and]
    exact ih ds (mt hd hc)

theorem matchPieces_trailing {q cs : List Char} (hq : '/' ∉ q) (hw : q ≠ anyNames)
    (hc : '\n' ∉ cs) :
    matchPieces (q.map namePiece ++ [.trailing]) cs =
      segmentsFit [q, anyNames] (segments cs) := by
  apply matchPieces_first hq hw
  · intro w h
    cases w with
    | nil => exact .inl rfl
    | cons d w =>
      by_cases hd : d = '/'
      · right
        rw [hd]
        rfl
      · simp [matchPieces, hd] at h
  · rw [segmentsFit_anyNames]
    rfl
  · intro ds hd
    rw [segmentsFit_anyNames, matchPieces, any_rests_withinLine (mt hd hc), Bool.or_true]

theorem eq_nil_of_joined_eq_anyNames {q : List Char} {qs : List (List Char)}
    (h : joined (q :: qs) = anyNames) : q = anyNames ∧ qs = [] := by
  rw [joined_cons] at h
  cases qs with
  | nil => exact ⟨by simpa [afterFirst] using h, rfl⟩
  | cons r qs =>
    have hslash : '/' ∈ q ++ afterFirst (r :: qs) := by simp [afterFirst]
    rw [h] at hslash
    simp [anyNames] at hslash

theorem segmentsFit_nil {q : List Char} {qs : List (List Char)} (hr : Regular (q :: qs))
    (h : joined (q :: qs) ≠ anyNames) : segmentsFit (q :: qs) [] = false := by
  by_cases hw : q = anyNames
  · subst hw
    cases qs with
    | nil => exact absurd (by simp [joined]) h
    | cons r qs =>
      simp [segmentsFit, hr.second_ne]
  · simp [segmentsFit, hw]

theorem matchPieces_joined {qs : List (List Char)} (hne : qs ≠ []) (hr : Regular qs)
    (hl : ∀ q ∈ qs, '/' ∉ q) {cs : List Char} (hc : '\n' ∉ cs) :
    matchPieces (piecesOf (joined qs)) cs = segmentsFit qs (segments cs) := by
  induction qs generalizing cs with
  | nil => exact absurd rfl hne
  | cons q qs ih =>
    have hq := hl q List.mem_cons_self
    have hl' : ∀ r ∈ qs, '/' ∉ r := fun r h => hl r (List.mem_cons_of_mem _ h)
    by_cases hw : q = anyNames
    · subst hw
      cases qs with
      | nil =>
        rw [segmentsFit_anyNames]
        exact any_rests_withinLine hc
      | cons r qs =>
        have hnil : segmentsFit (r :: qs) [] = false := by simp [segmentsFit, hr.second_ne]
        apply matchPieces_leading hc hnil
        intro ds hd
        exact ih (by simp) hr.tail hl' hd
    · have hinner : ¬ anyNames <:+: q := by
        intro h
        exact hw (hr.whole q List.mem_cons_self h)
      have hafter := @piecesOf_name q (afterFirst qs) hq hinner <| by
        cases qs with
        | nil => exact .inl rfl
        | cons r qs => exact .inr rfl
      rw [joined_cons, hafter]
      cases qs with
      | nil => exact matchPieces_final hq hw cs
      | cons r qs =>
        by_cases hlast : joined (r :: qs) = anyNames
        · obtain ⟨rfl, rfl⟩ := eq_nil_of_joined_eq_anyNames hlast
          exact matchPieces_trailing hq hw hc
        · rw [afterFirst, piecesOf_slash hlast]
          apply matchPieces_inner hq hw hc (segmentsFit_nil hr.tail hlast)
          intro ds hd
          exact ih (by simp) hr.tail hl' hd

/-- A regular pattern fits the paths that its segments fit, one after the other. -/
theorem fits_eq_segmentsFit {s path : String} {cs : List Char} (hs : normalText? s = some cs)
    (hr : Regular (segments cs)) (hp : '\n' ∉ path.toList) :
    ∃ p, ofText? s = some p ∧ p.fits path = segmentsFit (segments cs) (segments path.toList) := by
  have hj : joined (segments cs) = cs := Text.pieces_intercalate '/' cs
  have hl : ∀ q ∈ segments cs, '/' ∉ q := by
    intro q hq
    exact Text.not_mem_of_mem_pieces hq
  have hm := matchPieces_joined (Text.pieces_ne_nil _ _) hr hl hp
  rw [hj] at hm
  exact ⟨⟨String.ofList cs, piecesOf cs⟩, by simp [ofText?, hs], hm⟩

theorem fits_tests_below_package :
    normalText? " \\pkg/**/*Test?.java" = some "pkg/**/*Test?.java".toList ∧
      Regular (segments "pkg/**/*Test?.java".toList) ∧
      '\n' ∉ "pkg/a/b/UnitTest1.java".toList ∧
      ∃ p, ofText? " \\pkg/**/*Test?.java" = some p ∧ p.fits "pkg/a/b/UnitTest1.java" = true := by
  have hs : normalText? " \\pkg/**/*Test?.java" = some "pkg/**/*Test?.java".toList := by decide
  have hr : Regular (segments "pkg/**/*Test?.java".toList) := ⟨by decide, by decide⟩
  have hp : '\n' ∉ "pkg/a/b/UnitTest1.java".toList := by decide
  refine ⟨hs, hr, hp, ?_⟩
  obtain ⟨p, ho, hf⟩ := fits_eq_segmentsFit hs hr hp
  exact ⟨p, ho, hf.trans (by decide)⟩

end Fits

end ComponentBuild.Pattern
