import ComponentBuild.Pattern.Basic
import Mathlib.Data.List.Infix

namespace ComponentBuild.Pattern

def nameFits : List Char → List Char → Bool
  | [], x => x.isEmpty
  | '*' :: q, x => x.tails.any (nameFits q)
  | '?' :: q, _ :: x => nameFits q x
  | c :: q, d :: x => d == c && nameFits q x
  | _ :: _, [] => false

def anyNames : List Char := ['*', '*']

def namePiece (c : Char) : Piece := if c = '*' then .run else if c = '?' then .one else .char c

section Pieces

theorem piecesOf_star {cs : List Char} (h : cs.head? ≠ some '*') :
    piecesOf ('*' :: cs) = .run :: piecesOf cs := by
  cases cs with
  | nil => rfl
  | cons c cs =>
    have hc : c ≠ '*' := by simpa using h
    rw [piecesOf]
    all_goals simp_all

theorem piecesOf_slash {cs : List Char} (h : cs ≠ anyNames) :
    piecesOf ('/' :: cs) = .char '/' :: piecesOf cs := by
  rw [piecesOf]
  all_goals simp_all [anyNames]

theorem piecesOf_other {c : Char} (cs : List Char) (hs : c ≠ '*') (hq : c ≠ '?') (hl : c ≠ '/') :
    piecesOf (c :: cs) = .char c :: piecesOf cs := by
  rw [piecesOf]
  all_goals simp_all

theorem piecesOf_name {q rest : List Char} (hl : '/' ∉ q) (hw : ¬ anyNames <:+: q)
    (hr : rest = [] ∨ rest.head? = some '/') :
    piecesOf (q ++ rest) = q.map namePiece ++ piecesOf rest := by
  induction q with
  | nil => rfl
  | cons c q ih =>
    simp only [List.mem_cons, not_or] at hl
    have hwq : ¬ anyNames <:+: q := by
      intro hi
      apply hw
      exact List.infix_cons hi
    have ih := ih hl.2 hwq
    simp only [List.cons_append, List.map_cons]
    by_cases hs : c = '*'
    · subst hs
      have hh : (q ++ rest).head? ≠ some '*' := by
        cases q with
        | nil => rcases hr with rfl | hr <;> simp_all
        | cons d q =>
          intro hd
          have hd : d = '*' := by simpa using hd
          subst hd
          apply hw
          exact ⟨[], q, rfl⟩
      rw [piecesOf_star hh, ih]
      rfl
    · by_cases hq : c = '?'
      · subst hq
        rw [piecesOf, ih]
        rfl
      · rw [piecesOf_other _ hs hq (Ne.symm hl.1), ih]
        simp [namePiece, hs, hq]

end Pieces

section Match

theorem nameFits_other {c : Char} (q x : List Char) (hs : c ≠ '*') (hq : c ≠ '?') :
    nameFits (c :: q) x = true ↔ ∃ y, x = c :: y ∧ nameFits q y = true := by
  cases x with
  | nil => simp [nameFits]
  | cons d x =>
    rw [nameFits]
    · simp only [Bool.and_eq_true, beq_iff_eq, List.cons.injEq]
      constructor
      · rintro ⟨rfl, h⟩
        exact ⟨x, ⟨rfl, rfl⟩, h⟩
      · rintro ⟨y, ⟨rfl, rfl⟩, h⟩
        exact ⟨rfl, h⟩
    all_goals simp_all

theorem nameFits_question (q x : List Char) :
    nameFits ('?' :: q) x = true ↔ ∃ d y, x = d :: y ∧ nameFits q y = true := by
  cases x with
  | nil => simp [nameFits]
  | cons d x => simp [nameFits]

theorem nameFits_star (q x : List Char) :
    nameFits ('*' :: q) x = true ↔ ∃ run y, x = run ++ y ∧ nameFits q y = true := by
  simp only [nameFits, List.any_eq_true, List.mem_tails]
  constructor
  · rintro ⟨y, ⟨run, rfl⟩, h⟩
    exact ⟨run, y, rfl, h⟩
  · rintro ⟨run, y, rfl, h⟩
    exact ⟨y, ⟨run, rfl⟩, h⟩

theorem nameFits_cons (c : Char) (q x : List Char) :
    nameFits (c :: q) x = true ↔
      ∃ u y, x = u ++ y ∧ nameFits [c] u = true ∧ nameFits q y = true := by
  have hnil {y : List Char} : nameFits [] y = true ↔ y = [] := List.isEmpty_iff
  by_cases hs : c = '*'
  · subst hs
    simp only [nameFits_star, hnil]
    constructor
    · rintro ⟨run, y, rfl, h⟩
      exact ⟨run, y, rfl, ⟨run, [], by simp, rfl⟩, h⟩
    · rintro ⟨run, y, rfl, -, h⟩
      exact ⟨run, y, rfl, h⟩
  · by_cases hq : c = '?'
    · subst hq
      simp only [nameFits_question, hnil]
      constructor
      · rintro ⟨d, y, rfl, h⟩
        exact ⟨[d], y, rfl, ⟨d, [], rfl, rfl⟩, h⟩
      · rintro ⟨u, y, rfl, ⟨d, v, rfl, rfl⟩, h⟩
        exact ⟨d, y, rfl, h⟩
    · simp only [nameFits_other _ _ hs hq, hnil]
      constructor
      · rintro ⟨y, rfl, h⟩
        exact ⟨[c], y, rfl, ⟨[], rfl, rfl⟩, h⟩
      · rintro ⟨u, y, rfl, ⟨v, rfl, rfl⟩, h⟩
        exact ⟨y, rfl, h⟩

theorem all_bne {c : Char} {run : List Char} : run.all (· != c) = true ↔ c ∉ run := by
  rw [List.all_eq_true]
  constructor
  · intro h hc
    simpa using h c hc
  · intro h d hd
    have hne : d ≠ c := by
      rintro rfl
      exact h hd
    simpa using hne

theorem mem_rests_withinName {cs r : List Char} :
    r ∈ rests withinName cs ↔ ∃ run, cs = run ++ r ∧ '/' ∉ run := by
  rw [mem_rests]
  exact exists_congr fun run => and_congr_right' all_bne

theorem mem_rests_withinLine {cs r : List Char} :
    r ∈ rests withinLine cs ↔ ∃ run, cs = run ++ r ∧ '\n' ∉ run := by
  rw [mem_rests]
  exact exists_congr fun run => and_congr_right' all_bne

theorem matchPieces_namePiece {c : Char} (hl : c ≠ '/') (ps : List Piece) (x : List Char) :
    matchPieces (namePiece c :: ps) x = true ↔
      ∃ u v, x = u ++ v ∧ '/' ∉ u ∧ nameFits [c] u = true ∧ matchPieces ps v = true := by
  have hnil {y : List Char} : nameFits [] y = true ↔ y = [] := List.isEmpty_iff
  by_cases hs : c = '*'
  · subst hs
    simp only [namePiece, if_true, matchPieces, List.any_eq_true, mem_rests_withinName,
      nameFits_star, hnil]
    constructor
    · rintro ⟨r, ⟨run, rfl, hrun⟩, h⟩
      exact ⟨run, r, rfl, hrun, ⟨run, [], by simp, rfl⟩, h⟩
    · rintro ⟨run, r, rfl, hrun, -, h⟩
      exact ⟨r, ⟨run, rfl, hrun⟩, h⟩
  · by_cases hq : c = '?'
    · subst hq
      simp only [namePiece, if_neg hs, if_true, nameFits_question, hnil]
      constructor
      · intro h
        cases x with
        | nil => cases h
        | cons d x =>
          simp only [matchPieces, withinName, Bool.and_eq_true, bne_iff_ne] at h
          exact ⟨[d], x, rfl, by simpa using Ne.symm h.1, ⟨d, [], rfl, rfl⟩, h.2⟩
      · rintro ⟨u, v, rfl, hu, ⟨d, y, rfl, rfl⟩, h⟩
        have hd : d ≠ '/' := by simpa [eq_comm] using hu
        simp [matchPieces, withinName, hd, h]
    · simp only [namePiece, if_neg hs, if_neg hq, nameFits_other _ _ hs hq, hnil]
      constructor
      · intro h
        cases x with
        | nil => cases h
        | cons d x =>
          simp only [matchPieces, Bool.and_eq_true, beq_iff_eq] at h
          obtain ⟨rfl, h⟩ := h
          exact ⟨[d], x, rfl, by simpa using Ne.symm hl, ⟨[], rfl, rfl⟩, h⟩
      · rintro ⟨u, v, rfl, -, ⟨y, rfl, rfl⟩, h⟩
        simp [matchPieces, h]

theorem matchPieces_name {q : List Char} (hl : '/' ∉ q) (ps : List Piece) (x : List Char) :
    matchPieces (q.map namePiece ++ ps) x = true ↔
      ∃ u v, x = u ++ v ∧ '/' ∉ u ∧ nameFits q u = true ∧ matchPieces ps v = true := by
  induction q generalizing x with
  | nil =>
    simp only [List.map_nil, List.nil_append, nameFits, List.isEmpty_iff]
    constructor
    · intro h
      exact ⟨[], x, rfl, by simp, rfl, h⟩
    · rintro ⟨u, v, rfl, -, rfl, h⟩
      exact h
  | cons c q ih =>
    simp only [List.mem_cons, not_or] at hl
    rw [List.map_cons, List.cons_append, matchPieces_namePiece (Ne.symm hl.1)]
    simp only [ih hl.2, nameFits_cons c q]
    constructor
    · rintro ⟨u, _, rfl, hu, hc, y, v, rfl, hy, hq, hv⟩
      exact ⟨u ++ y, v, by simp, by simp [hu, hy], ⟨u, y, rfl, hc, hq⟩, hv⟩
    · rintro ⟨_, v, rfl, hu, ⟨u, y, rfl, hc, hq⟩, hv⟩
      simp only [List.mem_append, not_or] at hu
      exact ⟨u, y ++ v, by simp, hu.1, hc, y, v, rfl, hu.2, hq, hv⟩

end Match

end ComponentBuild.Pattern
