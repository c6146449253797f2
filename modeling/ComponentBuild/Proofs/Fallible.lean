import ComponentBuild.Given
import Mathlib.Data.List.Forall2

namespace ComponentBuild

variable {α β γ ε : Type}

theorem bind_eq_ok {x : Except ε α} {f : α → Except ε β} {b : β} :
    x >>= f = .ok b ↔ ∃ a, x = .ok a ∧ f a = .ok b := by
  cases x with
  | error e => simp [bind, Except.bind]
  | ok a => simp [bind, Except.bind]

theorem map_eq_ok {x : Except ε α} {f : α → β} {b : β} :
    x.map f = .ok b ↔ ∃ a, x = .ok a ∧ f a = b := by
  cases x with
  | error e => simp [Except.map]
  | ok a => simp [Except.map]

theorem mapError_eq_ok {ε' : Type} {x : Except ε α} {f : ε → ε'} {a : α} :
    x.mapError f = .ok a ↔ x = .ok a := by
  cases x with
  | error e => simp [Except.mapError]
  | ok a => simp [Except.mapError]

theorem mapM_cons_eq_ok {f : α → Except ε β} {x : α} {xs : List α} {ys : List β}
    (h : (x :: xs).mapM f = .ok ys) : ∃ y rest, f x = .ok y ∧ xs.mapM f = .ok rest ∧
      ys = y :: rest := by
  rw [List.mapM_cons] at h
  obtain ⟨y, hy, h⟩ := bind_eq_ok.1 h
  obtain ⟨rest, hrest, he⟩ := bind_eq_ok.1 h
  exact ⟨y, rest, hy, hrest, (Except.ok.inj he).symm⟩

theorem mapM_eq_ok {f : α → Except ε β} {xs : List α} {ys : List β} :
    xs.mapM f = .ok ys ↔ List.Forall₂ (fun x y => f x = .ok y) xs ys := by
  induction xs generalizing ys with
  | nil => simp [pure, Except.pure, eq_comm]
  | cons x xs ih =>
    rw [List.forall₂_cons_left_iff]
    constructor
    · intro h
      obtain ⟨y, rest, hy, hrest, rfl⟩ := mapM_cons_eq_ok h
      exact ⟨y, rest, hy, ih.1 hrest, rfl⟩
    · rintro ⟨y, rest, hy, hrest, rfl⟩
      rw [List.mapM_cons, hy, ih.2 hrest]
      rfl

theorem mem_of_mapM {f : α → Except ε β} {xs : List α} {ys : List β} (h : xs.mapM f = .ok ys) {y : β}
    (hy : y ∈ ys) : ∃ x ∈ xs, f x = .ok y := by
  have hall := mapM_eq_ok.1 h
  clear h
  induction hall with
  | nil => cases hy
  | cons hx _ ih =>
    rcases List.mem_cons.1 hy with rfl | hy
    · exact ⟨_, List.mem_cons_self, hx⟩
    · obtain ⟨x, hmem, hfx⟩ := ih hy
      exact ⟨x, List.mem_cons_of_mem _ hmem, hfx⟩

theorem mapM_filter {f : α → Except ε β} {xs : List α} {ys : List β} {keeps : α → Bool}
    {keeps' : β → Bool} (h : xs.mapM f = .ok ys)
    (hk : ∀ x ∈ xs, ∀ y, f x = .ok y → keeps' y = keeps x) :
    (xs.filter keeps).mapM f = .ok (ys.filter keeps') := by
  have hall := mapM_eq_ok.1 h
  clear h
  induction hall with
  | nil => rfl
  | @cons x y xs ys hx _ ih =>
    obtain ⟨hkeep, hrest⟩ := List.forall_mem_cons.1 hk
    have ih := ih hrest
    have hxy := hkeep y hx
    cases hkx : keeps x with
    | false =>
      rw [hkx] at hxy
      rw [List.filter_cons_of_neg (by simp [hkx]), List.filter_cons_of_neg (by simp [hxy]), ih]
    | true =>
      rw [hkx] at hxy
      rw [List.filter_cons_of_pos hkx, List.filter_cons_of_pos hxy, List.mapM_cons, hx, ih]
      rfl

theorem map_succeeds_iff {x : Except ε α} {f : α → β} :
    (∃ b, x.map f = .ok b) ↔ ∃ a, x = .ok a := by
  cases x <;> simp [Except.map]

theorem mapM_succeeds_iff {f : α → Except ε β} {xs : List α} :
    (∃ ys, xs.mapM f = .ok ys) ↔ ∀ x ∈ xs, ∃ y, f x = .ok y := by
  simp only [mapM_eq_ok]
  induction xs with
  | nil => simp
  | cons x xs ih =>
    rw [List.forall_mem_cons, ← ih]
    constructor
    · rintro ⟨_, hys⟩
      obtain ⟨y, ys, hy, hys, -⟩ := List.forall₂_cons_left_iff.1 hys
      exact ⟨⟨y, hy⟩, ys, hys⟩
    · rintro ⟨⟨y, hy⟩, ys, hys⟩
      exact ⟨y :: ys, .cons hy hys⟩

theorem filterM_eq_ok {f : α → Except ε Bool} {test : α → Bool} {xs : List α}
    (h : ∀ x ∈ xs, f x = .ok (test x)) : xs.filterM f = .ok (xs.filter test) := by
  have haux (acc : List α) :
      xs.filterAuxM f acc = .ok ((xs.filter test).reverse ++ acc) := by
    induction xs generalizing acc with
    | nil => rfl
    | cons x xs ih =>
      have hxs : ∀ y ∈ xs, f y = .ok (test y) := by
        intro y hy
        exact h y (List.mem_cons_of_mem _ hy)
      have ih' := ih hxs
      rw [List.filterAuxM, h x List.mem_cons_self]
      cases hx : test x with
      | false =>
        rw [List.filter_cons_of_neg (by simp [hx])]
        exact ih' acc
      | true =>
        rw [List.filter_cons_of_pos hx, List.reverse_cons, List.append_assoc]
        exact ih' (x :: acc)
  rw [List.filterM, haux []]
  simp [bind, Except.bind, pure, Except.pure]

theorem filterM_congr {f g : α → Except ε Bool} {xs : List α} (h : ∀ x ∈ xs, f x = g x) :
    xs.filterM f = xs.filterM g := by
  have haux (acc : List α) : xs.filterAuxM f acc = xs.filterAuxM g acc := by
    induction xs generalizing acc with
    | nil => rfl
    | cons x xs ih =>
      obtain ⟨hx, hxs⟩ := List.forall_mem_cons.1 h
      rw [List.filterAuxM, List.filterAuxM, hx]
      congr 1
      funext b
      exact ih hxs _
  rw [List.filterM, List.filterM, haux []]

theorem filterM_eq_error {f : α → Except ε Bool} {xs : List α} {x : α} (hx : x ∈ xs) {e : ε}
    (h : f x = .error e) : ∃ e', xs.filterM f = .error e' := by
  have haux (acc : List α) : ∃ e', xs.filterAuxM f acc = .error e' := by
    induction xs generalizing acc with
    | nil => cases hx
    | cons y xs ih =>
      rw [List.filterAuxM]
      cases hy : f y with
      | error e' => exact ⟨e', rfl⟩
      | ok b =>
        rcases List.mem_cons.1 hx with rfl | hx
        · rw [h] at hy
          cases hy
        · exact ih hx _
  obtain ⟨e', he⟩ := haux []
  exact ⟨e', by rw [List.filterM, he]; rfl⟩

namespace Given

variable {fault : GivenFault}

theorem required_eq_ok {g : Given} {s : String} : g.required fault = .ok s ↔ g = .text s := by
  cases g <;> simp [required]

theorem mapM_required_eq_ok {gs : List Given} {texts : List String} :
    gs.mapM (required fault) = .ok texts ↔ gs = texts.map .text := by
  simp only [mapM_eq_ok, required_eq_ok]
  rw [← List.forall₂_map_right_iff, List.forall₂_eq_eq_eq]

theorem mapM_required_nothing {gs : List Given} (h : .nothing ∈ gs) :
    gs.mapM (required fault) = .error fault := by
  induction gs with
  | nil => simp at h
  | cons g gs ih =>
    rw [List.mapM_cons]
    cases g with
    | nothing => rfl
    | text x =>
      have h' : .nothing ∈ gs := by simpa using h
      rw [ih h']
      rfl

theorem eq_map_text {gs : List Given} (h : .nothing ∉ gs) :
    ∃ texts : List String, gs = texts.map .text := by
  induction gs with
  | nil => exact ⟨[], rfl⟩
  | cons g gs ih =>
    simp only [List.mem_cons, not_or] at h
    obtain ⟨texts, rfl⟩ := ih h.2
    cases g with
    | nothing => exact absurd rfl h.1
    | text x => exact ⟨x :: texts, rfl⟩

end Given

end ComponentBuild
