import ComponentBuild.Proofs.Path.Below
import ComponentBuild.Proofs.Tree.Descent
import ComponentBuild.SourceSet.Cursor
import Mathlib.Logic.Relation

/-!
One move of a walk over the work that is left. Looking for the next file is a run of such moves up
to a wanted file, or to the end of the work; no depth that a walk is given cuts it short.
-/

namespace ComponentBuild

namespace Tree

variable {t : Tree} {p : Path}

def Within (t : Tree) (p : Path) (depth : Nat) : Prop :=
  ∀ loc, t.locate [] p = .ok loc → t.height < loc.length + depth

theorem within_height (t : Tree) (p : Path) : t.Within p (t.height + 1) := by
  intro loc _
  omega

theorem listing?_of_within_zero (h : t.Within p 0) : t.listing? p = none := by
  rw [← Option.not_isSome_iff_eq_none, Option.isSome_iff_exists]
  rintro ⟨l, hl⟩
  obtain ⟨loc, hp, hd, -⟩ := listing?_eq_some.1 hl
  have hsome : (t.node? loc).isSome := by simp [hd]
  have hle := length_le_height_of_node? hsome
  have hlt := h loc hp
  omega

theorem Within.child {l : Listing} {depth : Nat} (h : t.Within p (depth + 1))
    (hl : t.listing? p = some l) {d : Name} (hlink : t.isLink p d = false) :
    t.Within (p.child d) depth := by
  obtain ⟨loc, hp, hd, -⟩ := listing?_eq_some.1 hl
  intro out hout
  obtain ⟨-, -, -, rfl⟩ := (locate_child hp hd hlink).1 hout
  have hlt := h loc hp
  rw [List.length_append, List.length_singleton]
  omega

end Tree

namespace Walk

def opened (s : SourceSet) (dir : List Name) (l : Listing) : List Pending :=
  [.files dir l.files, .directories dir (l.directories.filter s.enters)]

inductive Move (w : Walk) (s : SourceSet) (t : Tree) : List Pending → List Pending → Prop
  | noFile {dir rest} : Move w s t (.files dir [] :: rest) rest
  | unwanted {dir n ns rest} : w.wanted s (dir ++ [n]) = false →
      Move w s t (.files dir (n :: ns) :: rest) (.files dir ns :: rest)
  | noDirectory {dir rest} : Move w s t (.directories dir [] :: rest) rest
  | skipped {dir d ds rest} :
      (t.isLink (w.root.below dir) d = false → t.listing? (w.root.below (dir ++ [d])) = none) →
      Move w s t (.directories dir (d :: ds) :: rest) (.directories dir ds :: rest)
  | listed {dir d ds rest l} : t.isLink (w.root.below dir) d = false →
      t.listing? (w.root.below (dir ++ [d])) = some l →
      Move w s t (.directories dir (d :: ds) :: rest)
        (opened s (dir ++ [d]) l ++ .directories dir ds :: rest)

def Moves (w : Walk) (s : SourceSet) (t : Tree) : List Pending → List Pending → Prop :=
  Relation.ReflTransGen (w.Move s t)

inductive Delivers (w : Walk) (s : SourceSet) (t : Tree) (work : List Pending) :
    List Name → List Pending → Prop
  | file {dir n ns rest} : w.Moves s t work (.files dir (n :: ns) :: rest) →
      w.wanted s (dir ++ [n]) = true → Delivers w s t work (dir ++ [n]) (.files dir ns :: rest)

def Answers (w : Walk) (s : SourceSet) (t : Tree) (work rest : List Pending) : Found → Prop
  | none => w.Moves s t work rest
  | some (g, left) => w.Delivers s t work g (left ++ rest)

variable {w : Walk} {s : SourceSet} {t : Tree} {work mid rest : List Pending}

theorem Delivers.after {g : List Name} {left : List Pending} (h : w.Moves s t work mid)
    (hd : w.Delivers s t mid g left) : w.Delivers s t work g left := by
  obtain ⟨hm, hw⟩ := hd
  exact .file (Relation.ReflTransGen.trans h hm) hw

theorem Answers.after {found : Found} (h : w.Moves s t work mid)
    (ha : w.Answers s t mid rest found) : w.Answers s t work rest found := by
  match found, ha with
  | none, ha => exact Relation.ReflTransGen.trans h ha
  | some (g, left), ha => exact Delivers.after h ha

theorem firstFile_answers (dir ns : List Name) (rest : List Pending) :
    w.Answers s t (.files dir ns :: rest) rest (w.firstFile s dir ns) := by
  induction ns with
  | nil => exact .single .noFile
  | cons n ns ih =>
    rw [firstFile]
    split
    · rename_i hw
      exact .file .refl hw
    · rename_i hw
      have hunwanted : w.wanted s (dir ++ [n]) = false := by simpa using hw
      exact Answers.after (.single (.unwanted hunwanted)) ih

def Enters (w : Walk) (s : SourceSet) (t : Tree) (enter : List Name → Found) (dir : List Name) :
    Prop :=
  match t.listing? (w.root.below dir) with
  | none => enter dir = none
  | some l => ∀ rest, w.Answers s t (opened s dir l ++ rest) rest (enter dir)

theorem firstBelow_answers {enter : List Name → Found} {dir : List Name} (ds : List Name)
    (h : ∀ d, t.isLink (w.root.below dir) d = false → w.Enters s t enter (dir ++ [d]))
    (rest : List Pending) :
    w.Answers s t (.directories dir ds :: rest) rest (w.firstBelow t enter dir ds) := by
  induction ds with
  | nil => exact .single .noDirectory
  | cons d ds ih =>
    rw [firstBelow]
    by_cases hlink : t.isLink (w.root.below dir) d = true
    · rw [if_pos hlink]
      apply Answers.after _ ih
      apply Relation.ReflTransGen.single
      apply Move.skipped
      intro hf
      rw [hlink] at hf
      cases hf
    · rw [if_neg hlink]
      have hlink' : t.isLink (w.root.below dir) d = false := by simpa using hlink
      have he := h d hlink'
      unfold Enters at he
      split at he
      · rename_i hl
        rw [he]
        apply Answers.after _ ih
        apply Relation.ReflTransGen.single
        apply Move.skipped
        intro _
        exact hl
      · rename_i l hl
        have ha := Answers.after (.single (.listed hlink' hl)) (he (.directories dir ds :: rest))
        match enter (dir ++ [d]), ha with
        | none, ha => exact Answers.after ha ih
        | some (g, left), ha =>
          simp only [Answers, List.append_assoc, List.singleton_append] at ha ⊢
          exact ha

theorem enter_enters {depth : Nat} {dir : List Name} (h : t.Within (w.root.below dir) depth) :
    w.Enters s t (w.enter s t depth) dir := by
  induction depth generalizing dir with
  | zero =>
    rw [Enters, Tree.listing?_of_within_zero h]
    rfl
  | succ depth ih =>
    unfold Enters
    split
    · rename_i hl
      rw [enter, hl]
    · rename_i l hl
      intro rest
      rw [enter, hl]
      have hf := firstFile_answers (w := w) (s := s) (t := t) dir l.files
        (.directories dir (l.directories.filter s.enters) :: rest)
      have henters (d : Name) (hlink : t.isLink (w.root.below dir) d = false) :
          w.Enters s t (w.enter s t depth) (dir ++ [d]) := by
        apply ih
        rw [Path.below_concat]
        exact h.child hl hlink
      have hd := firstBelow_answers (l.directories.filter s.enters) henters rest
      simp only [opened, List.cons_append, List.nil_append]
      match w.firstFile s dir l.files, hf with
      | none, hf => exact Answers.after hf hd
      | some (g, left), hf =>
        simp only [Answers, List.append_assoc, List.singleton_append] at hf ⊢
        exact hf

theorem resume_answers (work : List Pending) : w.Answers s t work [] (w.resume s t work) := by
  induction work with
  | nil => exact .refl
  | cons p work ih =>
    cases p with
    | files dir names =>
      have ha := firstFile_answers (w := w) (s := s) (t := t) dir names work
      rw [resume]
      match w.firstFile s dir names, ha with
      | none, ha => exact Answers.after ha ih
      | some (g, left), ha => simpa only [Answers, List.append_nil] using ha
    | directories dir names =>
      have henters (d : Name) (_ : t.isLink (w.root.below dir) d = false) :
          w.Enters s t (w.enter s t (t.height + 1)) (dir ++ [d]) := by
        apply enter_enters
        exact t.within_height _
      have ha := firstBelow_answers names henters work
      rw [resume]
      match w.firstBelow t (w.enter s t (t.height + 1)) dir names, ha with
      | none, ha => exact Answers.after ha ih
      | some (g, left), ha => simpa only [Answers, List.append_nil] using ha

theorem resume_eq_none (h : w.resume s t work = none) : w.Moves s t work [] := by
  have ha := resume_answers (w := w) (s := s) (t := t) work
  rwa [h] at ha

theorem resume_eq_some {g : List Name} {left : List Pending}
    (h : w.resume s t work = some (g, left)) : w.Delivers s t work g left := by
  have ha := resume_answers (w := w) (s := s) (t := t) work
  rw [h, Answers, List.append_nil] at ha
  exact ha

end Walk

end ComponentBuild
