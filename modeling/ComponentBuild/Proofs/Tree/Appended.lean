import ComponentBuild.Proofs.Fallible
import ComponentBuild.Proofs.Tree.Descent
import ComponentBuild.Tree.Edit

namespace ComponentBuild.Tree

variable {t t' : Tree} {out : Location} {p : Path}

theorem node?_keep (test : Location → Bool) {loc : Location} (hne : loc ≠ [])
    (h : test loc = true) : (t.keep test).node? loc = t.node? loc := by
  have hlookup (es : List (Location × Node)) :
      (es.filter fun e => test e.1).lookup loc = es.lookup loc := by
    induction es with
    | nil => rfl
    | cons e es ih =>
      rw [List.filter_cons]
      by_cases he : test e.1 = true
      · rw [if_pos he, List.lookup_cons, List.lookup_cons, ih]
      · have hne : (loc == e.1) = false := by
          apply beq_false_of_ne
          rintro rfl
          exact he h
        rw [if_neg he, List.lookup_cons, hne, ih]
  rw [node?.eq_2 _ loc hne, node?.eq_2 _ loc hne]
  exact hlookup t.entries

theorem node?_insert_of_ne {loc : Location} (node : Node) (h : loc ≠ out) :
    (t.insert out node).node? loc = t.node? loc := by
  by_cases hne : loc = []
  · subst hne
    rfl
  · rw [← node?_keep (t := t) (· ≠ out) hne (by simpa using h), node?.eq_2 _ loc hne,
      node?.eq_2 _ loc hne, insert, List.lookup_cons, beq_false_of_ne h]

def TakesFile (t : Tree) (loc : Location) : Prop :=
  ∀ node, t.node? loc = some node → ∃ content, node = .file content

theorem TakesFile.ne_nil (h : t.TakesFile out) : out ≠ [] := by
  rintro rfl
  obtain ⟨content, hc⟩ := h .directory rfl
  cases hc

theorem takesFile_of_file {content : List UInt8} (h : t.node? out = some (.file content)) :
    t.TakesFile out := by
  intro node hn
  exact ⟨content, Option.some.inj (hn.symm.trans h)⟩

structure FilledAt (t t' : Tree) (out : Location) : Prop where
  free : t.TakesFile out
  file : ∃ content, t'.node? out = some (.file content)
  elsewhere : ∀ loc, loc ≠ out → t'.node? loc = t.node? loc

section Walk

variable {create create' : Bool} {loc : Location} {segs : List Segment}
  {follow follow' : Location → List Segment → Except FileFault Location}

theorem FilledAt.node?_eq (h : FilledAt t t' out) {node : Node} (hn : t.node? loc = some node)
    (hfile : ∀ content, node ≠ .file content) : t'.node? loc = some node := by
  rw [← hn]
  apply h.elsewhere
  rintro rfl
  obtain ⟨content, rfl⟩ := h.free node hn
  exact hfile content rfl

theorem FilledAt.asDirectory_ne (h : FilledAt t t' out) {found : Location} :
    t.asDirectory create found ≠ .ok out := by
  intro ha
  cases create with
  | true => cases ha
  | false =>
    obtain rfl := asDirectory_eq_ok ha
    simp only [asDirectory, Bool.false_eq_true, if_false] at ha
    split at ha
    · rename_i hd
      obtain ⟨content, hc⟩ := h.free _ hd
      cases hc
    · cases ha

theorem walkWith_last {n : Name} {content : List UInt8}
    (hn : t.node? (loc ++ [n]) = some (.file content))
    (hw : t.walkWith create follow loc (.entry n :: segs) = .ok out) :
    segs = [] ∧ loc ++ [n] = out := by
  rw [walkWith_entry (node?_of_walkWith_cons hw) (isTooLong_of_walkWith hw) hn (by simp)] at hw
  cases segs with
  | nil => exact ⟨rfl, Except.ok.inj hw⟩
  | cons s segs =>
    have hdirectory := node?_of_walkWith_cons hw
    rw [hn] at hdirectory
    cases hdirectory

theorem walkWith_new {n : Name} (hn : t.node? (loc ++ [n]) = none)
    (hw : t.walkWith create follow loc (.entry n :: segs) = .ok out) :
    segs = [] ∧ loc ++ [n] = out := by
  rw [walkWith_missing (node?_of_walkWith_cons hw) (isTooLong_of_walkWith hw) hn] at hw
  split at hw
  · rename_i hlast
    simp only [Bool.and_eq_true, List.isEmpty_iff] at hlast
    exact ⟨hlast.2, Except.ok.inj hw⟩
  · cases hw

theorem FilledAt.walkWith (h : FilledAt t t' out)
    (hf : ∀ loc segs, follow loc segs = .ok out → follow' loc segs = .ok out)
    (hw : t.walkWith create follow loc segs = .ok out) :
    t'.walkWith create' follow' loc segs = .ok out := by
  induction segs generalizing loc with
  | nil => exact hw
  | cons s segs ih =>
    have hd := node?_of_walkWith_cons hw
    have hd' := h.node?_eq hd (by simp)
    cases s with
    | up =>
      rw [walkWith_up hd] at hw
      rw [walkWith_up hd']
      exact ih hw
    | entry n =>
      have hl := isTooLong_of_walkWith hw
      have hlast : segs = [] ∧ loc ++ [n] = out →
          t'.walkWith create' follow' loc (.entry n :: segs) = .ok out := by
        rintro ⟨rfl, rfl⟩
        obtain ⟨content, hc⟩ := h.file
        rw [walkWith_entry hd' hl hc (by simp)]
        rfl
      cases hn : t.node? (loc ++ [n]) with
      | none => exact hlast (walkWith_new hn hw)
      | some node =>
        cases node with
        | file content => exact hlast (walkWith_last hn hw)
        | directory =>
          have hn' := h.node?_eq hn (by simp)
          rw [walkWith_entry hd hl hn (by simp)] at hw
          rw [walkWith_entry hd' hl hn' (by simp)]
          exact ih hw
        | link target =>
          have hn' := h.node?_eq hn (by simp)
          rw [walkWith_link hd hl hn] at hw
          rw [walkWith_link hd' hl hn']
          split at hw
          · obtain ⟨found, -, hfound⟩ := bind_eq_ok.1 hw
            exact absurd hfound h.asDirectory_ne
          · rename_i hslash
            rw [if_neg hslash]
            exact hf _ _ hw

theorem FilledAt.walk (h : FilledAt t t' out) {links : Nat}
    (hw : t.walk create links loc segs = .ok out) :
    t'.walk create' links loc segs = .ok out := by
  induction links generalizing loc segs with
  | zero =>
    apply h.walkWith _ hw
    intro loc segs hfollow
    cases hfollow
  | succ links ih =>
    apply h.walkWith _ hw
    intro loc segs hfollow
    exact ih hfollow

theorem FilledAt.locateWith (h : FilledAt t t' out) {base : Location}
    (hw : t.locateWith create base p = .ok out) : t'.locateWith create' base p = .ok out := by
  unfold Tree.locateWith at hw ⊢
  split at hw
  · cases hw
  · exact h.walk hw

end Walk

section Append

variable {base : Location} {more : List UInt8}

def contentAt (t : Tree) (loc : Location) : List UInt8 :=
  match t.node? loc with
  | some (.file content) => content
  | _ => []

theorem contentAt_of_file {loc : Location} {content : List UInt8}
    (h : t.node? loc = some (.file content)) : t.contentAt loc = content := by
  rw [contentAt, h]

theorem filledAt_insert (h : t.TakesFile out) (content : List UInt8) :
    FilledAt t (t.insert out (.file content)) out where
  free := h
  file := ⟨content, t.node?_insert _ h.ne_nil⟩
  elsewhere _ hne := node?_insert_of_ne _ hne

theorem append_eq_ok : t.append base p more = .ok t' ↔ ∃ out, t.locateNew base p = .ok out ∧
    t.TakesFile out ∧ t' = t.insert out (.file (t.contentAt out ++ more)) := by
  rw [append]
  cases t.locateNew base p with
  | error fault => simp
  | ok out =>
    simp only [Except.ok.injEq, exists_eq_left', TakesFile]
    cases hn : t.node? out with
    | none => simp [contentAt, hn, eq_comm]
    | some node => cases node <;> simp [contentAt, hn, eq_comm]

/-- A path leads to a file of the second tree, which was in the first or was made since, and has got
more at its end; all else is as it was. -/
structure GrownAt (t t' : Tree) (p : Path) (out : Location) (more : List UInt8) : Prop where
  leads : t'.locate [] p = .ok out
  file : t'.node? out = some (.file (t.contentAt out ++ more))
  elsewhere : ∀ loc, loc ≠ out → t'.node? loc = t.node? loc

theorem grownAt_of_append (h : t.append [] p more = .ok t') : ∃ out, GrownAt t t' p out more := by
  obtain ⟨out, hout, htakes, rfl⟩ := append_eq_ok.1 h
  have hfilled := filledAt_insert htakes (t.contentAt out ++ more)
  exact ⟨out, hfilled.locateWith hout, t.node?_insert _ htakes.ne_nil, hfilled.elsewhere⟩

theorem GrownAt.append (h : GrownAt t t' p out more) (bytes : List UInt8) :
    ∃ t'', t'.append [] p bytes = .ok t'' ∧ GrownAt t t'' p out (more ++ bytes) := by
  have htakes := takesFile_of_file h.file
  have hopen : FilledAt t' t' out := ⟨htakes, ⟨_, h.file⟩, fun _ _ => rfl⟩
  have hfilled := filledAt_insert htakes (t'.contentAt out ++ bytes)
  refine ⟨_, append_eq_ok.2 ⟨out, hopen.locateWith h.leads, htakes, rfl⟩, ?_⟩
  constructor
  · exact hfilled.locateWith h.leads
  · rw [t'.node?_insert _ htakes.ne_nil, contentAt_of_file h.file, List.append_assoc]
  · intro loc hne
    rw [hfilled.elsewhere loc hne, h.elsewhere loc hne]

end Append

end ComponentBuild.Tree
