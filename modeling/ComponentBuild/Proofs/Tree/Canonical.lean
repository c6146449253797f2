import ComponentBuild.Proofs.Path.Below
import ComponentBuild.Proofs.SourceSet.Root
import ComponentBuild.Proofs.Tree.Descent
import ComponentBuild.Tree.Canonical
import Mathlib.Data.List.Perm.Subperm

/-!
The canonical form of an absolute path is the same from everywhere. The links that are being
followed are different entries of the tree, so that following as many of them as there are entries
is always enough.
-/

namespace ComponentBuild.Tree

variable {t : Tree} {base base' : Location} {p q : Path} {n : Name}

section Walk

variable {follow : Location → List Segment → Except FileFault Location} {loc out : Location}
  {segs rest : List Segment}

theorem node?_of_walk (hr : rest ≠ []) {k : Nat} (h : t.walk false k loc rest = .ok out) :
    t.node? loc = some .directory := by
  obtain ⟨s, rest, rfl⟩ := List.exists_cons_of_ne_nil hr
  cases k with
  | zero => exact node?_of_walkWith_cons h
  | succ k => exact node?_of_walkWith_cons h

theorem walkWith_of_append (hr : rest ≠ []) (k : Nat)
    (hself : ∀ loc, t.walkWith false follow loc rest = t.walk false k loc rest)
    (hf : ∀ loc segs out, follow loc (segs ++ rest) = .ok out →
      ∃ mid j, follow loc segs = .ok mid ∧ t.walk false j mid rest = .ok out)
    (h : t.walkWith false follow loc (segs ++ rest) = .ok out) :
    ∃ mid j, t.walkWith false follow loc segs = .ok mid ∧ t.walk false j mid rest = .ok out := by
  induction segs generalizing loc with
  | nil => exact ⟨loc, k, rfl, (hself loc).symm.trans h⟩
  | cons s segs ih =>
    have hd := node?_of_walkWith_cons h
    cases s with
    | up =>
      rw [List.cons_append, walkWith_up hd] at h
      rw [walkWith_up hd]
      exact ih h
    | entry n =>
      rw [List.cons_append] at h
      obtain ⟨hl, node, he⟩ := entry_of_walkWith h
      by_cases hlink : ∃ target, node = .link target
      · obtain ⟨target, rfl⟩ := hlink
        have hfollow := follow_of_walkWith_link h he
        rw [← List.append_assoc] at hfollow
        obtain ⟨mid, j, hmid, hout⟩ := hf _ _ _ hfollow
        refine ⟨mid, j, ?_, hout⟩
        -- A slash after the link asks for a directory, which the rest needs as well.
        have hdirectory := node?_of_walk hr hout
        rw [walkWith_link hd hl he, hmid]
        simp [Except.bind, asDirectory, hdirectory]
      · rw [not_exists] at hlink
        rw [walkWith_entry hd hl he hlink] at h
        rw [walkWith_entry hd hl he hlink]
        exact ih h

theorem walk_of_append (hr : rest ≠ []) {k : Nat} (h : t.walk false k loc (segs ++ rest) = .ok out) :
    ∃ mid j, t.walk false k loc segs = .ok mid ∧ t.walk false j mid rest = .ok out := by
  induction k generalizing loc segs out with
  | zero =>
    apply walkWith_of_append hr 0 _ _ h
    · intro loc
      rfl
    · intro loc segs out h
      cases h
  | succ k ih =>
    apply walkWith_of_append hr (k + 1) _ _ h
    · intro loc
      rfl
    · intro loc segs out h
      exact ih h

end Walk

def Straight (t : Tree) (p : Path) : Prop :=
  ∃ l, p = .ofLocation l ∧ ∀ front, front <+: l →
    ∀ loc, t.locate [] (.ofLocation front) = .ok loc → loc = front

theorem Straight.isAbsolute (h : t.Straight p) : p.isAbsolute = true := by
  obtain ⟨l, rfl, -⟩ := h
  rfl

theorem straight_root (t : Tree) : t.Straight ⟨.root, []⟩ := by
  refine ⟨[], rfl, ?_⟩
  intro front hfront loc hloc
  obtain rfl := List.prefix_nil.1 hfront
  have hwalk : t.walk false linkLimit [] [] = .ok [] := rfl
  exact (Except.ok.inj (hwalk.symm.trans (locate_eq_ok.1 hloc).2)).symm

theorem Straight.climb (h : t.Straight p) : t.Straight p.climb := by
  obtain ⟨l, rfl, hl⟩ := h
  have hclimb : (Path.ofLocation l).climb = .ofLocation l.dropLast := by
    rcases List.eq_nil_or_concat l with rfl | ⟨l, n, rfl⟩
    · rfl
    · simp [Path.climb, Path.ofLocation, Path.parent]
  refine ⟨l.dropLast, hclimb, ?_⟩
  intro front hfront
  exact hl front (hfront.trans (List.dropLast_prefix l))

theorem locate_of_child {loc : Location} (habs : p.isAbsolute = true)
    (h : t.locate [] (p.child n) = .ok loc) :
    ∃ mid, t.locate [] p = .ok mid ∧ t.node? mid = some .directory := by
  obtain ⟨hfault, hwalk⟩ := locate_eq_ok.1 h
  have hr : [Segment.entry n] ≠ [] := by simp
  obtain ⟨mid, j, hmid, hrest⟩ := walk_of_append hr hwalk
  have hbelow : p.child n = p.below [n] := rfl
  rw [hbelow] at hfault
  exact ⟨mid, locate_eq_ok.2 ⟨Path.fault?_of_below habs hfault, hmid⟩, node?_of_walk hr hrest⟩

theorem linkTarget?_of_isAbsolute (h : p.isAbsolute = true) (base : Location) (n : Name) :
    t.linkTarget? base p n = t.linkTarget? [] p n := by
  rw [linkTarget?, linkTarget?, locateEntry, locateEntry, SourceSet.locate_of_isAbsolute h base]

theorem Straight.child (h : t.Straight p) (hn : t.linkTarget? base p n = none) :
    t.Straight (p.child n) := by
  rw [linkTarget?_of_isAbsolute h.isAbsolute] at hn
  obtain ⟨l, rfl, hl⟩ := h
  have hchild : (Path.ofLocation l).child n = .ofLocation (l ++ [n]) := by
    simp [Path.child, Path.ofLocation]
  refine ⟨l ++ [n], hchild, ?_⟩
  intro front hfront loc hloc
  rcases List.prefix_concat_iff.1 hfront with rfl | hfront
  · rw [← hchild] at hloc
    obtain ⟨mid, hmid, hd⟩ := locate_of_child rfl hloc
    obtain rfl := hl l (List.prefix_refl l) mid hmid
    have hlink : t.isLink (.ofLocation mid) n = false := by rw [isLink, hn]; rfl
    exact ((locate_child hmid hd hlink).1 hloc).2.2.2
  · exact hl front hfront loc hloc

def paths (t : Tree) : List Path := t.entries.map fun e => .ofLocation e.1

theorem Straight.child_mem_paths (h : t.Straight p) {target : Path}
    (hn : t.linkTarget? base p n = some target) : p.child n ∈ t.paths := by
  rw [linkTarget?_of_isAbsolute h.isAbsolute] at hn
  obtain ⟨l, rfl, hl⟩ := h
  unfold linkTarget? at hn
  split at hn
  · cases hn
  · rename_i loc hentry
    split at hn
    · rename_i link hnode
      unfold locateEntry at hentry
      split at hentry
      · cases hentry
      · cases hentry
      · rename_i mid _ hmid
        obtain rfl := hl l (List.prefix_refl l) mid hmid
        split at hentry
        · cases hentry
        · split at hentry
          · cases hentry
          · obtain rfl := Except.ok.inj hentry
            have hne : mid ++ [n] ≠ [] := by simp
            have hsome : (t.node? (mid ++ [n])).isSome = true := by rw [hnode]; rfl
            obtain ⟨node, hmem⟩ := (node?_isSome hne).1 hsome
            apply List.mem_map.2
            refine ⟨_, hmem, ?_⟩
            simp [Path.child, Path.ofLocation]
    · cases hn

structure Sound (t : Tree) (found : Path × Bool) : Prop where
  isAbsolute : found.1.isAbsolute = true
  straight : found.2 = true → t.Straight found.1

def Agree (t : Tree) (active : List Path)
    (follow follow' : List Path → Path → List Segment → Path × Bool) : Prop :=
  ∀ link ∈ t.paths, link ∉ active → ∀ p segs, t.Straight p →
    follow (link :: active) p segs = follow' (link :: active) p segs ∧
      t.Sound (follow (link :: active) p segs)

theorem canonicalWith_congr {active : List Path}
    {follow follow' : List Path → Path → List Segment → Path × Bool}
    (hagree : t.Agree active follow follow') (hp : t.Straight p) (rest : List Segment) :
    t.canonicalWith base active follow p rest = t.canonicalWith base' active follow' p rest ∧
      t.Sound (t.canonicalWith base active follow p rest) := by
  induction rest generalizing p with
  | nil => exact ⟨rfl, hp.isAbsolute, fun _ => hp⟩
  | cons s rest ih =>
    cases s with
    | up => exact ih hp.climb
    | entry n =>
      have hbase (b : Location) : t.linkTarget? b p n = t.linkTarget? [] p n :=
        linkTarget?_of_isAbsolute hp.isAbsolute b n
      simp only [canonicalWith, hbase base, hbase base']
      cases hn : t.linkTarget? [] p n with
      | none => exact ih (hp.child hn)
      | some target =>
        dsimp only
        by_cases hactive : p.child n ∈ active
        · rw [if_pos hactive, if_pos hactive]
          exact ⟨rfl, hp.isAbsolute, nofun⟩
        · rw [if_neg hactive, if_neg hactive]
          have hstart : t.Straight (if target.isAbsolute then ⟨.root, []⟩ else p) := by
            split
            · exact t.straight_root
            · exact hp
          obtain ⟨hsame, hsound⟩ := hagree _ (hp.child_mem_paths hn) hactive _ target.segments hstart
          rw [← hsame]
          rcases hfound : follow (p.child n :: active)
            (if target.isAbsolute then ⟨.root, []⟩ else p) target.segments with ⟨q, done⟩
          rw [hfound] at hsound
          cases done with
          | true => exact ih (hsound.straight rfl)
          | false => exact ⟨rfl, hsound.isAbsolute, nofun⟩

theorem length_le_of_active {active : List Path} (hnodup : active.Nodup)
    (hsubset : active ⊆ t.paths) : active.length ≤ t.entries.length := by
  have hle := (hnodup.subperm hsubset).length_le
  rwa [paths, List.length_map] at hle

variable (base base') in
theorem canonicalFrom_congr {depth depth' : Nat} {active : List Path} (hnodup : active.Nodup)
    (hsubset : active ⊆ t.paths) (hdepth : t.entries.length < depth + active.length)
    (hdepth' : t.entries.length < depth' + active.length) (hp : t.Straight p)
    (rest : List Segment) :
    t.canonicalFrom base depth active p rest = t.canonicalFrom base' depth' active p rest ∧
      t.Sound (t.canonicalFrom base depth active p rest) := by
  have hle := length_le_of_active hnodup hsubset
  induction depth generalizing depth' active p rest with
  | zero => omega
  | succ depth ih =>
    cases depth' with
    | zero => omega
    | succ depth' =>
      apply canonicalWith_congr _ hp
      intro link hlink hnew q segs hq
      have hnodup' : (link :: active).Nodup := List.nodup_cons.2 ⟨hnew, hnodup⟩
      have hsubset' : link :: active ⊆ t.paths := List.cons_subset.2 ⟨hlink, hsubset⟩
      have hlength : (link :: active).length = active.length + 1 := rfl
      apply ih hnodup' hsubset' _ _ hq segs (length_le_of_active hnodup' hsubset')
      · omega
      · omega

theorem depth_gt (t : Tree) (base : Location) :
    t.entries.length < (t.entries.length + 1) * (base.length + 2) + ([] : List Path).length := by
  have hle : t.entries.length + 1 ≤ (t.entries.length + 1) * (base.length + 2) :=
    Nat.le_mul_of_pos_right _ (by omega)
  rw [List.length_nil]
  omega

theorem find_of_isAbsolute (h : p.isAbsolute = true) (base : Location) :
    t.find base p = t.find [] p := by
  rw [find, SourceSet.locate_of_isAbsolute h base, find]

theorem canonical_of_isAbsolute (h : p.isAbsolute = true) (base base' : Location) :
    t.canonical base p = t.canonical base' p := by
  obtain ⟨hsame, hsound⟩ := canonicalFrom_congr base base' List.nodup_nil
    (List.nil_subset _) (depth_gt t base) (depth_gt t base') t.straight_root p.segments
  have habs := hsound.isAbsolute
  have hfind (b : Location) {q : Path} (hq : q.isAbsolute = true) :
      t.find b q.normalized = t.find [] q.normalized := by
    have hnormal : q.normalized.isAbsolute = true := hq
    exact find_of_isAbsolute hnormal b
  simp only [canonical, if_pos h]
  rw [← hsame, Path.join_absolute habs, Path.join_absolute habs, hfind base habs, hfind base' habs]

end ComponentBuild.Tree
