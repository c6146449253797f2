import ComponentBuild.SourceSet.Listing

namespace ComponentBuild.Tree

variable {t : Tree}

theorem asDirectory_eq_ok {loc out : Location} (h : t.asDirectory false loc = .ok out) :
    loc = out := by
  simp only [asDirectory, Bool.false_eq_true, if_false] at h
  split at h
  · exact Except.ok.inj h
  · cases h

section Walk

variable {create : Bool} {follow : Location → List Segment → Except FileFault Location}
  {loc out : Location} {segs : List Segment}

theorem node?_of_walkWith_cons {s : Segment}
    (h : t.walkWith create follow loc (s :: segs) = .ok out) :
    t.node? loc = some .directory := by
  cases hn : t.node? loc with
  | none => cases s <;> simp [walkWith, hn] at h
  | some node =>
    cases node with
    | directory => rfl
    | file content => cases s <;> simp [walkWith, hn] at h
    | link target => cases s <;> simp [walkWith, hn] at h

theorem walkWith_up (hd : t.node? loc = some .directory) (segs : List Segment) :
    t.walkWith create follow loc (.up :: segs) = t.walkWith create follow loc.dropLast segs := by
  rw [walkWith]
  simp only [hd]

theorem walkWith_tooLong (hd : t.node? loc = some .directory) {n : Name} (hl : n.isTooLong = true)
    (segs : List Segment) :
    t.walkWith create follow loc (.entry n :: segs) = .error .tooLong := by
  rw [walkWith]
  simp only [hd, hl, if_true]

theorem walkWith_missing (hd : t.node? loc = some .directory) {n : Name} (hl : n.isTooLong = false)
    (he : t.node? (loc ++ [n]) = none) (segs : List Segment) :
    t.walkWith create follow loc (.entry n :: segs) =
      if create && segs.isEmpty then .ok (loc ++ [n]) else .error .missing := by
  rw [walkWith]
  simp only [hd, hl, he]
  rfl

theorem walkWith_entry (hd : t.node? loc = some .directory) {n : Name} (hl : n.isTooLong = false)
    {node : Node} (he : t.node? (loc ++ [n]) = some node) (hn : ∀ target, node ≠ .link target)
    (segs : List Segment) :
    t.walkWith create follow loc (.entry n :: segs) =
      t.walkWith create follow (loc ++ [n]) segs := by
  rw [walkWith]
  simp only [hd, hl, he]
  cases node with
  | file content => rfl
  | directory => rfl
  | link target => exact absurd rfl (hn target)

theorem walkWith_link (hd : t.node? loc = some .directory) {n : Name} (hl : n.isTooLong = false)
    {target : LinkTarget} (he : t.node? (loc ++ [n]) = some (.link target)) (segs : List Segment) :
    t.walkWith create follow loc (.entry n :: segs) =
      if target.slashed && segs.isEmpty then
        (follow (startOf loc target.path) (target.path.segments ++ segs)).bind (t.asDirectory create)
      else follow (startOf loc target.path) (target.path.segments ++ segs) := by
  rw [walkWith]
  simp only [hd, hl, he]
  rfl

theorem isTooLong_of_walkWith {n : Name}
    (h : t.walkWith create follow loc (.entry n :: segs) = .ok out) : n.isTooLong = false := by
  cases hl : n.isTooLong with
  | false => rfl
  | true =>
    rw [walkWith_tooLong (node?_of_walkWith_cons h) hl] at h
    cases h

theorem entry_of_walkWith {n : Name}
    (h : t.walkWith false follow loc (.entry n :: segs) = .ok out) :
    n.isTooLong = false ∧ ∃ node, t.node? (loc ++ [n]) = some node := by
  have hl := isTooLong_of_walkWith h
  refine ⟨hl, ?_⟩
  cases he : t.node? (loc ++ [n]) with
  | none =>
    rw [walkWith_missing (node?_of_walkWith_cons h) hl he] at h
    cases h
  | some node => exact ⟨node, rfl⟩

theorem follow_of_walkWith_link {n : Name} {target : LinkTarget}
    (h : t.walkWith false follow loc (.entry n :: segs) = .ok out)
    (hn : t.node? (loc ++ [n]) = some (.link target)) :
    follow (startOf loc target.path) (target.path.segments ++ segs) = .ok out := by
  rw [walkWith_link (node?_of_walkWith_cons h) (entry_of_walkWith h).1 hn] at h
  split at h
  · cases hx : follow (startOf loc target.path) (target.path.segments ++ segs) with
    | error fault => simp [hx, Except.bind] at h
    | ok found =>
      simp only [hx, Except.bind] at h
      rw [asDirectory_eq_ok h]
  · exact h

theorem walkWith_append {rest : List Segment} (hr : rest ≠ []) (k : Nat)
    (hself : ∀ loc, t.walkWith false follow loc rest = t.walk false k loc rest)
    (hf : ∀ loc segs out, follow loc segs = .ok out →
      ∃ j, follow loc (segs ++ rest) = t.walk false j out rest)
    (h : t.walkWith false follow loc segs = .ok out) :
    ∃ j, t.walkWith false follow loc (segs ++ rest) = t.walk false j out rest := by
  induction segs generalizing loc with
  | nil =>
    obtain rfl : loc = out := by simpa [walkWith] using h
    exact ⟨k, hself loc⟩
  | cons s segs ih =>
    have hd := node?_of_walkWith_cons h
    cases s with
    | up =>
      rw [walkWith_up hd] at h
      rw [List.cons_append, walkWith_up hd]
      exact ih h
    | entry n =>
      obtain ⟨hl, node, he⟩ := entry_of_walkWith h
      by_cases hlink : ∃ target, node = .link target
      · obtain ⟨target, rfl⟩ := hlink
        have hempty : (segs ++ rest).isEmpty = false := by simp [hr]
        rw [List.cons_append, walkWith_link hd hl he, hempty, Bool.and_false, if_neg (by simp),
          ← List.append_assoc]
        exact hf _ _ _ (follow_of_walkWith_link h he)
      · rw [not_exists] at hlink
        rw [walkWith_entry hd hl he hlink] at h
        rw [List.cons_append, walkWith_entry hd hl he hlink]
        exact ih h

theorem walk_append {rest : List Segment} (hr : rest ≠ []) {k : Nat} (h : t.walk false k loc segs = .ok out) :
    ∃ j, t.walk false k loc (segs ++ rest) = t.walk false j out rest := by
  induction k generalizing loc segs out with
  | zero =>
    apply walkWith_append hr 0 _ _ h
    · intro loc
      rfl
    · intro loc segs out h
      cases h
  | succ k ih =>
    apply walkWith_append hr (k + 1) _ _ h
    · intro loc
      rfl
    · intro loc segs out h
      exact ih h

end Walk

theorem walk_entry {loc : Location} (hd : t.node? loc = some .directory) {n : Name}
    (hl : ∀ target, t.node? (loc ++ [n]) ≠ some (.link target)) (k : Nat) :
    t.walk false k loc [.entry n] =
      if n.isTooLong then .error .tooLong
      else if (t.node? (loc ++ [n])).isSome then .ok (loc ++ [n])
      else .error .missing := by
  have hw (follow : Location → List Segment → Except FileFault Location) :
      t.walkWith false follow loc [.entry n] =
        if n.isTooLong then .error .tooLong
        else if (t.node? (loc ++ [n])).isSome then .ok (loc ++ [n])
        else .error .missing := by
    cases hn : n.isTooLong with
    | true => rw [walkWith_tooLong hd hn, if_pos rfl]
    | false =>
      cases he : t.node? (loc ++ [n]) with
      | none => exact walkWith_missing hd hn he []
      | some node =>
        have hlink : ∀ target, node ≠ .link target := by
          rintro target rfl
          exact hl target he
        exact walkWith_entry hd hn he hlink []
  cases k with
  | zero => exact hw _
  | succ k => exact hw _

theorem locate_eq_ok {p : Path} {loc : Location} :
    t.locate [] p = .ok loc ↔ p.fault? = none ∧ t.walk false linkLimit [] p.segments = .ok loc := by
  have hs : startOf [] p = [] := by simp [startOf]
  rw [locate, locateWith, hs]
  cases p.fault? with
  | none => simp
  | some fault => simp

theorem isLink_eq_true {p : Path} {loc : Location} (hp : t.locate [] p = .ok loc)
    (hd : t.node? loc = some .directory) {n : Name} :
    t.isLink p n = true ↔ (p.child n).fault? = none ∧ n.isTooLong = false ∧
      ∃ target, t.node? (loc ++ [n]) = some (.link target) := by
  simp only [isLink, linkTarget?, locateEntry, hp]
  cases hf : (p.child n).fault? with
  | some fault => simp
  | none =>
    by_cases hn : n.isTooLong = true
    · simp [hd, hn]
    · simp only [hd, hn]
      cases he : t.node? (loc ++ [n]) with
      | none => simp [he]
      | some node => cases node <;> simp [he]

theorem locate_child {p : Path} {loc : Location} (hp : t.locate [] p = .ok loc)
    (hd : t.node? loc = some .directory) {n : Name} (hl : t.isLink p n = false) {out : Location} :
    t.locate [] (p.child n) = .ok out ↔
      (p.child n).fault? = none ∧ n.isTooLong = false ∧ (t.node? (loc ++ [n])).isSome ∧
        out = loc ++ [n] := by
  have hsegs : (p.child n).segments = p.segments ++ [.entry n] := rfl
  have hr : [Segment.entry n] ≠ [] := by simp
  obtain ⟨j, hj⟩ := walk_append hr (locate_eq_ok.1 hp).2
  rw [locate_eq_ok, hsegs, hj]
  by_cases hf : (p.child n).fault? = none
  · by_cases hn : n.isTooLong = true
    · have hw : t.walk false j loc [.entry n] = .error .tooLong := by
        cases j with
        | zero => exact walkWith_tooLong hd hn []
        | succ j => exact walkWith_tooLong hd hn []
      simp [hw, hn]
    · have hlink : ∀ target, t.node? (loc ++ [n]) ≠ some (.link target) := by
        intro target ht
        have hshort : n.isTooLong = false := by simpa using hn
        have htrue := (isLink_eq_true hp hd).2 ⟨hf, hshort, target, ht⟩
        rw [hl] at htrue
        cases htrue
      rw [walk_entry hd hlink]
      by_cases he : (t.node? (loc ++ [n])).isSome = true
      · simp [hn, he, eq_comm]
      · simp [hn, he]
  · simp [hf]

theorem listing?_eq_some {p : Path} {l : Listing} :
    t.listing? p = some l ↔ ∃ loc, t.locate [] p = .ok loc ∧ t.node? loc = some .directory ∧
      l = ⟨(t.names loc).filter fun n => !t.leadsToDirectory p loc n,
        (t.names loc).filter (t.leadsToDirectory p loc)⟩ := by
  unfold listing?
  cases hp : t.locate [] p with
  | error fault => simp
  | ok loc =>
    simp only [Except.ok.injEq, exists_eq_left']
    by_cases hd : t.node? loc = some .directory
    · simp [hd, eq_comm]
    · simp [hd]

theorem node?_isSome {loc : Location} (hne : loc ≠ []) :
    (t.node? loc).isSome ↔ ∃ node, (loc, node) ∈ t.entries := by
  cases loc with
  | nil => exact absurd rfl hne
  | cons n loc =>
    rw [node?.eq_2 t (n :: loc) hne, List.lookup_isSome_iff]
    constructor
    · rintro ⟨⟨l, node⟩, hm, he⟩
      obtain rfl : n :: loc = l := eq_of_beq he
      exact ⟨node, hm⟩
    · rintro ⟨node, hm⟩
      exact ⟨_, hm, beq_self_eq_true _⟩

theorem mem_names_iff {loc : Location} {n : Name} :
    n ∈ t.names loc ↔ (t.node? (loc ++ [n])).isSome := by
  rw [mem_names, node?_isSome (by simp)]

theorem length_le_height_of_node? {loc : Location} (h : (t.node? loc).isSome) :
    loc.length ≤ t.height := by
  by_cases hne : loc = []
  · subst hne
    simp
  · obtain ⟨node, hm⟩ := (node?_isSome hne).1 h
    exact length_le_height hm

end ComponentBuild.Tree
