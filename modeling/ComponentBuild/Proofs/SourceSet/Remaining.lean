import ComponentBuild.Proofs.SourceSet.Collect
import ComponentBuild.Proofs.SourceSet.Listed

namespace ComponentBuild

namespace Tree

variable {t : Tree} {root : Path} {selects : List Name → Bool} {enters : Name → Bool}

theorem filesBelow_of_listing {depth : Nat} {dir : List Name} {l : Listing}
    (h : t.listing? (root.below dir) = some l) :
    t.filesBelow root selects enters (depth + 1) dir =
      (l.files.map fun n => dir ++ [n]).filter selects ++
        (l.directories.filter enters).flatMap fun d =>
          if t.isLink (root.below dir) d then []
          else t.filesBelow root selects enters depth (dir ++ [d]) := by
  rw [filesBelow, h]

theorem filesBelow_of_listing_none {depth : Nat} {dir : List Name}
    (h : t.listing? (root.below dir) = none) :
    t.filesBelow root selects enters depth dir = [] := by
  cases depth with
  | zero => rfl
  | succ depth => rw [filesBelow, h]

theorem filesBelow_succ {depth : Nat} {dir : List Name} (h : t.Within (root.below dir) depth) :
    t.filesBelow root selects enters (depth + 1) dir =
      t.filesBelow root selects enters depth dir := by
  induction depth generalizing dir with
  | zero =>
    have hl := listing?_of_within_zero h
    rw [filesBelow_of_listing_none hl, filesBelow_of_listing_none hl]
  | succ depth ih =>
    cases hl : t.listing? (root.below dir) with
    | none => rw [filesBelow_of_listing_none hl, filesBelow_of_listing_none hl]
    | some l =>
      rw [filesBelow_of_listing hl, filesBelow_of_listing hl]
      congr 2
      funext d
      by_cases hlink : t.isLink (root.below dir) d = true
      · rw [if_pos hlink, if_pos hlink]
      · rw [if_neg hlink, if_neg hlink]
        apply ih
        rw [Path.below_concat]
        exact h.child hl (by simpa using hlink)

theorem selects_of_mem_filesBelow {depth : Nat} {dir g : List Name}
    (h : g ∈ t.filesBelow root selects enters depth dir) : selects g = true := by
  induction depth generalizing dir with
  | zero => simp [filesBelow] at h
  | succ depth ih =>
    obtain ⟨-, -, -, ⟨-, -, -, -, hs⟩ | ⟨d, -, -, -, -, hm⟩⟩ := mem_filesBelow_succ.1 h
    · exact hs
    · exact ih hm

end Tree

namespace Walk

def filesAt (w : Walk) (s : SourceSet) (t : Tree) (dir : List Name) : List (List Name) :=
  t.filesBelow w.root (w.wanted s) s.enters (t.height + 1) dir

def remainingIn (w : Walk) (s : SourceSet) (t : Tree) : Pending → List (List Name)
  | .files dir ns => (ns.map fun n => dir ++ [n]).filter (w.wanted s)
  | .directories dir ds => ds.flatMap fun d =>
      if t.isLink (w.root.below dir) d then [] else w.filesAt s t (dir ++ [d])

def remaining (w : Walk) (s : SourceSet) (t : Tree) (work : List Pending) : List (List Name) :=
  work.flatMap (w.remainingIn s t)

variable {w : Walk} {s : SourceSet} {t : Tree} {work mid left : List Pending}
  {dir g : List Name} {l : Listing}

theorem remaining_cons (p : Pending) (work : List Pending) :
    w.remaining s t (p :: work) = w.remainingIn s t p ++ w.remaining s t work :=
  List.flatMap_cons

theorem remaining_append (work rest : List Pending) :
    w.remaining s t (work ++ rest) = w.remaining s t work ++ w.remaining s t rest :=
  List.flatMap_append

theorem filesAt_of_listing (h : t.listing? (w.root.below dir) = some l) :
    w.filesAt s t dir = w.remaining s t (opened s dir l) := by
  rw [filesAt, Tree.filesBelow_of_listing h]
  simp only [remaining, opened, List.flatMap_cons, List.flatMap_nil, List.append_nil, remainingIn]
  congr 2
  funext d
  by_cases hlink : t.isLink (w.root.below dir) d = true
  · rw [if_pos hlink, if_pos hlink]
  · rw [if_neg hlink, if_neg hlink, filesAt, Tree.filesBelow_succ]
    rw [Path.below_concat]
    exact (t.within_height _).child h (by simpa using hlink)

theorem Move.remaining_eq (h : w.Move s t work mid) :
    w.remaining s t work = w.remaining s t mid := by
  cases h with
  | noFile => rfl
  | @unwanted dir n ns rest hw => simp [remaining_cons, remainingIn, hw]
  | noDirectory => rfl
  | @skipped dir d ds rest hs =>
    rw [remaining_cons, remaining_cons, remainingIn, remainingIn, List.flatMap_cons]
    by_cases hlink : t.isLink (w.root.below dir) d = true
    · rw [if_pos hlink, List.nil_append]
    · have hl := hs (by simpa using hlink)
      rw [if_neg hlink, filesAt, Tree.filesBelow_of_listing_none hl, List.nil_append]
  | @listed dir d ds rest l hlink hl =>
    rw [remaining_append, ← filesAt_of_listing hl, remaining_cons, remaining_cons, remainingIn,
      remainingIn, List.flatMap_cons, if_neg (by simp [hlink]), List.append_assoc]

theorem Moves.remaining_eq (h : w.Moves s t work mid) :
    w.remaining s t work = w.remaining s t mid := by
  induction h with
  | refl => rfl
  | tail _ hm ih =>
    rw [ih]
    exact hm.remaining_eq

theorem Delivers.remaining_eq (h : w.Delivers s t work g left) :
    w.remaining s t work = g :: w.remaining s t left := by
  obtain ⟨hm, hw⟩ := h
  rw [hm.remaining_eq, remaining_cons, remaining_cons, remainingIn, remainingIn, List.map_cons,
    List.filter_cons_of_pos hw, List.cons_append]

theorem mem_filesAt_of_cons (h : g ∈ w.filesAt s t dir) {d : Name} {ms : List Name} (hms : ms ≠ [])
    (hg : g = dir ++ d :: ms) :
    t.isLink (w.root.below dir) d = false ∧ g ∈ w.filesAt s t (dir ++ [d]) := by
  cases hl : t.listing? (w.root.below dir) with
  | none => simp [filesAt, Tree.filesBelow_of_listing_none hl] at h
  | some l =>
    simp only [filesAt_of_listing hl, remaining, opened, List.flatMap_cons, List.flatMap_nil,
      List.append_nil, remainingIn, List.mem_append, List.mem_filter, List.mem_map,
      List.mem_flatMap] at h
    rcases h with ⟨⟨n, -, rfl⟩, -⟩ | ⟨e, -, hm⟩
    · obtain ⟨-, hnil⟩ := List.cons.inj (List.append_cancel_left hg)
      exact absurd hnil.symm hms
    · split at hm
      · simp at hm
      · rename_i hlink
        obtain ⟨ns, -, he, -⟩ := Tree.below_of_mem_filesBelow hm
        rw [hg, List.append_assoc] at he
        obtain ⟨rfl, -⟩ := List.cons.inj (List.append_cancel_left he)
        exact ⟨by simpa using hlink, hm⟩

theorem mem_filesAt_of_prefix (dirs : List Name) (h : g ∈ w.filesAt s t dir) {d : Name}
    {ms : List Name} (hms : ms ≠ []) (hg : g = dir ++ dirs ++ d :: ms) :
    t.isLink (w.root.below (dir ++ dirs)) d = false ∧ g ∈ w.filesAt s t (dir ++ dirs ++ [d]) := by
  induction dirs generalizing dir with
  | nil =>
    rw [List.append_nil] at hg ⊢
    exact mem_filesAt_of_cons h hms hg
  | cons e dirs ih =>
    have hne : dirs ++ d :: ms ≠ [] := by simp
    have hfirst : g = dir ++ e :: (dirs ++ d :: ms) := by simpa using hg
    have hrest : g = dir ++ [e] ++ dirs ++ d :: ms := by simpa using hg
    have hm := (mem_filesAt_of_cons h hne hfirst).2
    simpa using ih hm hrest

theorem mem_remaining (h : g ∈ w.filesAt s t []) (hc : Covers work g) :
    g ∈ w.remaining s t work := by
  obtain ⟨p, hp, hc⟩ := hc
  apply List.mem_flatMap.2
  refine ⟨p, hp, ?_⟩
  cases p with
  | files dir ns =>
    obtain ⟨n, hn, rfl⟩ := hc
    have hm : dir ++ [n] ∈ ns.map fun n => dir ++ [n] := List.mem_map.2 ⟨n, hn, rfl⟩
    exact List.mem_filter.2 ⟨hm, Tree.selects_of_mem_filesBelow h⟩
  | directories dir ds =>
    obtain ⟨d, hd, ms, hms, rfl⟩ := hc
    obtain ⟨hlink, hm⟩ := mem_filesAt_of_prefix dir h hms rfl
    apply List.mem_flatMap.2
    refine ⟨d, hd, ?_⟩
    rw [List.nil_append] at hlink
    rw [if_neg (by simp [hlink])]
    exact hm

end Walk

end ComponentBuild
