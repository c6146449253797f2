import ComponentBuild.Proofs.Path.Below
import ComponentBuild.Proofs.SourceSet.Order
import ComponentBuild.Proofs.Tree.Descent

namespace ComponentBuild

namespace Tree

structure FileBelow (t : Tree) (loc : Location) (p : Path) (dirs : List Name) (n : Name) :
    Prop where
  real : ∀ ds, ds <+: dirs → t.node? (loc ++ ds) = some .directory
  entry : (t.node? (loc ++ dirs ++ [n])).isSome
  file : t.leadsToDirectory (p.below dirs) (loc ++ dirs) n = false

end Tree

/-- The system takes the path of a directory below another. -/
structure Path.Passable (p : Path) (dirs : List Name) : Prop where
  path : (p.below dirs).fault? = none
  names : ∀ d ∈ dirs, d.isTooLong = false

theorem Path.passable_cons {p : Path} (h : p.isAbsolute = true) (d : Name) (ds : List Name) :
    p.Passable (d :: ds) ↔
      (p.child d).fault? = none ∧ d.isTooLong = false ∧ (p.child d).Passable ds := by
  constructor
  · intro hp
    have hpath : ((p.child d).below ds).fault? = none := by
      rw [← below_cons]
      exact hp.path
    have hnames : ∀ e ∈ ds, e.isTooLong = false := by
      intro e he
      exact hp.names e (List.mem_cons_of_mem _ he)
    exact ⟨fault?_of_below h hpath, hp.names d List.mem_cons_self, hpath, hnames⟩
  · rintro ⟨-, hd, hpath, hnames⟩
    constructor
    · rw [below_cons]
      exact hpath
    · intro e he
      rcases List.mem_cons.1 he with rfl | he
      · exact hd
      · exact hnames e he

namespace Tree

variable {t : Tree}

theorem fileBelow_nil {loc : Location} {p : Path} {n : Name} :
    t.FileBelow loc p [] n ↔ t.node? loc = some .directory ∧ (t.node? (loc ++ [n])).isSome ∧
      t.leadsToDirectory p loc n = false := by
  constructor
  · intro h
    exact ⟨by simpa using h.real [] List.prefix_rfl, by simpa using h.entry, by simpa using h.file⟩
  · rintro ⟨hd, he, hf⟩
    constructor
    · intro ds hds
      rw [List.prefix_nil.1 hds, List.append_nil, hd]
    · simpa using he
    · simpa using hf

theorem fileBelow_cons {loc : Location} {p : Path} {d : Name} {ds : List Name} {n : Name} :
    t.FileBelow loc p (d :: ds) n ↔
      t.node? loc = some .directory ∧ t.FileBelow (loc ++ [d]) (p.child d) ds n := by
  have hl : loc ++ d :: ds = loc ++ [d] ++ ds := by simp
  constructor
  · intro h
    have hentry := h.entry
    have hfile := h.file
    rw [hl] at hentry hfile
    rw [Path.below_cons] at hfile
    refine ⟨by simpa using h.real [] List.nil_prefix, ?_, hentry, hfile⟩
    intro es hes
    have hreal := h.real (d :: es) (List.cons_prefix_cons.2 ⟨rfl, hes⟩)
    simpa using hreal
  · rintro ⟨hd, h⟩
    constructor
    · intro es hes
      cases es with
      | nil => simpa using hd
      | cons e es =>
        obtain ⟨rfl, hes'⟩ := List.cons_prefix_cons.1 hes
        simpa using h.real es hes'
    · rw [hl]
      exact h.entry
    · rw [hl, Path.below_cons]
      exact h.file

theorem FileBelow.directory {loc : Location} {p : Path} {dirs : List Name} {n : Name}
    (h : t.FileBelow loc p dirs n) : t.node? loc = some .directory := by
  simpa using h.real [] List.nil_prefix

section FilesBelow

variable {root : Path} {selects : List Name → Bool} {enters : Name → Bool}

theorem mem_filesBelow_succ {k : Nat} {dir g : List Name} :
    g ∈ t.filesBelow root selects enters (k + 1) dir ↔
      ∃ loc, t.locate [] (root.below dir) = .ok loc ∧ t.node? loc = some .directory ∧
        ((∃ n ∈ t.names loc, t.leadsToDirectory (root.below dir) loc n = false ∧
            g = dir ++ [n] ∧ selects g = true) ∨
          ∃ d ∈ t.names loc, t.leadsToDirectory (root.below dir) loc d = true ∧ enters d = true ∧
            t.isLink (root.below dir) d = false ∧
              g ∈ t.filesBelow root selects enters k (dir ++ [d])) := by
  rw [filesBelow]
  cases hl : t.listing? (root.below dir) with
  | none =>
    have hnone : ∀ loc, t.locate [] (root.below dir) = .ok loc →
        t.node? loc ≠ some .directory := by
      intro loc hp hd
      rw [listing?_eq_some.2 ⟨loc, hp, hd, rfl⟩] at hl
      cases hl
    constructor
    · simp
    · rintro ⟨loc, hp, hd, -⟩
      exact absurd hd (hnone loc hp)
  | some l =>
    obtain ⟨loc, hp, hd, rfl⟩ := listing?_eq_some.1 hl
    simp only [List.mem_append, List.mem_filter, List.mem_map, List.mem_flatMap, Bool.not_eq_true',
      hp, Except.ok.injEq, exists_eq_left', hd, true_and]
    constructor
    · rintro (⟨⟨n, ⟨hn, hf⟩, rfl⟩, hs⟩ | ⟨d, ⟨⟨hd, hdir⟩, he⟩, hm⟩)
      · exact .inl ⟨n, hn, hf, rfl, hs⟩
      · split at hm
        · simp at hm
        · rename_i hlink
          exact .inr ⟨d, hd, hdir, he, by simpa using hlink, hm⟩
    · rintro (⟨n, hn, hf, rfl, hs⟩ | ⟨d, hd, hdir, he, hlink, hm⟩)
      · exact .inl ⟨⟨n, ⟨hn, hf⟩, rfl⟩, hs⟩
      · exact .inr ⟨d, ⟨⟨hd, hdir⟩, he⟩, by simpa [hlink] using hm⟩

theorem below_of_mem_filesBelow {k : Nat} {dir g : List Name}
    (h : g ∈ t.filesBelow root selects enters k dir) :
    ∃ ms, ms ≠ [] ∧ g = dir ++ ms ∧ ms.length ≤ k := by
  induction k generalizing dir with
  | zero => simp [filesBelow] at h
  | succ k ih =>
    obtain ⟨loc, -, -, ⟨n, -, -, rfl, -⟩ | ⟨d, -, -, -, -, hm⟩⟩ := mem_filesBelow_succ.1 h
    · exact ⟨[n], by simp, rfl, by simp⟩
    · obtain ⟨ms, -, rfl, hk⟩ := ih hm
      exact ⟨d :: ms, by simp, by simp, by simpa using hk⟩

theorem filesBelow_pairwise (k : Nat) (dir : List Name) :
    (t.filesBelow root selects enters k dir).Pairwise Before := by
  induction k generalizing dir with
  | zero => exact .nil
  | succ k ih =>
    rw [filesBelow]
    cases hl : t.listing? (root.below dir) with
    | none => exact .nil
    | some l =>
      obtain ⟨loc, -, -, rfl⟩ := listing?_eq_some.1 hl
      have hsorted := t.names_sorted loc
      refine List.pairwise_append.2 ⟨?_, ?_, ?_⟩
      · apply List.Pairwise.filter
        apply List.pairwise_map.2
        apply (hsorted.filter _).imp
        intro m n h
        exact Before.files dir h
      · refine List.pairwise_flatMap.2 ⟨?_, ?_⟩
        · intro d _
          split
          · exact .nil
          · exact ih _
        · apply ((hsorted.filter _).filter _).imp
          intro d e h g hg g' hg'
          split at hg <;> split at hg'
          · simp at hg
          · simp at hg
          · simp at hg'
          · obtain ⟨ms, hms, rfl, -⟩ := below_of_mem_filesBelow hg
            obtain ⟨ns, hns, rfl, -⟩ := below_of_mem_filesBelow hg'
            simpa using Before.directories dir h hms hns
      · intro g hg g' hg'
        obtain ⟨n, -, rfl⟩ := List.mem_map.1 (List.mem_filter.1 hg).1
        obtain ⟨d, -, hm⟩ := List.mem_flatMap.1 hg'
        split at hm
        · simp at hm
        · obtain ⟨ms, hms, rfl, -⟩ := below_of_mem_filesBelow hm
          simpa using Before.file_directory dir n d hms

theorem locate_of_mem_filesBelow {k : Nat} {dir g : List Name}
    (h : g ∈ t.filesBelow root selects enters k dir) :
    ∃ loc, t.locate [] (root.below dir) = .ok loc ∧ t.node? loc = some .directory := by
  cases k with
  | zero => simp [filesBelow] at h
  | succ k =>
    obtain ⟨loc, hp, hd, -⟩ := mem_filesBelow_succ.1 h
    exact ⟨loc, hp, hd⟩

theorem leadsToDirectory_of_directory {p : Path} {loc : Location} {d : Name}
    (h : t.node? (loc ++ [d]) = some .directory) : t.leadsToDirectory p loc d = true := by
  simp [leadsToDirectory, h]

theorem isLink_of_directory {p : Path} {loc : Location} {d : Name} (hp : t.locate [] p = .ok loc)
    (hd : t.node? loc = some .directory) (h : t.node? (loc ++ [d]) = some .directory) :
    t.isLink p d = false := by
  rw [Bool.eq_false_iff, ne_eq, isLink_eq_true hp hd, h]
  rintro ⟨-, -, target, ht⟩
  cases ht

theorem mem_filesBelow (hroot : root.isAbsolute = true) {rest dir : List Name} {loc : Location}
    (hp : t.locate [] (root.below dir) = .ok loc) {k : Nat} (hk : rest.length < k) (n : Name) :
    dir ++ rest ++ [n] ∈ t.filesBelow root selects enters k dir ↔
      t.FileBelow loc (root.below dir) rest n ∧ (root.below dir).Passable rest ∧
        (∀ d ∈ rest, enters d = true) ∧ selects (dir ++ rest ++ [n]) = true := by
  induction rest generalizing dir loc k with
  | nil =>
    obtain ⟨k, rfl⟩ : ∃ j, k = j + 1 := ⟨k - 1, by simp at hk; omega⟩
    have hpass : (root.below dir).Passable [] :=
      ⟨by simpa using (locate_eq_ok.1 hp).1, by simp⟩
    rw [mem_filesBelow_succ, fileBelow_nil]
    simp only [hp, Except.ok.injEq, exists_eq_left', List.append_nil, mem_names_iff]
    constructor
    · rintro ⟨hd, ⟨m, hm, hf, he, hs⟩ | ⟨d, -, -, -, -, hm⟩⟩
      · obtain rfl : n = m := by simpa using he
        exact ⟨⟨hd, hm, hf⟩, hpass, by simp, hs⟩
      · obtain ⟨ms, hms, he, -⟩ := below_of_mem_filesBelow hm
        simp only [List.append_assoc, List.append_cancel_left_eq, List.cons_append,
          List.nil_append, List.cons.injEq] at he
        exact absurd he.2.symm hms
    · rintro ⟨⟨hd, hm, hf⟩, -, -, hs⟩
      exact ⟨hd, .inl ⟨n, hm, hf, rfl, hs⟩⟩
  | cons d rest ih =>
    obtain ⟨k, rfl⟩ : ∃ j, k = j + 1 := ⟨k - 1, by simp at hk; omega⟩
    have hk' : rest.length < k := by simpa using hk
    have hb : root.below (dir ++ [d]) = (root.below dir).child d := Path.below_concat root dir d
    have habs := Path.isAbsolute_below hroot dir
    have hg : dir ++ d :: rest ++ [n] = dir ++ [d] ++ rest ++ [n] := by simp
    rw [mem_filesBelow_succ, fileBelow_cons, Path.passable_cons habs]
    simp only [hp, Except.ok.injEq, exists_eq_left', mem_names_iff]
    constructor
    · rintro ⟨hd, ⟨m, -, -, he, -⟩ | ⟨e, he, -, hent, hlink, hm⟩⟩
      · simp at he
      · obtain ⟨ms, -, heq, -⟩ := below_of_mem_filesBelow hm
        obtain rfl : d = e := by simp at heq; exact heq.1
        obtain ⟨out, hout, -⟩ := locate_of_mem_filesBelow hm
        rw [hb] at hout
        obtain ⟨hf, hl, -, rfl⟩ := (locate_child hp hd hlink).1 hout
        rw [← hb] at hout
        rw [hg] at hm ⊢
        obtain ⟨hfb, hpass, hents, hs⟩ := (ih hout hk').1 hm
        rw [hb] at hfb hpass
        refine ⟨⟨hd, hfb⟩, ⟨hf, hl, hpass⟩, ?_, hs⟩
        intro e' he'
        rcases List.mem_cons.1 he' with rfl | he'
        · exact hent
        · exact hents e' he'
    · rintro ⟨⟨hd, hfb⟩, ⟨hf, hl, hpass⟩, hent, hs⟩
      have hdir := hfb.directory
      have hlink := isLink_of_directory hp hd hdir
      have hsome : (t.node? (loc ++ [d])).isSome := by simp [hdir]
      have hout := (locate_child hp hd hlink).2 ⟨hf, hl, hsome, rfl⟩
      have hents : ∀ e ∈ rest, enters e = true := by
        intro e he
        exact hent e (List.mem_cons_of_mem _ he)
      rw [← hb] at hout hfb hpass
      rw [hg] at hs ⊢
      have hm := (ih hout hk').2 ⟨hfb, hpass, hents, hs⟩
      have hd' := leadsToDirectory_of_directory (p := root.below dir) hdir
      exact ⟨hd, .inr ⟨d, hsome, hd', hent d List.mem_cons_self, hlink, hm⟩⟩

theorem mem_filesBelow_root (hroot : root.isAbsolute = true) {loc : Location}
    (hp : t.locate [] root = .ok loc) {k : Nat} (hk : t.height < k) {names : List Name} :
    names ∈ t.filesBelow root selects enters k [] ↔
      ∃ dirs n, names = dirs ++ [n] ∧ t.FileBelow loc root dirs n ∧ root.Passable dirs ∧
        (∀ d ∈ dirs, enters d = true) ∧ selects names = true := by
  have hp' : t.locate [] (root.below []) = .ok loc := by rwa [Path.below_nil]
  have hmem (dirs : List Name) (n : Name) (h : dirs.length < k) :=
    @mem_filesBelow t root selects enters hroot dirs [] loc hp' k h n
  simp only [List.nil_append, Path.below_nil] at hmem
  constructor
  · intro h
    obtain ⟨ms, hne, rfl, hlen⟩ := below_of_mem_filesBelow h
    obtain ⟨dirs, n, rfl⟩ : ∃ dirs n, names = dirs ++ [n] :=
      ⟨_, _, (List.dropLast_concat_getLast hne).symm⟩
    rw [List.length_append, List.length_singleton] at hlen
    obtain ⟨hb, hpass, hent, hsel⟩ := (hmem dirs n (by omega)).1 h
    exact ⟨dirs, n, rfl, hb, hpass, hent, hsel⟩
  · rintro ⟨dirs, n, rfl, hb, hpass, hent, hsel⟩
    have hlt : dirs.length < k := by
      have hlen := length_le_height_of_node? hb.entry
      simp only [List.length_append, List.length_singleton] at hlen
      omega
    exact (hmem dirs n hlt).2 ⟨hb, hpass, hent, hsel⟩

theorem filter_filesBelow (test : List Name → Bool) (k : Nat) (dir : List Name) :
    (t.filesBelow root selects enters k dir).filter test =
      t.filesBelow root (fun g => selects g && test g) enters k dir := by
  induction k generalizing dir with
  | zero => rfl
  | succ k ih =>
    rw [filesBelow, filesBelow]
    cases t.listing? (root.below dir) with
    | none => rfl
    | some l =>
      simp only [List.filter_append, List.filter_filter, List.filter_flatMap, Bool.and_comm]
      congr 2
      funext d
      split
      · rfl
      · exact ih _

end FilesBelow

end Tree

end ComponentBuild
