import ComponentBuild.Proofs.SourceSet.Iteration

/-!
What cursors deliver while the tree changes and others are asked in between. Deliveries follow the
order of a walk, so none comes twice; a file that stays is not missed; each was listed as a file;
and in a tree that stays a cursor delivers just what is collected there.
-/

namespace ComponentBuild.Cursor

open Walk

def delivered (log : List Asked) : List Path :=
  log.filterMap fun a => match a.answer with
    | .ok (some f) => some f.path
    | _ => none

variable {s : SourceSet} {host : Host} {root : Path} {t₀ t : Tree} {log : List Asked} {a : Asked}
  {st st' : CursorState}

theorem delivered_concat_some {f : SourceFile} (h : a.answer = .ok (some f)) :
    delivered (log ++ [a]) = delivered log ++ [f.path] := by
  simp [delivered, h]

theorem delivered_concat_none (h : ∀ f, a.answer ≠ .ok (some f)) :
    delivered (log ++ [a]) = delivered log := by
  have hnone : delivered [a] = [] := by
    match ha : a.answer with
    | .error fault => simp [delivered, ha]
    | .ok none => simp [delivered, ha]
    | .ok (some f) => exact absurd ha (h f)
  have happend : delivered (log ++ [a]) = delivered log ++ delivered [a] := List.filterMap_append
  rw [happend, hnone, List.append_nil]

theorem delivered_subset : delivered log ⊆ delivered (log ++ [a]) := by
  rw [delivered, delivered, List.filterMap_append]
  exact List.subset_append_left ..

theorem Trace.eq_nil_of_fresh (h : Trace s host root log st) (hst : st = .fresh) : log = [] := by
  cases h with
  | fresh => rfl
  | step _ _ _ hs => cases hs <;> cases hst

section Order

theorem Trace.ordered (h : Trace s host root log st) : ∃ names : List (List Name),
    delivered log = names.map root.below ∧ names.Pairwise Before ∧
      ∀ w, st = .walking w → Ordered w.pending ∧
        ∀ g ∈ names, ∀ f, Covers w.pending f → Before g f := by
  induction h with
  | fresh => exact ⟨[], rfl, .nil, nofun⟩
  | @step log a st st' answer htrace hst ha hs ih =>
    -- The work stays ordered, and all that was delivered stays before it.
    obtain ⟨names, hnames, hbefore, hwalking⟩ := ih
    cases hs with
    | @first w l g left f _ _ hl hd hf =>
      have hnil := htrace.eq_nil_of_fresh rfl
      refine ⟨[g], ?_, List.pairwise_singleton .., ?_⟩
      · rw [delivered_concat_some ha, hnil, SourceFile.path_of_ofPath hf]
        rfl
      · intro w' he
        cases he
        refine ⟨hd.ordered (opened_ordered hl), ?_⟩
        intro g' hg' f' hf'
        obtain rfl := List.mem_singleton.1 hg'
        exact hd.before (opened_ordered hl) hf'
    | @next w g left f hd hf =>
      obtain ⟨hord, hall⟩ := hwalking w rfl
      have hlast : (names ++ [g]).Pairwise Before := by
        refine List.pairwise_append.2 ⟨hbefore, List.pairwise_singleton .., ?_⟩
        intro g' hg' f' hf'
        obtain rfl := List.mem_singleton.1 hf'
        exact hall g' hg' _ hd.covers
      refine ⟨names ++ [g], ?_, hlast, ?_⟩
      · rw [delivered_concat_some ha, hnames, SourceFile.path_of_ofPath hf, List.map_append]
        rfl
      · intro w' he
        cases he
        refine ⟨hd.ordered hord, ?_⟩
        intro g' hg' f' hf'
        rcases List.mem_append.1 hg' with hg' | hg'
        · exact hall g' hg' f' (hd.covers_left hf')
        · obtain rfl := List.mem_singleton.1 hg'
          exact hd.before hord hf'
    | _ =>
      refine ⟨names, ?_, hbefore, nofun⟩
      rw [delivered_concat_none (by simp [ha]), hnames]

theorem Trace.nodup (h : Trace s host root log st) : (delivered log).Nodup := by
  obtain ⟨names, hnames, hbefore, -⟩ := h.ordered
  rw [hnames]
  apply List.pairwise_map.2
  apply hbefore.imp
  intro ns ms hb he
  obtain rfl := root.below_injective he
  exact hb.irrefl

end Order

section Complete

variable {dirs : List Name} {n : Name}

theorem mem_filesAt_of_holds {w : Walk} (hof : w.IsOf s root) (habs : root.isAbsolute = true)
    (h : s.Holds t root dirs n) (hpass : root.Passable dirs) : dirs ++ [n] ∈ w.filesAt s t [] := by
  have hnothing {given : List Given} {ps : List Pattern}
      (hp : SourceSet.patterns given = .ok ps) : .nothing ∉ given := by
    intro hm
    rw [SourceSet.patterns_nothing hm] at hp
    cases hp
  obtain ⟨includes, hi⟩ := Given.eq_map_text (hnothing hof.includes)
  obtain ⟨excludes, he⟩ := Given.eq_map_text (hnothing hof.excludes)
  have hwi := hof.includes
  have hwe := hof.excludes
  rw [hi, SourceSet.patterns_texts] at hwi
  rw [he, SourceSet.patterns_texts] at hwe
  obtain ⟨loc, hp, -⟩ := h.below
  rw [filesAt_nil hof.root, ← Except.ok.inj hwi, ← Except.ok.inj hwe,
    SourceSet.mem_found hi he habs hp]
  exact ⟨dirs, n, rfl, h, hpass⟩

theorem started_of_holds (hroot : s.root { host with tree := t₀ } = .ok root)
    (hg : .nothing ∉ s.includes ++ s.excludes) (h : s.Holds t root dirs n) :
    ∃ w, s.started { host with tree := t } = .ok w := by
  obtain ⟨d, hd, hr, -⟩ := SourceSet.root_eq_ok hroot
  obtain ⟨loc, hp, hb⟩ := h.below
  have hroot' : s.root { host with tree := t } = .ok root :=
    SourceSet.root_of_locate hd hr hp hb.directory
  simp only [List.mem_append, not_or] at hg
  obtain ⟨includes, hi⟩ := Given.eq_map_text hg.1
  obtain ⟨excludes, he⟩ := Given.eq_map_text hg.2
  rw [SourceSet.started, hroot', hi, he]
  simp only [SourceSet.patterns_texts]
  exact ⟨_, rfl⟩

theorem delivered_or_covers {w : Walk} {work left : List Pending} {g names : List Name}
    {f : SourceFile} (ha : a.answer = .ok (some f))
    (hf : SourceFile.ofPath root (root.below g) = .ok f) (hd : w.Delivers s t work g left)
    (hm : names ∈ w.remaining s t work) :
    root.below names ∈ delivered (log ++ [a]) ∨ Covers left names := by
  rw [hd.remaining_eq] at hm
  rcases List.mem_cons.1 hm with rfl | hm
  · left
    rw [delivered_concat_some ha, SourceFile.path_of_ofPath hf]
    simp
  · right
    exact covers_of_mem_remaining hm

theorem Trace.complete (h : Trace s host root log st)
    (hroot : s.root { host with tree := t₀ } = .ok root)
    (hg : .nothing ∉ s.includes ++ s.excludes) (hpass : root.Passable dirs)
    (hh : ∀ a ∈ log, s.Holds a.tree root dirs n) :
    (st = .ended → root.below (dirs ++ [n]) ∈ delivered log) ∧
      ∀ w, st = .walking w →
        root.below (dirs ++ [n]) ∈ delivered log ∨ Covers w.pending (dirs ++ [n]) := by
  have habs := SourceSet.root_isAbsolute hroot
  induction h with
  | fresh => exact ⟨nofun, nofun⟩
  | @step log a st st' answer htrace hst ha hs ih =>
    have hearlier : ∀ b ∈ log, s.Holds b.tree root dirs n := by
      intro b hb
      exact hh b (List.mem_append_left _ hb)
    obtain ⟨hended, hwalking⟩ := ih hearlier
    have hnow := hh a (by simp)
    cases hs with
    | ended =>
      refine ⟨?_, nofun⟩
      intro _
      exact delivered_subset (hended rfl)
    | failed hf =>
      obtain ⟨w, hw⟩ := started_of_holds hroot hg hnow
      rw [hw] at hf
      cases hf
    | empty hw hof hempty =>
      have hm := mem_filesAt_of_holds hof habs hnow hpass
      rw [hempty] at hm
      cases hm
    | @first w l g left f hw hof hl hd hf =>
      refine ⟨nofun, ?_⟩
      intro w' he
      cases he
      have hm := mem_filesAt_of_holds hof habs hnow hpass
      rw [hof.filesAt_of_listing hl] at hm
      exact delivered_or_covers ha hf hd hm
    | @finished w hm =>
      refine ⟨?_, nofun⟩
      intro _
      rcases hwalking w rfl with hdone | hc
      · exact delivered_subset hdone
      · have hmem := mem_remaining (mem_filesAt_of_holds (htrace.isOf w rfl) habs hnow hpass) hc
        rw [hm.remaining_eq] at hmem
        cases hmem
    | @next w g left f hd hf =>
      refine ⟨nofun, ?_⟩
      intro w' he
      cases he
      rcases hwalking w rfl with hdone | hc
      · left
        exact delivered_subset hdone
      · have hmem := mem_remaining (mem_filesAt_of_holds (htrace.isOf w rfl) habs hnow hpass) hc
        exact delivered_or_covers ha hf hd hmem

end Complete

section Listed

def Asked.Lists (s : SourceSet) (host : Host) (a : Asked) (dir : List Name) : Prop :=
  match a.cursor.state with
  | .ended => False
  | .walking w => ∃ l, w.Lists s a.tree w.pending dir l
  | .fresh => ∃ w l, s.started { host with tree := a.tree } = .ok w ∧
      a.tree.listing? w.root = some l ∧
        (dir = [] ∨ ∃ l', w.Lists s a.tree (opened s [] l) dir l')

structure Asked.ListsFile (s : SourceSet) (host : Host) (root : Path) (a : Asked)
    (dir : List Name) (n : Name) : Prop where
  lists : a.Lists s host dir
  file : ∃ l, a.tree.listing? (root.below dir) = some l ∧ n ∈ l.files

structure Accounted (s : SourceSet) (host : Host) (root : Path) (log : List Asked)
    (work : List Pending) : Prop where
  listed : ∀ dir ns n, .files dir ns ∈ work → n ∈ ns → ∃ b ∈ log, b.ListsFile s host root dir n
  left : ∀ b ∈ log, ∀ dir, b.Lists s host dir → ¬ Leads work dir

theorem Sourced.listsFile {w : Walk} {dir : List Name} {n : Name} (hst : a.cursor.state = .walking w)
    (hroot : w.root = root) (hacc : Accounted s host root log w.pending)
    (h : w.Sourced s a.tree w.pending dir n) :
    ∃ b ∈ log ++ [a], b.ListsFile s host root dir n := by
  rcases h with ⟨ns, hp, hn⟩ | ⟨l, hl, hn⟩
  · obtain ⟨b, hb, hlists⟩ := hacc.listed dir ns n hp hn
    exact ⟨b, List.mem_append_left _ hb, hlists⟩
  · refine ⟨a, by simp, ?_, l, hroot ▸ hl.listing, hn⟩
    rw [Asked.Lists, hst]
    exact ⟨l, hl⟩

theorem Sourced.listsFile_first {w : Walk} {dir : List Name} {n : Name} {l : Listing}
    (hst : a.cursor.state = .fresh) (hw : s.started { host with tree := a.tree } = .ok w)
    (hroot : w.root = root) (hl : a.tree.listing? root = some l)
    (h : w.Sourced s a.tree (opened s [] l) dir n) : a.ListsFile s host root dir n := by
  have hl' : a.tree.listing? w.root = some l := hroot ▸ hl
  rcases h with ⟨ns, hp, hn⟩ | ⟨l', hlists, hn⟩
  · obtain ⟨rfl, rfl⟩ : dir = [] ∧ ns = l.files := by simpa [opened] using hp
    refine ⟨?_, l, by rwa [Path.below_nil], hn⟩
    rw [Asked.Lists, hst]
    exact ⟨w, l, hw, hl', .inl rfl⟩
  · refine ⟨?_, l', hroot ▸ hlists.listing, hn⟩
    rw [Asked.Lists, hst]
    exact ⟨w, l, hw, hl', .inr ⟨l', hlists⟩⟩

theorem Trace.accounted (h : Trace s host root log st) :
    ∀ w, st = .walking w → Accounted s host root log w.pending := by
  induction h with
  | fresh => exact nofun
  | @step log a st st' answer htrace hst ha hs ih =>
    intro w' he
    cases hs with
    | @first w l g left f hw hof hl hd hf =>
      cases he
      have hnil := htrace.eq_nil_of_fresh rfl
      subst hnil
      constructor
      · intro dir ns n hp hn
        exact ⟨a, by simp, Sourced.listsFile_first hst hw hof.root hl (hd.sourced_left hp hn)⟩
      · intro b hb dir hlists hleads
        obtain rfl : b = a := by simpa using hb
        rw [Asked.Lists, hst] at hlists
        obtain ⟨w₂, l₂, hw₂, hl₂, hlists⟩ := hlists
        obtain rfl : w = w₂ := Except.ok.inj (hw.symm.trans hw₂)
        rw [hof.root] at hl₂
        obtain rfl : l = l₂ := Option.some.inj (hl.symm.trans hl₂)
        rcases hlists with rfl | ⟨l', hlists⟩
        · obtain ⟨ms, hms, he⟩ := leads_opened (hd.leads_left hleads)
          exact hms (by simpa using he.symm)
        · exact hlists.not_leads (opened_ordered hl) hd hleads
    | @next w g left f hd hf =>
      cases he
      have hacc := ih w rfl
      obtain ⟨_, -, -, hord⟩ := htrace.ordered
      constructor
      · intro dir ns n hp hn
        exact Sourced.listsFile hst (htrace.isOf w rfl).root hacc (hd.sourced_left hp hn)
      · intro b hb dir hlists hleads
        rcases List.mem_append.1 hb with hb | hb
        · exact hacc.left b hb dir hlists (hd.leads_left hleads)
        · obtain rfl := List.mem_singleton.1 hb
          rw [Asked.Lists, hst] at hlists
          obtain ⟨l, hlists⟩ := hlists
          exact hlists.not_leads (hord w rfl).1 hd hleads
    | _ => cases he

theorem Trace.listed (h : Trace s host root (log ++ [a]) st) {f : SourceFile}
    (ha : a.answer = .ok (some f)) : ∃ b ∈ log ++ [a], ∃ dir n,
      f.path = root.below (dir ++ [n]) ∧ b.ListsFile s host root dir n := by
  obtain ⟨htrace, hs⟩ := h.last
  rw [ha] at hs
  generalize hst : a.cursor.state = st₀ at htrace hs
  cases hs with
  | @first w l g left f hw hof hl hd hf =>
    obtain ⟨dir, n, rfl, hsource⟩ := hd.sourced
    have hlists := Sourced.listsFile_first hst hw hof.root hl hsource
    exact ⟨a, by simp, dir, n, SourceFile.path_of_ofPath hf, hlists⟩
  | @next w g left f hd hf =>
    obtain ⟨dir, n, rfl, hsource⟩ := hd.sourced
    have hroot := (htrace.isOf w rfl).root
    obtain ⟨b, hb, hlists⟩ := Sourced.listsFile hst hroot (htrace.accounted w rfl) hsource
    exact ⟨b, hb, dir, n, SourceFile.path_of_ofPath hf, hlists⟩

theorem Trace.listed_once (h : Trace s host root log st) :
    log.Pairwise fun b a => ∀ dir, b.Lists s host dir → ¬ a.Lists s host dir := by
  induction h with
  | fresh => exact .nil
  | @step log a st st' answer htrace hst ha hs ih =>
    refine List.pairwise_append.2 ⟨ih, List.pairwise_singleton .., ?_⟩
    intro b hb a' ha' dir hlb hla
    obtain rfl := List.mem_singleton.1 ha'
    rw [Asked.Lists, hst] at hla
    cases st with
    | ended => exact hla
    | fresh =>
      rw [htrace.eq_nil_of_fresh rfl] at hb
      cases hb
    | walking w =>
      obtain ⟨l, hl⟩ := hla
      exact (htrace.accounted w rfl).left b hb dir hlb hl.leads

end Listed

end ComponentBuild.Cursor
