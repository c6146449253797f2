import ComponentBuild.Proofs.SourceSet.Lazy

namespace ComponentBuild.Cursor

open Walk

variable {s : SourceSet} {host : Host} {root : Path} {t₀ t : Tree} {log : List Asked} {a : Asked}
  {st st' : CursorState}

section Steady

def answerAt (collected : Except CollectFault (List SourceFile)) (k : Nat) :
    Except CollectFault (Option SourceFile) :=
  match collected with
  | .ok files => .ok files[k]?
  | .error fault => if k = 0 then .error fault else .ok none

def StandsAt (s : SourceSet) (root : Path) (t : Tree)
    (collected : Except CollectFault (List SourceFile)) (k : Nat) : CursorState → Prop
  | .fresh => k = 0
  | .walking w => ∃ files, collected = .ok files ∧
      ((w.remaining s t w.pending).mapM fun ns => SourceFile.ofPath root (root.below ns)) =
        .ok (files.drop k)
  | .ended => 0 < k ∧ ∀ files, collected = .ok files → files.length < k

theorem standsAt_delivers {w : Walk} {work left : List Pending} {g : List Name} {f : SourceFile}
    {files : List SourceFile} {k : Nat} (hd : w.Delivers s t work g left)
    (hf : SourceFile.ofPath root (root.below g) = .ok f)
    (h : ((w.remaining s t work).mapM fun ns => SourceFile.ofPath root (root.below ns)) =
      .ok (files.drop k)) :
    files[k]? = some f ∧ StandsAt s root t (.ok files) (k + 1)
      (.walking { w with pending := left }) := by
  rw [hd.remaining_eq] at h
  obtain ⟨f', rest, hf', hrest, he⟩ := mapM_cons_eq_ok h
  obtain rfl : f = f' := Except.ok.inj (hf.symm.trans hf')
  have hk : files[k]? = some f := by
    rw [← List.head?_drop, he]
    rfl
  refine ⟨hk, files, rfl, ?_⟩
  rw [← List.tail_drop, he]
  exact hrest

theorem Step.standsAt {answer : Except CollectFault (Option SourceFile)}
    (h : Step s host root t st st' answer) (hroot : s.root { host with tree := t₀ } = .ok root)
    {k : Nat} (hst : StandsAt s root t (s.collect { host with tree := t }) k st) :
    answer = answerAt (s.collect { host with tree := t }) k ∧
      StandsAt s root t (s.collect { host with tree := t }) (k + 1) st' := by
  have hcollect {w : Walk} (hw : s.started { host with tree := t } = .ok w) :
      s.collect { host with tree := t } =
        (w.filesAt s t []).mapM fun ns => SourceFile.ofPath root (root.below ns) := by
    obtain ⟨root', hr, -⟩ := SourceSet.started_isOf hw
    obtain rfl := SourceSet.root_eq_of_tree hroot hr
    exact SourceSet.collect_of_started hw hr
  cases h with
  | ended =>
    obtain ⟨hk, hfiles⟩ := hst
    refine ⟨?_, by omega, ?_⟩
    · cases hc : s.collect { host with tree := t } with
      | error fault => rw [answerAt, if_neg (by omega)]
      | ok files => rw [answerAt, List.getElem?_eq_none (Nat.le_of_lt (hfiles files hc))]
    · intro files hc
      have hlt := hfiles files hc
      omega
  | @failed fault hf =>
    obtain rfl : k = 0 := hst
    rw [SourceSet.collect_of_unstarted hf]
    exact ⟨rfl, by omega, nofun⟩
  | @empty w hw hof hempty =>
    obtain rfl : k = 0 := hst
    rw [hcollect hw, hempty]
    refine ⟨rfl, by omega, ?_⟩
    intro files hc
    obtain rfl : [] = files := Except.ok.inj hc
    simp
  | @first w l g left f hw hof hl hd hf =>
    obtain rfl : k = 0 := hst
    have hall := hof.filesAt_of_listing hl
    have hsource : ∀ ns ∈ w.filesAt s t [], SourceSet.isSource ns = true := by
      intro ns hns
      apply isSource_of_wanted
      exact Tree.selects_of_mem_filesBelow hns
    obtain ⟨files, hm, -⟩ := SourceSet.mapM_ofPath (SourceSet.root_isAbsolute hroot) hsource
    rw [hcollect hw, hm]
    rw [hall] at hm
    obtain ⟨hk, hnext⟩ := standsAt_delivers (k := 0) hd hf hm
    exact ⟨by rw [answerAt, hk], hnext⟩
  | @finished w hm =>
    obtain ⟨files, hc, hdrop⟩ := hst
    rw [hm.remaining_eq] at hdrop
    have hlen : files.length ≤ k := List.drop_eq_nil_iff.1 (Except.ok.inj hdrop).symm
    rw [hc]
    refine ⟨?_, by omega, ?_⟩
    · rw [answerAt, List.getElem?_eq_none hlen]
    · intro files' he
      obtain rfl := Except.ok.inj he
      omega
  | @next w g left f hd hf =>
    obtain ⟨files, hc, hdrop⟩ := hst
    obtain ⟨hk, hnext⟩ := standsAt_delivers hd hf hdrop
    rw [hc]
    exact ⟨by rw [answerAt, hk], hnext⟩

theorem Trace.steady (h : Trace s host root log st)
    (hroot : s.root { host with tree := t₀ } = .ok root) (ht : ∀ a ∈ log, a.tree = t) :
    (∀ k a, log[k]? = some a → a.answer = answerAt (s.collect { host with tree := t }) k) ∧
      StandsAt s root t (s.collect { host with tree := t }) log.length st := by
  induction h with
  | fresh => exact ⟨by simp, rfl⟩
  | @step log a st st' answer htrace hst ha hs ih =>
    have hearlier : ∀ b ∈ log, b.tree = t := by
      intro b hb
      exact ht b (List.mem_append_left _ hb)
    obtain ⟨hanswers, hstands⟩ := ih hearlier
    rw [ht a (by simp)] at hs
    obtain ⟨hanswer, hnext⟩ := hs.standsAt hroot hstands
    refine ⟨?_, by simpa using hnext⟩
    intro k b hb
    rcases Nat.lt_or_ge k log.length with hlt | hge
    · rw [List.getElem?_append_left hlt] at hb
      exact hanswers k b hb
    · rw [List.getElem?_append_right hge] at hb
      obtain ⟨hlt, he⟩ := List.getElem?_eq_some_iff.1 hb
      rw [List.length_singleton] at hlt
      obtain rfl : k = log.length := by omega
      obtain rfl : a = b := by simpa using he
      rw [ha, hanswer]

end Steady

section Prefix

theorem Trace.of_prefix (h : Trace s host root log st) {log' : List Asked} (hl : log' <+: log) :
    ∃ st', Trace s host root log' st' := by
  induction h with
  | fresh =>
    rw [List.prefix_nil.1 hl]
    exact ⟨_, .fresh⟩
  | @step log a st st' answer htrace hst ha hs ih =>
    rcases List.prefix_concat_iff.1 hl with rfl | hl
    · exact ⟨_, .step htrace hst ha hs⟩
    · exact ih hl

theorem Trace.ended_of_none (h : Trace s host root (log ++ [a]) st) (ha : a.answer = .ok none) :
    st = .ended ∧ delivered (log ++ [a]) = delivered log := by
  obtain ⟨-, hs⟩ := h.last
  rw [ha] at hs
  have hended : st = .ended := by
    generalize a.cursor.state = st₀ at hs
    cases hs with
    | ended => rfl
    | empty => rfl
    | finished => rfl
  exact ⟨hended, delivered_concat_none (by simp [ha])⟩

end Prefix

/-- What can be relied on in the questions to one cursor, whatever the tree was each time. -/
structure Reliable (s : SourceSet) (host : Host) (root : Path) (log : List Asked) : Prop where
  /-- The root is that of the set. -/
  rooted : ∃ t, s.root { host with tree := t } = .ok root
  /-- No file is delivered twice. -/
  once : (delivered log).Nodup
  /-- A file that is in the set from the first question to the end is delivered. -/
  complete : ∀ before a after dirs n, log = before ++ a :: after → a.answer = .ok none →
    .nothing ∉ s.includes ++ s.excludes → root.Passable dirs →
    (∀ b ∈ before ++ [a], s.Holds b.tree root dirs n) →
    root.below (dirs ++ [n]) ∈ delivered before
  /-- What is delivered was no directory when its directory was listed. -/
  listed : ∀ before a after f, log = before ++ a :: after → a.answer = .ok (some f) →
    ∃ b ∈ before ++ [a], ∃ dir n loc, f.path = root.below (dir ++ [n]) ∧ b.Lists s host dir ∧
      b.tree.locate [] (root.below dir) = .ok loc ∧ b.tree.node? loc = some .directory ∧
      n ∈ b.tree.names loc ∧ b.tree.leadsToDirectory (root.below dir) loc n = false
  /-- There is one moment only when a directory is listed. -/
  listedOnce : log.Pairwise fun b a => ∀ dir, b.Lists s host dir → ¬ a.Lists s host dir
  /-- If the tree stays as it is, the answers are the files that are collected, and no more. -/
  steady : ∀ t, (∀ a ∈ log, a.tree = t) → ∀ k a, log[k]? = some a →
    a.answer = answerAt (s.collect { host with tree := t }) k

theorem Trace.reliable (h : Trace s host root log st)
    (hroot : s.root { host with tree := t₀ } = .ok root) : Reliable s host root log where
  rooted := ⟨t₀, hroot⟩
  once := h.nodup
  complete before a after dirs n hlog ha hg hpass hh := by
    have hprefix : before ++ [a] <+: log := ⟨after, by simp [hlog]⟩
    obtain ⟨st', htrace⟩ := h.of_prefix hprefix
    obtain ⟨hended, hdelivered⟩ := htrace.ended_of_none ha
    rw [← hdelivered]
    exact (htrace.complete hroot hg hpass hh).1 hended
  listed before a after f hlog ha := by
    have hprefix : before ++ [a] <+: log := ⟨after, by simp [hlog]⟩
    obtain ⟨st', htrace⟩ := h.of_prefix hprefix
    obtain ⟨b, hb, dir, n, hpath, hlists, l, hl, hn⟩ := htrace.listed ha
    obtain ⟨loc, hp, hd, rfl⟩ := Tree.listing?_eq_some.1 hl
    obtain ⟨hn, hfile⟩ := List.mem_filter.1 hn
    exact ⟨b, hb, dir, n, loc, hpath, hlists, hp, hd, hn, by simpa using hfile⟩
  listedOnce := h.listed_once
  steady t ht := (h.steady hroot ht).1

/-- Every cursor of a session is reliable, however the others and the changes of the tree come in
between. -/
theorem Session.cursor_reliable (host : Host) (events : List Event) {i : Nat} {s : SourceSet}
    {c : Cursor} (h : (run host events).1.cursors[i]? = some (s, c)) :
    Reliable s host c.namingRoot (askedOf i (run host events).2) := by
  obtain ⟨t, root, hroot, hhistory⟩ := (run_told host events).history i s c h
  obtain ⟨htrace, rfl⟩ := hhistory.trace hroot
  exact htrace.reliable hroot

namespace Session

open SourceSet

def laterTree : Tree where
  entries := [([plainDirectory], .directory), ([plainDirectory, innerDirectory], .directory),
    ([plainDirectory, innerDirectory, plainFile], .file []),
    ([plainDirectory, innerDirectory, lateFile], .file [])]
  distinct := by decide

def earlierTree : Tree where
  entries := [([plainDirectory], .directory), ([plainDirectory, plainFile], .file []),
    ([plainDirectory, innerDirectory], .directory),
    ([plainDirectory, innerDirectory, lateFile], .file [])]
  distinct := by decide

def changingHost : Host := { plainHost with tree := earlierTree }

def changingEvents : List Event :=
  [.make plainSet, .make plainSet, .next 0, .change laterTree, .next 1, .next 0, .next 0, .next 1,
    .next 1, .next 0]

theorem cursor_reliable_plain : ∃ c c',
    (run changingHost changingEvents).1.cursors[0]? = some (plainSet, c) ∧
      (run changingHost changingEvents).1.cursors[1]? = some (plainSet, c') ∧
      Reliable plainSet changingHost c.namingRoot
        (askedOf 0 (run changingHost changingEvents).2) ∧
      Reliable plainSet changingHost c'.namingRoot
        (askedOf 1 (run changingHost changingEvents).2) ∧
      delivered (askedOf 0 (run changingHost changingEvents).2) =
        [plainRoot.below [plainFile], plainRoot.below [innerDirectory, plainFile],
          plainRoot.below [innerDirectory, lateFile]] ∧
      delivered (askedOf 1 (run changingHost changingEvents).2) =
        [plainRoot.below [innerDirectory, plainFile], plainRoot.below [innerDirectory, lateFile]] := by
  refine ⟨_, _, rfl, rfl, cursor_reliable changingHost changingEvents rfl,
    cursor_reliable changingHost changingEvents rfl, ?_, ?_⟩
  · decide +kernel
  · decide +kernel

theorem run_make_next {c : Cursor} (h : Cursor.make s host = .ok c) :
    (run host [.make s, .next 0]).2 = [⟨0, c, host.tree, (c.next s host).2⟩] := by
  simp [run, follow, step, h]

theorem next_deepSet : (Cursor.next ⟨deepRoot, .fresh⟩ deepSet deepHost).2 = .ok none := by
  have hhost : { deepHost with tree := deepHost.tree } = deepHost := rfl
  have hroot : deepSet.root { deepHost with tree := deepHost.tree } = .ok deepRoot := root_deepSet
  obtain ⟨hs, -⟩ := next_step_fresh (t := deepHost.tree) (c := ⟨deepRoot, .fresh⟩) hroot rfl rfl
  have hanswer := (hs.standsAt (k := 0) hroot rfl).1
  rw [hhost, collect_deepSet] at hanswer
  exact hanswer

/-- A cursor comes to its end at once, although a file was in the set all the time. -/
theorem cursor_misses_deep :
    let log := askedOf 0 (run deepHost [.make deepSet, .next 0]).2
    log.map Asked.answer = [.ok none] ∧ delivered log = [] ∧
      ∀ a ∈ log, deepSet.Holds a.tree deepRoot [deepDirectory] deepFile := by
  have hmake : Cursor.make deepSet deepHost = .ok ⟨deepRoot, .fresh⟩ := by
    rw [Cursor.make, root_deepSet]
    rfl
  have hrun : (run deepHost [.make deepSet, .next 0]).2 =
      [⟨0, ⟨deepRoot, .fresh⟩, deepTree, .ok none⟩] := by
    rw [run_make_next hmake, next_deepSet]
    rfl
  rw [hrun]
  refine ⟨rfl, rfl, ?_⟩
  intro a ha
  rw [List.mem_singleton.1 ha]
  exact deepSet_holds

end Session

end ComponentBuild.Cursor
