import ComponentBuild.Proofs.SourceSet.Remaining
import ComponentBuild.Proofs.SourceSet.Session

namespace ComponentBuild

structure Walk.IsOf (w : Walk) (s : SourceSet) (root : Path) : Prop where
  root : w.root = root
  includes : SourceSet.patterns s.includes = .ok w.includes
  excludes : SourceSet.patterns s.excludes = .ok w.excludes

namespace Walk

variable {w : Walk} {s : SourceSet} {t : Tree} {root : Path} {work left : List Pending}
  {g : List Name}

theorem Delivers.wanted (h : w.Delivers s t work g left) : w.wanted s g = true := by
  obtain ⟨-, hw⟩ := h
  exact hw

theorem isSource_of_wanted (h : w.wanted s g = true) : SourceSet.isSource g = true := by
  rw [Walk.wanted, Bool.and_eq_true] at h
  exact h.2

theorem filesAt_nil (hroot : w.root = root) :
    w.filesAt s t [] = s.found t root w.includes w.excludes := by
  rw [SourceSet.found, SourceSet.namesBelow, Tree.filter_filesBelow, filesAt, hroot]
  rfl

theorem IsOf.filesAt_of_listing {l : Listing} (h : w.IsOf s root) (hl : t.listing? root = some l) :
    w.filesAt s t [] = w.remaining s t (opened s [] l) := by
  apply Walk.filesAt_of_listing
  rw [Path.below_nil, h.root, hl]

theorem covers_of_mem_remaining (h : g ∈ w.remaining s t work) : Covers work g := by
  obtain ⟨p, hp, hg⟩ := List.mem_flatMap.1 h
  -- `remainingIn` follows the two kinds of work, and so does what they cover.
  refine ⟨p, hp, ?_⟩
  cases p with
  | files dir ns =>
    obtain ⟨n, hn, rfl⟩ := List.mem_map.1 (List.mem_filter.1 hg).1
    exact ⟨n, hn, rfl⟩
  | directories dir ds =>
    obtain ⟨d, hd, hg⟩ := List.mem_flatMap.1 hg
    split at hg
    · simp at hg
    · obtain ⟨ms, hms, rfl, -⟩ := Tree.below_of_mem_filesBelow hg
      exact ⟨d, hd, ms, hms, by simp⟩

end Walk

namespace SourceSet

variable {s : SourceSet} {host : Host} {root : Path}

theorem root_eq_of_tree {t t' : Tree} {root' : Path} (h : s.root { host with tree := t } = .ok root)
    (h' : s.root { host with tree := t' } = .ok root') : root = root' := by
  obtain ⟨d, hd, hr, -⟩ := root_eq_ok h
  obtain ⟨d', hd', hr', -⟩ := root_eq_ok h'
  obtain rfl : d = d' := Option.some.inj (hd.symm.trans hd')
  exact Except.ok.inj (hr.symm.trans hr')

theorem started_cases (s : SourceSet) (host : Host) :
    (∃ fault, s.started host = .error fault ∧ s.collect host = .error fault) ∨
      ∃ w root, s.started host = .ok w ∧ s.root host = .ok root ∧ w.IsOf s root ∧
        s.collect host = (w.filesAt s host.tree []).mapM fun ns =>
          SourceFile.ofPath root (root.below ns) := by
  rw [started, collect, located]
  cases hr : s.root host with
  | error fault => exact .inl ⟨_, rfl, rfl⟩
  | ok root =>
    cases hi : patterns s.includes with
    | error fault => exact .inl ⟨_, rfl, rfl⟩
    | ok includes =>
      cases he : patterns s.excludes with
      | error fault => exact .inl ⟨_, rfl, rfl⟩
      | ok excludes =>
        refine .inr ⟨⟨root, includes, excludes, []⟩, root, rfl, rfl, ⟨rfl, hi, he⟩, ?_⟩
        rw [Walk.filesAt_nil rfl]
        rfl

theorem started_isOf {w : Walk} (h : s.started host = .ok w) :
    ∃ root, s.root host = .ok root ∧ w.IsOf s root := by
  rcases s.started_cases host with ⟨fault, hf, -⟩ | ⟨w', root, hw, hr, hof, -⟩
  · rw [h] at hf
    cases hf
  · obtain rfl : w = w' := Except.ok.inj (h.symm.trans hw)
    exact ⟨root, hr, hof⟩

theorem collect_of_started {w : Walk} (h : s.started host = .ok w) (hr : s.root host = .ok root) :
    s.collect host = (w.filesAt s host.tree []).mapM fun ns =>
      SourceFile.ofPath root (root.below ns) := by
  rcases s.started_cases host with ⟨fault, hf, -⟩ | ⟨w', root', hw, hr', -, hc⟩
  · rw [h] at hf
    cases hf
  · obtain rfl : w = w' := Except.ok.inj (h.symm.trans hw)
    obtain rfl : root = root' := Except.ok.inj (hr.symm.trans hr')
    exact hc

theorem collect_of_unstarted {fault : CollectFault} (h : s.started host = .error fault) :
    s.collect host = .error fault := by
  rcases s.started_cases host with ⟨fault', hf, hc⟩ | ⟨w, root, hw, -⟩
  · rw [h] at hf
    rw [hc, Except.error.inj hf]
  · rw [h] at hw
    cases hw

theorem ofPath_below (h : root.isAbsolute = true) {ns : List Name} (hs : isSource ns = true) :
    ∃ f, SourceFile.ofPath root (root.below ns) = .ok f ∧ f.path = root.below ns := by
  obtain ⟨name, hname⟩ := ClassName.derive_below h hs
  exact ⟨⟨root.below ns, name⟩, by rw [SourceFile.ofPath, hname], rfl⟩

end SourceSet

theorem SourceFile.path_of_ofPath {root path : Path} {f : SourceFile}
    (h : ofPath root path = .ok f) : f.path = path := by
  unfold ofPath at h
  split at h
  · rw [← Except.ok.inj h]
  · cases h

namespace Cursor

open Walk

inductive Step (s : SourceSet) (host : Host) (root : Path) (t : Tree) :
    CursorState → CursorState → Except CollectFault (Option SourceFile) → Prop
  | ended : Step s host root t .ended .ended (.ok none)
  | failed {fault} : s.started { host with tree := t } = .error fault →
      Step s host root t .fresh .ended (.error fault)
  | empty {w} : s.started { host with tree := t } = .ok w → w.IsOf s root →
      w.filesAt s t [] = [] → Step s host root t .fresh .ended (.ok none)
  | first {w l g left f} : s.started { host with tree := t } = .ok w → w.IsOf s root →
      t.listing? root = some l → w.Delivers s t (opened s [] l) g left →
      SourceFile.ofPath root (root.below g) = .ok f →
      Step s host root t .fresh (.walking { w with pending := left }) (.ok (some f))
  | finished {w} : w.Moves s t w.pending [] → Step s host root t (.walking w) .ended (.ok none)
  | next {w g left f} : w.Delivers s t w.pending g left →
      SourceFile.ofPath root (root.below g) = .ok f →
      Step s host root t (.walking w) (.walking { w with pending := left }) (.ok (some f))

variable {s : SourceSet} {host : Host} {root : Path} {t₀ t : Tree}

theorem deliver_some {c : Cursor} {w : Walk} (left : List Pending) (habs : root.isAbsolute = true)
    (hname : c.namingRoot = root) (hw : w.root = root) {g : List Name}
    (hg : w.wanted s g = true) : ∃ f, SourceFile.ofPath root (root.below g) = .ok f ∧
      c.deliver w (some (g, left)) =
        (⟨root, .walking { w with pending := left }⟩, .ok (some f)) := by
  obtain ⟨f, hf, -⟩ := SourceSet.ofPath_below habs (isSource_of_wanted hg)
  have hdeliver : c.deliver w (some (g, left)) =
      (⟨root, .walking { w with pending := left }⟩, .ok (some f)) := by
    rw [deliver, hname, hw, hf]
  exact ⟨f, hf, hdeliver⟩

theorem next_step_fresh {c : Cursor} (h : s.root { host with tree := t₀ } = .ok root)
    (hname : c.namingRoot = root) (hstate : c.state = .fresh) :
    Step s host root t .fresh (c.next s { host with tree := t }).1.state
        (c.next s { host with tree := t }).2 ∧
      (c.next s { host with tree := t }).1.namingRoot = root := by
  simp only [next, hstate]
  cases hstart : s.started { host with tree := t } with
  | error fault => exact ⟨.failed hstart, hname⟩
  | ok w =>
    obtain ⟨root', hr, hof⟩ := SourceSet.started_isOf hstart
    obtain rfl := SourceSet.root_eq_of_tree h hr
    have henter : w.Enters s t (w.enter s t (t.height + 1)) [] := by
      apply enter_enters
      exact t.within_height _
    rw [Enters, Path.below_nil, hof.root] at henter
    dsimp only
    cases hl : t.listing? root with
    | none =>
      rw [hl] at henter
      have hempty : w.filesAt s t [] = [] := by
        apply Tree.filesBelow_of_listing_none
        rw [Path.below_nil, hof.root, hl]
      simp only [henter]
      exact ⟨.empty hstart hof hempty, hname⟩
    | some l =>
      rw [hl] at henter
      have ha := henter []
      rw [List.append_nil] at ha
      have hall := hof.filesAt_of_listing hl
      cases he : w.enter s t (t.height + 1) [] with
      | none =>
        rw [he] at ha
        have hempty : w.filesAt s t [] = [] := by
          rw [hall, Moves.remaining_eq ha]
          rfl
        exact ⟨.empty hstart hof hempty, hname⟩
      | some found =>
        obtain ⟨g, left⟩ := found
        rw [he, Answers, List.append_nil] at ha
        obtain ⟨f, hf, hdeliver⟩ := deliver_some left
          (SourceSet.root_isAbsolute h) hname hof.root ha.wanted
        rw [hdeliver]
        exact ⟨.first hstart hof hl ha hf, rfl⟩

theorem next_step {c : Cursor} (h : s.root { host with tree := t₀ } = .ok root)
    (hname : c.namingRoot = root) (hw : ∀ w, c.state = .walking w → w.IsOf s root) :
    Step s host root t c.state (c.next s { host with tree := t }).1.state
        (c.next s { host with tree := t }).2 ∧
      (c.next s { host with tree := t }).1.namingRoot = root := by
  cases hstate : c.state with
  | fresh => exact next_step_fresh h hname hstate
  | ended =>
    simp only [next, hstate]
    exact ⟨.ended, hname⟩
  | walking w =>
    have hof := hw w hstate
    simp only [next, hstate]
    cases hfound : w.resume s t w.pending with
    | none => exact ⟨.finished (resume_eq_none hfound), hname⟩
    | some found =>
      obtain ⟨g, left⟩ := found
      have hd := resume_eq_some hfound
      obtain ⟨f, hf, hdeliver⟩ := deliver_some left
        (SourceSet.root_isAbsolute h) hname hof.root hd.wanted
      rw [hdeliver]
      exact ⟨.next hd hf, rfl⟩

inductive Trace (s : SourceSet) (host : Host) (root : Path) : List Asked → CursorState → Prop
  | fresh : Trace s host root [] .fresh
  | step {log a st st' answer} : Trace s host root log st → a.cursor.state = st →
      a.answer = answer → Step s host root a.tree st st' answer → Trace s host root (log ++ [a]) st'

theorem Trace.last {log : List Asked} {a : Asked} {st : CursorState}
    (h : Trace s host root (log ++ [a]) st) :
    Trace s host root log a.cursor.state ∧
      Step s host root a.tree a.cursor.state st a.answer := by
  generalize hlog : log ++ [a] = log' at h
  cases h with
  | fresh => simp at hlog
  | @step log₀ a₀ st₀ st answer htrace hst ha hs =>
    obtain ⟨rfl, he⟩ := List.append_inj' hlog rfl
    obtain rfl : a = a₀ := by simpa using he
    rw [hst, ha]
    exact ⟨htrace, hs⟩

theorem Step.isOf {st st' : CursorState} {answer : Except CollectFault (Option SourceFile)}
    (h : Step s host root t st st' answer) (hw : ∀ w, st = .walking w → w.IsOf s root) :
    ∀ w, st' = .walking w → w.IsOf s root := by
  intro w' he
  cases h with
  | ended => cases he
  | failed => cases he
  | empty => cases he
  | @first w l g left f hs hof =>
    cases he
    exact ⟨hof.root, hof.includes, hof.excludes⟩
  | finished => cases he
  | @next w g left f hd hf =>
    cases he
    have hof := hw w rfl
    exact ⟨hof.root, hof.includes, hof.excludes⟩

theorem Trace.isOf {log : List Asked} {st : CursorState} (h : Trace s host root log st) :
    ∀ w, st = .walking w → w.IsOf s root := by
  induction h with
  | fresh =>
    intro w he
    cases he
  | step _ _ _ hs ih => exact hs.isOf ih

theorem History.trace {log : List Asked} {c : Cursor} (h : History s host root log c)
    (hroot : s.root { host with tree := t₀ } = .ok root) :
    Trace s host root log c.state ∧ c.namingRoot = root := by
  induction h with
  | made => exact ⟨.fresh, rfl⟩
  | asked _ hanswer ih =>
    obtain ⟨htrace, hname⟩ := ih
    obtain ⟨hs, hname'⟩ := next_step (t := _) hroot hname htrace.isOf
    exact ⟨.step htrace rfl hanswer hs, hname'⟩

end Cursor

end ComponentBuild
