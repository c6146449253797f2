import ComponentBuild.Proofs.SourceSet.Identified
import ComponentBuild.Proofs.SourceSet.Iteration

/-!
Cursors over one set whose fields are assigned to meanwhile. A cursor finds its root twice: when it
is made, to name files against, and when it is first asked, to walk from. Its names are right as
long as both are the same root.
-/

namespace ComponentBuild

namespace ClassName

variable {file root root' : Path} {name : String}

theorem rootStart_eq_iff (h : root.isAbsolute = true) (h' : root'.isAbsolute = true) :
    rootStart root = rootStart root' ↔ root = root' ∨ root.segments = [] ∧ root'.segments = [] := by
  have hnames {p q : Path} (hp : p.isAbsolute = true) (hs : p.segments ≠ [])
      (hq : q.isAbsolute = true) (ht : q.segments = []) : rootStart p ≠ rootStart q := by
    rw [rootStart_of_ne_top hp hs, rootStart_of_top hq ht]
    intro he
    have hlength := congrArg List.length he
    simp [Path.text_ne_empty] at hlength
  by_cases hs : root.segments = []
  · by_cases hs' : root'.segments = []
    · simp [rootStart_of_top h hs, rootStart_of_top h' hs', hs, hs']
    · constructor
      · intro he
        exact absurd he.symm (hnames h' hs' h hs)
      · rintro (rfl | ⟨-, ht⟩)
        · exact absurd hs hs'
        · exact absurd ht hs'
  · by_cases hs' : root'.segments = []
    · constructor
      · intro he
        exact absurd he (hnames h hs h' hs')
      · rintro (rfl | ⟨ht, -⟩)
        · exact absurd hs' hs
        · exact absurd ht hs
    · rw [rootStart_of_ne_top h hs, rootStart_of_ne_top h' hs', String.toList_inj]
      constructor
      · intro he
        have htext : root.text = root'.text := by simpa using he
        exact .inl (Path.text_injective htext)
      · rintro (rfl | ⟨ht, -⟩)
        · rfl
        · exact absurd ht hs

theorem derive_eq_ok_of_rootStart (h : derive file root = .ok name)
    (hstart : rootStart root = rootStart root') : derive file root' = .ok name := by
  rw [derive_eq_ok] at h ⊢
  rw [← hstart]
  exact h

theorem derive_eq_ok_iff_rootStart (h : derive file root = .ok name) :
    derive file root' = .ok name ↔ rootStart root = rootStart root' := by
  constructor
  · intro h'
    obtain ⟨more, htext, -, hname⟩ := derive_eq_ok.1 h
    obtain ⟨more', htext', -, hname'⟩ := derive_eq_ok.1 h'
    have hmore : more.length = more'.length := by
      have hmap := congrArg List.length (hname.symm.trans hname')
      simpa using hmap
    exact (List.append_inj' (htext.symm.trans htext') hmore).1
  · exact derive_eq_ok_of_rootStart h

end ClassName

theorem Walk.wanted_of_enter {w : Walk} {s : SourceSet} {t : Tree} {names : List Name}
    {left : List Pending} (h : w.enter s t (t.height + 1) [] = some (names, left)) :
    w.wanted s names = true := by
  have henter : w.Enters s t (w.enter s t (t.height + 1)) [] := by
    apply enter_enters
    exact t.within_height _
  unfold Enters at henter
  split at henter
  · rw [h] at henter
    cases henter
  · have ha := henter []
    rw [h, Answers] at ha
    exact ha.wanted

theorem SourceSet.started_eq_error {s : SourceSet} {host : Host} {fault : CollectFault}
    (h : s.started host = .error fault) (named : ClassNameFault) : fault ≠ .className named := by
  rintro rfl
  have hpatterns (given : List Given) : patterns given ≠ .error (.className named) := by
    unfold patterns
    split
    · simp
    · simp
  unfold started at h
  split at h
  · cases h
  · cases hi : patterns s.includes with
    | error fault =>
      rw [hi] at h
      obtain rfl : fault = .className named := Except.error.inj h
      exact hpatterns s.includes hi
    | ok includes =>
      cases he : patterns s.excludes with
      | error fault =>
        rw [hi, he] at h
        obtain rfl : fault = .className named := Except.error.inj h
        exact hpatterns s.excludes he
      | ok excludes =>
        rw [hi, he] at h
        cases h

namespace Cursor

variable {c : Cursor} {s : SourceSet} {host : Host}

inductive Walks (c : Cursor) (s : SourceSet) (host : Host) (w : Walk) : Prop
  | started : c.state = .fresh → s.started host = .ok w → Walks c s host w
  | walking : c.state = .walking w → Walks c s host w

inductive Outcome (c : Cursor) (s : SourceSet) (host : Host) :
    Cursor × Except CollectFault (Option SourceFile) → Prop
  | nothing {answer} : (∀ f, answer ≠ .ok (some f)) →
      (∀ fault, answer ≠ .error (.className fault)) →
      Outcome c s host (⟨c.namingRoot, .ended⟩, answer)
  | named {w names left name} : c.Walks s host w → SourceSet.isSource names = true →
      ClassName.derive (w.root.below names) c.namingRoot = .ok name →
      Outcome c s host (⟨c.namingRoot, .walking { w with pending := left }⟩,
        .ok (some ⟨w.root.below names, name⟩))
  | unnamed {w names fault} : c.Walks s host w → SourceSet.isSource names = true →
      ClassName.derive (w.root.below names) c.namingRoot = .error fault →
      Outcome c s host (⟨c.namingRoot, .ended⟩, .error (.className fault))

theorem outcome_deliver {w : Walk} {found : Walk.Found} (h : c.Walks s host w)
    (hfound : ∀ names left, found = some (names, left) → w.wanted s names = true) :
    Outcome c s host (c.deliver w found) := by
  cases found with
  | none => exact .nothing (by simp) (by simp)
  | some p =>
    obtain ⟨names, left⟩ := p
    have hsource := Walk.isSource_of_wanted (hfound names left rfl)
    cases hd : ClassName.derive (w.root.below names) c.namingRoot with
    | ok name =>
      have hdeliver : c.deliver w (some (names, left)) =
          (⟨c.namingRoot, .walking { w with pending := left }⟩,
            .ok (some ⟨w.root.below names, name⟩)) := by
        rw [deliver, SourceFile.ofPath, hd]
      rw [hdeliver]
      exact .named h hsource hd
    | error fault =>
      have hdeliver : c.deliver w (some (names, left)) =
          (⟨c.namingRoot, .ended⟩, .error (.className fault)) := by
        rw [deliver, SourceFile.ofPath, hd]
      rw [hdeliver]
      exact .unnamed h hsource hd

theorem next_outcome (c : Cursor) (s : SourceSet) (host : Host) :
    Outcome c s host (c.next s host) := by
  obtain ⟨root, state⟩ := c
  cases state with
  | ended => exact .nothing (by simp) (by simp)
  | walking w =>
    apply outcome_deliver (.walking rfl)
    intro names left hr
    exact (Walk.resume_eq_some hr).wanted
  | fresh =>
    cases hw : s.started host with
    | error fault =>
      have hnext : (⟨root, .fresh⟩ : Cursor).next s host = (⟨root, .ended⟩, .error fault) := by
        simp only [next, hw]
      rw [hnext]
      apply Outcome.nothing
      · simp
      · intro named he
        exact SourceSet.started_eq_error hw named (Except.error.inj he)
    | ok w =>
      have hnext : (⟨root, .fresh⟩ : Cursor).next s host =
          (⟨root, .fresh⟩ : Cursor).deliver w (w.enter s host.tree (host.tree.height + 1) []) := by
        simp only [next, hw]
      rw [hnext]
      apply outcome_deliver (.started rfl hw)
      intro names left he
      exact Walk.wanted_of_enter he

end Cursor

inductive SourceSet.Assignment
  | directory (d : Option Path)
  | includes (given : List Given)
  | excludes (given : List Given)
  | defaultExcludes (on : Bool)

def SourceSet.assign (s : SourceSet) : Assignment → SourceSet
  | .directory d => { s with directory := d }
  | .includes given => { s with includes := given }
  | .excludes given => { s with excludes := given }
  | .defaultExcludes on => { s with defaultExcludes := on }

namespace Reassigned

open SourceSet (Assignment)

structure Scene where
  set : SourceSet
  tree : Tree

def Scene.on (m : Scene) (host : Host) : Host := { host with tree := m.tree }

def Scene.root (m : Scene) (host : Host) : Except RootFault Path := m.set.root (m.on host)

inductive Event
  | assign (a : Assignment)
  | change (t : Tree)
  | make
  | next (i : Nat)

structure Held where
  cursor : Cursor
  made : Scene
  first : Option Scene

structure Asked where
  made : Scene
  first : Scene
  cursor : Cursor
  answer : Except CollectFault (Option SourceFile)

def Held.ask (o : Held) (now : Scene) (host : Host) : Held × Asked :=
  let first := o.first.getD now
  let (c, answer) := o.cursor.next now.set (now.on host)
  (⟨c, o.made, some first⟩, ⟨o.made, first, c, answer⟩)

structure Session where
  now : Scene
  cursors : List Held

namespace Session

def step (host : Host) (x : Session) : Event → Session × List Asked
  | .assign a => ({ x with now := { x.now with set := x.now.set.assign a } }, [])
  | .change t => ({ x with now := { x.now with tree := t } }, [])
  | .make =>
    match Cursor.make x.now.set (x.now.on host) with
    | .ok c => ({ x with cursors := x.cursors ++ [⟨c, x.now, none⟩] }, [])
    | .error _ => (x, [])
  | .next i =>
    match x.cursors[i]? with
    | none => (x, [])
    | some o =>
      let (o', asked) := o.ask x.now host
      ({ x with cursors := x.cursors.set i o' }, [asked])

def follow (host : Host) (found : Session × List Asked) (e : Event) : Session × List Asked :=
  let (x, asked) := found.1.step host e
  (x, found.2 ++ asked)

def run (host : Host) (start : Scene) (events : List Event) : Session × List Asked :=
  events.foldl (follow host) (⟨start, []⟩, [])

end Session

structure Held.Sound (host : Host) (o : Held) : Prop where
  made : o.made.root host = .ok o.cursor.namingRoot
  fresh : o.cursor.state = .fresh → o.first = none
  walking : ∀ w, o.cursor.state = .walking w →
    ∃ m, o.first = some m ∧ m.root host = .ok w.root

inductive Asked.Told (host : Host) (a : Asked) : Prop
  | nothing : (∀ f, a.answer ≠ .ok (some f)) → (∀ fault, a.answer ≠ .error (.className fault)) →
      Told host a
  | named {w names name} : a.cursor.state = .walking w → a.first.root host = .ok w.root →
      SourceSet.isSource names = true →
      ClassName.derive (w.root.below names) a.cursor.namingRoot = .ok name →
      a.answer = .ok (some ⟨w.root.below names, name⟩) → Told host a
  | unnamed {root names fault} : a.first.root host = .ok root → SourceSet.isSource names = true →
      ClassName.derive (root.below names) a.cursor.namingRoot = .error fault →
      a.answer = .error (.className fault) → Told host a

structure Asked.Sound (host : Host) (a : Asked) : Prop where
  made : a.made.root host = .ok a.cursor.namingRoot
  told : a.Told host

section Steps

variable {host : Host} {o : Held} {now : Scene} {found : Session × List Asked}

theorem Held.Sound.walks (h : o.Sound host) {w : Walk}
    (hw : o.cursor.Walks now.set (now.on host) w) :
    (o.first.getD now).root host = .ok w.root := by
  cases hw with
  | started hfresh hstart =>
    obtain ⟨root, hroot, hof⟩ := SourceSet.started_isOf hstart
    rw [h.fresh hfresh, Option.getD_none, Scene.root, hroot, hof.root]
  | walking hwalk =>
    obtain ⟨m, hm, hroot⟩ := h.walking w hwalk
    rw [hm, Option.getD_some, hroot]

theorem Held.Sound.ask (h : o.Sound host) (now : Scene) :
    (o.ask now host).1.Sound host ∧ (o.ask now host).2.Sound host := by
  have hout := o.cursor.next_outcome now.set (now.on host)
  unfold Held.ask
  generalize o.cursor.next now.set (now.on host) = after at hout
  cases hout with
  | nothing hnone hfault =>
    refine ⟨⟨h.made, ?_, ?_⟩, h.made, .nothing hnone hfault⟩
    · intro hs
      cases hs
    · intro w hs
      cases hs
  | named hw hsource hname =>
    have hroot := h.walks hw
    refine ⟨⟨h.made, ?_, ?_⟩, h.made, .named rfl hroot hsource hname rfl⟩
    · intro hs
      cases hs
    · intro w hs
      cases hs
      exact ⟨_, rfl, hroot⟩
  | unnamed hw hsource hname =>
    refine ⟨⟨h.made, ?_, ?_⟩, h.made, .unnamed (h.walks hw) hsource hname rfl⟩
    · intro hs
      cases hs
    · intro w hs
      cases hs

structure Session.Sound (host : Host) (found : Session × List Asked) : Prop where
  held : ∀ o ∈ found.1.cursors, o.Sound host
  asked : ∀ a ∈ found.2, a.Sound host

namespace Session

theorem sound_make (h : Sound host found) : Sound host (follow host found .make) := by
  obtain ⟨x, log⟩ := found
  cases hr : x.now.set.root (x.now.on host) with
  | error fault =>
    have hmake : Cursor.make x.now.set (x.now.on host) = .error fault := by
      rw [Cursor.make, hr]
      rfl
    simpa [follow, step, hmake] using h
  | ok root =>
    have hmake : Cursor.make x.now.set (x.now.on host) = .ok ⟨root, .fresh⟩ := by
      rw [Cursor.make, hr]
      rfl
    have hf : follow host (x, log) .make =
        ({ x with cursors := x.cursors ++ [⟨⟨root, .fresh⟩, x.now, none⟩] }, log) := by
      simp [follow, step, hmake]
    rw [hf]
    refine ⟨?_, h.asked⟩
    intro o ho
    rcases List.mem_append.1 ho with ho | ho
    · exact h.held o ho
    · obtain rfl := List.mem_singleton.1 ho
      refine ⟨hr, fun _ => rfl, ?_⟩
      intro w hs
      cases hs

theorem sound_next (i : Nat) (h : Sound host found) : Sound host (follow host found (.next i)) := by
  obtain ⟨x, log⟩ := found
  cases hx : x.cursors[i]? with
  | none => simpa [follow, step, hx] using h
  | some o =>
    have hf : follow host (x, log) (.next i) =
        ({ x with cursors := x.cursors.set i (o.ask x.now host).1 },
          log ++ [(o.ask x.now host).2]) := by
      simp [follow, step, hx]
    obtain ⟨hheld, hasked⟩ := (h.held o (List.mem_of_getElem? hx)).ask x.now
    rw [hf]
    refine ⟨?_, ?_⟩
    · intro o' ho
      rcases List.mem_or_eq_of_mem_set ho with ho | rfl
      · exact h.held o' ho
      · exact hheld
    · intro a ha
      rcases List.mem_append.1 ha with ha | ha
      · exact h.asked a ha
      · obtain rfl := List.mem_singleton.1 ha
        exact hasked

theorem sound_run (host : Host) (start : Scene) (events : List Event) :
    Sound host (run host start events) := by
  -- No event but a question touches a cursor, and a question only its own.
  have hfold (es : List Event) (found : Session × List Asked) (h : Sound host found) :
      Sound host (es.foldl (follow host) found) := by
    induction es generalizing found with
    | nil => exact h
    | cons e es ih =>
      apply ih
      cases e with
      | assign a => exact ⟨h.held, by simpa [follow, step] using h.asked⟩
      | change t => exact ⟨h.held, by simpa [follow, step] using h.asked⟩
      | make => exact sound_make h
      | next i => exact sound_next i h
  exact hfold events _ ⟨by simp, by simp⟩

end Session

end Steps

namespace Asked

variable {host : Host} {a : Asked}

/-- A file that is delivered has its name against the root that is walked, and no file is found
that cannot be named. -/
structure Fair (a : Asked) : Prop where
  named : ∀ f, a.answer = .ok (some f) → ∃ w, a.cursor.state = .walking w ∧
    ClassName.derive f.path w.root = .ok f.className
  spared : ∀ fault, a.answer ≠ .error (.className fault)

def Finds (a : Asked) : Prop :=
  (∃ f, a.answer = .ok (some f)) ∨ ∃ fault, a.answer = .error (.className fault)

/-- The root was the same when the cursor was first asked as when it was made, or at the top both
times. -/
def KeepsRoot (host : Host) (a : Asked) : Prop :=
  ∃ root walked, a.made.root host = .ok root ∧ a.first.root host = .ok walked ∧
    (root = walked ∨ root.segments = [] ∧ walked.segments = [])

theorem Sound.keepsRoot_iff (h : a.Sound host) {walked : Path}
    (hw : a.first.root host = .ok walked) : a.KeepsRoot host ↔
      ClassName.rootStart a.cursor.namingRoot = ClassName.rootStart walked := by
  have hstart := ClassName.rootStart_eq_iff (SourceSet.root_isAbsolute h.made)
    (SourceSet.root_isAbsolute hw)
  constructor
  · rintro ⟨root, walked', hr, hw', hsame⟩
    obtain rfl := Except.ok.inj (h.made.symm.trans hr)
    obtain rfl := Except.ok.inj (hw.symm.trans hw')
    exact hstart.2 hsame
  · intro he
    exact ⟨_, _, h.made, hw, hstart.1 he⟩

theorem Sound.fair_iff (h : a.Sound host) : a.Fair ↔ (a.Finds → a.KeepsRoot host) := by
  cases h.told with
  | nothing hnone hfault =>
    constructor
    · rintro - (⟨f, hf⟩ | ⟨fault, hf⟩)
      · exact absurd hf (hnone f)
      · exact absurd hf (hfault fault)
    · intro _
      exact ⟨fun f hf => absurd hf (hnone f), hfault⟩
  | @named w names name hs hw hsource hname ha =>
    rw [h.keepsRoot_iff hw, ← ClassName.derive_eq_ok_iff_rootStart hname]
    constructor
    · rintro hfair -
      obtain ⟨w', hs', hn⟩ := hfair.named _ ha
      obtain rfl : w = w' := by simpa using hs.symm.trans hs'
      exact hn
    · intro hkeeps
      refine ⟨?_, by simp [ha]⟩
      intro f hf
      obtain rfl : ⟨w.root.below names, name⟩ = f := by simpa using ha.symm.trans hf
      exact ⟨w, hs, hkeeps (.inl ⟨_, ha⟩)⟩
  | @unnamed walked names fault hw hsource hname ha =>
    rw [h.keepsRoot_iff hw]
    constructor
    · intro hfair
      exact absurd ha (hfair.spared fault)
    · intro hkeeps
      -- The name below the walked root exists, so the same start cannot have failed to give it.
      have hstart := hkeeps (.inr ⟨fault, ha⟩)
      obtain ⟨name, hown⟩ := ClassName.derive_below (SourceSet.root_isAbsolute hw) hsource
      rw [ClassName.derive_eq_ok_of_rootStart hown hstart.symm] at hname
      cases hname

theorem Sound.keepsRoot_of_directory (h : a.Sound host)
    (hd : a.made.set.directory = a.first.set.directory) (hf : a.Finds) : a.KeepsRoot host := by
  have hkeeps {walked : Path} (hw : a.first.root host = .ok walked) : a.KeepsRoot host := by
    obtain ⟨d, hd₀, hr, -⟩ := SourceSet.root_eq_ok h.made
    obtain ⟨d', hd₁, hr', -⟩ := SourceSet.root_eq_ok hw
    obtain rfl : d = d' := Option.some.inj (hd₀.symm.trans (hd.trans hd₁))
    obtain rfl : a.cursor.namingRoot = walked := Except.ok.inj (hr.symm.trans hr')
    exact ⟨_, _, h.made, hw, .inl rfl⟩
  cases h.told with
  | nothing hnone hfault =>
    rcases hf with ⟨f, hf⟩ | ⟨fault, hf⟩
    · exact absurd hf (hnone f)
    · exact absurd hf (hfault fault)
  | named _ hw => exact hkeeps hw
  | unnamed hw => exact hkeeps hw

theorem Sound.delivered (h : a.Sound host) {f : SourceFile} (hf : a.answer = .ok (some f)) :
    ∃ w, a.cursor.state = .walking w ∧ a.first.root host = .ok w.root ∧ f.path.Extends w.root ∧
      ClassName.derive f.path a.cursor.namingRoot = .ok f.className := by
  cases h.told with
  | nothing hnone => exact absurd hf (hnone f)
  | @named w names name hs hw hsource hname ha =>
    obtain rfl : ⟨w.root.below names, name⟩ = f := by simpa using ha.symm.trans hf
    refine ⟨w, hs, hw, ⟨_, ?_, rfl⟩, hname⟩
    rintro hnil
    obtain rfl : names = [] := by simpa using hnil
    cases hsource
  | unnamed _ _ _ ha =>
    rw [ha] at hf
    cases hf

end Asked

/-- Whatever is assigned, made and asked: a delivered file is below the root at the first question
and named against the root when the cursor was made. An answer has the right name and no failed
naming exactly if these are the same root or both at the top, or no file was found. -/
theorem fair_iff_keepsRoot (host : Host) (start : Scene) (events : List Event) {a : Asked}
    (h : a ∈ (Session.run host start events).2) :
    a.made.root host = .ok a.cursor.namingRoot ∧
      (∀ f, a.answer = .ok (some f) → ∃ w, a.cursor.state = .walking w ∧
        a.first.root host = .ok w.root ∧ f.path.Extends w.root ∧
        ClassName.derive f.path a.cursor.namingRoot = .ok f.className) ∧
      (a.Fair ↔ (a.Finds → a.KeepsRoot host)) ∧
      (a.made.set.directory = a.first.set.directory → a.Fair) := by
  have hsound := (Session.sound_run host start events).asked a h
  refine ⟨hsound.made, ?_, hsound.fair_iff, ?_⟩
  · intro f hf
    exact hsound.delivered hf
  · intro hd
    apply hsound.fair_iff.2
    exact hsound.keepsRoot_of_directory hd

section Redirected

open SourceSet

def otherDirectory : Name := ⟨"other", by decide⟩

def otherFile : Name := ⟨"B.java", by decide⟩

def otherRoot : Path := .ofLocation [otherDirectory]

def twoTree : Tree where
  entries := plainTree.entries ++
    [([otherDirectory], .directory), ([otherDirectory, otherFile], .file [])]
  distinct := by decide

def repatterned : List Event :=
  [.make, .assign (.includes [.text "*.java"]), .next 0, .assign (.directory (some otherRoot)),
    .next 0]

def redirected (d : Path) : List Event := [.make, .assign (.directory (some d)), .next 0]

theorem fair_iff_keepsRoot_patterns : ∃ a ∈ (Session.run plainHost ⟨plainSet, twoTree⟩ repatterned).2,
    a.answer = .ok (some ⟨plainRoot.below [plainFile], "A"⟩) ∧ a.Fair := by
  obtain ⟨a, ha, hanswer, hd⟩ :
      ∃ a ∈ (Session.run plainHost ⟨plainSet, twoTree⟩ repatterned).2,
        a.answer = .ok (some ⟨plainRoot.below [plainFile], "A"⟩) ∧
          a.made.set.directory = a.first.set.directory := ⟨_, .head _, rfl, rfl⟩
  obtain ⟨-, -, -, hfair⟩ := fair_iff_keepsRoot _ _ _ ha
  exact ⟨a, ha, hanswer, hfair hd⟩

/-- Once the directory is another one, the file found there has no name, or one that is not its
name below the directory. -/
theorem unfair_redirected :
    (∃ a ∈ (Session.run plainHost ⟨plainSet, twoTree⟩ (redirected otherRoot)).2,
      a.answer = .error (.className (.notBelow (otherRoot.below [otherFile]) plainRoot)) ∧
        ¬ a.Fair) ∧
    ∃ a ∈ (Session.run plainHost ⟨⟨some (.ofLocation []), [], [], true⟩, twoTree⟩
        (redirected otherRoot)).2,
      a.answer = .ok (some ⟨otherRoot.below [otherFile], "other.B"⟩) ∧
        ClassName.derive (otherRoot.below [otherFile]) otherRoot = .ok "B" ∧ ¬ a.Fair := by
  have hname : ClassName.derive (otherRoot.below [otherFile]) otherRoot = .ok "B" := by
    decide
  obtain ⟨a, ha, w, hs, hroot, hanswer⟩ :
      ∃ a ∈ (Session.run plainHost ⟨⟨some (.ofLocation []), [], [], true⟩, twoTree⟩
          (redirected otherRoot)).2,
        ∃ w, a.cursor.state = .walking w ∧ w.root = otherRoot ∧
          a.answer = .ok (some ⟨otherRoot.below [otherFile], "other.B"⟩) :=
    ⟨_, .head _, _, rfl, rfl, rfl⟩
  refine ⟨⟨_, .head _, rfl, ?_⟩, a, ha, hanswer, hname, ?_⟩
  · intro hfair
    exact hfair.spared _ rfl
  · intro hfair
    obtain ⟨w', hs', hnamed⟩ := hfair.named _ hanswer
    obtain rfl : w = w' := by simpa using hs.symm.trans hs'
    rw [hroot, hname] at hnamed
    exact absurd (Except.ok.inj hnamed) (by decide)

end Redirected

end Reassigned

end ComponentBuild
