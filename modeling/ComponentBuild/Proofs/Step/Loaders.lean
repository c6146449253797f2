import ComponentBuild.Proofs.Step.Called

namespace ComponentBuild

def Host.systemPaths (host : Host) : List Path := (host.systemPath.filter (· ≠ "")).map Path.ofText

namespace Step

def searched (s : Step) (host : Host) : List Path :=
  host.systemPaths ++ (s.classpath.existing host).filter (· ∉ host.systemPaths)

section Contexts

variable {s : Step} {host : Host} {registry : Registry} {contexts : ClassContexts}
  {locations : List Path} {id : Nat} {c : ClassContext}

theorem loader_eq (contexts : ClassContexts) (host : Host) (locations : List Path) :
    (loading contexts host locations).2 = contexts.count + 1 := rfl

theorem count_loading (contexts : ClassContexts) (host : Host) (locations : List Path) :
    (loading contexts host locations).1.count = contexts.count + 2 := rfl

theorem get?_loader (contexts : ClassContexts) (host : Host) (locations : List Path) :
    (loading contexts host locations).1.get? (loading contexts host locations).2 =
      some ⟨locations, some contexts.count, false⟩ :=
  ClassContexts.get?_make _ _ _

theorem searchPath_loader (contexts : ClassContexts) (host : Host) (locations : List Path) :
    (loading contexts host locations).1.searchPath (loading contexts host locations).2 =
      .ok (host.systemPaths ++ locations.filter (· ∉ host.systemPaths)) := by
  have hsystem : (contexts.makeSystem host).1.searchPath (contexts.makeSystem host).2 =
      .ok host.systemPaths := ClassContexts.searchPath_make_top contexts host.systemPaths
  rw [loading, ClassContexts.searchPath_make_below, hsystem]
  rfl

theorem get?_system_of_lt (h : id < contexts.count) :
    (contexts.makeSystem host).1.get? id = contexts.get? id := by
  apply ClassContexts.get?_make_of_ne
  omega

theorem get?_closed_of_lt (h : id < contexts.count) :
    ((loading contexts host locations).1.close (loading contexts host locations).2).get? id =
      contexts.get? id := by
  have hid : id ≠ (contexts.makeSystem host).1.count := by
    have hcount : (contexts.makeSystem host).1.count = contexts.count + 1 := rfl
    omega
  rw [ClassContexts.get?_close, loader_eq, if_neg (by omega), loading,
    ClassContexts.get?_make_of_ne _ _ hid, get?_system_of_lt h]

theorem system_of_get? (h : (contexts.makeSystem host).1.get? id = some c)
    (hid : contexts.count ≤ id) : c.parent = none := by
  rw [ClassContexts.makeSystem, ClassContexts.make, ClassContexts.get?_cons] at h
  split at h
  · rw [← Option.some.inj h]
  · have hnone : contexts.get? id = none := ClassContexts.get?_eq_none_iff.2 hid
    rw [hnone] at h
    cases h

theorem closed_or_system
    (h : ((loading contexts host locations).1.close (loading contexts host locations).2).get? id =
      some c) (hid : contexts.count ≤ id) : c = .close ∨ c.parent = none := by
  by_cases hloader : id = (loading contexts host locations).2
  · subst hloader
    rw [ClassContexts.get?_close_self (get?_loader _ _ _)] at h
    exact .inl (Option.some.inj h).symm
  · right
    rw [ClassContexts.get?_close, if_neg hloader, loading,
      ClassContexts.get?_make_of_ne _ _ hloader] at h
    exact system_of_get? h hid

theorem contexts_runLoaded {loader : Nat} {records : List LogRecord} {dependencies : List Path}
    {options : GenerationOptions} {output : Path} {g : Generator} :
    (s.runLoaded host contexts loader records dependencies options output g).contexts =
      contexts.close loader := by
  unfold runLoaded
  split
  · rfl
  · rfl

theorem contexts_runChecked {options : GenerationOptions} {output : Path} {g : Generator} :
    (s.runChecked host contexts options output g).contexts = contexts ∨
      (s.runChecked host contexts options output g).contexts = (contexts.makeSystem host).1 ∨
      ∃ locations, (s.runChecked host contexts options output g).contexts =
        (loading contexts host locations).1.close (loading contexts host locations).2 := by
  unfold runChecked
  split
  · exact .inl rfl
  · right
    simp only [ClassContexts.makeLoader]
    cases s.classpath.entries.filterM host.exists? with
    | error e => exact .inl rfl
    | ok locations =>
      right
      refine ⟨locations, ?_⟩
      exact contexts_runLoaded

theorem contexts_generate (s : Step) (host : Host) (registry : Registry)
    (contexts : ClassContexts) :
    (s.generate host registry contexts).contexts = contexts ∨
      (s.generate host registry contexts).contexts = (contexts.makeSystem host).1 ∨
      ∃ locations, (s.generate host registry contexts).contexts =
        (loading contexts host locations).1.close (loading contexts host locations).2 := by
  unfold generate
  split
  · exact .inl rfl
  · split
    · exact .inl rfl
    · split
      · exact .inl rfl
      · split
        · exact .inl rfl
        · exact contexts_runChecked

theorem count_le_generate (s : Step) (host : Host) (registry : Registry)
    (contexts : ClassContexts) : contexts.count ≤ (s.generate host registry contexts).contexts.count := by
  rcases s.contexts_generate host registry contexts with h | h | ⟨locations, h⟩
  · exact Nat.le_of_eq (congrArg ClassContexts.count h.symm)
  · rw [h, ClassContexts.makeSystem, ClassContexts.count_make]
    omega
  · rw [h, ClassContexts.count_close, count_loading]
    omega

theorem get?_generate (registry : Registry) (h : id < contexts.count) :
    (s.generate host registry contexts).contexts.get? id = contexts.get? id := by
  rcases s.contexts_generate host registry contexts with he | he | ⟨locations, he⟩
  · rw [he]
  · rw [he, get?_system_of_lt h]
  · rw [he, get?_closed_of_lt h]

theorem parent_of_generate (h : (s.generate host registry contexts).contexts.get? id = some c)
    (hid : contexts.count ≤ id) (hopen : c.closed = false) : c.parent = none := by
  rcases s.contexts_generate host registry contexts with he | he | ⟨locations, he⟩
  · rw [he, ClassContexts.get?_eq_none_iff.2 hid] at h
    cases h
  · rw [he] at h
    exact system_of_get? h hid
  · rw [he] at h
    rcases closed_or_system h hid with rfl | hparent
    · cases hopen
    · exact hparent

end Contexts

structure Session where
  step : Step
  host : Host
  contexts : ClassContexts

inductive Event
  | configure (change : Step → Step)
  | surround (host : Host)
  | generate (registry : Registry)
  | execute (registry : Registry)

def Event.runIn? : Event → Option Registry
  | configure _ => none
  | surround _ => none
  | generate registry => some registry
  | execute registry => some registry

namespace Session

def run (x : Session) (registry : Registry) : Run := x.step.generate x.host registry x.contexts

def afterRun (x : Session) (r : Run) : Session := ⟨r.step, { x.host with tree := r.tree }, r.contexts⟩

def next (x : Session) : Event → Session
  | .configure change => { x with step := change x.step }
  | .surround host => { x with host := host }
  | .generate registry => x.afterRun (x.run registry)
  | .execute registry => x.afterRun (x.run registry)

def after (x : Session) (events : List Event) : Session := events.foldl next x

def calls (x : Session) : List Event → List Call
  | [] => []
  | e :: events => (e.runIn?.map fun r => (x.run r).calls).getD [] ++ (x.next e).calls events

/-- A call with a class loader of its own, which is open while the generator is at work. -/
structure OwnLoader (x : Session) (registry : Registry) (call : Call) : Prop where
  fresh : x.contexts.get? call.request.project.loader = none
  during : ∃ g records contexts system, x.step.findGenerator registry = .ok g ∧
    x.run registry = { x.step with generator := some g }.callGenerator g x.host contexts
      call.request.project.loader records call.request ∧
    contexts.get? call.request.project.loader =
      some ⟨x.step.classpath.existing x.host, some system, false⟩ ∧
    contexts.searchPath call.request.project.loader = .ok (x.step.searched x.host)
  locations : call.locations = x.step.classpath.existing x.host
  searchPath : call.searchPath = x.step.searched x.host

variable {x : Session} {e : Event} {registry : Registry} {call : Call} {id : Nat}

theorem next_of_run (h : e.runIn? = some registry) :
    x.next e = x.afterRun (x.run registry) := by
  cases e with
  | configure change => cases h
  | surround host => cases h
  | generate r => rw [← Option.some.inj h]; rfl
  | execute r => rw [← Option.some.inj h]; rfl

theorem contexts_next_of_no_run (x : Session) (h : e.runIn? = none) :
    (x.next e).contexts = x.contexts := by
  cases e with
  | configure change => rfl
  | surround host => rfl
  | generate r => cases h
  | execute r => cases h

theorem count_le_next (x : Session) (e : Event) : x.contexts.count ≤ (x.next e).contexts.count := by
  cases he : e.runIn? with
  | none => exact Nat.le_of_eq (congrArg ClassContexts.count (x.contexts_next_of_no_run he).symm)
  | some registry =>
    rw [next_of_run he]
    exact count_le_generate _ _ _ _

theorem get?_next (x : Session) (e : Event) (h : id < x.contexts.count) :
    (x.next e).contexts.get? id = x.contexts.get? id := by
  cases he : e.runIn? with
  | none => rw [x.contexts_next_of_no_run he]
  | some registry =>
    rw [next_of_run he]
    exact get?_generate registry h

theorem get?_after (x : Session) (events : List Event) (h : id < x.contexts.count) :
    (x.after events).contexts.get? id = x.contexts.get? id := by
  induction events generalizing x with
  | nil => rfl
  | cons e events ih =>
    have hnext := Nat.lt_of_lt_of_le h (x.count_le_next e)
    exact (ih _ hnext).trans (x.get?_next e h)

theorem called_of_mem_run (h : call ∈ (x.run registry).calls) :
    call.request.project.loader = x.contexts.count + 1 ∧ x.OwnLoader registry call ∧
      (x.run registry).contexts.get? call.request.project.loader = some .close := by
  obtain ⟨g, hg, hcalled⟩ := called_of_mem h
  have hloader := hcalled.described.loader
  have hget := get?_loader x.contexts x.host (x.step.classpath.existing x.host)
  have hsearch := searchPath_loader x.contexts x.host (x.step.classpath.existing x.host)
  rw [← hloader] at hget hsearch
  refine ⟨hloader, ?_, ?_⟩
  · obtain ⟨records, hrun⟩ := hcalled.run_eq
    constructor
    · rw [ClassContexts.get?_eq_none_iff, hloader, loader_eq]
      omega
    · refine ⟨g, records, _, x.contexts.count, hg, ?_, hget, hsearch⟩
      rw [hloader]
      exact hrun
    · exact hcalled.described.locations
    · exact hcalled.searchPath hsearch
  · have hcontexts := hcalled.contexts_eq
    rw [run, hcontexts]
    exact ClassContexts.get?_close_self hget

theorem count_lt_of_mem_run (h : call ∈ (x.run registry).calls) :
    call.request.project.loader < (x.afterRun (x.run registry)).contexts.count := by
  obtain ⟨-, -, hclosed⟩ := called_of_mem_run h
  rw [← Nat.not_le, ← ClassContexts.get?_eq_none_iff]
  intro hnone
  rw [afterRun, hclosed] at hnone
  cases hnone

theorem le_loader_of_mem_calls (x : Session) (events : List Event) (h : call ∈ x.calls events) :
    x.contexts.count ≤ call.request.project.loader := by
  induction events generalizing x with
  | nil => cases h
  | cons e events ih =>
    rcases List.mem_append.1 h with h | h
    · cases he : e.runIn? with
      | none =>
        rw [he] at h
        cases h
      | some registry =>
        rw [he] at h
        obtain ⟨hloader, -⟩ := called_of_mem_run h
        omega
    · exact Nat.le_trans (x.count_le_next e) (ih _ h)

theorem loaders_nodup (x : Session) (events : List Event) :
    ((x.calls events).map fun call => call.request.project.loader).Nodup := by
  induction events generalizing x with
  | nil => exact List.nodup_nil
  | cons e events ih =>
    rw [calls, List.map_append, List.nodup_append]
    refine ⟨?_, ih _, ?_⟩
    · cases he : e.runIn? with
      | none => exact List.nodup_nil
      | some registry =>
        -- A run has one call at most.
        rcases x.step.generate_stopped_or_called x.host registry x.contexts with
          ⟨hnone, -⟩ | ⟨g, call, -, hcalled⟩
        · simp [run, hnone]
        · simp [run, hcalled.calls]
    · intro i hi j hj hij
      obtain ⟨later, hlater, rfl⟩ := List.mem_map.1 hj
      cases he : e.runIn? with
      | none => simp [he] at hi
      | some registry =>
        obtain ⟨call, hcall, rfl⟩ : ∃ call ∈ (x.run registry).calls,
            call.request.project.loader = i := by simpa [he] using hi
        have hlt := count_lt_of_mem_run hcall
        have hle := le_loader_of_mem_calls _ _ hlater
        rw [next_of_run he] at hle
        omega

/-- Each call has a fresh class loader that is open while the generator is at work, over the paths
of the system and the classpath entries that are there. It is closed, with no locations and none
above it, when the run is over and at any time after; nothing else that a run makes below another
context stays open, and no two calls have the same one. -/
theorem loaders_confined (x : Session) (earlier later : List Event)
    (h : e.runIn? = some registry) :
    (∀ call ∈ ((x.after earlier).run registry).calls,
        (x.after earlier).OwnLoader registry call ∧
        ((x.after earlier).run registry).contexts.get? call.request.project.loader =
          some ⟨[], none, true⟩ ∧
        (x.after (earlier ++ e :: later)).contexts.get? call.request.project.loader =
          some ⟨[], none, true⟩) ∧
      (∀ id c, (x.after earlier).contexts.get? id = none →
        ((x.after earlier).run registry).contexts.get? id = some c → c.closed = false →
          c.parent = none) ∧
      ((x.calls (earlier ++ e :: later)).map fun call => call.request.project.loader).Nodup := by
  refine ⟨?_, ?_, loaders_nodup x _⟩
  · intro call hcall
    obtain ⟨-, hown, hclosed⟩ := called_of_mem_run hcall
    refine ⟨hown, hclosed, ?_⟩
    have hafter : x.after (earlier ++ e :: later) = ((x.after earlier).next e).after later := by
      simp [after, List.foldl_append]
    rw [hafter, next_of_run h, get?_after _ _ (count_lt_of_mem_run hcall)]
    exact hclosed
  · intro id c hnone hget hopen
    exact parent_of_generate hget (ClassContexts.get?_eq_none_iff.1 hnone) hopen

section Plain

open SourceSet

def complainingGenerator : Generator :=
  ⟨"Complaining", fun _ _ host =>
    ⟨host.tree, [], some (.report ⟨"Error", "Error"⟩ ⟨"domain", "no name", none, none⟩ none)⟩⟩

def plainStep : Step :=
  { Step.make (some silentGenerator) none with
    sources := plainSet
    outputDirectory := some plainRoot
    classpath := Classpath.empty.insert plainRoot rfl }

def plainSession : Session := ⟨plainStep, { plainHost with systemPath := ["/lib", ""] }, .empty⟩

def plainLater : List Event :=
  [.configure fun s => { s with generator := some complainingGenerator }, .execute ⟨[], []⟩]

theorem loaders_confined_plain :
    ∃ call ∈ (plainSession.run ⟨[], []⟩).calls,
      call.searchPath = [.ofText "/lib", plainRoot] ∧
      (plainSession.after (.generate ⟨[], []⟩ :: plainLater)).contexts.get?
        call.request.project.loader = some ⟨[], none, true⟩ := by
  have hlength : 0 < (plainSession.run ⟨[], []⟩).calls.length := by decide +kernel
  have hsearched : plainStep.searched plainSession.host = [.ofText "/lib", plainRoot] := by
    decide +kernel
  obtain ⟨call, hcall⟩ := List.exists_mem_of_length_pos hlength
  obtain ⟨hconfined, -, -⟩ :=
    loaders_confined plainSession [] plainLater (e := .generate ⟨[], []⟩) rfl
  obtain ⟨hown, -, hclosed⟩ := hconfined call hcall
  exact ⟨call, hcall, hown.searchPath.trans hsearched, hclosed⟩

end Plain

end Session

end Step

end ComponentBuild
