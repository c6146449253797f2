import ComponentBuild.Proofs.Step.Loaders
import ComponentBuild.Proofs.Step.Paths

namespace ComponentBuild.Step

section Run

variable {s : Step} {host : Host} {registry : Registry} {contexts : ClassContexts} {g : Generator}

structure Ready (s : Step) (host : Host) : Prop where
  sources : ∃ root, s.sources.root host = .ok root
  output : ∃ d, s.outputDirectory = some d
  options : ∃ options, GenerationOptions.assemble s.rawOptions = .ok options

def Ends (s : Step) (host : Host) (g : Generator) (run : Run) : Prop :=
  (∃ contexts records fault, run = s.stopped host contexts records fault) ∨
    ∃ contexts loader records request, run = s.callGenerator g host contexts loader records request

theorem runLoaded_ends {loader : Nat} {records : List LogRecord} {dependencies : List Path}
    {options : GenerationOptions} {output : Path} :
    s.Ends host g (s.runLoaded host contexts loader records dependencies options output g) := by
  unfold runLoaded
  split
  · exact .inl ⟨_, _, _, rfl⟩
  · exact .inr ⟨_, _, _, _, rfl⟩

theorem runChecked_ends {options : GenerationOptions} {output : Path} :
    s.Ends host g (s.runChecked host contexts options output g) := by
  unfold runChecked
  split
  · exact .inl ⟨_, _, _, rfl⟩
  · dsimp only
    split
    · exact .inl ⟨_, _, _, rfl⟩
    · exact runLoaded_ends

theorem generate_of_not_ready (registry : Registry) (contexts : ClassContexts)
    (h : ¬ s.Ready host) :
    ∃ records fault, s.generate host registry contexts = s.stopped host contexts records fault := by
  unfold generate
  split
  · exact ⟨_, _, rfl⟩
  · rename_i root hroot
    split
    · exact ⟨_, _, rfl⟩
    · rename_i output houtput
      split
      · exact ⟨_, _, rfl⟩
      · rename_i options hoptions
        exact absurd ⟨⟨root, hroot⟩, ⟨output, houtput⟩, ⟨options, hoptions⟩⟩ h

theorem generate_of_load_error (contexts : ClassContexts) (h : s.Ready host) {fault : LoadFault}
    (hf : s.findGenerator registry = .error fault) :
    s.generate host registry contexts =
      s.stopped host contexts s.configurationRecords (.ofLoad fault) := by
  obtain ⟨⟨root, hroot⟩, ⟨output, houtput⟩, ⟨options, hoptions⟩⟩ := h
  simp only [generate, hroot, houtput, hoptions, hf]

theorem generate_of_found (contexts : ClassContexts) (h : s.Ready host)
    (hg : s.findGenerator registry = .ok g) :
    { s with generator := some g }.Ends host g (s.generate host registry contexts) := by
  obtain ⟨⟨root, hroot⟩, ⟨output, houtput⟩, ⟨options, hoptions⟩⟩ := h
  simp only [generate, hroot, houtput, hoptions, hg]
  exact runChecked_ends

theorem Ends.step {run : Run} (h : s.Ends host g run) : run.step = s := by
  rcases h with ⟨_, _, _, rfl⟩ | ⟨_, _, _, _, rfl⟩
  · rfl
  · rfl

theorem Ends.tree {run : Run} (h : s.Ends host g run) (hcalls : run.calls = []) :
    run.tree = host.tree := by
  rcases h with ⟨_, _, _, rfl⟩ | ⟨_, _, _, _, rfl⟩
  · rfl
  · cases hcalls

theorem generate_spares (s : Step) (host : Host) (registry : Registry) (contexts : ClassContexts) :
    (∃ found, (s.generate host registry contexts).step = { s with generator := found }) ∧
      ((s.generate host registry contexts).calls = [] →
        (s.generate host registry contexts).tree = host.tree) := by
  by_cases hready : s.Ready host
  · cases hf : s.findGenerator registry with
    | error fault =>
      rw [generate_of_load_error contexts hready hf]
      exact ⟨⟨s.generator, rfl⟩, fun _ => rfl⟩
    | ok g =>
      have hends := generate_of_found contexts hready hf
      exact ⟨⟨some g, hends.step⟩, hends.tree⟩
  · obtain ⟨records, fault, hrun⟩ := generate_of_not_ready registry contexts hready
    rw [hrun]
    exact ⟨⟨s.generator, rfl⟩, fun _ => rfl⟩

theorem findGenerator_of_held (registry : Registry) (h : s.generator = some g) :
    s.findGenerator registry = .ok g := by
  rw [findGenerator, h]

theorem findGenerator_eq_ok_of_unset (registry : Registry) (h : s.generator = none) :
    s.findGenerator registry = .ok g ↔
      ∃ l, registry.load s.reference (some s.log) = .ok l ∧ l.generator = g := by
  rw [findGenerator, h]
  cases registry.load s.reference (some s.log) with
  | error fault => simp [Except.map]
  | ok l => simp [Except.map]

theorem generate_of_held (registry registry' : Registry) (contexts : ClassContexts)
    (h : s.generator = some g) :
    s.generate host registry contexts = s.generate host registry' contexts := by
  simp only [generate, findGenerator_of_held _ h]

theorem step_generate_of_held (registry : Registry) (contexts : ClassContexts)
    (h : s.generator = some g) : (s.generate host registry contexts).step = s := by
  by_cases hready : s.Ready host
  · have hends := generate_of_found contexts hready (findGenerator_of_held registry h)
    rw [hends.step, ← h]
  · obtain ⟨records, fault, hrun⟩ := generate_of_not_ready registry contexts hready
    rw [hrun]
    rfl

theorem generator_generate_of_unset (host : Host) (registry : Registry) (contexts : ClassContexts)
    (h : s.generator = none) :
    (s.generate host registry contexts).step.generator = some g ↔
      s.Ready host ∧ ∃ l, registry.load s.reference (some s.log) = .ok l ∧ l.generator = g := by
  by_cases hready : s.Ready host
  · rw [← findGenerator_eq_ok_of_unset registry h]
    cases hf : s.findGenerator registry with
    | error fault =>
      rw [generate_of_load_error contexts hready hf]
      simp [stopped, h]
    | ok found =>
      rw [(generate_of_found contexts hready hf).step]
      simp [hready]
  · obtain ⟨records, fault, hrun⟩ := generate_of_not_ready registry contexts hready
    rw [hrun]
    simp [stopped, h, hready]

end Run

def Event.KeepsGenerator : Event → Prop
  | configure change => ∀ s, (change s).generator = s.generator
  | surround _ => True
  | generate _ => True
  | execute _ => True

namespace Session

variable {x : Session} {e : Event} {events : List Event} {registry : Registry} {g : Generator}
  {l : Loaded}

def Loads (x : Session) (e : Event) (l : Loaded) : Prop :=
  ∃ registry, e.runIn? = some registry ∧ x.step.Ready x.host ∧
    registry.load x.step.reference (some x.step.log) = .ok l

/-- The first run that comes to load a generator, and can, loads this one. -/
inductive FirstLoads : Session → List Event → Generator → Prop
  | now {x : Session} {e : Event} {l : Loaded} (later : List Event) : x.Loads e l →
      FirstLoads x (e :: later) l.generator
  | later {x : Session} {e : Event} {later : List Event} {g : Generator} : (∀ l, ¬ x.Loads e l) →
      FirstLoads (x.next e) later g → FirstLoads x (e :: later) g

structure Spares (x : Session) (registry : Registry) : Prop where
  step : ∃ found, (x.run registry).step = { x.step with generator := found }
  uncalled : (x.run registry).calls = [] → (x.run registry).tree = x.host.tree
  called : ∀ call ∈ (x.run registry).calls, ∃ g, (x.run registry).step.generator = some g ∧
    x.step.Called x.host x.contexts g call (x.run registry) ∧
    (x.run registry).tree = (x.step.response x.host x.contexts g call.request).tree

/-- What a run does that has a generator from before it, with whatever it might load. -/
structure RunsOnly (x : Session) (g : Generator) (registry : Registry) : Prop where
  step : (x.run registry).step = x.step
  calls : ∀ call ∈ (x.run registry).calls, x.step.Called x.host x.contexts g call (x.run registry)
  loads_nothing : ∀ registry', x.run registry' = x.run registry

theorem spares (x : Session) (registry : Registry) : x.Spares registry := by
  obtain ⟨hstep, huncalled⟩ := x.step.generate_spares x.host registry x.contexts
  constructor
  · exact hstep
  · exact huncalled
  · intro call hcall
    obtain ⟨g, -, hcalled⟩ := called_of_mem hcall
    exact ⟨g, congrArg Step.generator hcalled.step, hcalled, hcalled.tree⟩

theorem runsOnly_of_held (registry : Registry) (h : x.step.generator = some g) :
    x.RunsOnly g registry := by
  constructor
  · exact step_generate_of_held registry x.contexts h
  · intro call hcall
    obtain ⟨found, hfound, hcalled⟩ := called_of_mem hcall
    rw [findGenerator_of_held registry h] at hfound
    obtain rfl := Except.ok.inj hfound
    exact hcalled
  · intro registry'
    exact generate_of_held registry' registry x.contexts h

theorem after_append (x : Session) (earlier later : List Event) :
    x.after (earlier ++ later) = (x.after earlier).after later :=
  List.foldl_append

theorem generator_next_of_no_run (x : Session) (hkeep : e.KeepsGenerator) (h : e.runIn? = none) :
    (x.next e).step.generator = x.step.generator := by
  cases e with
  | configure change => exact hkeep x.step
  | surround host => rfl
  | generate r => cases h
  | execute r => cases h

theorem generator_next_of_held (hkeep : e.KeepsGenerator) (h : x.step.generator = some g) :
    (x.next e).step.generator = some g := by
  cases he : e.runIn? with
  | none => rw [x.generator_next_of_no_run hkeep he, h]
  | some registry =>
    rw [next_of_run he, ← h]
    exact congrArg Step.generator (runsOnly_of_held registry h).step

theorem generator_next_of_unset (hkeep : e.KeepsGenerator) (h : x.step.generator = none) :
    (x.next e).step.generator = some g ↔ ∃ l, x.Loads e l ∧ l.generator = g := by
  cases he : e.runIn? with
  | none =>
    rw [x.generator_next_of_no_run hkeep he, h]
    simp [Loads, he]
  | some registry =>
    have hrun := generator_generate_of_unset (g := g) x.host registry x.contexts h
    rw [next_of_run he]
    simp only [Loads, he, Option.some.injEq, exists_eq_left', and_assoc, exists_and_left]
    exact hrun

theorem generator_after_of_held (hkeep : ∀ e ∈ events, e.KeepsGenerator)
    (h : x.step.generator = some g) : (x.after events).step.generator = some g := by
  induction events generalizing x with
  | nil => exact h
  | cons e events ih =>
    obtain ⟨he, hevents⟩ := List.forall_mem_cons.1 hkeep
    exact ih hevents (generator_next_of_held he h)

theorem generator_after_of_unset (hkeep : ∀ e ∈ events, e.KeepsGenerator)
    (h : x.step.generator = none) :
    (x.after events).step.generator = some g ↔ x.FirstLoads events g := by
  induction events generalizing x with
  | nil =>
    constructor
    · intro hg
      cases h.symm.trans hg
    · intro hloads
      cases hloads
  | cons e events ih =>
    obtain ⟨he, hevents⟩ := List.forall_mem_cons.1 hkeep
    have hafter : x.after (e :: events) = (x.next e).after events := rfl
    rw [hafter]
    by_cases hload : ∃ l, x.Loads e l
    · -- The generator that is loaded now is the one that is kept from here on.
      obtain ⟨l, hl⟩ := hload
      have hnext := (generator_next_of_unset he h).2 ⟨l, hl, rfl⟩
      rw [generator_after_of_held hevents hnext, Option.some.injEq]
      constructor
      · rintro rfl
        exact .now events hl
      · intro hfirst
        cases hfirst with
        | now _ hl' =>
          have hnext' := (generator_next_of_unset he h).2 ⟨_, hl', rfl⟩
          exact Option.some.inj (hnext.symm.trans hnext')
        | later hnone _ => exact absurd hl (hnone l)
    · have hnone : ∀ l, ¬ x.Loads e l := not_exists.1 hload
      have hnext : (x.next e).step.generator = none := by
        rw [Option.eq_none_iff_forall_not_mem]
        intro found hfound
        obtain ⟨l, hl, -⟩ := (generator_next_of_unset he h).1 hfound
        exact hnone l hl
      rw [ih hevents hnext]
      constructor
      · exact .later hnone
      · intro hfirst
        cases hfirst with
        | now _ hl => exact absurd hl (hnone _)
        | later _ hrest => exact hrest

/-- At any time in the life of a step, a run changes nothing of it but the generator that it keeps,
and nothing of the tree but what the generator writes. Once there is a generator it stays, and every
run is the same whatever could be loaded; where there was none at first, the one that is kept is the
one that was loaded by the first run that came to load one and could. -/
theorem generator_kept (x : Session) (events : List Event)
    (hkeep : ∀ e ∈ events, e.KeepsGenerator) :
    (∀ registry, (x.after events).Spares registry) ∧
      (∀ earlier later g, events = earlier ++ later →
        (x.after earlier).step.generator = some g →
          (x.after events).step.generator = some g ∧
            ∀ registry, (x.after events).RunsOnly g registry) ∧
      (x.step.generator = none →
        ∀ g, (x.after events).step.generator = some g ↔ x.FirstLoads events g) := by
  refine ⟨fun registry => (x.after events).spares registry, ?_, ?_⟩
  · rintro earlier later g rfl hg
    have hlater : ∀ e ∈ later, e.KeepsGenerator := by
      intro e he
      exact hkeep e (List.mem_append_right _ he)
    have hheld : (x.after (earlier ++ later)).step.generator = some g := by
      rw [after_append]
      exact generator_after_of_held hlater hg
    exact ⟨hheld, fun registry => runsOnly_of_held registry hheld⟩
  · intro hnone g
    exact generator_after_of_unset hkeep hnone

section Installed

def installedRegistry : Registry where
  modules := [("gens", .mk "module" "module" false none none
    [("silent", .mk "object" "Silent" false (some silentGenerator.behaviour) none [])])]
  entryPoints := [⟨"silent", "gens:silent", generatorGroup⟩]

def unsetSession : Session := { plainSession with step := { plainStep with generator := none } }

def installedLater : List Event :=
  [.generate ⟨[], []⟩, .generate installedRegistry,
    .configure fun s => { s with reference := some "other:maker" }, .execute ⟨[], []⟩]

theorem generator_kept_installed :
    (unsetSession.after [.generate ⟨[], []⟩]).step.generator = none ∧
      (unsetSession.after installedLater).step.generator = some silentGenerator ∧
      ∀ registry, (unsetSession.after installedLater).RunsOnly silentGenerator registry := by
  have hkeep : ∀ e ∈ installedLater, e.KeepsGenerator := by
    simp [installedLater, Event.KeepsGenerator]
  have hready : unsetSession.step.Ready unsetSession.host := ⟨⟨_, rfl⟩, ⟨_, rfl⟩, ⟨_, rfl⟩⟩
  have hnothing : ∀ l, ¬ unsetSession.Loads (.generate ⟨[], []⟩) l := by
    rintro l ⟨_, hrun, -, hload⟩
    obtain rfl := Option.some.inj hrun
    cases hload
  have hfirst : unsetSession.FirstLoads installedLater silentGenerator := by
    apply FirstLoads.later hnothing
    exact .now (l := .readyMade silentGenerator) _ ⟨_, rfl, hready, rfl⟩
  obtain ⟨-, hstays, hloaded⟩ := generator_kept unsetSession installedLater hkeep
  have hheld := (hloaded rfl silentGenerator).2 hfirst
  have honly := (hstays installedLater [] silentGenerator (List.append_nil _).symm hheld).2
  exact ⟨rfl, hheld, honly⟩

end Installed

end Session

end ComponentBuild.Step
