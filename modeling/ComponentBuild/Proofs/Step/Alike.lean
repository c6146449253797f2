import ComponentBuild.Proofs.Path.Text
import ComponentBuild.Proofs.Tree.Contents
import ComponentBuild.Step.Run

namespace ComponentBuild

structure Run.Alike (r r' : Run) : Prop where
  calls : r.calls = r'.calls
  result : r.calls = [] → r.result = r'.result

namespace Step

structure Alike (s s' : Step) (host host' : Host) : Prop where
  root : s.sources.root host = s'.sources.root host'
  files : s.sources.collect host = s'.sources.collect host'
  output : s.outputDirectory.map host.settled = s'.outputDirectory.map host'.settled
  dependencies : Classpath.dependencies host s.classpath.entries =
    Classpath.dependencies host' s'.classpath.entries
  locations : s.classpath.entries.filterM host.exists? = s'.classpath.entries.filterM host'.exists?
  system : host.systemPath = host'.systemPath
  options : s.rawOptions = s'.rawOptions
  generator : s.generator = s'.generator
  reference : s.reference = s'.reference
  log : s.log = s'.log
  descriptor : s.descriptor = s'.descriptor
  metadata : s.metadata = s'.metadata

variable {s s' : Step} {host host' : Host} {contexts contexts' : ClassContexts} {g : Generator}
  {registry : Registry} {options : GenerationOptions} {output output' : Path}

theorem Alike.loaded (h : s.Alike s' host host') (g : Generator) :
    Alike { s with generator := some g } { s' with generator := some g } host host' where
  root := h.root
  files := h.files
  output := h.output
  dependencies := h.dependencies
  locations := h.locations
  system := h.system
  options := h.options
  generator := rfl
  reference := h.reference
  log := h.log
  descriptor := h.descriptor
  metadata := h.metadata

theorem Alike.findGenerator (h : s.Alike s' host host') (registry : Registry) :
    s.findGenerator registry = s'.findGenerator registry := by
  rw [Step.findGenerator, Step.findGenerator, h.generator, h.reference, h.log]

theorem stopped_alike {records records' : List LogRecord} {fault : RunFault} :
    (s.stopped host contexts records fault).Alike (s'.stopped host' contexts' records' fault) :=
  ⟨rfl, fun _ => rfl⟩

theorem callGenerator_alike {loader : Nat} {records records' : List LogRecord}
    {request : Request} :
    (s.callGenerator g host contexts loader records request).Alike
      (s'.callGenerator g host' contexts loader records' request) := by
  refine ⟨rfl, ?_⟩
  intro h
  cases h

theorem Alike.runLoaded (h : s.Alike s' host host') (ho : host.settled output = host'.settled output')
    {loader : Nat} {records records' : List LogRecord} {dependencies : List Path} :
    (s.runLoaded host contexts loader records dependencies options output g).Alike
      (s'.runLoaded host' contexts loader records' dependencies options output' g) := by
  simp only [Step.runLoaded, project, ← h.files, Project.make_text, ← ho, ← h.descriptor, ← h.metadata]
  cases s.sources.collect host with
  | error fault => exact stopped_alike
  | ok files =>
    cases host.settled output with
    | error fault => exact stopped_alike
    | ok directory => exact callGenerator_alike

theorem Alike.runChecked (h : s.Alike s' host host')
    (ho : host.settled output = host'.settled output') :
    (s.runChecked host contexts options output g).Alike
      (s'.runChecked host' contexts options output' g) := by
  have hsystem : contexts.makeSystem host = contexts.makeSystem host' := by
    rw [ClassContexts.makeSystem, ClassContexts.makeSystem, h.system]
  have hloader (cs : ClassContexts) (parent : Option Nat) :
      cs.makeLoader host s.classpath parent = cs.makeLoader host' s'.classpath parent := by
    rw [ClassContexts.makeLoader, ClassContexts.makeLoader, h.locations]
  simp only [Step.runChecked, ← h.dependencies, ← hsystem, ← hloader]
  cases Classpath.dependencies host s.classpath.entries with
  | error e => exact stopped_alike
  | ok dependencies =>
    dsimp only
    cases (contexts.makeSystem host).1.makeLoader host s.classpath
        (some (contexts.makeSystem host).2) with
    | error e => exact stopped_alike
    | ok made => exact h.runLoaded ho

theorem Alike.generate (h : s.Alike s' host host') (registry : Registry)
    (contexts : ClassContexts) :
    (s.generate host registry contexts).Alike (s'.generate host' registry contexts) := by
  have houtput := h.output
  simp only [Step.generate, ← h.root, ← h.options, ← h.findGenerator registry]
  cases s.sources.root host with
  | error fault => exact stopped_alike
  | ok root =>
    cases ho : s.outputDirectory with
    | none =>
      rw [ho] at houtput
      have hnone : s'.outputDirectory = none := Option.map_eq_none_iff.1 houtput.symm
      rw [hnone]
      exact stopped_alike
    | some output =>
      obtain ⟨output', hsome, hsettled⟩ : ∃ output', s'.outputDirectory = some output' ∧
          host'.settled output' = host.settled output := by
        simpa [ho, Option.map_eq_some_iff] using houtput.symm
      rw [hsome]
      dsimp only
      cases GenerationOptions.assemble s.rawOptions with
      | error fault => exact stopped_alike
      | ok options =>
        cases s.findGenerator registry with
        | error fault => exact stopped_alike
        | ok g =>
          -- The checks that follow are those of the steps with their generator set.
          rw [← ho, ← hsome]
          exact (h.loaded g).runChecked hsettled.symm

end Step

end ComponentBuild
