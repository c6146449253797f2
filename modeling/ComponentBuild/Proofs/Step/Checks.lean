import ComponentBuild.Proofs.Classpath.Existing
import ComponentBuild.Proofs.SourceSet.Root
import ComponentBuild.Step.Run

namespace ComponentBuild

def Host.place (host : Host) (p : Path) : Path :=
  match host.settled p with
  | .ok q => q
  | .error _ => (host.absolute p).normalized

namespace Step

section Checks

variable (s : Step) (host : Host) (registry : Registry)

def sourcesUnset : Option RunFault :=
  match s.sources.directory with
  | none => some (.configuration (.sources .unset))
  | some _ => none

def sourcesMissing : Option RunFault :=
  match s.sources.directory with
  | none => none
  | some d =>
    if host.tree.exists? host.workingDirectory (host.place d) then none
    else some (.configuration (.sources (.missing (host.place d))))

def sourcesNoDirectory : Option RunFault :=
  match s.sources.directory with
  | none => none
  | some d =>
    if host.tree.isDirectory host.workingDirectory (host.place d) then none
    else some (.configuration (.sources (.notDirectory (host.place d))))

def outputUnset : Option RunFault :=
  match s.outputDirectory with
  | none => some (.configuration .outputUnset)
  | some _ => none

def versionUnknown : Option RunFault :=
  match s.specVersion.bind Given.text? with
  | none => none
  | some x =>
    if Text.isBlankText x then none
    else match SpecVersion.ofText? x with
      | some _ => none
      | none => some (.configuration (.options (.unknownVersion x)))

def generatorUnloadable : Option RunFault :=
  match s.findGenerator registry with
  | .ok _ => none
  | .error fault => some (.ofLoad fault)

/-- The fault of the first check that fails. Each check looks at its own matter only. -/
def firstFault : Option RunFault :=
  [s.sourcesUnset, s.sourcesMissing host, s.sourcesNoDirectory host, s.outputUnset,
    s.versionUnknown, s.generatorUnloadable registry].findSome? id

end Checks

structure AsksFor (given : Option Given) (version : Option SpecVersion) : Prop where
  none_iff : version = none ↔ ∀ x, given.bind Given.text? = some x → Text.isBlankText x = true
  some_iff : ∀ v, version = some v ↔ ∃ x, given.bind Given.text? = some x ∧
    Text.isBlankText x = false ∧ v.text = Text.trim x

def loading (contexts : ClassContexts) (host : Host) (locations : List Path) :
    ClassContexts × Nat :=
  (contexts.makeSystem host).1.make locations (some (contexts.makeSystem host).2)

structure Calls (s : Step) (host : Host) (contexts : ClassContexts) (g : Generator) (call : Call) :
    Prop where
  generator : call.generator = g.typeName
  sources : s.sources.collect host = .ok call.request.project.sources
  loader : call.request.project.loader = (loading contexts host (s.classpath.existing host)).2
  locations : call.locations = s.classpath.existing host
  dependencies : call.request.project.dependencies = s.classpath.files host
  output : ∃ d, s.outputDirectory = some d ∧ host.settled d = .ok call.request.outputDirectory
  classesDirectory : call.request.project.classesDirectory = call.request.outputDirectory
  version : AsksFor s.specVersion call.request.options.specVersion
  options : GenerationOptions.assemble s.rawOptions = .ok call.request.options
  descriptor : call.request.descriptor = s.descriptor
  metadata : call.request.metadata = s.metadata

/-- A run either stops with the fault of the first check that fails, the generator not being called,
or calls the generator once, and then comes to what the generator answers. -/
def Expected (s : Step) (host : Host) (registry : Registry) (contexts : ClassContexts) (run : Run) :
    Prop :=
  match s.firstFault host registry with
  | some fault => run.calls = [] ∧ run.result = .error fault
  | none => ∃ g call, s.findGenerator registry = .ok g ∧ run.calls = [call] ∧
      s.Calls host contexts g call ∧
      run.result = (s.conclude call.request (g.behaviour call.request
        (loading contexts host (s.classpath.existing host)).1 host).thrown).2

/-- The system can be asked all that a run has to know: the source directory first, and once every
check has passed the classpath, the patterns and the output directory. -/
structure Answered (s : Step) (host : Host) (registry : Registry) : Prop where
  sources : ∀ d, s.sources.directory = some d → ∃ root, host.settled d = .ok root ∧ host.Answers root
  classpath : s.firstFault host registry = none → ∀ p ∈ s.classpath.entries, host.Answers p
  patterns : s.firstFault host registry = none → .nothing ∉ s.sources.includes ++ s.sources.excludes
  output : s.firstFault host registry = none → ∀ d, s.outputDirectory = some d →
    ∃ out, host.settled d = .ok out

end Step

inductive RunFault.Unchecked : RunFault → Prop
  | pattern (fault : GivenFault) : Unchecked (.pattern fault)
  | home (fault : HomeFault) : Unchecked (.home fault)
  | file (error : FileError) : Unchecked (.file error)

theorem SpecVersion.text_injective {v w : SpecVersion} (h : v.text = w.text) : v = w := by
  have hv := ofText?_text v
  rw [h, ofText?_text w] at hv
  exact (Option.some.inj hv).symm

namespace Step

structure Refused (run : Run) : Prop where
  calls : run.calls = []
  result : ∃ fault, run.result = .error fault ∧ fault.Unchecked

variable {s : Step} {host : Host} {registry : Registry}

theorem firstFault_checked {fault : RunFault} (h : s.firstFault host registry = some fault) :
    ¬ fault.Unchecked := by
  obtain ⟨check, hmem, rfl⟩ := List.exists_of_findSome?_eq_some h
  simp only [List.mem_cons, List.not_mem_nil, or_false] at hmem
  intro hu
  rcases hmem with he | he | he | he | he | he
  · unfold sourcesUnset at he
    split at he
    · cases he
      cases hu
    · cases he
  · unfold sourcesMissing at he
    split at he
    · cases he
    · split at he
      · cases he
      · cases he
        cases hu
  · unfold sourcesNoDirectory at he
    split at he
    · cases he
    · split at he
      · cases he
      · cases he
        cases hu
  · unfold outputUnset at he
    split at he
    · cases he
      cases hu
    · cases he
  · unfold versionUnknown at he
    split at he
    · cases he
    · split at he
      · cases he
      · split at he
        · cases he
        · cases he
          cases hu
  · unfold generatorUnloadable at he
    split at he
    · cases he
    · rename_i fault _
      cases fault <;> (cases he; cases hu)

theorem root_cases (registry : Registry)
    (h : ∀ d, s.sources.directory = some d → ∃ root, host.settled d = .ok root ∧ host.Answers root) :
    (∃ fault, s.sources.root host = .error (.source fault) ∧
        s.firstFault host registry = some (.configuration (.sources fault))) ∨
      (∃ root, s.sources.root host = .ok root) ∧ s.sourcesUnset = none ∧
        s.sourcesMissing host = none ∧ s.sourcesNoDirectory host = none := by
  cases hd : s.sources.directory with
  | none =>
    refine .inl ⟨.unset, by rw [SourceSet.root, hd], ?_⟩
    simp [firstFault, sourcesUnset, hd]
  | some d =>
    obtain ⟨root, hr, ha⟩ := h d hd
    have hplace : host.place d = root := by rw [Host.place, hr]
    have hunset : s.sourcesUnset = none := by rw [sourcesUnset, hd]
    rw [SourceSet.root, hd, sourcesMissing, sourcesNoDirectory, hd]
    simp only [hr, SourceSet.checkedRoot, Host.exists?_of_answers ha,
      Host.isDirectory_of_answers ha, hplace]
    cases he : host.tree.exists? host.workingDirectory root with
    | false =>
      refine .inl ⟨.missing root, rfl, ?_⟩
      simp [firstFault, hunset, sourcesMissing, hd, hplace, he]
    | true =>
      cases hdir : host.tree.isDirectory host.workingDirectory root with
      | false =>
        refine .inl ⟨.notDirectory root, rfl, ?_⟩
        simp [firstFault, hunset, sourcesMissing, sourcesNoDirectory, hd, hplace, he, hdir]
      | true => exact .inr ⟨⟨root, rfl⟩, hunset, by simp, by simp⟩

theorem version_cases (s : Step) :
    (∃ fault, s.versionUnknown = some (.configuration (.options fault)) ∧
        GenerationOptions.assemble s.rawOptions = .error fault) ∨
      s.versionUnknown = none ∧ ∃ options, GenerationOptions.assemble s.rawOptions = .ok options ∧
        AsksFor s.specVersion options.specVersion := by
  have hraw : s.rawOptions.specVersion = s.specVersion := rfl
  rw [versionUnknown, GenerationOptions.assemble, GenerationOptions.version, hraw]
  cases hx : s.specVersion.bind Given.text? with
  | none => exact .inr ⟨rfl, _, rfl, by simp [hx], by simp [hx]⟩
  | some x =>
    dsimp only
    cases hb : Text.isBlankText x with
    | true => exact .inr ⟨rfl, _, rfl, by simp [hx, hb], by simp [hx, hb]⟩
    | false =>
      cases hv : SpecVersion.ofText? x with
      | none => exact .inl ⟨_, rfl, rfl⟩
      | some v =>
        have htext : v.text = Text.trim x := by simpa using List.find?_some hv
        refine .inr ⟨rfl, _, rfl, by simp [hx, hb], ?_⟩
        intro w
        simp only [Option.some.injEq, hx, exists_eq_left', hb, true_and]
        constructor
        · rintro rfl
          exact htext
        · intro hw
          exact SpecVersion.text_injective (htext.trans hw.symm)

end Step

end ComponentBuild
