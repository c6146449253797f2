import ComponentBuild.Proofs.Path.Text
import ComponentBuild.Proofs.SourceSet.Collect
import ComponentBuild.Proofs.Step.Checks

namespace ComponentBuild.Step

variable {s : Step} {host : Host} {registry : Registry} {contexts : ClassContexts}

theorem Refused.not_expected {run : Run} (h : Refused run) :
    ¬ s.Expected host registry contexts run := by
  obtain ⟨hcalls, fault, hresult, hu⟩ := h
  intro he
  unfold Expected at he
  split at he
  · rename_i fault' hf
    obtain ⟨-, hresult'⟩ := he
    obtain rfl : fault = fault' := Except.error.inj (hresult.symm.trans hresult')
    exact firstFault_checked hf hu
  · obtain ⟨g, call, -, hcall, -⟩ := he
    rw [hcalls] at hcall
    cases hcall

theorem stopped_refused {records : List LogRecord} {fault : RunFault} (h : fault.Unchecked) :
    Refused (s.stopped host contexts records fault) :=
  ⟨rfl, fault, rfl, h⟩

theorem generate_cases (registry : Registry) (contexts : ClassContexts)
    (h : ∀ d, s.sources.directory = some d → ∃ root, host.settled d = .ok root ∧ host.Answers root) :
    (∃ fault records, s.firstFault host registry = some fault ∧
        s.generate host registry contexts = s.stopped host contexts records fault) ∨
      ∃ root output options g, s.firstFault host registry = none ∧
        s.sources.root host = .ok root ∧ s.outputDirectory = some output ∧
        GenerationOptions.assemble s.rawOptions = .ok options ∧
        AsksFor s.specVersion options.specVersion ∧ s.findGenerator registry = .ok g ∧
        s.generate host registry contexts =
          { s with generator := some g }.runChecked host contexts options output g := by
  rcases root_cases registry h with
    ⟨fault, hroot, hfirst⟩ | ⟨⟨root, hroot⟩, hunset, hmissing, hdirectory⟩
  · exact .inl ⟨_, [], hfirst, by rw [generate, hroot]; rfl⟩
  · cases ho : s.outputDirectory with
    | none =>
      refine .inl ⟨.configuration .outputUnset, s.configurationRecords, ?_, ?_⟩
      · simp [firstFault, hunset, hmissing, hdirectory, outputUnset, ho]
      · simp only [generate, hroot, ho]
    | some output =>
      have houtput : s.outputUnset = none := by rw [outputUnset, ho]
      rcases version_cases s with ⟨fault, hv, hassemble⟩ | ⟨hv, options, hassemble, hasks⟩
      · refine .inl ⟨.configuration (.options fault), s.configurationRecords, ?_, ?_⟩
        · simp [firstFault, hunset, hmissing, hdirectory, houtput, hv]
        · simp only [generate, hroot, ho, hassemble]
      · cases hg : s.findGenerator registry with
        | error fault =>
          refine .inl ⟨.ofLoad fault, s.configurationRecords, ?_, ?_⟩
          · simp [firstFault, hunset, hmissing, hdirectory, houtput, hv, generatorUnloadable, hg]
          · simp only [generate, hroot, ho, hassemble, hg]
        | ok g =>
          refine .inr ⟨root, output, options, g, ?_, hroot, rfl, hassemble, hasks, rfl, ?_⟩
          · simp [firstFault, hunset, hmissing, hdirectory, houtput, hv, generatorUnloadable, hg]
          · simp only [generate, hroot, ho, hassemble, hg]

section Checked

variable {options : GenerationOptions} {output : Path} {g : Generator}

variable (contexts options output g) in
theorem runChecked_stopped {p : Path} (hp : p ∈ s.classpath.entries) (h : ¬ host.Answers p) :
    ∃ e, s.runChecked host contexts options output g =
      s.stopped host contexts s.configurationRecords (.file e) := by
  obtain ⟨e, he⟩ := Classpath.dependencies_eq_error hp h
  exact ⟨e, by rw [runChecked, he]⟩

variable (contexts options output g) in
theorem runChecked_eq (h : ∀ p ∈ s.classpath.entries, host.Answers p) :
    ∃ records, s.runChecked host contexts options output g =
      s.runLoaded host (loading contexts host (s.classpath.existing host)).1
        (loading contexts host (s.classpath.existing host)).2 records (s.classpath.files host)
        options output g := by
  rw [runChecked, Classpath.dependencies_eq_ok h]
  simp only [ClassContexts.makeLoader_eq_ok _ h]
  exact ⟨_, rfl⟩

theorem runLoaded_refused {loader : Nat} {records more : List LogRecord}
    {dependencies : List Path} {fault : RunFault} (hu : fault.Unchecked)
    (h : s.project host loader dependencies output = (more, .error fault)) :
    Refused (s.runLoaded host contexts loader records dependencies options output g) := by
  rw [runLoaded, h]
  exact stopped_refused hu

theorem project_of_nothing {root : Path} (hroot : s.sources.root host = .ok root)
    (h : .nothing ∈ s.sources.includes ++ s.sources.excludes) (loader : Nat)
    (dependencies : List Path) :
    s.project host loader dependencies output = ([], .error (.pattern .pattern)) := by
  rw [project, SourceSet.collect_nothing hroot h]
  rfl

theorem project_of_home {files : List SourceFile} (hc : s.sources.collect host = .ok files)
    {fault : HomeFault} (h : host.settled output = .error fault) (loader : Nat)
    (dependencies : List Path) : ∃ records,
      s.project host loader dependencies output = (records, .error (.home fault)) := by
  simp only [project, hc, Project.make_text, h]
  exact ⟨_, rfl⟩

variable (contexts g) in
theorem runLoaded_calls {files : List SourceFile} {directory : Path} (records : List LogRecord)
    (hc : s.sources.collect host = .ok files) (ho : s.outputDirectory = some output)
    (hd : host.settled output = .ok directory)
    (ha : GenerationOptions.assemble s.rawOptions = .ok options)
    (hv : AsksFor s.specVersion options.specVersion) :
    let during := loading contexts host (s.classpath.existing host)
    let run := s.runLoaded host during.1 during.2 records (s.classpath.files host) options output g
    ∃ call, run.calls = [call] ∧ s.Calls host contexts g call ∧
      run.result =
        (s.conclude call.request (g.behaviour call.request during.1 host).thrown).2 := by
  simp only [runLoaded, project, hc, Project.make_text, hd]
  refine ⟨_, rfl, ?_, rfl⟩
  exact
    { generator := rfl
      sources := hc
      loader := rfl
      locations := by
        simp only [loading, ClassContexts.get?_make]
        rfl
      dependencies := rfl
      output := ⟨output, ho, hd⟩
      classesDirectory := rfl
      version := hv
      options := ha
      descriptor := rfl
      metadata := rfl }

end Checked

theorem Calls.of_generator {found : Option Generator} {g : Generator} {call : Call}
    (h : { s with generator := found }.Calls host contexts g call) :
    s.Calls host contexts g call where
  generator := h.generator
  sources := h.sources
  loader := h.loader
  locations := h.locations
  dependencies := h.dependencies
  output := h.output
  classesDirectory := h.classesDirectory
  version := h.version
  options := h.options
  descriptor := h.descriptor
  metadata := h.metadata

variable (contexts) in
theorem generate_loaded (h : s.Answered host registry) :
    (∃ fault records, s.firstFault host registry = some fault ∧
        s.generate host registry contexts = s.stopped host contexts records fault) ∨
      ∃ g files output directory options records, s.firstFault host registry = none ∧
        s.findGenerator registry = .ok g ∧ s.sources.collect host = .ok files ∧
        s.outputDirectory = some output ∧ host.settled output = .ok directory ∧
        GenerationOptions.assemble s.rawOptions = .ok options ∧
        AsksFor s.specVersion options.specVersion ∧
        s.generate host registry contexts = { s with generator := some g }.runLoaded host
          (loading contexts host (s.classpath.existing host)).1
          (loading contexts host (s.classpath.existing host)).2 records (s.classpath.files host)
          options output g := by
  rcases generate_cases registry contexts h.sources with
    ⟨fault, records, hfirst, hrun⟩ |
      ⟨root, output, options, g, hfirst, hroot, ho, ha, hv, hg, hrun⟩
  · exact .inl ⟨fault, records, hfirst, hrun⟩
  · obtain ⟨files, -, hc, -⟩ := SourceSet.collect_eq_ok hroot (h.patterns hfirst)
    obtain ⟨directory, hd⟩ := h.output hfirst output ho
    let loaded : Step := { s with generator := some g }
    obtain ⟨records, hchecked⟩ := loaded.runChecked_eq contexts options output g
      (h.classpath hfirst)
    exact .inr ⟨g, files, output, directory, options, records, hfirst, hg, hc, ho, hd, ha, hv,
      hrun.trans hchecked⟩

theorem expected_of_answered (h : s.Answered host registry) :
    s.Expected host registry contexts (s.generate host registry contexts) := by
  rcases generate_loaded contexts h with ⟨fault, records, hfirst, hrun⟩ |
    ⟨g, files, output, directory, options, records, hfirst, hg, hc, ho, hd, ha, hv, hrun⟩
  · rw [Expected, hfirst, hrun]
    exact ⟨rfl, rfl⟩
  · let loaded : Step := { s with generator := some g }
    obtain ⟨call, hcalls, hcall, hresult⟩ := loaded.runLoaded_calls contexts g records hc ho hd ha hv
    rw [Expected, hfirst, hrun]
    exact ⟨g, call, hg, hcalls, hcall.of_generator, hresult⟩

theorem sources_answered_or_refused {d : Path} (hd : s.sources.directory = some d) :
    (∃ root, host.settled d = .ok root ∧ host.Answers root) ∨
      Refused (s.generate host registry contexts) := by
  cases hr : host.settled d with
  | error fault =>
    have hroot : s.sources.root host = .error (.home fault) := by
      rw [SourceSet.root, hd]
      simp only [hr]
    right
    rw [generate, hroot]
    exact stopped_refused (.home fault)
  | ok root =>
    by_cases ha : host.Answers root
    · exact .inl ⟨root, rfl, ha⟩
    · have hroot : s.sources.root host = .error (.file ⟨.tooLong, root⟩) := by
        rw [SourceSet.root, hd]
        simp only [hr, SourceSet.checkedRoot, Host.exists?, Host.ask_of_not_answers ha]
      right
      rw [generate, hroot]
      exact stopped_refused (.file _)

theorem checked_answered_or_refused {root output : Path} {options : GenerationOptions}
    {g : Generator} (hroot : s.sources.root host = .ok root) :
    ((∀ p ∈ s.classpath.entries, host.Answers p) ∧
        .nothing ∉ s.sources.includes ++ s.sources.excludes ∧
          ∃ directory, host.settled output = .ok directory) ∨
      Refused (s.runChecked host contexts options output g) := by
  by_cases hclasspath : ∀ p ∈ s.classpath.entries, host.Answers p
  · obtain ⟨records, hrun⟩ := runChecked_eq contexts options output g hclasspath
    rw [hrun]
    by_cases hnothing : .nothing ∈ s.sources.includes ++ s.sources.excludes
    · right
      apply runLoaded_refused (.pattern _)
      exact project_of_nothing hroot hnothing _ _
    · cases hd : host.settled output with
      | ok directory => exact .inl ⟨hclasspath, hnothing, directory, rfl⟩
      | error fault =>
        obtain ⟨files, -, hc, -⟩ := SourceSet.collect_eq_ok hroot hnothing
        obtain ⟨more, hproject⟩ := project_of_home hc hd
          (loading contexts host (s.classpath.existing host)).2 (s.classpath.files host)
        right
        exact runLoaded_refused (.home fault) hproject
  · simp only [Classical.not_forall] at hclasspath
    obtain ⟨p, hp, ha⟩ := hclasspath
    obtain ⟨e, hstop⟩ := runChecked_stopped contexts options output g hp ha
    right
    rw [hstop]
    exact stopped_refused (.file e)

theorem answered_or_refused (s : Step) (host : Host) (registry : Registry)
    (contexts : ClassContexts) :
    s.Answered host registry ∨ Refused (s.generate host registry contexts) := by
  by_cases hrefused : Refused (s.generate host registry contexts)
  · exact .inr hrefused
  · have hsources : ∀ d, s.sources.directory = some d →
        ∃ root, host.settled d = .ok root ∧ host.Answers root := by
      intro d hd
      exact (sources_answered_or_refused hd).resolve_right hrefused
    rcases generate_cases registry contexts hsources with
      ⟨fault, records, hfirst, -⟩ | ⟨root, output, options, g, -, hroot, ho, -, -, -, hrun⟩
    · have hnone : s.firstFault host registry ≠ none := by simp [hfirst]
      left
      constructor
      · exact hsources
      · intro h
        exact absurd h hnone
      · intro h
        exact absurd h hnone
      · intro h
        exact absurd h hnone
    · rw [hrun] at hrefused
      obtain ⟨hclasspath, hpatterns, hdirectory⟩ := (checked_answered_or_refused
        (s := { s with generator := some g }) hroot).resolve_right hrefused
      left
      constructor
      · exact hsources
      · intro _
        exact hclasspath
      · intro _
        exact hpatterns
      · intro _ d hd
        obtain rfl : output = d := Option.some.inj (ho.symm.trans hd)
        exact hdirectory

/-- A run is as expected if and only if the system answers all that it has to know; otherwise it
stops without a call, at a question that is not answered or at a pattern without a text. -/
theorem generate_expected_iff (s : Step) (host : Host) (registry : Registry)
    (contexts : ClassContexts) :
    (s.Expected host registry contexts (s.generate host registry contexts) ↔
        s.Answered host registry) ∧
      (¬ s.Answered host registry → Refused (s.generate host registry contexts)) := by
  have h := s.answered_or_refused host registry contexts
  constructor
  · constructor
    · intro he
      apply h.resolve_right
      intro hr
      exact hr.not_expected he
    · exact expected_of_answered
  · exact h.resolve_left

section LongEntry

open SourceSet

def longName : Name := .repeated 'c' 256 (by decide) (by decide)

def longEntry : Path := .ofLocation [longName]

def silentGenerator : Generator := ⟨"Silent", fun _ _ host => ⟨host.tree, [], none⟩⟩

def longStep : Step :=
  { Step.make (some silentGenerator) none with
    sources := plainSet
    outputDirectory := some plainRoot
    classpath := Classpath.empty.insert longEntry rfl }

theorem not_answers_longEntry : ¬ plainHost.Answers longEntry := by
  have hsize : longName.text.utf8ByteSize = 256 := Name.size_repeated 'c' 256 _ _
  have hnull : longEntry.hasNullByte = false := by
    have hn : '\x00' ∉ longName.text.toList := Name.not_mem_repeated _ _ (by decide)
    simp [longEntry, Path.ofLocation, Path.hasNullByte, Segment.text, hn]
  have htext : longEntry.text = "/" ++ longName.text := by
    rw [Path.text_of_isAbsolute rfl]
    simp [longEntry, Path.ofLocation, Anchor.text, Segment.text]
  have hslash : "/".utf8ByteSize = 1 := rfl
  have hfault : longEntry.fault? = none := by
    rw [Path.fault?, hnull, htext, String.utf8ByteSize_append, hsize, hslash]
    decide
  have hlocate : plainHost.tree.locate plainHost.workingDirectory longEntry = .error .tooLong := by
    have hlong : longName.isTooLong = true := by simp [Name.isTooLong, hsize]
    have hstart : Tree.startOf plainHost.workingDirectory longEntry = [] := rfl
    have hsegments : longEntry.segments = [.entry longName] := rfl
    rw [Tree.locate, Tree.locateWith, hfault, hstart, hsegments, Tree.linkLimit, Tree.walk,
      Tree.walkWith_tooLong rfl hlong]
  intro h
  apply h
  rw [Tree.find, hlocate]

/-- An entry with too long a name ends a run, although no check fails and nothing is there. -/
theorem generate_refuses_longEntry :
    longStep.firstFault plainHost ⟨[], []⟩ = none ∧
      Refused (longStep.generate plainHost ⟨[], []⟩ .empty) ∧
        ¬ longStep.Expected plainHost ⟨[], []⟩ .empty
          (longStep.generate plainHost ⟨[], []⟩ .empty) := by
  have hfirst : longStep.firstFault plainHost ⟨[], []⟩ = none := rfl
  have hrefused : Refused (longStep.generate plainHost ⟨[], []⟩ .empty) := by
    apply (longStep.answered_or_refused plainHost ⟨[], []⟩ .empty).resolve_left
    intro h
    apply not_answers_longEntry
    exact h.classpath hfirst longEntry (Classpath.mem_insert _ _ rfl)
  exact ⟨hfirst, hrefused, hrefused.not_expected⟩

end LongEntry

end ComponentBuild.Step
