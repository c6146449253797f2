import ComponentBuild.Proofs.CommandLine.Reported
import ComponentBuild.Proofs.CommandLine.SettingsFaults

/-!
How a session of the generate command ends. Whatever goes wrong between the settings and the end of
the generator's call ends it according to its kind. If the generator was called and has returned, it
ends well if it can tell where the descriptor is.
-/

namespace ComponentBuild

namespace BuildFailure

/-- What a failure is to say of a report: the place goes in front only if the report has one and is
not fatal. -/
structure Tells (f : BuildFailure) (r : Report) : Prop where
  message : f.message = if r.message = "" then fallbackMessage else r.message
  located_iff : f.text ≠ f.message ↔ r.isFatal = false ∧ r.source.isSome = true
  located : ∀ file, r.isFatal = false → r.source = some file →
    f.text = s!"{SourceLocation.text ⟨file, r.line.getD 0, 0⟩}: {f.message}"

theorem Reports.tells {f : BuildFailure} {r : Report} {cause : Option Thrown}
    (h : f.Reports r cause) : f.Tells r := by
  have hlocation (file : String) (hfatal : r.isFatal = false) (hsource : r.source = some file) :
      f.location = some ⟨file, r.line.getD 0, 0⟩ :=
    (h.location _).2 ⟨r.isFatal_eq_false_iff.1 hfatal, file, hsource, rfl⟩
  constructor
  · exact h.message
  · rw [ne_eq, h.plain_iff, ← ne_eq, Option.ne_none_iff_exists', Option.isSome_iff_exists]
    constructor
    · rintro ⟨l, hl⟩
      obtain ⟨hkind, file, hsource, -⟩ := (h.location l).1 hl
      exact ⟨r.isFatal_eq_false_iff.2 hkind, file, hsource⟩
    · rintro ⟨hfatal, file, hsource⟩
      exact ⟨_, hlocation file hfatal hsource⟩
  · intro file hfatal hsource
    exact h.shown _ (hlocation file hfatal hsource)

theorem tells_ofReport (r : Report) (cause : Option Thrown) : (ofReport r cause).Tells r :=
  (reports_ofReport r cause).tells

end BuildFailure

namespace CommandLine

inductive Fault
  | settings (fault : SettingsFault)
  | given (fault : GivenFault)
  | home (fault : HomeFault)
  | run (fault : RunFault)
  | build (failure : BuildFailure)

namespace Fault

def message : Fault → String
  | settings fault => fault.message
  | given fault => fault.message
  | home fault => fault.message
  | run fault => fault.message
  | build failure => failure.text

inductive IsConfiguration : Fault → Prop
  | settings {fault : SettingsFault} : fault.isConfiguration = true →
      IsConfiguration (.settings fault)
  | found (fault : ConfigurationFault) : IsConfiguration (.run (.configuration fault))
  | thrown (message : String) : IsConfiguration (.run (.thrown (.configuration message)))

inductive IsFailure : Fault → Prop
  | reported (failure : BuildFailure) : IsFailure (.build failure)
  | thrown (message : String) (cause : Option Thrown) (location : Option SourceLocation) :
      IsFailure (.run (.thrown (.build message cause location)))

end Fault

def Crash.fault? : Crash → Option Fault
  | settings fault => some (.settings fault)
  | given fault => some (.given fault)
  | home fault => some (.home fault)
  | run fault => some (.run fault)
  | report _ => none

namespace Fault

variable {fault : Fault}

def trouble : Fault → Trouble
  | settings fault => .ofSettings fault
  | given fault => .crash (.given fault)
  | home fault => .crash (.home fault)
  | run fault => .ofRun fault
  | build failure => .build failure

theorem trouble_of_isConfiguration (h : fault.IsConfiguration) :
    fault.trouble = .configuration fault.message := by
  cases h with
  | settings hfault => exact if_pos hfault
  | found fault => rfl
  | thrown message => rfl

theorem trouble_of_isFailure (h : fault.IsFailure) :
    ∃ failure, fault.trouble = .build failure ∧ failure.text = fault.message := by
  cases h with
  | reported failure => exact ⟨failure, rfl, rfl⟩
  | thrown message cause location => exact ⟨⟨message, cause, location⟩, rfl, rfl⟩

theorem trouble_of_other (hc : ¬ fault.IsConfiguration) (hf : ¬ fault.IsFailure) :
    ∃ crash, fault.trouble = .crash crash ∧ crash.fault? = some fault := by
  cases fault with
  | settings fault =>
    have hfault : ¬ fault.isConfiguration = true := fun h => hc (.settings h)
    exact ⟨.settings fault, if_neg hfault, rfl⟩
  | given fault => exact ⟨.given fault, rfl, rfl⟩
  | home fault => exact ⟨.home fault, rfl, rfl⟩
  | build failure => exact absurd (.reported failure) hf
  | run fault =>
    refine ⟨.run fault, ?_, rfl⟩
    cases fault with
    | configuration fault => exact absurd (.found fault) hc
    | thrown e =>
      cases e with
      | configuration message => exact absurd (.thrown message) hc
      | build message cause location => exact absurd (.thrown message cause location) hf
      | report type r cause => rfl
      | other type text => rfl
    | relativeImport fault => rfl
    | className fault => rfl
    | pattern fault => rfl
    | home fault => rfl
    | file error => rfl

end Fault

structure EndsWith (x : Session) (fault : Fault) : Prop where
  silent : x.output = ""
  configuration : fault.IsConfiguration → x.ending = .exited 1 ∧
    ∃ log, x.errors = log ++ s!"scrtask: {fault.message}\n"
  failure : fault.IsFailure → x.ending = .exited 1 ∧
    ∃ log, x.errors = log ++ s!"{fault.message}\nRun with --verbose for more details.\n"
  other : ¬ fault.IsConfiguration → ¬ fault.IsFailure →
    ∃ crash, x.ending = .crashed crash ∧ crash.fault? = some fault

theorem endsWith_of_trouble {x : Session} {fault : Fault} {log : String} (hsilent : x.output = "")
    (hending : x.ending = fault.trouble.ending) (herrors : x.errors = log ++ fault.trouble.text) :
    EndsWith x fault := by
  constructor
  · exact hsilent
  · intro hc
    rw [Fault.trouble_of_isConfiguration hc] at hending herrors
    exact ⟨hending, log, herrors⟩
  · intro hf
    obtain ⟨failure, htrouble, htext⟩ := Fault.trouble_of_isFailure hf
    rw [htrouble] at hending herrors
    rw [← htext]
    exact ⟨hending, log, herrors⟩
  · intro hc hf
    obtain ⟨crash, htrouble, hcrash⟩ := Fault.trouble_of_other hc hf
    rw [htrouble] at hending
    exact ⟨crash, hending, hcrash⟩

/-- The session has finished and has told where the descriptor is: in the file that the generator was
to write. -/
structure Succeeds (x : Session) (host : Host) : Prop where
  finished : x.ending = .finished
  told : ∃ call shown, x.calls = [call] ∧ x.output = s!"Descriptor written to {shown}\n" ∧
    host.workingPath.join (.ofText shown) = call.descriptorPath

/-- It can be told where the descriptor of a step is: the working directory is there after the run,
standard output has all characters of the line, and the line is about the file that was written. -/
structure Tellable (host : Host) (after : Tree) (s : Step) : Prop where
  directory : after.node? host.workingDirectory = some .directory
  printable : host.canPrint (writtenText host s) = true
  placed : ∀ d, s.outputDirectory = some d → host.KeepsPlace d (.ofText s.descriptor)

/-- How a session ends that cannot tell it: with an error that is not handled and without a line, or
with a line about another file. -/
inductive Misreports (host : Host) (s : Step) (x : Session) : Prop
  | gone : x.tree.node? host.workingDirectory ≠ some .directory →
      x.ending = .crashed (.report .noDirectory) → x.output = "" → Misreports host s x
  | unprinted : host.canPrint (writtenText host s) = false →
      x.ending = .crashed (.report (.unprintable (writtenText host s))) → x.output = "" →
      Misreports host s x
  | elsewhere {d : Path} {call : Call} {shown : String} : s.outputDirectory = some d →
      ¬ host.KeepsPlace d (.ofText s.descriptor) → x.ending = .finished → x.calls = [call] →
      x.output = s!"Descriptor written to {shown}\n" →
      host.workingPath.join (.ofText shown) ≠ call.descriptorPath → Misreports host s x

def runFault? (r : Run) : Option Fault :=
  match r.result with
  | .error fault => some (.run fault)
  | .ok outcome => if outcome.succeeded then none else some (.build (.ofOutcome outcome))

namespace GenerateArguments

variable {a : GenerateArguments} {host : Host} {registry : Registry} {s : Step} {fault : Fault}
  {t : Trouble}

def Describes (a : GenerateArguments) (host : Host) (s : Step) : Prop :=
  ∃ c c', Settings.load host (a.settingsPath host) = .ok c ∧ a.overlay c = .ok c' ∧
    Step.ofSettings host c' none = .ok s

/-- What goes wrong, stage by stage. -/
inductive Arises (a : GenerateArguments) (host : Host) (registry : Registry) : Fault → Prop
  | settings {fault : SettingsFault} :
      Settings.load host (a.settingsPath host) = .error fault →
      Arises a host registry (.settings fault)
  | given {c : Settings} {fault : GivenFault} :
      Settings.load host (a.settingsPath host) = .ok c → a.overlay c = .error fault →
      Arises a host registry (.given fault)
  | home {c c' : Settings} {fault : HomeFault} :
      Settings.load host (a.settingsPath host) = .ok c → a.overlay c = .ok c' →
      Step.ofSettings host c' none = .error fault → Arises a host registry (.home fault)
  | run {s : Step} {fault : RunFault} : a.Describes host s →
      (s.generate host registry .empty).result = .error fault →
      Arises a host registry (.run fault)
  | build {s : Step} {outcome : Outcome} : a.Describes host s →
      (s.generate host registry .empty).result = .ok outcome → outcome.succeeded = false →
      Arises a host registry (.build (.ofOutcome outcome))

def Answers (a : GenerateArguments) (host : Host) (registry : Registry) (thrown : Option Thrown) :
    Prop :=
  ∃ s g call, a.Describes host s ∧
    s.Called host .empty g call (s.generate host registry .empty) ∧
    (s.response host .empty g call.request).thrown = thrown

def prepare (a : GenerateArguments) (host : Host) : Except Fault Step :=
  match Settings.load host (a.settingsPath host) with
  | .error fault => .error (.settings fault)
  | .ok c =>
    match a.overlay c with
    | .error fault => .error (.given fault)
    | .ok c => (Step.ofSettings host c none).mapError .home

theorem prepare_of_load_error {fault : SettingsFault}
    (h : Settings.load host (a.settingsPath host) = .error fault) :
    a.prepare host = .error (.settings fault) := by
  rw [prepare, h]

theorem prepare_of_overlay_error {base : Settings} {fault : GivenFault}
    (h : Settings.load host (a.settingsPath host) = .ok base) (ho : a.overlay base = .error fault) :
    a.prepare host = .error (.given fault) := by
  simp only [prepare, h, ho]

theorem prepare_of_overlay {base c : Settings}
    (h : Settings.load host (a.settingsPath host) = .ok base) (ho : a.overlay base = .ok c) :
    a.prepare host = (Step.ofSettings host c none).mapError .home := by
  simp only [prepare, h, ho]

theorem step_eq (a : GenerateArguments) (host : Host) :
    a.step host = (a.prepare host).mapError Fault.trouble := by
  rw [step, settings, prepare]
  cases Settings.load host (a.settingsPath host) with
  | error fault => rfl
  | ok c =>
    dsimp only
    cases a.overlay c with
    | error fault => rfl
    | ok c =>
      dsimp only
      cases Step.ofSettings host c none with
      | error fault => rfl
      | ok s => rfl

theorem prepare_eq_ok : a.prepare host = .ok s ↔ a.Describes host s := by
  rw [prepare, Describes]
  cases Settings.load host (a.settingsPath host) with
  | error fault => simp
  | ok c =>
    dsimp only
    cases hc' : a.overlay c with
    | error fault => simp [hc']
    | ok c' => simp [hc', mapError_eq_ok]

theorem step_eq_ok : a.step host = .ok s ↔ a.prepare host = .ok s := by
  rw [step_eq, mapError_eq_ok]

theorem step_eq_ok_iff : a.step host = .ok s ↔ a.Describes host s :=
  step_eq_ok.trans prepare_eq_ok

theorem arises_iff : a.Arises host registry fault ↔ a.prepare host = .error fault ∨
    ∃ s, a.prepare host = .ok s ∧ runFault? (s.generate host registry .empty) = some fault := by
  constructor
  · intro h
    cases h with
    | settings hload => exact .inl (prepare_of_load_error hload)
    | given hload hoverlay => exact .inl (prepare_of_overlay_error hload hoverlay)
    | home hload hoverlay hs =>
      left
      rw [prepare_of_overlay hload hoverlay, hs]
      rfl
    | run hs hresult => exact .inr ⟨_, prepare_eq_ok.2 hs, by rw [runFault?, hresult]⟩
    | build hs hresult hfailed =>
      exact .inr ⟨_, prepare_eq_ok.2 hs, by simp [runFault?, hresult, hfailed]⟩
  · rintro (h | ⟨s, hs, hfault⟩)
    · cases hload : Settings.load host (a.settingsPath host) with
      | error fault =>
        rw [prepare_of_load_error hload] at h
        obtain rfl := Except.error.inj h
        exact .settings hload
      | ok c =>
        cases hoverlay : a.overlay c with
        | error fault =>
          rw [prepare_of_overlay_error hload hoverlay] at h
          obtain rfl := Except.error.inj h
          exact .given hload hoverlay
        | ok c' =>
          rw [prepare_of_overlay hload hoverlay] at h
          cases hs : Step.ofSettings host c' none with
          | ok s =>
            rw [hs] at h
            cases h
          | error fault =>
            rw [hs] at h
            obtain rfl := Except.error.inj h
            exact .home hload hoverlay hs
    · rw [prepare_eq_ok] at hs
      cases hresult : (s.generate host registry .empty).result with
      | error fault =>
        rw [runFault?, hresult] at hfault
        obtain rfl := Option.some.inj hfault
        exact .run hs hresult
      | ok outcome =>
        cases hfailed : outcome.succeeded with
        | true => simp [runFault?, hresult, hfailed] at hfault
        | false =>
          obtain rfl : Fault.build (.ofOutcome outcome) = fault := by
            simpa [runFault?, hresult, hfailed] using hfault
          exact .build hs hresult hfailed

end GenerateArguments

open BuildFailure (cause_ofReport tells_ofReport)
open GenerateArguments (arises_iff prepare_eq_ok prepare_of_load_error prepare_of_overlay
  prepare_of_overlay_error step_eq step_eq_ok_iff)

variable {a : GenerateArguments} {host : Host} {registry : Registry} {setup : LogSetup}
  {fault : Fault} {s : Step}

theorem generate_of_prepare_error (h : a.prepare host = .error fault) :
    generate host registry setup a = .troubled host fault.trouble := by
  have hstep : a.step host = .error fault.trouble := by
    rw [step_eq, h]
    rfl
  rw [generate, hstep]

theorem generate_of_describes (h : a.Describes host s) :
    generate host registry setup a = concluded host setup (s.generate host registry .empty) := by
  rw [generate, step_eq_ok_iff.2 h]

theorem endsWith_troubled (host : Host) (fault : Fault) :
    EndsWith (.troubled host fault.trouble) fault := by
  have herrors : fault.trouble.text = "" ++ fault.trouble.text := String.empty_append.symm
  exact endsWith_of_trouble rfl rfl herrors

theorem endsWith_concluded {r : Run} {f : ExecuteFault} (h : r.executed = .error f)
    (hf : Trouble.ofExecute f = fault.trouble) : EndsWith (concluded host setup r) fault := by
  rw [concluded, h]
  dsimp only
  rw [hf]
  exact endsWith_of_trouble rfl rfl rfl

theorem endsWith_of_prepare_error (h : a.prepare host = .error fault) :
    EndsWith (generate host registry setup a) fault := by
  rw [generate_of_prepare_error h]
  exact endsWith_troubled host fault

theorem endsWith_of_arises (h : a.Arises host registry fault) :
    EndsWith (generate host registry setup a) fault := by
  cases h with
  | settings hload => exact endsWith_of_prepare_error (prepare_of_load_error hload)
  | given hload hoverlay => exact endsWith_of_prepare_error (prepare_of_overlay_error hload hoverlay)
  | home hload hoverlay hs =>
    apply endsWith_of_prepare_error
    rw [prepare_of_overlay hload hoverlay, hs]
    rfl
  | run hs hresult =>
    rw [generate_of_describes hs]
    exact endsWith_concluded (Run.executed_of_error hresult) rfl
  | build hs hresult hfailed =>
    rw [generate_of_describes hs]
    exact endsWith_concluded (Run.executed_of_failure hresult hfailed) rfl

theorem reported_of_answers (h : a.Answers host registry none) (hs : a.Describes host s) :
    ∃ d call shown, s.outputDirectory = some d ∧
      (generate host registry setup a).calls = [call] ∧
      writtenText host s = s!"Descriptor written to {shown}" ∧
      (host.workingPath.join (.ofText shown) = call.descriptorPath ↔
        host.KeepsPlace d (.ofText s.descriptor)) ∧
      generate host registry setup a =
        (logged setup (s.generate host registry .empty)).report host s := by
  obtain ⟨s', g, call, hs', hcalled, hreturned⟩ := h
  obtain rfl := Except.ok.inj ((step_eq_ok_iff.2 hs').symm.trans (step_eq_ok_iff.2 hs))
  have hresult : (s'.generate host registry .empty).result = .ok .success := by
    rw [hcalled.result, hreturned]
    rfl
  obtain ⟨d, call, reported, hd, hcalls, -, hreported, habsolute, hiff⟩ :=
    Step.reported_of_success hresult
  have hsame : writtenText host (s'.generate host registry .empty).step = writtenText host s' := by
    rw [hcalled.step]
    rfl
  have hgenerate : generate host registry setup a =
      (logged setup (s'.generate host registry .empty)).report host s' := by
    rw [generate_of_describes hs, concluded_of_success hresult, Session.report, Session.report, hsame]
  refine ⟨d, call, shownFrom host reported, hd, ?_, ?_, ?_, hgenerate⟩
  · rw [generate_of_describes hs, calls_concluded, hcalls]
  · rw [← hsame, writtenText, hreported]
  · rw [join_shownFrom host habsolute]
    exact hiff

theorem answers_of_finished (h : (generate host registry setup a).ending = .finished) :
    a.Answers host registry none := by
  obtain ⟨s, hs, -, hresult, -⟩ := generate_of_finished h
  obtain ⟨g, call, -, hcalled⟩ := Step.called_of_result hresult
  exact ⟨s, g, call, step_eq_ok_iff.1 hs, hcalled, hcalled.returned_of_success hresult⟩

theorem answers_or_arises (a : GenerateArguments) (host : Host) (registry : Registry) :
    a.Answers host registry none ∨ ∃ fault, a.Arises host registry fault := by
  cases hs : a.prepare host with
  | error fault => exact .inr ⟨fault, arises_iff.2 (.inl hs)⟩
  | ok s =>
    have hdescribes := prepare_eq_ok.1 hs
    cases hresult : (s.generate host registry .empty).result with
    | error fault => exact .inr ⟨_, .run hdescribes hresult⟩
    | ok outcome =>
      cases outcome with
      | failure p => exact .inr ⟨_, .build hdescribes hresult rfl⟩
      | success =>
        obtain ⟨g, call, -, hcalled⟩ := Step.called_of_result hresult
        exact .inl ⟨s, g, call, hdescribes, hcalled, hcalled.returned_of_success hresult⟩

theorem calls_of_prepare_error (h : a.prepare host = .error fault) :
    (generate host registry setup a).calls = [] := by
  rw [generate_of_prepare_error h]
  rfl

theorem calls_of_prepare (h : a.prepare host = .ok s) :
    (generate host registry setup a).calls = (s.generate host registry .empty).calls := by
  rw [generate_of_describes (prepare_eq_ok.1 h), calls_concluded]

theorem calls_generate_le (host : Host) (registry : Registry) (setup : LogSetup)
    (a : GenerateArguments) : (generate host registry setup a).calls.length ≤ 1 := by
  cases hs : a.prepare host with
  | error fault =>
    rw [calls_of_prepare_error hs]
    exact Nat.zero_le 1
  | ok s =>
    rw [calls_of_prepare hs]
    rcases s.generate_stopped_or_called host registry .empty with ⟨hnone, -⟩ | ⟨g, call, -, hcalled⟩
    · rw [hnone]
      exact Nat.zero_le 1
    · rw [hcalled.calls]
      exact Nat.le_refl 1

theorem written_inj {p q : String}
    (h : s!"Descriptor written to {p}\n" = s!"Descriptor written to {q}\n") : p = q := by
  have hchars := congrArg String.toList h
  simp only [toString, String.toList_append, List.append_cancel_right_eq,
    List.append_cancel_left_eq] at hchars
  exact String.toList_injective hchars

theorem tellable_of_succeeds (h : Succeeds (generate host registry setup a) host)
    (hs : a.Describes host s) : Tellable host (generate host registry setup a).tree s := by
  obtain ⟨d, call, shown, hd, hcalls, hline, hiff, hgenerate⟩ :=
    reported_of_answers (answers_of_finished h.finished) hs
  obtain ⟨call', shown', hcalls', houtput, hplace⟩ := h.told
  have hfinished := h.finished
  rw [hgenerate] at hfinished houtput ⊢
  rw [Session.tree_report]
  rcases (logged setup (s.generate host registry .empty)).report_cases host s with
    ⟨hdirectory, hprints, hx⟩ | ⟨-, hx⟩ | ⟨-, hx⟩
  · refine ⟨hdirectory, hprints, ?_⟩
    intro d' hd'
    obtain rfl := Option.some.inj (hd.symm.trans hd')
    obtain rfl := List.singleton_inj.1 (hcalls.symm.trans hcalls')
    have hshown : shown = shown' := by
      apply written_inj
      rw [← houtput, hx, hline, logged, String.empty_append]
      rfl
    exact hiff.1 (hshown ▸ hplace)
  · rw [hx] at hfinished
    cases hfinished
  · rw [hx] at hfinished
    cases hfinished

theorem succeeds_or_misreports (h : a.Answers host registry none) (hs : a.Describes host s) :
    (Tellable host (generate host registry setup a).tree s ∧
      Succeeds (generate host registry setup a) host) ∨
    (¬ Tellable host (generate host registry setup a).tree s ∧
      Misreports host s (generate host registry setup a)) := by
  obtain ⟨d, call, shown, hd, hcalls, hline, hiff, hgenerate⟩ := reported_of_answers h hs
  have htree : (generate host registry setup a).tree =
      (logged setup (s.generate host registry .empty)).tree := by
    rw [hgenerate, Session.tree_report]
  rcases (logged setup (s.generate host registry .empty)).report_cases host s with
    ⟨hdirectory, hprints, hx⟩ | ⟨hgone, hx⟩ | ⟨hprints, hx⟩
  · have hfinished : (generate host registry setup a).ending = .finished := by
      rw [hgenerate, hx]
      rfl
    have houtput : (generate host registry setup a).output = s!"Descriptor written to {shown}\n" := by
      rw [hgenerate, hx, hline, logged, String.empty_append]
      rfl
    by_cases hkeeps : host.KeepsPlace d (.ofText s.descriptor)
    · refine .inl ⟨⟨htree ▸ hdirectory, hprints, ?_⟩, hfinished, ?_⟩
      · intro d' hd'
        obtain rfl := Option.some.inj (hd.symm.trans hd')
        exact hkeeps
      · exact ⟨call, shown, hcalls, houtput, hiff.2 hkeeps⟩
    · refine .inr ⟨fun ht => hkeeps (ht.placed d hd), ?_⟩
      exact .elsewhere hd hkeeps hfinished hcalls houtput (mt hiff.1 hkeeps)
  · refine .inr ⟨fun ht => hgone (htree ▸ ht.directory), ?_⟩
    apply Misreports.gone
    · rw [htree]
      exact hgone
    · rw [hgenerate, hx]
      rfl
    · rw [hgenerate, hx]
      rfl
  · refine .inr ⟨fun ht => by simp [ht.printable] at hprints, ?_⟩
    apply Misreports.unprinted hprints
    · rw [hgenerate, hx]
      rfl
    · rw [hgenerate, hx]
      rfl

/-- The generator is called once at most. A session succeeds exactly if the generator is called and
returns and it can be told where the descriptor is; if only that cannot be told, the session breaks
off or names another file. Otherwise it ends with what went wrong: with status 1 and its text for a
fault of the configuration and for a failure of the build, which every report of the generator comes
to, and without a word for anything else. -/
theorem session_ends (host : Host) (registry : Registry) {arguments : List String} {verbose : Bool}
    (hparse : parse arguments = .ok ⟨verbose, .generate a⟩) :
    (run host registry arguments).calls.length ≤ 1 ∧
      (Succeeds (run host registry arguments) host ↔ a.Answers host registry none ∧
        ∀ s, a.Describes host s → Tellable host (run host registry arguments).tree s) ∧
      (a.Answers host registry none → ∀ s, a.Describes host s →
        ¬ Tellable host (run host registry arguments).tree s →
          Misreports host s (run host registry arguments)) ∧
      (a.Answers host registry none ∨ ∃ fault, a.Arises host registry fault) ∧
      (∀ fault, a.Arises host registry fault → EndsWith (run host registry arguments) fault) ∧
      (∀ type r cause, a.Answers host registry (some (.report type r cause)) →
        ∃ f : BuildFailure, a.Arises host registry (.build f) ∧ f.Tells r ∧ f.cause = cause) ∧
      (∀ e, (∀ type r cause, e ≠ .report type r cause) → a.Answers host registry (some e) →
        a.Arises host registry (.run (.thrown e))) := by
  rw [run_of_parse hparse]
  refine ⟨calls_generate_le _ _ _ _, ?_, ?_, answers_or_arises a host registry, ?_, ?_, ?_⟩
  · constructor
    · intro h
      exact ⟨answers_of_finished h.finished, fun s hs => tellable_of_succeeds h hs⟩
    · rintro ⟨hanswers, htellable⟩
      have hdescribed := hanswers
      obtain ⟨s, -, -, hs, -⟩ := hdescribed
      rcases succeeds_or_misreports hanswers hs with ⟨-, hx⟩ | ⟨hno, -⟩
      · exact hx
      · exact absurd (htellable s hs) hno
  · intro hanswers s hs hno
    rcases succeeds_or_misreports hanswers hs with ⟨ht, -⟩ | ⟨-, hx⟩
    · exact absurd ht hno
    · exact hx
  · intro fault h
    exact endsWith_of_arises h
  · rintro type r cause ⟨s, g, call, hs, hcalled, hreport⟩
    refine ⟨.ofReport r cause, ?_, tells_ofReport r cause, cause_ofReport r cause⟩
    have hresult : (s.generate host registry .empty).result = .ok (.ofReport r cause) := by
      rw [hcalled.result, hreport]
      rfl
    exact .build hs hresult (Outcome.succeeded_ofReport r cause)
  · rintro e he ⟨s, g, call, hs, hcalled, hthrown⟩
    exact .run hs (hcalled.result_of_thrown hthrown he)

section Located

open SourceSet

def locatedReport : Report := ⟨"domain", "no name", some "A.java", some 4⟩

def locatedGenerator : Generator :=
  ⟨"Located", fun _ _ host =>
    ⟨host.tree, [], some (.report ⟨"Error", "Error"⟩ locatedReport none)⟩⟩

def locatedRegistry : Registry :=
  ⟨[("gens", .mk "module" "module" false none none
    [("located", .mk "object" "Located" false (some locatedGenerator.behaviour) none [])])], []⟩

def locatedWords : List String := ["generate", "src", "-d", "out", "--generator", "gens:located"]

def locatedArguments : GenerateArguments :=
  { GenerateArguments.empty with
    sourceDirectory := some "src"
    outputDirectory := some (.text "out")
    generator := some (.text "gens:located") }

theorem session_ends_located :
    (run plainHost locatedRegistry locatedWords).output = "" ∧
      (run plainHost locatedRegistry locatedWords).ending = .exited 1 ∧
      ∃ log, (run plainHost locatedRegistry locatedWords).errors =
        log ++ "A.java:4: no name\nRun with --verbose for more details.\n" := by
  have hparse : parse locatedWords = .ok ⟨false, .generate locatedArguments⟩ := rfl
  obtain ⟨-, -, -, -, hends, hreports, -⟩ := session_ends plainHost locatedRegistry hparse
  have hanswers : locatedArguments.Answers plainHost locatedRegistry
      (some (.report ⟨"Error", "Error"⟩ locatedReport none)) := by
    obtain ⟨s, hs, hfound, hlength⟩ : ∃ s, locatedArguments.step plainHost = .ok s ∧
        s.findGenerator locatedRegistry = .ok locatedGenerator ∧
        0 < (s.generate plainHost locatedRegistry .empty).calls.length :=
      ⟨_, rfl, rfl, by decide +kernel⟩
    obtain ⟨call, hcall⟩ := List.exists_mem_of_length_pos hlength
    obtain ⟨g, hg, hcalled⟩ := Step.called_of_mem hcall
    obtain rfl := Except.ok.inj (hfound.symm.trans hg)
    exact ⟨s, _, call, step_eq_ok_iff.1 hs, hcalled, rfl⟩
  obtain ⟨f, harises, htells, -⟩ := hreports _ _ _ hanswers
  have hends := hends _ harises
  obtain ⟨hstatus, log, herrors⟩ := hends.failure (.reported f)
  have hmessage : f.message = "no name" := htells.message
  have htext : f.text = "A.java:4: no name" := by
    rw [htells.located "A.java" rfl rfl, hmessage]
    rfl
  refine ⟨hends.silent, hstatus, log, ?_⟩
  rw [herrors, Fault.message, htext]
  rfl

end Located

section Untold

open SourceSet

def Ending.reportFault? : Ending → Option ReportFault
  | crashed (.report fault) => some fault
  | _ => none

def halfHost : Host :=
  { plainHost with
    tree := plainTree.insert [Settings.fileName] (.file (Text.utf8Bytes "final_name: \"\\uD800\""))
    prints := fun c => !Text.isHalf (Text.codePoint c) }

def clearingGenerator : Generator := ⟨"Clearing", fun _ _ _ => ⟨.empty, [], none⟩⟩

def clearingRegistry : Registry :=
  ⟨[("gens", .mk "module" "module" false none none
    [("clearing", .mk "object" "Clearing" false (some clearingGenerator.behaviour) none [])])], []⟩

def withinHost : Host := { plainHost with workingDirectory := [plainDirectory] }

/-- The generator is called and returns, and yet the written file is not told: its name cannot be
printed, or the working directory was removed, or another file is named. -/
theorem success_untold :
    (run halfHost silentRegistry (argumentsFor "out")).calls.length = 1 ∧
      (run halfHost silentRegistry (argumentsFor "out")).ending.reportFault? =
        some (.unprintable
          ("Descriptor written to out/" ++ String.singleton (Text.ofCodePoint 0xD800))) ∧
      (run halfHost silentRegistry (argumentsFor "out")).output = "" ∧
      (run withinHost clearingRegistry
        ["generate", ".", "-d", "/out", "--generator", "gens:clearing"]).calls.length = 1 ∧
      (run withinHost clearingRegistry
        ["generate", ".", "-d", "/out", "--generator", "gens:clearing"]).ending.reportFault? =
          some .noDirectory ∧
      (run withinHost clearingRegistry
        ["generate", ".", "-d", "/out", "--generator", "gens:clearing"]).output = "" ∧
      (run plainHost silentRegistry (argumentsFor "~/out")).calls.map Call.descriptorPath =
        [.ofText "/out/serviceComponents.xml"] ∧
      (run plainHost silentRegistry (argumentsFor "~/out")).output =
        "Descriptor written to ~/out/serviceComponents.xml\n" := by
  have hhalf : (fun x : Session => (x.calls.length, x.ending.reportFault?, x.output))
      (run halfHost silentRegistry (argumentsFor "out")) =
        (1, some (.unprintable
          ("Descriptor written to out/" ++ String.singleton (Text.ofCodePoint 0xD800))), "") := by
    decide +kernel
  have hcleared : (fun x : Session => (x.calls.length, x.ending.reportFault?, x.output))
      (run withinHost clearingRegistry
        ["generate", ".", "-d", "/out", "--generator", "gens:clearing"]) =
        (1, some .noDirectory, "") := by
    decide +kernel
  have helsewhere : (fun x : Session => (x.calls.map Call.descriptorPath, x.output))
      (run plainHost silentRegistry (argumentsFor "~/out")) =
        ([.ofText "/out/serviceComponents.xml"],
          "Descriptor written to ~/out/serviceComponents.xml\n") := by
    decide +kernel
  simp only [Prod.mk.injEq] at hhalf hcleared helsewhere
  exact ⟨hhalf.1, hhalf.2.1, hhalf.2.2, hcleared.1, hcleared.2.1, hcleared.2.2, helsewhere⟩

end Untold

end CommandLine

end ComponentBuild
