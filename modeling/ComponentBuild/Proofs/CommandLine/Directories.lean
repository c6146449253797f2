import ComponentBuild.Proofs.CommandLine.Endings
import ComponentBuild.Proofs.CommandLine.Reported
import ComponentBuild.Proofs.Step.Directory

/-!
A directory of a step in the settings file and on the command line. A text that names a directory
comes to the same one both ways. The empty text does not: in a file it leaves the directory unset, as
an option it is the working directory. Neither does a text with an unknown user, which a file is
refused for.
-/

namespace ComponentBuild

open CommandLine (GenerateArguments)

namespace Directory

def Silent (d : Directory) (a : GenerateArguments) : Prop :=
  match d with
  | source => a.sourceDirectory = none
  | output => a.outputDirectory = none

def give (d : Directory) (t : String) (a : GenerateArguments) : GenerateArguments :=
  match d with
  | source => { a with sourceDirectory := some t }
  | output => { a with outputDirectory := some (.text t) }

end Directory

namespace CommandLine

variable {host there : Host} {d : Directory} {t : String} {a : GenerateArguments} {file : Path}
  {pairs : List (Value × Value)} {registry : Registry} {setup setup' : LogSetup} {fault : Fault}
  {q : Option Path}

open GenerateArguments (arises_iff prepare_eq_ok prepare_of_load_error prepare_of_overlay
  prepare_of_overlay_error step_eq_ok)

theorem overlay_set (h : d.Silent a) (q : Option Path) (c : Settings) :
    a.overlay (d.set q c) = d.set q <$> a.overlay c := by
  cases d with
  | source =>
    have hs : a.sourceDirectory = none := h
    simp only [GenerateArguments.overlay, hs, map_bind]
    rfl
  | output =>
    have hs : a.outputDirectory = none := h
    simp only [GenerateArguments.overlay, hs, map_bind]
    rfl

theorem overlay_give (h : d.Silent a) (t : String) (c : Settings) :
    (d.give t a).overlay c = d.set (some (.ofText t)) <$> a.overlay c := by
  cases d with
  | source =>
    simp only [GenerateArguments.overlay, Directory.give, map_bind]
    rfl
  | output =>
    have hs : a.outputDirectory = none := h
    simp only [GenerateArguments.overlay, Directory.give, hs, map_bind]
    rfl

/-- A text is given for a directory in the settings file of one host. On the other one the same file
is without it, and the command line gives it instead. -/
structure TwoWays (d : Directory) (t : String) (a : GenerateArguments) (host there : Host)
    (file : Path) (pairs : List (Value × Value)) : Prop where
  silent : d.Silent a
  names : host.SameNames there
  place : file.parent = host.workingPath
  reads : Settings.Reads host (a.settingsPath host) file pairs
  field : Settings.field pairs d.key = .text t
  rest : Settings.Reads there (a.settingsPath there) file (Settings.without d.key pairs)

structure Usable (host : Host) (t : String) : Prop where
  nonempty : t ≠ ""
  known : host.home.Knows (.ofText t)

namespace TwoWays

theorem load_eq (h : TwoWays d t a host there file pairs)
    (hq : Settings.asPath? host.home host.workingPath (.text t) = .ok q) :
    Settings.load host (a.settingsPath host) =
      d.set q <$> Settings.load there ((d.give t a).settingsPath there) := by
  have hpath : (d.give t a).settingsPath there = a.settingsPath there := by
    cases d <;> rfl
  rw [hpath, Settings.load_eq_of_reads h.reads, Settings.load_eq_of_reads h.rest, h.place,
    ← h.names.home]
  rw [← h.field] at hq
  rw [Settings.ofPairs_directory d hq]
  cases Settings.ofPairs host.home host.workingPath (Settings.without d.key pairs) with
  | error fault => rfl
  | ok c => rfl

theorem prepare_cases (h : TwoWays d t a host there file pairs)
    (hq : Settings.asPath? host.home host.workingPath (.text t) = .ok q) :
    (∃ fault, a.prepare host = .error fault ∧ (d.give t a).prepare there = .error fault) ∨
      ∃ c, a.prepare host = (Step.ofSettings host (d.set q c) none).mapError .home ∧
        (d.give t a).prepare there =
          (Step.ofSettings there (d.set (some (.ofText t)) c) none).mapError .home := by
  have hload := h.load_eq hq
  cases hrest : Settings.load there ((d.give t a).settingsPath there) with
  | error fault =>
    rw [hrest] at hload
    exact .inl ⟨_, prepare_of_load_error hload, prepare_of_load_error hrest⟩
  | ok base =>
    rw [hrest] at hload
    have hset := overlay_set h.silent q base
    have hgive := overlay_give h.silent t base
    cases hc : a.overlay base with
    | error fault =>
      rw [hc] at hset hgive
      exact .inl ⟨_, prepare_of_overlay_error hload hset, prepare_of_overlay_error hrest hgive⟩
    | ok c =>
      rw [hc] at hset hgive
      exact .inr ⟨c, prepare_of_overlay hload hset, prepare_of_overlay hrest hgive⟩

theorem alike (h : TwoWays d t a host there file pairs) (ht : Usable host t) :
    (∃ fault, a.prepare host = .error fault ∧ (d.give t a).prepare there = .error fault) ∨
      ∃ s s', a.prepare host = .ok s ∧ (d.give t a).prepare there = .ok s' ∧
        s.Alike s' host there := by
  obtain ⟨q, hq, hsettled, hentered⟩ := Settings.pathFrom_of_knows ht.known
  have hpath : Settings.asPath? host.home host.workingPath (.text t) = .ok (some q) := by
    rw [Settings.asPath?_text, if_neg ht.nonempty, hq]
    rfl
  rcases h.prepare_cases hpath with hfault | ⟨c, hown, hgiven⟩
  · exact .inl hfault
  · rcases Step.ofSettings_alike d c h.names hsettled hentered with
      ⟨fault, hs, hs'⟩ | ⟨s, s', hs, hs', halike⟩
    · rw [hown, hgiven, hs, hs']
      exact .inl ⟨_, rfl, rfl⟩
    · rw [hown, hgiven, hs, hs']
      exact .inr ⟨s, s', rfl, rfl, halike⟩

theorem calls_eq (h : TwoWays d t a host there file pairs) (ht : Usable host t) :
    (generate host registry setup a).calls =
      (generate there registry setup' (d.give t a)).calls := by
  rcases h.alike ht with ⟨fault, hown, hgiven⟩ | ⟨s, s', hown, hgiven, halike⟩
  · rw [calls_of_prepare_error hown, calls_of_prepare_error hgiven]
  · rw [calls_of_prepare hown, calls_of_prepare hgiven, (halike.generate registry .empty).calls]

theorem arises_congr (h : TwoWays d t a host there file pairs) (ht : Usable host t)
    (hnone : (generate host registry setup a).calls = []) :
    a.Arises host registry fault ↔ (d.give t a).Arises there registry fault := by
  rw [arises_iff, arises_iff]
  rcases h.alike ht with ⟨other, hown, hgiven⟩ | ⟨s, s', hown, hgiven, halike⟩
  · simp [hown, hgiven]
  · rw [calls_of_prepare hown] at hnone
    have hresult := (halike.generate registry .empty).result hnone
    have hfault : runFault? (s.generate host registry .empty) =
        runFault? (s'.generate there registry .empty) := by
      rw [runFault?, runFault?, hresult]
    simp [hown, hgiven, hfault]

theorem directories_eq (h : TwoWays d t a host there file pairs) (ht : Usable host t) {s s' : Step}
    (hs : a.step host = .ok s) (hs' : (d.give t a).step there = .ok s') :
    s.sources.root host = s'.sources.root there ∧
      s.outputDirectory.map host.settled = s'.outputDirectory.map there.settled := by
  rw [step_eq_ok] at hs hs'
  rcases h.alike ht with ⟨fault, hown, -⟩ | ⟨r, r', hown, hgiven, halike⟩
  · rw [hs] at hown
    cases hown
  · obtain rfl := Except.ok.inj (hs.symm.trans hown)
    obtain rfl := Except.ok.inj (hs'.symm.trans hgiven)
    exact ⟨halike.root, halike.output⟩

theorem inStep_of_empty (h : TwoWays d "" a host there file pairs) :
    (∀ s, a.prepare host = .ok s → d.inStep s = none) ∧
      ∀ s, (d.give "" a).prepare there = .ok s → d.inStep s = some .here := by
  have hset {host : Host} {c : Settings} {p : Option Path} {s : Step}
      (hs : (Step.ofSettings host (d.set p c) none).mapError Fault.home = .ok s) :
      d.inStep s = p := by
    obtain ⟨cp, -, rfl⟩ := Step.ofSettings_eq_ok.1 (mapError_eq_ok.1 hs)
    cases d <;> rfl
  -- A path without a name is the working directory, so on the command line it is not unset.
  have hempty : Path.ofText "" = .here := by
    decide
  rcases h.prepare_cases rfl with ⟨fault, hown, hgiven⟩ | ⟨c, hown, hgiven⟩
  · simp [hown, hgiven]
  · rw [hown, hgiven, hempty]
    exact ⟨fun s hs => hset hs, fun s hs => hset hs⟩

theorem prepare_of_unknown (h : TwoWays d t a host there file pairs)
    (ht : ¬ host.home.Knows (.ofText t)) :
    ∃ fault, a.prepare host = .error (.settings (.field fault)) := by
  have hne : t ≠ "" := by
    rintro rfl
    apply ht
    intro user rest huser
    cases huser
  have hfrom : ∃ fault, Settings.pathFrom host.home host.workingPath t = .error fault := by
    cases hp : Settings.pathFrom host.home host.workingPath t with
    | error fault => exact ⟨fault, rfl⟩
    | ok p => exact absurd (Settings.pathFrom_succeeds_iff.1 ⟨p, hp⟩) ht
  obtain ⟨fault, hfault⟩ := hfrom
  have hpath : Settings.asPath? host.home host.workingPath (.text t) = .error fault := by
    rw [Settings.asPath?_text, if_neg hne, hfault]
    rfl
  rw [← h.field] at hpath
  obtain ⟨other, hother⟩ := Settings.ofPairs_of_asPath?_error d hpath
  refine ⟨other, prepare_of_load_error ?_⟩
  rw [Settings.load_eq_of_reads h.reads, h.place, hother]
  rfl

theorem calls_of_not_usable (h : TwoWays d t a host there file pairs) (ht : ¬ Usable host t) :
    (generate host registry setup a).calls = [] := by
  by_cases hknown : host.home.Knows (.ofText t)
  · have hempty : t = "" := by
      by_contra hne
      exact ht ⟨hne, hknown⟩
    subst hempty
    cases hs : a.prepare host with
    | error fault => exact calls_of_prepare_error hs
    | ok s =>
      rw [calls_of_prepare hs]
      exact Step.calls_of_unset (h.inStep_of_empty.1 s hs) registry .empty
  · obtain ⟨fault, hfault⟩ := h.prepare_of_unknown hknown
    exact calls_of_prepare_error hfault

end TwoWays

theorem settled_here (host : Host) : host.settled .here = .ok host.workingPath := by
  have habs : host.absolute .here = host.workingPath := by
    simp [Host.absolute, Path.join, Path.here, Path.isAbsolute, Host.workingPath, Path.ofLocation]
  have hknown : Path.here.expandKnownHome host.home = .ok .here := rfl
  have hnormal : host.workingPath.normalized = host.workingPath := by
    simp [Host.workingPath, Path.normalized, Path.ofLocation, Path.settle_entries]
  rw [Host.settled, hknown]
  simp only [Except.map, habs, hnormal]

/-- A usable text comes to the same directories, to the same call and, without a call, to the same
faults in the settings file and on the command line. The empty text stops the run in the file and is
the working directory on the command line, and the file is refused for an unknown user. So the runs
call the generator alike exactly for a usable text, or if the command line comes to no call either. -/
theorem directory_two_ways (h : TwoWays d t a host there file pairs) (registry : Registry)
    (setup setup' : LogSetup) :
    (Usable host t →
      (generate host registry setup a).calls =
          (generate there registry setup' (d.give t a)).calls ∧
        (∀ s s', a.step host = .ok s → (d.give t a).step there = .ok s' →
          s.sources.root host = s'.sources.root there ∧
            s.outputDirectory.map host.settled = s'.outputDirectory.map there.settled) ∧
        ((generate host registry setup a).calls = [] → ∀ fault,
          a.Arises host registry fault ↔ (d.give t a).Arises there registry fault)) ∧
      (t = "" → (generate host registry setup a).calls = [] ∧
        (∀ s, a.step host = .ok s → d.inStep s = none) ∧
        ∀ s, (d.give t a).step there = .ok s →
          (d.inStep s).map there.settled = some (.ok there.workingPath)) ∧
      (¬ host.home.Knows (.ofText t) → (generate host registry setup a).calls = [] ∧
        ∃ fault, a.Arises host registry (.settings (.field fault))) ∧
      ((generate host registry setup a).calls =
          (generate there registry setup' (d.give t a)).calls ↔
        Usable host t ∨ (generate there registry setup' (d.give t a)).calls = []) := by
  refine ⟨?_, ?_, ?_, ?_⟩
  · intro ht
    refine ⟨h.calls_eq ht, ?_, ?_⟩
    · intro s s' hs hs'
      exact h.directories_eq ht hs hs'
    · intro hnone fault
      exact h.arises_congr ht hnone
  · rintro rfl
    have hunusable : ¬ Usable host "" := fun ht => ht.nonempty rfl
    refine ⟨h.calls_of_not_usable hunusable, ?_, ?_⟩
    · intro s hs
      exact h.inStep_of_empty.1 s (step_eq_ok.1 hs)
    · intro s hs
      rw [h.inStep_of_empty.2 s (step_eq_ok.1 hs), Option.map_some, settled_here]
  · intro ht
    obtain ⟨fault, hfault⟩ := h.prepare_of_unknown ht
    exact ⟨calls_of_prepare_error hfault, fault, arises_iff.2 (.inl hfault)⟩
  · constructor
    · intro he
      by_cases ht : Usable host t
      · exact .inl ht
      · right
        rw [← he]
        exact h.calls_of_not_usable ht
    · rintro (ht | hnone)
      · exact h.calls_eq ht
      · by_cases ht : Usable host t
        · exact h.calls_eq ht
        · rw [hnone, h.calls_of_not_usable ht]

section Plain

open SourceSet (plainTree plainHost)

def settingsFile : Path := .ofLocation [Settings.fileName]

def spelledHost (bytes : List UInt8) : Host :=
  { plainHost with
    tree :=
      { entries := plainTree.entries ++ [([Settings.fileName], .file bytes)]
        distinct := by simp [plainTree]; decide } }

def silentArguments : GenerateArguments :=
  { GenerateArguments.empty with
    sourceDirectory := some "src"
    generator := some (.text "gens:silent") }

theorem twoWays_output {bytes : List UInt8}
    (h : Settings.holds (spelledHost bytes) settingsFile (Settings.textPairs [("destdir", t)])) :
    TwoWays .output t silentArguments (spelledHost bytes) (spelledHost []) settingsFile
      (Settings.textPairs [("destdir", t)]) := by
  have htop (bytes : List UInt8) : (spelledHost bytes).workingPath = .ofText "/" := by
    rfl
  have hfound (bytes : List UInt8) :
      Settings.filePath (spelledHost bytes) (spelledHost bytes).workingPath = .ok settingsFile := by
    rw [htop]
    rfl
  have hnothing : Settings.holds (spelledHost []) settingsFile [] := by
    decide +kernel
  refine ⟨rfl, ⟨rfl⟩, rfl, ⟨hfound bytes, rfl, Settings.readValue_of_holds h⟩, rfl, hfound [], rfl, ?_⟩
  exact Settings.readValue_of_holds hnothing

def outputs (calls : List Call) : List Path := calls.map fun call => call.request.outputDirectory

theorem directory_two_ways_home :
    (generate (spelledHost (Text.utf8Bytes "destdir: ~/out")) silentRegistry ⟨0, []⟩
        silentArguments).calls =
      (generate (spelledHost []) silentRegistry ⟨0, []⟩
        (Directory.output.give "~/out" silentArguments)).calls ∧
      outputs (generate (spelledHost []) silentRegistry ⟨0, []⟩
        (Directory.output.give "~/out" silentArguments)).calls = [.ofText "/out"] := by
  have houtput : outputs (generate (spelledHost []) silentRegistry ⟨0, []⟩
      (Directory.output.give "~/out" silentArguments)).calls = [.ofText "/out"] := by
    decide +kernel
  have hheld : Settings.holds (spelledHost (Text.utf8Bytes "destdir: ~/out")) settingsFile
      (Settings.textPairs [("destdir", "~/out")]) := by
    decide +kernel
  have hknows : (spelledHost (Text.utf8Bytes "destdir: ~/out")).home.Knows (.ofText "~/out") :=
    Home.knows_iff.2 ⟨.ofText "/out", by decide +kernel⟩
  obtain ⟨husable, -⟩ := directory_two_ways (twoWays_output hheld) silentRegistry ⟨0, []⟩ ⟨0, []⟩
  exact ⟨(husable ⟨by decide, hknows⟩).1, houtput⟩

/-- The empty output directory stops the run when it is in the settings file. On the command line it
is the working directory. -/
theorem empty_output_disagrees :
    TwoWays .output "" silentArguments (spelledHost (Text.utf8Bytes "destdir: ''"))
        (spelledHost []) settingsFile (Settings.textPairs [("destdir", "")]) ∧
      (generate (spelledHost (Text.utf8Bytes "destdir: ''")) silentRegistry ⟨0, []⟩
        silentArguments).calls = [] ∧
      outputs (generate (spelledHost []) silentRegistry ⟨0, []⟩
        (Directory.output.give "" silentArguments)).calls = [.ofText "/"] := by
  have houtput : outputs (generate (spelledHost []) silentRegistry ⟨0, []⟩
      (Directory.output.give "" silentArguments)).calls = [.ofText "/"] := by
    decide +kernel
  have hheld : Settings.holds (spelledHost (Text.utf8Bytes "destdir: ''")) settingsFile
      (Settings.textPairs [("destdir", "")]) := by
    decide +kernel
  have hways := twoWays_output hheld
  refine ⟨hways, ?_, houtput⟩
  apply hways.calls_of_not_usable
  intro ht
  exact ht.nonempty rfl

end Plain

end CommandLine

end ComponentBuild
