import ComponentBuild.Proofs.CommandLine.Session
import ComponentBuild.Proofs.Step.Called

/-!
Where a descriptor is said to be written. The directory that it is written to is looked up below a
home directory, the one in the report is not, so the two are the same file unless that makes a
difference. What is printed is always the path of the report, as seen from the working directory.
-/

namespace ComponentBuild

namespace Path

variable {p base q : Path}

theorem join_of_not_isAbsolute (p : Path) (h : q.isAbsolute = false) :
    p.join q = ⟨p.anchor, p.segments ++ q.segments⟩ := by
  rw [join, h]
  rfl

theorem join_relativeTo? (h : p.relativeTo? base = some q) : base.join q = p := by
  obtain ⟨anchor, segments⟩ := p
  unfold relativeTo? at h
  split at h
  · rename_i hbelow
    obtain ⟨rfl, rest, rfl⟩ := hbelow
    obtain rfl := Option.some.inj h
    rw [join_of_not_isAbsolute _ rfl]
    simp
  · cases h

theorem join_left_inj {p' : Path} (h : q.isAbsolute = false) : p.join q = p'.join q ↔ p = p' := by
  obtain ⟨anchor, segments⟩ := p
  obtain ⟨anchor', segments'⟩ := p'
  rw [join_of_not_isAbsolute _ h, join_of_not_isAbsolute _ h]
  simp

end Path

def Call.descriptorPath (c : Call) : Path := c.request.outputDirectory.join (.ofText c.request.descriptor)

namespace Host

variable {host : Host} {d name : Path}

/-- A file in a directory is the same one with and without a look-up of home directories. -/
def KeepsPlace (host : Host) (d name : Path) : Prop :=
  name.isAbsolute = true ∨ host.settled d = .ok (host.absolute d).normalized

theorem keepsPlace_of_homeUser? (name : Path) (h : d.homeUser? = none) : host.KeepsPlace d name := by
  right
  rw [settled, Path.expandKnownHome, Path.expandHome_of_homeUser?_eq_none _ h]
  rfl

theorem keepsPlace_iff {output : Path} (h : host.settled d = .ok output) :
    host.KeepsPlace d name ↔ (host.absolute d).normalized.join name = output.join name := by
  rw [KeepsPlace, h]
  cases hn : name.isAbsolute with
  | true => simp [Path.join_absolute hn]
  | false =>
    rw [Path.join_left_inj hn]
    simp [eq_comm]

end Host

namespace Step

variable {s : Step} {host : Host} {registry : Registry} {contexts : ClassContexts}

theorem reported_of_success (h : (s.generate host registry contexts).result = .ok .success) :
    ∃ d call reported, s.outputDirectory = some d ∧
      (s.generate host registry contexts).calls = [call] ∧ call.request.descriptor = s.descriptor ∧
      (s.generate host registry contexts).step.descriptorPath? host = some reported ∧
      reported.isAbsolute = true ∧
      (reported = call.descriptorPath ↔ host.KeepsPlace d (.ofText s.descriptor)) := by
  obtain ⟨g, call, -, hcalled⟩ := called_of_result h
  obtain ⟨d, hd, hsettled⟩ := hcalled.described.output
  have hname := hcalled.described.descriptor
  have hreported : (s.generate host registry contexts).step.descriptorPath? host =
      some ((host.absolute d).normalized.join (.ofText s.descriptor)) := by
    rw [hcalled.step]
    simp [descriptorPath?, hd]
  refine ⟨d, call, _, hd, hcalled.calls, hname, hreported, ?_, ?_⟩
  · apply Path.isAbsolute_join
    exact host.absolute_isAbsolute d
  · rw [Host.keepsPlace_iff hsettled, Call.descriptorPath, hname]

end Step

namespace CommandLine

variable {host : Host} {registry : Registry} {a : GenerateArguments}

theorem join_shownFrom (host : Host) {p : Path} (h : p.isAbsolute = true) :
    host.workingPath.join (.ofText (shownFrom host p)) = p := by
  rw [shownFrom, Path.ofText_text]
  cases hrel : p.relativeTo? host.workingPath with
  | none => exact Path.join_absolute h
  | some q => exact Path.join_relativeTo? hrel

theorem printed_of_finished {setup : LogSetup}
    (h : (generate host registry setup a).ending = .finished) :
    ∃ s d call shown, a.step host = .ok s ∧ s.outputDirectory = some d ∧
      (generate host registry setup a).calls = [call] ∧
      (generate host registry setup a).output = s!"Descriptor written to {shown}\n" ∧
      s.descriptorPath? host = some (host.workingPath.join (.ofText shown)) ∧
      (host.workingPath.join (.ofText shown) = call.descriptorPath ↔
        host.KeepsPlace d (.ofText call.request.descriptor)) := by
  obtain ⟨s, hs, hsession, hresult, houtput⟩ := generate_of_finished h
  obtain ⟨d, call, reported, hd, hcalls, hname, hreported, habsolute, hiff⟩ :=
    Step.reported_of_success hresult
  have hjoin := join_shownFrom host habsolute
  refine ⟨s, d, call, shownFrom host reported, hs, hd, ?_, ?_, ?_, ?_⟩
  · rw [hsession, calls_concluded, hcalls]
  · rw [houtput, writtenText, hreported]
    rfl
  · obtain ⟨g, c, -, hcalled⟩ := Step.called_of_result hresult
    rw [hjoin, ← hreported, hcalled.step]
    rfl
  · rw [hjoin, hiff, hname]

/-- After a run that succeeds the descriptor is reported to be where it is written exactly if the
look-up of a home directory makes no difference, as for every output directory that names none. The
program prints this report, from which the working directory leads to the same file. -/
theorem reported_iff_keepsPlace (host : Host) (registry : Registry) :
    (∀ (s : Step) (contexts : ClassContexts),
      (s.generate host registry contexts).result = .ok .success →
        ∃ d call reported, s.outputDirectory = some d ∧
          (s.generate host registry contexts).calls = [call] ∧
          (s.generate host registry contexts).step.descriptorPath? host = some reported ∧
          (reported = call.descriptorPath ↔
            host.KeepsPlace d (.ofText call.request.descriptor)) ∧
          (d.homeUser? = none → reported = call.descriptorPath)) ∧
      ∀ (arguments : List String) (verbose : Bool) (a : GenerateArguments),
        parse arguments = .ok ⟨verbose, .generate a⟩ →
        (run host registry arguments).ending = .finished →
          ∃ s d call shown, a.step host = .ok s ∧ s.outputDirectory = some d ∧
            (run host registry arguments).calls = [call] ∧
            (run host registry arguments).output = s!"Descriptor written to {shown}\n" ∧
            s.descriptorPath? host = some (host.workingPath.join (.ofText shown)) ∧
            (host.workingPath.join (.ofText shown) = call.descriptorPath ↔
              host.KeepsPlace d (.ofText call.request.descriptor)) := by
  constructor
  · intro s contexts hsuccess
    obtain ⟨d, call, reported, hd, hcalls, hname, hreported, -, hiff⟩ :=
      Step.reported_of_success hsuccess
    refine ⟨d, call, reported, hd, hcalls, hreported, ?_, ?_⟩
    · rw [hname]
      exact hiff
    · intro hhome
      exact hiff.2 (Host.keepsPlace_of_homeUser? _ hhome)
  · intro arguments verbose a hparse hfinished
    rw [run_of_parse hparse] at hfinished ⊢
    exact printed_of_finished hfinished

section Home

open SourceSet Step

def silentRegistry : Registry :=
  ⟨[("gens", .mk "module" "module" false none none
    [("silent", .mk "object" "Silent" false (some silentGenerator.behaviour) none [])])], []⟩

def argumentsFor (output : String) : List String :=
  ["generate", "src", "-d", output, "--generator", "gens:silent"]

def homeStep : Step :=
  { Step.make (some silentGenerator) none with
    sources := plainSet
    outputDirectory := some (.ofText "~/out") }

theorem reported_iff_keepsPlace_plain :
    ∃ call shown, (run plainHost silentRegistry (argumentsFor "a/../out")).calls = [call] ∧
      plainHost.workingPath.join (.ofText shown) = call.descriptorPath ∧
      call.descriptorPath = .ofText "/out/serviceComponents.xml" := by
  obtain ⟨-, hprogram⟩ := reported_iff_keepsPlace plainHost silentRegistry
  obtain ⟨s, d, call, shown, hs, hd, hcalls, -, -, hiff⟩ :=
    hprogram (argumentsFor "a/../out") false _ rfl rfl
  have houtput : (run plainHost silentRegistry (argumentsFor "a/../out")).calls.map
      Call.descriptorPath = [.ofText "/out/serviceComponents.xml"] := by decide +kernel
  have hstep : s.outputDirectory = some (.ofText "a/../out") := by
    obtain rfl := Except.ok.inj hs
    rfl
  obtain rfl := Option.some.inj (hd.symm.trans hstep)
  have hkeeps : plainHost.KeepsPlace (.ofText "a/../out") (.ofText call.request.descriptor) :=
    Host.keepsPlace_of_homeUser? _ (by decide)
  rw [hcalls] at houtput
  exact ⟨call, shown, hcalls, hiff.2 hkeeps, List.singleton_inj.1 houtput⟩

/-- Below a home directory the descriptor is written in one place and reported in another. -/
theorem reported_elsewhere :
    (homeStep.generate plainHost ⟨[], []⟩ .empty).result = .ok .success ∧
      (homeStep.generate plainHost ⟨[], []⟩ .empty).calls.map Call.descriptorPath =
        [.ofText "/out/serviceComponents.xml"] ∧
      (homeStep.generate plainHost ⟨[], []⟩ .empty).step.descriptorPath? plainHost =
        some (.ofText "/~/out/serviceComponents.xml") ∧
      (run plainHost silentRegistry (argumentsFor "~/out")).calls.map Call.descriptorPath =
        [.ofText "/out/serviceComponents.xml"] ∧
      (run plainHost silentRegistry (argumentsFor "~/out")).output =
        "Descriptor written to ~/out/serviceComponents.xml\n" ∧
      plainHost.workingPath.join (.ofText "~/out/serviceComponents.xml") ≠
        .ofText "/out/serviceComponents.xml" := by
  refine ⟨rfl, ?_, ?_, ?_, ?_, ?_⟩
  · decide +kernel
  · decide +kernel
  · decide +kernel
  · decide +kernel
  · decide +kernel

end Home

end CommandLine

end ComponentBuild
