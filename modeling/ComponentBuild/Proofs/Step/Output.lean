import ComponentBuild.Proofs.Step.Loaders
import ComponentBuild.Proofs.Step.Paths

/-!
The output directory as the generator is given it and as the classpath has it. The generator is
given a path without `..` as it is at the time of the run, the classpath keeps the path as it was
when it was assigned. Classes are loaded from where they are written to only if the two are the same.
-/

namespace ComponentBuild

namespace Path

variable {p q : Path}

theorem normalized_eq_self_iff : p.normalized = p ↔ .up ∉ p.segments := by
  constructor
  · intro h
    rw [← h]
    simp [normalized]
  · intro h
    obtain ⟨anchor, segments⟩ := p
    have hnames : ∃ ns : List Name, segments = ns.map .entry := by
      induction segments with
      | nil => exact ⟨[], rfl⟩
      | cons s rest ih =>
        obtain ⟨hs, hrest⟩ := not_or.1 (mt List.mem_cons.2 h)
        obtain ⟨ns, rfl⟩ := ih hrest
        cases s with
        | up => exact absurd rfl hs
        | entry n => exact ⟨n :: ns, rfl⟩
    obtain ⟨ns, rfl⟩ := hnames
    rw [normalized, settle_entries, List.nil_append]

theorem up_mem_join (h : .up ∉ p.segments) : .up ∈ (p.join q).segments ↔ .up ∈ q.segments := by
  rw [join]
  split
  · rfl
  · simp [h]

end Path

namespace Host

variable {host there : Host} {d q : Path}

theorem up_mem_absolute (host : Host) (p : Path) :
    .up ∈ (host.absolute p).segments ↔ .up ∈ p.segments := by
  apply Path.up_mem_join
  simp [workingPath, Path.ofLocation]

theorem entered_congr (hdirectory : there.workingDirectory = host.workingDirectory)
    (hhome : there.home = host.home) (d : Path) : there.entered d = host.entered d := by
  have habsolute : there.absolute = host.absolute := by
    funext p
    rw [absolute, absolute, workingPath, workingPath, hdirectory]
  rw [entered, entered, hhome, habsolute]

theorem entered_eq_settled_iff {out : Path} (h : host.settled d = .ok out) :
    host.entered d = .ok out ↔ ∃ q, d.expandHome host.home = .ok q ∧ .up ∉ q.segments := by
  cases hq : d.expandHome host.home with
  | error fault => simp [entered, hq, Except.map]
  | ok q =>
    have hsettled : host.settled d = .ok (host.absolute q).normalized := by
      rw [settled, Path.expandKnownHome, hq]
      rfl
    obtain rfl := Except.ok.inj (hsettled.symm.trans h)
    have hentered : host.entered d = .ok (host.absolute q) := by
      rw [entered, hq]
      rfl
    rw [hentered, Except.ok.injEq, eq_comm, Path.normalized_eq_self_iff, up_mem_absolute]
    simp

end Host

namespace Step

variable {s : Step} {assigned : Option (Host × Path)} {host : Host} {registry : Registry}
  {contexts : ClassContexts} {call : Call} {p : Path}

theorem Reached.assigned_eq (h : Reached s assigned) :
    s.outputDirectory = assigned.map Prod.snd := by
  induction h with
  | made g reference => rfl
  | described hs =>
    obtain ⟨cp, -, rfl⟩ := ofSettings_eq_ok.1 hs
    simp [Step.described, Function.comp_def]
  | added host item _ ih => exact ih
  | @assigned s _ host d _ _ =>
    cases d with
    | none => rfl
    | some p => rfl
  | @ran s _ host registry contexts _ ih =>
    obtain ⟨-, houtput⟩ := s.paths_generate host registry contexts
    exact houtput.trans ih
  | others t _ ih => exact ih

theorem mem_searchPath_iff (h : call ∈ (s.generate host registry contexts).calls) :
    p ∈ call.searchPath ↔ p ∈ host.systemPaths ∨
      p ∈ s.classpath.entries ∧ host.tree.exists? host.workingDirectory p = true := by
  obtain ⟨g, -, hcalled⟩ := called_of_mem h
  have hsearch := searchPath_loader contexts host (s.classpath.existing host)
  rw [← hcalled.described.loader] at hsearch
  have hexisting : p ∈ s.classpath.existing host ↔
      p ∈ s.classpath.entries ∧ host.tree.exists? host.workingDirectory p = true :=
    List.mem_filter
  rw [hcalled.searchPath hsearch, List.mem_append, List.mem_filter, hexisting]
  by_cases hsystem : p ∈ host.systemPaths
  · simp [hsystem]
  · simp [hsystem]

theorem mem_dependencies_iff (h : call ∈ (s.generate host registry contexts).calls) :
    p ∈ call.request.project.dependencies ↔
      p ∈ s.classpath.entries ∧ host.tree.isFile host.workingDirectory p = true := by
  obtain ⟨g, -, hcalled⟩ := called_of_mem h
  rw [hcalled.described.dependencies, Classpath.files, List.mem_filter, Classpath.existing,
    List.mem_filter]
  constructor
  · rintro ⟨⟨hentry, -⟩, hfile⟩
    exact ⟨hentry, hfile⟩
  · rintro ⟨hentry, hfile⟩
    exact ⟨⟨hentry, Tree.isFile_exists hfile⟩, hfile⟩

/-- The directory that the generator is given is searched for classes if it exists and is a place of
the system or an entry of the classpath, and is a dependency if it is an entry and a file. It is an
entry if it is what the output directory was added as, and this it is, unless the working directory
or the homes have changed since, exactly if it has no `..` and its home is known. -/
theorem output_serves_classes (h : Reached s assigned)
    (hcall : call ∈ (s.generate host registry contexts).calls) :
    ∃ there d out, assigned = some (there, d) ∧ call.request.project.classesDirectory = out ∧
      host.settled d = .ok out ∧
      (out ∈ call.searchPath ↔ out ∈ host.systemPaths ∨
        out ∈ s.classpath.entries ∧ host.tree.exists? host.workingDirectory out = true) ∧
      (out ∈ call.request.project.dependencies ↔
        out ∈ s.classpath.entries ∧ host.tree.isFile host.workingDirectory out = true) ∧
      (there.entered d = .ok out → out ∈ s.classpath.entries) ∧
      (there.workingDirectory = host.workingDirectory → there.home = host.home →
        (there.entered d = .ok out ↔ ∃ q, d.expandHome host.home = .ok q ∧ .up ∉ q.segments)) := by
  obtain ⟨g, -, hcalled⟩ := called_of_mem hcall
  obtain ⟨d, hd, hsettled⟩ := hcalled.described.output
  rw [← hcalled.described.classesDirectory] at hsettled
  obtain ⟨⟨there, _⟩, hassigned, rfl⟩ := Option.map_eq_some_iff.1 (h.assigned_eq.symm.trans hd)
  refine ⟨there, _, _, hassigned, rfl, hsettled, mem_searchPath_iff hcall,
    mem_dependencies_iff hcall, ?_, ?_⟩
  · intro hentered
    exact (h.coupled.set there _ _ hassigned hentered).2
  · intro hdirectory hhome
    rw [Host.entered_congr hdirectory hhome]
    exact Host.entered_eq_settled_iff hsettled

section Plain

open SourceSet

def outputHost : Host :=
  { plainHost with tree := plainTree.insert [⟨"out", by decide⟩] .directory }

def outputStep (d : Path) : Step :=
  ({ make (some silentGenerator) none with sources := plainSet }.setOutputDirectory outputHost
    (some d)).1

theorem reached_outputStep (d : Path) : Reached (outputStep d) (some (outputHost, d)) :=
  .assigned outputHost (some d)
    (.others { make (some silentGenerator) none with sources := plainSet }
      (.made (some silentGenerator) none))

theorem output_serves_classes_plain :
    ∃ call ∈ ((outputStep (.ofText "out")).generate outputHost ⟨[], []⟩ .empty).calls,
      call.request.project.classesDirectory = .ofText "/out" ∧
        .ofText "/out" ∈ call.searchPath ∧
        .ofText "/out" ∉ call.request.project.dependencies := by
  let run := (outputStep (.ofText "out")).generate outputHost ⟨[], []⟩ .empty
  have hlength : 0 < run.calls.length := by decide +kernel
  have hexists : outputHost.tree.exists? [] (.ofText "/out") = true := by decide +kernel
  have hfile : outputHost.tree.isFile [] (.ofText "/out") = false := by decide +kernel
  have hdirectory : outputHost.settled (.ofText "out") = .ok (.ofText "/out") := by decide +kernel
  have hentered : outputHost.entered (.ofText "out") = .ok (.ofText "/out") := by decide +kernel
  obtain ⟨call, hcall⟩ := List.exists_mem_of_length_pos hlength
  obtain ⟨there, d, out, hassigned, hout, hsettled, hsearched, hdependency, hentry, -⟩ :=
    output_serves_classes (reached_outputStep _) hcall
  obtain ⟨rfl, rfl⟩ := Prod.mk.inj (Option.some.inj hassigned)
  obtain rfl := Except.ok.inj (hdirectory.symm.trans hsettled)
  refine ⟨call, hcall, hout, hsearched.2 (.inr ⟨hentry hentered, hexists⟩), ?_⟩
  intro hmem
  cases hfile.symm.trans (hdependency.1 hmem).2

/-- With a `..` in its path a directory that is there is not searched for classes, and a file that
is assigned as the output directory is one of the dependencies. -/
theorem output_not_searched :
    Reached (outputStep (.ofText "gone/../out")) (some (outputHost, .ofText "gone/../out")) ∧
      outputHost.tree.exists? [] (.ofText "/out") = true ∧
      ((outputStep (.ofText "gone/../out")).generate outputHost ⟨[], []⟩ .empty).calls.map
        (fun call => (call.request.project.classesDirectory, call.searchPath)) =
          [(.ofText "/out", [])] ∧
      Reached (outputStep (.ofText "src/A.java")) (some (outputHost, .ofText "src/A.java")) ∧
      ((outputStep (.ofText "src/A.java")).generate outputHost ⟨[], []⟩ .empty).calls.map
        (fun call => (call.request.project.classesDirectory, call.request.project.dependencies)) =
          [(.ofText "/src/A.java", [.ofText "/src/A.java"])] := by
  refine ⟨reached_outputStep _, ?_, ?_, reached_outputStep _, ?_⟩
  · decide +kernel
  · decide +kernel
  · decide +kernel

end Plain

end Step

end ComponentBuild
