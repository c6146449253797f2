import ComponentBuild.Proofs.Classpath.Contexts
import ComponentBuild.Proofs.Step.Generate

namespace ComponentBuild.Step

variable {s : Step} {host : Host} {registry : Registry} {contexts : ClassContexts} {g : Generator}
  {call : Call} {run : Run}

structure Called (s : Step) (host : Host) (contexts : ClassContexts) (g : Generator) (call : Call)
    (run : Run) : Prop where
  calls : run.calls = [call]
  described : s.Calls host contexts g call
  run_eq : ∃ records, run = { s with generator := some g }.callGenerator g host
    (loading contexts host (s.classpath.existing host)).1
    (loading contexts host (s.classpath.existing host)).2 records call.request

def response (s : Step) (host : Host) (contexts : ClassContexts) (g : Generator)
    (request : Request) : Response :=
  g.behaviour request (loading contexts host (s.classpath.existing host)).1 host

namespace Called

theorem step (h : s.Called host contexts g call run) : run.step = { s with generator := some g } := by
  obtain ⟨records, rfl⟩ := h.run_eq
  rfl

theorem contexts_eq (h : s.Called host contexts g call run) :
    run.contexts = (loading contexts host (s.classpath.existing host)).1.close
      call.request.project.loader := by
  obtain ⟨records, rfl⟩ := h.run_eq
  rw [h.described.loader]
  rfl

theorem tree (h : s.Called host contexts g call run) :
    run.tree = (s.response host contexts g call.request).tree := by
  obtain ⟨records, rfl⟩ := h.run_eq
  rfl

theorem result (h : s.Called host contexts g call run) :
    run.result = ({ s with generator := some g }.conclude call.request
      (s.response host contexts g call.request).thrown).2 := by
  obtain ⟨records, rfl⟩ := h.run_eq
  rfl

theorem searchPath (h : s.Called host contexts g call run) {paths : List Path}
    (hs : (loading contexts host (s.classpath.existing host)).1.searchPath
      call.request.project.loader = .ok paths) : call.searchPath = paths := by
  have hcalls := h.calls
  obtain ⟨records, rfl⟩ := h.run_eq
  rw [h.described.loader] at hs
  simp only [callGenerator, hs, List.cons.injEq, and_true] at hcalls
  rw [← hcalls]

end Called

theorem runLoaded_eq {files : List SourceFile} {output directory : Path} {loader : Nat}
    (hc : s.sources.collect host = .ok files) (hd : host.settled output = .ok directory)
    (records : List LogRecord) (dependencies : List Path) (options : GenerationOptions) :
    ∃ more, s.runLoaded host contexts loader records dependencies options output g =
      s.callGenerator g host contexts loader more
        ⟨⟨dependencies, files, directory, loader⟩, options, directory, s.descriptor, s.metadata⟩ := by
  simp only [runLoaded, project, hc, Project.make_text, hd]
  exact ⟨_, rfl⟩

theorem request_of_calls {loader : Nat} {records : List LogRecord} {request : Request}
    (h : (s.callGenerator g host contexts loader records request).calls = [call]) :
    call.request = request := by
  simp only [callGenerator, List.cons.injEq, and_true] at h
  rw [← h]

theorem generate_stopped_or_called (s : Step) (host : Host) (registry : Registry)
    (contexts : ClassContexts) :
    ((s.generate host registry contexts).calls = [] ∧
        ∃ fault, (s.generate host registry contexts).result = .error fault) ∨
      ∃ g call, s.findGenerator registry = .ok g ∧
        s.Called host contexts g call (s.generate host registry contexts) := by
  rcases s.answered_or_refused host registry contexts with h | ⟨hcalls, fault, hresult, -⟩
  · rcases generate_loaded contexts h with ⟨fault, records, -, hrun⟩ |
      ⟨g, files, output, directory, options, records, -, hg, hc, ho, hd, ha, hv, hrun⟩
    · left
      rw [hrun]
      exact ⟨rfl, fault, rfl⟩
    · let loaded : Step := { s with generator := some g }
      obtain ⟨call, hcalls, hcall, -⟩ :=
        loaded.runLoaded_calls contexts g records hc ho hd ha hv
      obtain ⟨more, hloaded⟩ := loaded.runLoaded_eq hc hd records _ options
      right
      refine ⟨g, call, hg, ?_⟩
      rw [hrun]
      refine ⟨hcalls, hcall.of_generator, more, ?_⟩
      rw [hloaded] at hcalls
      rw [hloaded, request_of_calls hcalls]
  · exact .inl ⟨hcalls, fault, hresult⟩

theorem called_of_mem (h : call ∈ (s.generate host registry contexts).calls) :
    ∃ g, s.findGenerator registry = .ok g ∧
      s.Called host contexts g call (s.generate host registry contexts) := by
  rcases s.generate_stopped_or_called host registry contexts with ⟨hnone, -⟩ | ⟨g, c, hg, hc⟩
  · rw [hnone] at h
    cases h
  · rw [hc.calls, List.mem_singleton] at h
    exact ⟨g, hg, h ▸ hc⟩

theorem called_of_result {outcome : Outcome}
    (h : (s.generate host registry contexts).result = .ok outcome) :
    ∃ g call, s.findGenerator registry = .ok g ∧
      s.Called host contexts g call (s.generate host registry contexts) := by
  rcases s.generate_stopped_or_called host registry contexts with ⟨-, fault, hf⟩ | hcalled
  · rw [h] at hf
    cases hf
  · exact hcalled

end ComponentBuild.Step
