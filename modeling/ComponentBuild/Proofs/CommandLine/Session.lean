import ComponentBuild.CommandLine.Program
import ComponentBuild.Proofs.Step.Thrown

namespace ComponentBuild.CommandLine

variable {host : Host} {registry : Registry} {setup : LogSetup} {a : GenerateArguments}

theorem run_of_parse {arguments : List String} {verbose : Bool}
    (h : parse arguments = .ok ⟨verbose, .generate a⟩) :
    run host registry arguments =
      generate host registry (LogSetup.configure host verbose none).1 a := by
  rw [run, h]
  rfl

theorem Trouble.ending_ne_finished (t : Trouble) : t.ending ≠ .finished := by
  cases t with
  | configuration message => nofun
  | build failure => nofun
  | crash c => nofun

namespace Session

variable {x : Session} {s : Step}

theorem report_of_printed (hd : x.tree.node? host.workingDirectory = some .directory)
    (hp : host.canPrint (writtenText host s) = true) :
    x.report host s = { x with output := x.output ++ writtenText host s ++ "\n" } := by
  rw [report, if_pos hd, print, if_pos hp]

theorem report_cases (x : Session) (host : Host) (s : Step) :
    (x.tree.node? host.workingDirectory = some .directory ∧
      host.canPrint (writtenText host s) = true ∧
      x.report host s = { x with output := x.output ++ writtenText host s ++ "\n" }) ∨
    (x.tree.node? host.workingDirectory ≠ some .directory ∧
      x.report host s = x.reportFailed .noDirectory) ∨
    (host.canPrint (writtenText host s) = false ∧
      x.report host s = x.reportFailed (.unprintable (writtenText host s))) := by
  by_cases hd : x.tree.node? host.workingDirectory = some .directory
  · cases hp : host.canPrint (writtenText host s) with
    | true => exact .inl ⟨hd, rfl, report_of_printed hd hp⟩
    | false =>
      refine .inr (.inr ⟨rfl, ?_⟩)
      rw [report, if_pos hd, print, if_neg (by simp [hp])]
  · exact .inr (.inl ⟨hd, if_neg hd⟩)

theorem tree_report (x : Session) (host : Host) (s : Step) : (x.report host s).tree = x.tree := by
  rcases x.report_cases host s with ⟨-, -, hx⟩ | ⟨-, hx⟩ | ⟨-, hx⟩ <;> rw [hx] <;> rfl

theorem calls_report (x : Session) (host : Host) (s : Step) : (x.report host s).calls = x.calls := by
  rcases x.report_cases host s with ⟨-, -, hx⟩ | ⟨-, hx⟩ | ⟨-, hx⟩ <;> rw [hx] <;> rfl

end Session

theorem concluded_of_success {r : Run} (h : r.result = .ok .success) :
    concluded host setup r = (logged setup r).report host r.step := by
  rw [concluded, Run.executed_of_success h]

theorem calls_concluded (host : Host) (setup : LogSetup) (r : Run) :
    (concluded host setup r).calls = r.calls := by
  unfold concluded
  split
  · exact (logged setup r).calls_report host r.step
  · rfl

theorem generate_of_mem {call : Call} (h : call ∈ (generate host registry setup a).calls) :
    ∃ s, a.step host = .ok s ∧
      generate host registry setup a = concluded host setup (s.generate host registry .empty) ∧
      call ∈ (s.generate host registry .empty).calls := by
  unfold generate at h ⊢
  cases hs : a.step host with
  | error t =>
    rw [hs] at h
    cases h
  | ok s =>
    simp only [hs, calls_concluded] at h
    exact ⟨s, rfl, rfl, h⟩

theorem success_of_executed {r : Run} (h : r.executed = .ok ()) : r.result = .ok .success := by
  unfold Run.executed at h
  split at h
  · cases h
  · assumption
  · cases h

theorem concluded_of_finished {r : Run} (h : (concluded host setup r).ending = .finished) :
    r.result = .ok .success ∧
      (concluded host setup r).output = writtenText host r.step ++ "\n" := by
  unfold concluded at h ⊢
  cases he : r.executed with
  | ok done =>
    refine ⟨success_of_executed he, ?_⟩
    simp only [he] at h ⊢
    rcases (logged setup r).report_cases host r.step with ⟨-, -, hx⟩ | ⟨-, hx⟩ | ⟨-, hx⟩
    · rw [hx, logged, String.empty_append]
    · rw [hx] at h
      cases h
    · rw [hx] at h
      cases h
  | error fault =>
    simp only [he] at h
    exact absurd h (Trouble.ending_ne_finished _)

theorem generate_of_finished (h : (generate host registry setup a).ending = .finished) :
    ∃ s, a.step host = .ok s ∧
      generate host registry setup a = concluded host setup (s.generate host registry .empty) ∧
      (s.generate host registry .empty).result = .ok .success ∧
      (generate host registry setup a).output =
        writtenText host (s.generate host registry .empty).step ++ "\n" := by
  unfold generate at h ⊢
  cases hs : a.step host with
  | error t =>
    rw [hs] at h
    exact absurd h t.ending_ne_finished
  | ok s =>
    simp only [hs] at h ⊢
    obtain ⟨hresult, houtput⟩ := concluded_of_finished h
    exact ⟨s, rfl, rfl, hresult, houtput⟩

end ComponentBuild.CommandLine
