import ComponentBuild.Proofs.Step.Called

namespace ComponentBuild

theorem SourceLocation.before_eq_self_iff (location : Option SourceLocation) (message : String) :
    before location message = message ↔ location = none := by
  cases location with
  | none => simp [before]
  | some l =>
    constructor
    · intro h
      have htext : l.text ++ ": " ++ message = message := h
      have hlength := congrArg String.length htext
      have hcolon : ": ".length = 2 := rfl
      rw [String.length_append, String.length_append, hcolon] at hlength
      omega
    · nofun

theorem Report.isFatal_eq_false_iff (r : Report) : r.isFatal = false ↔ r.kind ≠ "fatal" := by
  simp [isFatal]

def BuildFailure.ofReport (r : Report) (cause : Option Thrown) : BuildFailure :=
  .ofOutcome (.ofReport r cause)

namespace BuildFailure

theorem message_ofReport (r : Report) (cause : Option Thrown) :
    (ofReport r cause).message = if r.message = "" then fallbackMessage else r.message := by
  unfold ofReport Outcome.ofReport
  split
  · rfl
  · rfl

theorem cause_ofReport (r : Report) (cause : Option Thrown) :
    (ofReport r cause).cause = cause := by
  unfold ofReport Outcome.ofReport
  split
  · rfl
  · rfl

theorem location_ofReport (r : Report) (cause : Option Thrown) :
    (ofReport r cause).location =
      if r.isFatal then none else r.source.map fun file => ⟨file, r.line.getD 0, 0⟩ := by
  unfold ofReport Outcome.ofReport
  split
  · rfl
  · rfl

structure Reports (f : BuildFailure) (r : Report) (cause : Option Thrown) : Prop where
  message : f.message = if r.message = "" then fallbackMessage else r.message
  cause : f.cause = cause
  location : ∀ l, f.location = some l ↔
    r.kind ≠ "fatal" ∧ ∃ file, r.source = some file ∧ l = ⟨file, r.line.getD 0, 0⟩
  shown : ∀ l, f.location = some l → f.text = s!"{l.text}: {f.message}"
  plain_iff : f.text = f.message ↔ f.location = none

theorem reports_ofReport (r : Report) (cause : Option Thrown) :
    (ofReport r cause).Reports r cause := by
  constructor
  · exact message_ofReport r cause
  · exact cause_ofReport r cause
  · intro l
    rw [location_ofReport, ← r.isFatal_eq_false_iff]
    cases r.isFatal with
    | true => simp
    | false => cases r.source <;> simp [eq_comm]
  · intro l hl
    rw [text, hl]
    rfl
  · exact SourceLocation.before_eq_self_iff _ _

end BuildFailure

theorem Outcome.succeeded_ofReport (r : Report) (cause : Option Thrown) :
    (ofReport r cause).succeeded = false := by
  unfold ofReport
  split
  · rfl
  · rfl

namespace Run

variable {r : Run} {outcome : Outcome}

theorem executed_of_error {fault : RunFault} (h : r.result = .error fault) :
    r.executed = .error (.run fault) := by
  rw [executed, h]

theorem executed_of_success (h : r.result = .ok .success) : r.executed = .ok () := by
  rw [executed, h]

theorem executed_of_failure (h : r.result = .ok outcome) (hf : outcome.succeeded = false) :
    r.executed = .error (.build (.ofOutcome outcome)) := by
  rw [executed, h]
  cases outcome with
  | success => cases hf
  | failure p => rfl

end Run

namespace Step

variable {s : Step} {host : Host} {registry : Registry} {contexts : ClassContexts} {g : Generator}
  {call : Call} {run : Run} {e : Thrown}

namespace Called

theorem returned_of_success (h : s.Called host contexts g call run)
    (hsuccess : run.result = .ok .success) :
    (s.response host contexts g call.request).thrown = none := by
  have hconclude := h.result.symm.trans hsuccess
  cases ht : (s.response host contexts g call.request).thrown with
  | none => rfl
  | some e =>
    rw [ht] at hconclude
    cases e with
    | report type r cause =>
      have hfailed := Outcome.succeeded_ofReport r cause
      rw [Except.ok.inj hconclude] at hfailed
      cases hfailed
    | configuration message => cases hconclude
    | build message cause location => cases hconclude
    | other type text => cases hconclude

theorem result_of_report {type : TypeName} {r : Report} {cause : Option Thrown}
    (h : s.Called host contexts g call run)
    (ht : (s.response host contexts g call.request).thrown = some (.report type r cause)) :
    run.result = .ok (.ofReport r cause) := by
  rw [h.result, ht]
  rfl

theorem result_of_thrown (h : s.Called host contexts g call run)
    (ht : (s.response host contexts g call.request).thrown = some e)
    (he : ∀ type r cause, e ≠ .report type r cause) : run.result = .error (.thrown e) := by
  rw [h.result, ht]
  cases e with
  | report type r cause => exact absurd rfl (he type r cause)
  | configuration message => rfl
  | build message cause location => rfl
  | other type text => rfl

end Called

/-- A report ends the build with a failure that says all of it, whatever kind and type it has, and
the run with an outcome that stands for this failure. Anything else that the generator throws ends
both as it is. -/
theorem executed_of_thrown (hg : s.findGenerator registry = .ok g)
    (hcall : call ∈ (s.generate host registry contexts).calls)
    (ht : (s.response host contexts g call.request).thrown = some e) :
    (∀ type r cause, e = .report type r cause → ∃ f outcome,
      (s.generate host registry contexts).executed = .error (.build f) ∧ f.Reports r cause ∧
        (s.generate host registry contexts).result = .ok outcome ∧ outcome.succeeded = false ∧
        BuildFailure.ofOutcome outcome = f) ∧
      ((∀ type r cause, e ≠ .report type r cause) →
        (s.generate host registry contexts).executed = .error (.run (.thrown e)) ∧
          (s.generate host registry contexts).result = .error (.thrown e)) := by
  obtain ⟨g', hg', hcalled⟩ := called_of_mem hcall
  obtain rfl : g = g' := Except.ok.inj (hg.symm.trans hg')
  constructor
  · rintro type r cause rfl
    have hresult := hcalled.result_of_report ht
    have hfailed := Outcome.succeeded_ofReport r cause
    exact ⟨.ofReport r cause, .ofReport r cause, Run.executed_of_failure hresult hfailed,
      BuildFailure.reports_ofReport r cause, hresult, hfailed, rfl⟩
  · intro he
    have hresult := hcalled.result_of_thrown ht he
    exact ⟨Run.executed_of_error hresult, hresult⟩

section Odd

open SourceSet

def oddReport : Report := ⟨"odd", "", some "A.java", none⟩

def oddCause : Thrown := .other ⟨"KeyError", "KeyError"⟩ "name"

def oddGenerator : Generator :=
  ⟨"Odd", fun _ _ host => ⟨host.tree, [], some (.report ⟨"Odd", "gens.Odd"⟩ oddReport oddCause)⟩⟩

def oddStep : Step :=
  { make (some oddGenerator) none with sources := plainSet, outputDirectory := some (.ofText "out") }

theorem executed_of_thrown_odd :
    oddStep.findGenerator ⟨[], []⟩ = .ok oddGenerator ∧
      (oddStep.generate plainHost ⟨[], []⟩ .empty).calls ≠ [] ∧
      ∃ f, (oddStep.generate plainHost ⟨[], []⟩ .empty).executed = .error (.build f) ∧
        f.message = "Descriptor generation failed" ∧ f.cause = some oddCause ∧
        f.location = some ⟨"A.java", 0, 0⟩ ∧ f.text = "A.java: Descriptor generation failed" := by
  have hfound : oddStep.findGenerator ⟨[], []⟩ = .ok oddGenerator := rfl
  have hlength : 0 < (oddStep.generate plainHost ⟨[], []⟩ .empty).calls.length := by decide +kernel
  obtain ⟨call, hcall⟩ := List.exists_mem_of_length_pos hlength
  obtain ⟨f, -, hexecuted, hreports, -⟩ := (executed_of_thrown hfound hcall rfl).1 _ _ _ rfl
  have hmessage : f.message = "Descriptor generation failed" := hreports.message
  have hlocation : f.location = some ⟨"A.java", 0, 0⟩ :=
    (hreports.location _).2 ⟨by decide, "A.java", rfl, rfl⟩
  refine ⟨hfound, List.ne_nil_of_length_pos hlength, f, hexecuted, hmessage, hreports.cause,
    hlocation, ?_⟩
  rw [hreports.shown _ hlocation, hmessage]
  rfl

end Odd

end Step

end ComponentBuild
