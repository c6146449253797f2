import ComponentBuild.Generator.Registry

namespace ComponentBuild

namespace Factory

variable {α : Type} {f : Factory α} {log : Option TaskLog} {a : Argument}

def TakesLog (f : Factory α) : Prop := ∃ ps, f.parameters = some ps ∧ "log" ∈ ps

def Callable (f : Factory α) : Prop := ∀ p ∈ f.required, p = "log" ∧ f.TakesLog

inductive Handed (f : Factory α) (log : Option TaskLog) : Argument → Prop
  | log : f.TakesLog → f.Handed log (.log log)
  | nothing : ¬ f.TakesLog → f.Handed log .nothing

theorem acceptsLog_iff : f.acceptsLog = true ↔ f.TakesLog := by
  unfold acceptsLog TakesLog
  split
  · rename_i ps hps
    simp [hps]
  · rename_i hps
    simp [hps]

theorem unfilled_eq_nil_iff : f.unfilled = [] ↔ f.Callable := by
  rw [unfilled, List.filter_eq_nil_iff]
  simp only [Callable, ← acceptsLog_iff, Bool.not_eq_false, Bool.and_eq_true, beq_iff_eq,
    Bool.not_eq_eq_eq_not, Bool.not_true]
  exact forall₂_congr fun p _ => and_comm

theorem handed_iff : f.Handed log a ↔ a = f.argument log := by
  unfold argument
  constructor
  · intro h
    cases h with
    | log hl => rw [if_pos (acceptsLog_iff.2 hl)]
    | nothing hl => rw [if_neg (mt acceptsLog_iff.1 hl)]
  · rintro rfl
    split
    · rename_i hl
      exact .log (acceptsLog_iff.1 hl)
    · rename_i hl
      exact .nothing (mt acceptsLog_iff.2 hl)

theorem call_eq_ok {made : α} :
    f.call log = .ok made ↔ f.Callable ∧ ∃ a, f.Handed log a ∧ f.body a = .ok made := by
  simp only [handed_iff, exists_eq_left]
  unfold call
  split
  · rename_i h
    simp [unfilled_eq_nil_iff.1 h]
  · rename_i h
    simp [mt unfilled_eq_nil_iff.2 h]

theorem call_eq_error {e : Thrown} :
    f.call log = .error e ↔ (¬ f.Callable ∧ e = f.missingArguments) ∨
      f.Callable ∧ ∃ a, f.Handed log a ∧ f.body a = .error e := by
  simp only [handed_iff, exists_eq_left]
  unfold call
  split
  · rename_i h
    simp [unfilled_eq_nil_iff.1 h]
  · rename_i h
    simp [mt unfilled_eq_nil_iff.2 h, eq_comm]

end Factory

namespace Object

def MadeBy (o : Object) (f : Factory Object) : Prop :=
  o.factory? = some f ∧ (o.isClass = true ∨ o.behaviour? = none)

inductive Provides (o : Object) (log : Option TaskLog) : Loaded → Prop
  | itself {b : Behaviour} : o.isClass = false → o.behaviour? = some b →
      o.Provides log (.readyMade ⟨o.typeName, b⟩)
  | made {f : Factory Object} {a : Argument} {made : Object} {b : Behaviour} :
      o.MadeBy f → f.Callable → f.Handed log a → f.body a = .ok made →
      made.behaviour? = some b → o.Provides log (.made ⟨made.typeName, b⟩ a)

inductive Raises (o : Object) (log : Option TaskLog) : Thrown → Prop
  | arguments {f : Factory Object} : o.MadeBy f → ¬ f.Callable →
      o.Raises log f.missingArguments
  | body {f : Factory Object} {a : Argument} {e : Thrown} :
      o.MadeBy f → f.Callable → f.Handed log a → f.body a = .error e → o.Raises log e

variable {o : Object} {log : Option TaskLog}

theorem not_raises_iff : (∀ e, ¬ o.Raises log e) ↔ ∀ f, o.MadeBy f →
    f.Callable ∧ ∀ a, f.Handed log a → ∃ made, f.body a = .ok made := by
  constructor
  · intro h f hf
    have hcallable : f.Callable := by
      apply Classical.byContradiction
      intro hasks
      exact h _ (.arguments hf hasks)
    refine ⟨hcallable, ?_⟩
    intro a ha
    cases hbody : f.body a with
    | ok made => exact ⟨made, rfl⟩
    | error e => exact absurd (.body hf hcallable ha hbody) (h e)
  · intro h e he
    cases he with
    | arguments hf hasks => exact hasks (h _ hf).1
    | body hf _ ha hbody =>
      obtain ⟨made, hmade⟩ := (h _ hf).2 _ ha
      rw [hbody] at hmade
      cases hmade

theorem useful_cases (o : Object) :
    (∃ b, o.isClass = false ∧ o.behaviour? = some b) ∨ (∃ f, o.MadeBy f) ∨
      (o.factory? = none ∧ (o.isClass = true ∨ o.behaviour? = none)) := by
  cases hc : o.isClass with
  | false =>
    cases hb : o.behaviour? with
    | some b => exact .inl ⟨b, rfl, rfl⟩
    | none =>
      cases hf : o.factory? with
      | some f => exact .inr (.inl ⟨f, hf, .inr hb⟩)
      | none => exact .inr (.inr ⟨rfl, .inr rfl⟩)
  | true =>
    cases hf : o.factory? with
    | some f => exact .inr (.inl ⟨f, hf, .inl hc⟩)
    | none => exact .inr (.inr ⟨rfl, .inl rfl⟩)

end Object

namespace Registry

variable {o : Object} {f : Factory Object} {b : Behaviour} {log : Option TaskLog} {name : String}
  {l : Loaded} {e : Thrown}

theorem coerce_of_itself (hc : o.isClass = false) (hb : o.behaviour? = some b) :
    coerce o name log = .ok (.readyMade ⟨o.typeName, b⟩) := by
  have hg : o.generator? = some ⟨o.typeName, b⟩ := by rw [Object.generator?, hb]; rfl
  rw [coerce, hc, hg]

theorem coerce_of_madeBy (h : o.MadeBy f) : coerce o name log =
    match f.call log with
    | .error e => .error (.thrown e)
    | .ok made =>
      match made.generator? with
      | some g => .ok (.made g (f.argument log))
      | none => .error (.configuration (.notGenerator name)) := by
  obtain ⟨hf, hc | hb⟩ := h
  · rewrite [coerce, hc, hf]
    cases o.generator? with
    | none => rfl
    | some g => rfl
  · have hg : o.generator? = none := by rw [Object.generator?, hb]; rfl
    rewrite [coerce, hg, hf]
    cases o.isClass with
    | false => rfl
    | true => rfl

theorem coerce_of_useless (hf : o.factory? = none) (h : o.isClass = true ∨ o.behaviour? = none) :
    coerce o name log = .error (.configuration (.notGenerator name)) := by
  obtain hc | hb := h
  · rw [coerce, hc, hf]
    cases o.generator? with
    | none => rfl
    | some g => rfl
  · have hg : o.generator? = none := by rw [Object.generator?, hb]; rfl
    rw [coerce, hg, hf]

theorem coerce_of_provides (h : o.Provides log l) : coerce o name log = .ok l := by
  cases h with
  | itself hc hb => exact coerce_of_itself hc hb
  | @made f a made b hf hcallable ha hbody hb =>
    have hg : made.generator? = some ⟨made.typeName, b⟩ := by rw [Object.generator?, hb]; rfl
    rw [coerce_of_madeBy hf, Factory.call_eq_ok.2 ⟨hcallable, a, ha, hbody⟩]
    simp only [hg, Factory.handed_iff.1 ha]

theorem coerce_of_raises (h : o.Raises log e) : coerce o name log = .error (.thrown e) := by
  cases h with
  | arguments hf hasks =>
    rw [coerce_of_madeBy hf, Factory.call_eq_error.2 (.inl ⟨hasks, rfl⟩)]
  | body hf hcallable ha hbody =>
    rw [coerce_of_madeBy hf, Factory.call_eq_error.2 (.inr ⟨hcallable, _, ha, hbody⟩)]

theorem coerce_cases (o : Object) (name : String) (log : Option TaskLog) :
    (∃ l, o.Provides log l) ∨ (∃ e, o.Raises log e) ∨
      coerce o name log = .error (.configuration (.notGenerator name)) := by
  rcases o.useful_cases with ⟨b, hc, hb⟩ | ⟨f, hf⟩ | ⟨hf, h⟩
  · exact .inl ⟨_, .itself hc hb⟩
  · cases hcall : f.call log with
    | error e =>
      obtain ⟨hasks, rfl⟩ | ⟨hcallable, a, ha, hbody⟩ := Factory.call_eq_error.1 hcall
      · exact .inr (.inl ⟨_, .arguments hf hasks⟩)
      · exact .inr (.inl ⟨e, .body hf hcallable ha hbody⟩)
    | ok made =>
      obtain ⟨hcallable, a, ha, hbody⟩ := Factory.call_eq_ok.1 hcall
      cases hb : made.behaviour? with
      | some b => exact .inl ⟨_, .made hf hcallable ha hbody hb⟩
      | none =>
        have hg : made.generator? = none := by rw [Object.generator?, hb]; rfl
        refine .inr (.inr ?_)
        rw [coerce_of_madeBy hf, hcall]
        simp only [hg]
  · exact .inr (.inr (coerce_of_useless hf h))

theorem coerce_eq_ok : coerce o name log = .ok l ↔ o.Provides log l := by
  constructor
  · intro h
    rcases coerce_cases o name log with ⟨l', hl⟩ | ⟨e, he⟩ | hrefused
    · rw [coerce_of_provides hl] at h
      exact Except.ok.inj h ▸ hl
    · rw [coerce_of_raises he] at h
      cases h
    · rw [hrefused] at h
      cases h
  · exact coerce_of_provides

theorem coerce_eq_configuration {fault : GeneratorFault} :
    coerce o name log = .error (.configuration fault) ↔
      fault = .notGenerator name ∧ (∀ l, ¬ o.Provides log l) ∧ ∀ e, ¬ o.Raises log e := by
  constructor
  · intro h
    have hl (l : Loaded) : ¬ o.Provides log l := by
      intro hl
      rw [coerce_of_provides hl] at h
      cases h
    have he (e : Thrown) : ¬ o.Raises log e := by
      intro he
      rw [coerce_of_raises he] at h
      cases h
    rcases coerce_cases o name log with ⟨l, hl'⟩ | ⟨e, he'⟩ | hrefused
    · exact absurd hl' (hl l)
    · exact absurd he' (he e)
    · rw [hrefused] at h
      cases h
      exact ⟨rfl, hl, he⟩
  · rintro ⟨rfl, hl, he⟩
    rcases coerce_cases o name log with ⟨l, hl'⟩ | ⟨e, he'⟩ | hrefused
    · exact absurd hl' (hl l)
    · exact absurd he' (he e)
    · exact hrefused

end Registry

end ComponentBuild
