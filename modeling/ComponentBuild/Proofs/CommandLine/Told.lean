import ComponentBuild.CommandLine.Grammar
import Mathlib.Data.List.Nodup

/-!
What arguments tell, apart from how they are read. Each of them is accounted for: it names an option,
is the text of the option in front of it, or is the operand. Arguments tell one thing at most.
-/

namespace ComponentBuild.CommandLine

abbrev Spellings := List (String × Bool)

structure Mention where
  spelling : String
  given : Given
  deriving DecidableEq

structure IsCut (s start text : String) : Prop where
  chars : s.toList = start.toList ++ '=' :: text.toList
  first : '=' ∉ start.toList

namespace Spellings

def names (o : Spellings) : List String := o.map Prod.fst

inductive MayMean (o : Spellings) (s : String) : String → Option String → Prop
  | start {spelling : String} : isShort s = true ∨ '=' ∉ s.toList → spelling ∈ o.names →
      s.toList <+: spelling.toList → o.MayMean s spelling none
  | startWith {start text spelling : String} : isShort s = false → IsCut s start text →
      spelling ∈ o.names → start.toList <+: spelling.toList → o.MayMean s spelling (some text)
  | letterWith {spelling text : String} : isShort s = true → spelling ∈ o.names →
      spelling.toList.length = 2 → s.toList = spelling.toList ++ text.toList →
      o.MayMean s spelling (some text)

/-- The spelling that an argument stands for: the argument itself, or itself up to an equals sign,
or the only one that it may be short for. -/
inductive Means (o : Spellings) (s : String) : String → Option String → Prop
  | whole : s ∈ o.names → o.Means s s none
  | cut {start text : String} : s ∉ o.names → IsCut s start text → start ∈ o.names →
      o.Means s start (some text)
  | only {spelling : String} {attached : Option String} : s ∉ o.names →
      (∀ start text, IsCut s start text → start ∉ o.names) → s ≠ "-" →
      o.MayMean s spelling attached →
      (∀ spelling' attached', o.MayMean s spelling' attached' →
        spelling' = spelling ∧ attached' = attached) →
      o.Means s spelling attached

inductive IsOperand (o : Spellings) (s : String) : Prop
  | plain : s.toList.head? ≠ some '-' → o.IsOperand s
  | dash : s ∉ o.names → s = "-" → o.IsOperand s
  | dashed : s ∉ o.names → (∀ start text, IsCut s start text → start ∉ o.names) →
      (∀ spelling attached, ¬ o.MayMean s spelling attached) →
      isNegativeNumber s = true ∨ ' ' ∈ s.toList → o.IsOperand s

/-- What a spelling tells with the text attached to it and the arguments behind it, and which of
these are left. Behind a short spelling that is given no text more of them may follow. -/
inductive Gives (o : Spellings) :
    String → Option String → List String → List Mention → List String → Prop
  | flag {f : String} {rest : List String} : (f, false) ∈ o → o.Gives f none rest [⟨f, .nothing⟩] rest
  | text {f t : String} {rest : List String} : (f, true) ∈ o → o.IsOperand t →
      o.Gives f none (t :: rest) [⟨f, .text t⟩] rest
  | attached {f t : String} {rest : List String} : (f, true) ∈ o →
      o.Gives f (some t) rest [⟨f, .ofAttached t⟩] rest
  | joined {f : String} {c : Char} {cs : List Char} {rest left : List String} {ms : List Mention} :
      (f, false) ∈ o → isShort f = true →
      o.Gives (String.ofList ['-', c]) (if cs.isEmpty then none else some (String.ofList cs)) rest
        ms left →
      o.Gives f (some (String.ofList (c :: cs))) rest (⟨f, .nothing⟩ :: ms) left

/-- What arguments tell: options in their order, and at most one operand. -/
inductive Tells (o : Spellings) : List String → List Mention → Option String → Prop
  | nil : o.Tells [] [] none
  | option {s f : String} {attached operand : Option String} {rest left : List String}
      {now later : List Mention} : s.toList.head? = some '-' → s ≠ "--" → o.Means s f attached →
      o.Gives f attached rest now left → o.Tells left later operand →
      o.Tells (s :: rest) (now ++ later) operand
  | operand {s : String} {rest : List String} {ms : List Mention} : s ≠ "--" → o.IsOperand s →
      o.Tells rest ms none → o.Tells (s :: rest) ms (some s)
  | dashes : o.Tells ["--"] [] none
  | dashesOperand (t : String) : o.Tells ["--", t] [] (some t)

end Spellings

theorem IsCut.cut?_eq {s start text : String} (h : IsCut s start text) :
    Text.cut? '=' s.toList = some (start.toList, text.toList) :=
  Text.cut?_eq_some.2 ⟨h.chars, h.first⟩

theorem IsCut.unique {s start text start' text' : String} (h : IsCut s start text)
    (h' : IsCut s start' text') : start = start' ∧ text = text' := by
  obtain ⟨hstart, htext⟩ := Prod.mk.inj (Option.some.inj (h.cut?_eq.symm.trans h'.cut?_eq))
  exact ⟨String.toList_injective hstart, String.toList_injective htext⟩

namespace Spellings

variable {o : Spellings} {s f f' : String} {attached attached' operand operand' : Option String}
  {rest left left' : List String} {ms ms' : List Mention}

theorem Means.unique (h : o.Means s f attached) (h' : o.Means s f' attached') :
    f = f' ∧ attached = attached' := by
  cases h with
  | whole hs =>
    cases h' with
    | whole => exact ⟨rfl, rfl⟩
    | cut hs' => exact absurd hs hs'
    | only hs' => exact absurd hs hs'
  | cut hs hcut hstart =>
    cases h' with
    | whole hs' => exact absurd hs' hs
    | cut _ hcut' =>
      obtain ⟨rfl, rfl⟩ := hcut.unique hcut'
      exact ⟨rfl, rfl⟩
    | only _ hno => exact absurd hstart (hno _ _ hcut)
  | only hs hno hdash hmay honly =>
    cases h' with
    | whole hs' => exact absurd hs' hs
    | cut _ hcut hstart => exact absurd hstart (hno _ _ hcut)
    | only _ _ _ hmay' => exact (honly _ _ hmay').imp Eq.symm Eq.symm

theorem IsOperand.not_means (h : o.IsOperand s) (hhead : s.toList.head? = some '-') :
    ¬ o.Means s f attached := by
  intro hm
  cases h with
  | plain hplain => exact hplain hhead
  | dash hs hdash =>
    cases hm with
    | whole hs' => exact hs hs'
    | cut _ hcut =>
      have hno : Text.cut? '=' s.toList = none := by
        rw [hdash]
        rfl
      rw [hcut.cut?_eq] at hno
      cases hno
    | only _ _ hne => exact hne hdash
  | dashed hs hno hmay =>
    cases hm with
    | whole hs' => exact hs hs'
    | cut _ hcut hstart => exact hno _ _ hcut hstart
    | only _ _ _ hmay' => exact hmay _ _ hmay'

theorem not_text_of_flag (ho : o.names.Nodup) (hflag : (f, false) ∈ o) : (f, true) ∉ o := by
  intro htext
  have hsame := List.inj_on_of_nodup_map ho hflag htext rfl
  simp at hsame

theorem Gives.unique (ho : o.names.Nodup) (h : o.Gives f attached rest ms left)
    (h' : o.Gives f attached rest ms' left') : ms = ms' ∧ left = left' := by
  induction h generalizing ms' left' with
  | flag hf =>
    cases h' with
    | flag => exact ⟨rfl, rfl⟩
    | text hf' => exact absurd hf' (not_text_of_flag ho hf)
  | text hf _ =>
    cases h' with
    | flag hf' => exact absurd hf (not_text_of_flag ho hf')
    | text => exact ⟨rfl, rfl⟩
  | attached hf =>
    cases h' with
    | attached => exact ⟨rfl, rfl⟩
    | joined hf' => exact absurd hf (not_text_of_flag ho hf')
  | joined hf _ _ ih =>
    generalize hchars : String.ofList (_ :: _) = text at h'
    cases h' with
    | attached hf' => exact absurd hf' (not_text_of_flag ho hf)
    | joined _ _ hmore =>
      obtain ⟨rfl, rfl⟩ := List.cons.inj (String.ofList_injective hchars)
      obtain ⟨rfl, rfl⟩ := ih hmore
      exact ⟨rfl, rfl⟩

theorem Tells.unique {arguments : List String} (ho : o.names.Nodup)
    (h : o.Tells arguments ms operand) (h' : o.Tells arguments ms' operand') :
    ms = ms' ∧ operand = operand' := by
  induction h generalizing ms' operand' with
  | nil =>
    cases h'
    exact ⟨rfl, rfl⟩
  | option hhead hne hmeans hgives _ ih =>
    cases h' with
    | option _ _ hmeans' hgives' hlater =>
      obtain ⟨rfl, rfl⟩ := hmeans.unique hmeans'
      obtain ⟨rfl, rfl⟩ := hgives.unique ho hgives'
      obtain ⟨rfl, rfl⟩ := ih hlater
      exact ⟨rfl, rfl⟩
    | operand _ hop => exact absurd hmeans (hop.not_means hhead)
    | dashes => exact absurd rfl hne
    | dashesOperand => exact absurd rfl hne
  | operand hne hop _ ih =>
    cases h' with
    | option hhead _ hmeans => exact absurd hmeans (hop.not_means hhead)
    | operand _ _ hrest =>
      obtain ⟨rfl, -⟩ := ih hrest
      exact ⟨rfl, rfl⟩
    | dashes => exact absurd rfl hne
    | dashesOperand => exact absurd rfl hne
  | dashes =>
    cases h' with
    | option _ hne => exact absurd rfl hne
    | operand hne => exact absurd rfl hne
    | dashes => exact ⟨rfl, rfl⟩
  | dashesOperand t =>
    cases h' with
    | option _ hne => exact absurd rfl hne
    | operand hne => exact absurd rfl hne
    | dashesOperand => exact ⟨rfl, rfl⟩

end Spellings

end ComponentBuild.CommandLine
