import ComponentBuild.Proofs.CommandLine.Heard

namespace ComponentBuild.CommandLine

namespace Spellings

variable {o : Spellings} {f : String} {attached : Option String} {rest left : List String}
  {ms : List Mention}

theorem Gives.length_le (h : o.Gives f attached rest ms left) : left.length ≤ rest.length := by
  induction h with
  | flag => exact Nat.le_refl _
  | text => exact Nat.le_succ _
  | attached => exact Nat.le_refl _
  | joined _ _ _ ih => exact ih

theorem Gives.eq_of_flags (ho : ∀ f, (f, true) ∉ o) (h : o.Gives f attached rest ms left) :
    left = rest := by
  induction h with
  | flag => rfl
  | text hf => exact absurd hf (ho _)
  | attached hf => exact absurd hf (ho _)
  | joined _ _ _ ih => exact ih

end Spellings

namespace Grammar

variable {α : Type} {g : Grammar α}

structure Effect.Is (g : Grammar α) (e : Effect α) (m : Mention) : Prop where
  spelled : (e.spelling, e.rule) ∈ g.spelled
  spelling : m.spelling = e.spelling
  given : e.rule.takesText = true → m.given = e.given

def Sets (g : Grammar α) (m : Mention) (a : α) : Prop :=
  ∃ e : Effect α, e.Is g m ∧ e.rule.read e.spelling e.given = .setting a

theorem sets_of_settings {es : List (Effect α)} {ms : List Mention} {settings : List α}
    (hes : List.Forall₂ (Effect.Is g) es ms) (h : g.settings es = .ok settings) :
    List.Forall₂ g.Sets ms settings := by
  induction hes generalizing settings with
  | nil =>
    obtain rfl := Except.ok.inj h
    exact .nil
  | cons he _ ih =>
    unfold Grammar.settings at h
    split at h
    · rename_i a ha
      obtain ⟨rest, hrest, rfl⟩ := map_eq_ok.1 h
      exact .cons ⟨_, he, ha⟩ (ih hrest)
    · cases h
    · cases h

inductive Placed (g : Grammar α) : Words α → Prop
  | nil : g.Placed []
  | dashes (ts : List String) : g.Placed (("--", .dashes) :: ts.map fun t => (t, .operand))
  | word {s : String} {w : Word α} {ws : Words α} : s ≠ "--" → g.word s = .ok w → g.Placed ws →
      g.Placed ((s, w) :: ws)

theorem placed_words {arguments : List String} {ws : Words α} (h : g.words arguments = .ok ws) :
    ws.map Prod.fst = arguments ∧ g.Placed ws := by
  induction arguments generalizing ws with
  | nil =>
    obtain rfl := Except.ok.inj h
    exact ⟨rfl, .nil⟩
  | cons s rest ih =>
    unfold words at h
    split at h
    · rename_i hs
      obtain rfl := Except.ok.inj h
      rw [hs]
      exact ⟨by simp [Function.comp_def], .dashes rest⟩
    · rename_i hs
      obtain ⟨w, hw, h⟩ := bind_eq_ok.1 h
      obtain ⟨more, hmore, h⟩ := bind_eq_ok.1 h
      obtain rfl := Except.ok.inj h
      obtain ⟨hmap, hplaced⟩ := ih hmore
      exact ⟨by simp [hmap], .word hs hw hplaced⟩

theorem gives_of_take {fuel : Nat} {rest : Words α} {use : OptionUse α} {taken : Taken α}
    (hspelled : (use.spelling, use.rule) ∈ g.spelled) (hplaced : g.Placed rest)
    (hfuel : (use.attached.map String.length).getD 0 < fuel)
    (h : g.take rest fuel use = .ok taken) :
    ∃ ms, g.spellings.Gives use.spelling use.attached (rest.map Prod.fst) ms
        (taken.rest.map Prod.fst) ∧
      List.Forall₂ (Effect.Is g) taken.effects ms ∧ g.Placed taken.rest := by
  induction fuel generalizing use taken with
  | zero => exact absurd hfuel (Nat.not_lt_zero _)
  | succ fuel ih =>
    obtain ⟨r, spelling, attached⟩ := use
    have hmem := mem_spellings hspelled
    unfold take at h
    cases attached with
    | none =>
      cases ht : r.takesText with
      | false =>
        simp only [ht, Bool.not_false, if_true] at h
        obtain rfl := Except.ok.inj h
        rw [ht] at hmem
        exact ⟨_, .flag hmem, .cons ⟨hspelled, rfl, by simp [ht]⟩ .nil, hplaced⟩
      | true =>
        simp only [ht, Bool.not_true, Bool.false_eq_true, if_false] at h
        rw [ht] at hmem
        split at h
        · obtain rfl := Except.ok.inj h
          cases hplaced with
          | word _ hword hlater =>
            have hop := isOperand_of_word hword
            exact ⟨_, .text hmem hop, .cons ⟨hspelled, rfl, fun _ => rfl⟩ .nil, hlater⟩
        · cases h
    | some text =>
      cases ht : r.takesText with
      | true =>
        simp only [ht, if_true] at h
        obtain rfl := Except.ok.inj h
        rw [ht] at hmem
        exact ⟨_, .attached hmem, .cons ⟨hspelled, rfl, fun _ => rfl⟩ .nil, hplaced⟩
      | false =>
        simp only [ht, Bool.false_eq_true, if_false] at h
        rw [ht] at hmem
        split at h
        · rename_i c cs hshort hchars
          split at h
          · cases h
          · rename_i r' hr'
            obtain ⟨more, hmore, rfl⟩ := map_eq_ok.1 h
            obtain rfl : text = String.ofList (c :: cs) := by
              rw [← hchars, String.ofList_toList]
            have hless : ((if cs.isEmpty then none else some (String.ofList cs)).map
                String.length).getD 0 < fuel := by
              simp only [Option.map_some, Option.getD_some, String.length_ofList,
                List.length_cons] at hfuel
              cases cs <;> simp at hfuel ⊢ <;> omega
            obtain ⟨ms, hgives, hes, hlater⟩ := ih (mem_spelled_of_rule? hr') hless hmore
            exact ⟨_, .joined hmem hshort hgives, .cons ⟨hspelled, rfl, by simp [ht]⟩ hes, hlater⟩
        · cases h

theorem gives_of_takeUse {rest : Words α} {use : OptionUse α} {taken : Taken α}
    (hspelled : (use.spelling, use.rule) ∈ g.spelled) (hplaced : g.Placed rest)
    (h : g.takeUse rest use = .ok taken) :
    ∃ ms, g.spellings.Gives use.spelling use.attached (rest.map Prod.fst) ms
        (taken.rest.map Prod.fst) ∧
      List.Forall₂ (Effect.Is g) taken.effects ms ∧ g.Placed taken.rest := by
  unfold takeUse at h
  simp only at h
  split at h
  · rename_i taken' htake
    obtain rfl := Except.ok.inj h
    exact gives_of_take hspelled hplaced (Nat.lt_succ_self _) htake
  · cases h

theorem extra_ne_nil {s : String} {x : Except Stop (Parsed α)} {p : Parsed α}
    (h : x.map (fun q => { q with extra := s :: q.extra }) = .ok p) : p.extra ≠ [] := by
  obtain ⟨q, -, rfl⟩ := map_eq_ok.1 h
  exact List.cons_ne_nil s q.extra

theorem parseWords_operands {fuel : Nat} {ts : List String} {p : Parsed α} (hfuel : ts.length < fuel)
    (h : g.parseWords fuel false (ts.map fun t => (t, .operand)) = .ok p) (hextra : p.extra = []) :
    ts = [] ∧ p.settings = [] ∧ p.operand = none := by
  cases fuel with
  | zero => exact absurd hfuel (Nat.not_lt_zero _)
  | succ fuel =>
    cases ts with
    | nil =>
      obtain rfl := Except.ok.inj h
      exact ⟨rfl, rfl, rfl⟩
    | cons t ts =>
      exact absurd hextra (extra_ne_nil h)

structure Hears (g : Grammar α) (wanted : Bool) (ws : Words α) (p : Parsed α) (ms : List Mention) :
    Prop where
  tells : g.spellings.Tells (ws.map Prod.fst) ms p.operand
  settings : List.Forall₂ g.Sets ms p.settings
  operand : wanted = false → p.operand = none

theorem hears_of_parseWords {fuel : Nat} {wanted : Bool} {ws : Words α} {p : Parsed α}
    (hplaced : g.Placed ws) (hfuel : ws.length < fuel) (h : g.parseWords fuel wanted ws = .ok p)
    (hextra : p.extra = []) : ∃ ms, g.Hears wanted ws p ms := by
  induction fuel generalizing wanted ws p with
  | zero => exact absurd hfuel (Nat.not_lt_zero _)
  | succ fuel ih =>
    cases hplaced with
    | nil =>
      obtain rfl := Except.ok.inj h
      exact ⟨[], .nil, .nil, fun _ => rfl⟩
    | dashes ts =>
      have hlength : ts.length < fuel + 1 := by simp at hfuel; omega
      cases wanted with
      | false => exact absurd hextra (extra_ne_nil h)
      | true =>
        cases ts with
        | nil =>
          have hrest : g.parseWords fuel false ([].map fun t => (t, .operand)) = .ok p := h
          obtain ⟨-, hsettings, hoperand⟩ := parseWords_operands (Nat.lt_of_succ_lt_succ hfuel) hrest hextra
          refine ⟨[], ?_, ?_, fun _ => hoperand⟩
          · rw [hoperand]
            exact .dashes
          · rw [hsettings]
            exact .nil
        | cons t ts =>
          obtain ⟨q, hq, rfl⟩ := map_eq_ok.1 h
          obtain ⟨rfl, hsettings, -⟩ :=
            parseWords_operands (by simp at hlength; omega) hq hextra
          refine ⟨[], .dashesOperand t, ?_, by simp⟩
          rw [hsettings]
          exact .nil
    | @word s w rest hs hw hrest =>
      have hlength : rest.length < fuel := by simpa using hfuel
      cases w with
      | dashes => exact absurd hw word_ne_dashes
      | unknown => exact absurd hextra (extra_ne_nil h)
      | known use =>
        obtain ⟨hhead, hmeans, hspelled⟩ := means_of_word hw
        simp only [parseWords] at h
        obtain ⟨taken, htake, h⟩ := bind_eq_ok.1 h
        obtain ⟨settings, hsettings, h⟩ := bind_eq_ok.1 h
        obtain ⟨q, hq, h⟩ := bind_eq_ok.1 h
        obtain rfl := Except.ok.inj h
        obtain ⟨now, hgives, hes, hlater⟩ := gives_of_takeUse hspelled hrest htake
        have hless := hgives.length_le
        simp only [List.length_map] at hless
        obtain ⟨later, hhears⟩ := ih hlater (Nat.lt_of_le_of_lt hless hlength) hq hextra
        exact ⟨now ++ later, .option hhead hs hmeans hgives hhears.tells,
          List.rel_append (sets_of_settings hes hsettings) hhears.settings, hhears.operand⟩
      | operand =>
        have hop := isOperand_of_word hw
        cases wanted with
        | false => exact absurd hextra (extra_ne_nil h)
        | true =>
          simp only [parseWords, Bool.not_true, Bool.false_eq_true, if_false] at h
          split at h
          · obtain ⟨q, hq, rfl⟩ := map_eq_ok.1 h
            cases hrest with
            | word _ hdashes => exact absurd hdashes word_ne_dashes
            | dashes ts =>
              obtain ⟨rfl, hsettings, -⟩ :=
                parseWords_operands (by simp at hlength; omega) hq hextra
              refine ⟨[], .operand hs hop .dashes, ?_, by simp⟩
              rw [hsettings]
              exact .nil
          · obtain ⟨q, hq, rfl⟩ := map_eq_ok.1 h
            obtain ⟨ms, hhears⟩ := ih hrest hlength hq hextra
            have htells := hhears.tells
            rw [hhears.operand rfl] at htells
            exact ⟨ms, .operand hs hop htells, hhears.settings, by simp⟩

theorem tells_of_parse {wanted : Bool} {arguments : List String} {p : Parsed α}
    (h : g.parse wanted arguments = .ok p) (hextra : p.extra = []) :
    ∃ ms, g.spellings.Tells arguments ms p.operand ∧ List.Forall₂ g.Sets ms p.settings := by
  obtain ⟨ws, hws, hp⟩ := bind_eq_ok.1 h
  obtain ⟨hmap, hplaced⟩ := placed_words hws
  obtain ⟨ms, hhears⟩ := hears_of_parseWords hplaced (Nat.lt_succ_self _) hp hextra
  have htells := hhears.tells
  rw [hmap] at htells
  exact ⟨ms, htells, hhears.settings⟩

section Command

variable {command : String} {left : List String}

theorem front_of_commandWords (hflags : ∀ f, (f, true) ∉ g.spellings) {fuel : Nat}
    {ws : Words α} {c : Commanded α} (hplaced : g.Placed ws) (h : g.commandWords fuel ws = .ok c)
    (hc : c.command = some (command, left)) (hcommand : command ≠ "--") (hextra : c.extra = []) :
    ∃ front, ws.map Prod.fst = front ++ command :: left ∧
      ∀ s ∈ front, s.toList.head? = some '-' := by
  induction fuel generalizing ws c with
  | zero =>
    obtain rfl := Except.ok.inj h
    cases hc
  | succ fuel ih =>
    cases hplaced with
    | nil =>
      obtain rfl := Except.ok.inj h
      cases hc
    | dashes ts =>
      simp only [commandWords] at h
      split at h
      · obtain ⟨d, -, rfl⟩ := map_eq_ok.1 h
        simp at hextra
      · obtain rfl := Except.ok.inj h
        exact absurd (Prod.mk.inj (Option.some.inj hc)).1.symm hcommand
    | @word s w rest hs hw hrest =>
      cases w with
      | dashes => exact absurd hw word_ne_dashes
      | unknown =>
        simp only [commandWords] at h
        obtain ⟨d, -, rfl⟩ := map_eq_ok.1 h
        simp at hextra
      | operand =>
        obtain rfl := Except.ok.inj h
        obtain ⟨rfl, rfl⟩ := Prod.mk.inj (Option.some.inj hc)
        exact ⟨[], rfl, by simp⟩
      | known use =>
        obtain ⟨hhead, -, hspelled⟩ := means_of_word hw
        simp only [commandWords] at h
        obtain ⟨taken, htake, h⟩ := bind_eq_ok.1 h
        obtain ⟨settings, hsettings, h⟩ := bind_eq_ok.1 h
        obtain ⟨d, hd, h⟩ := bind_eq_ok.1 h
        obtain rfl := Except.ok.inj h
        obtain ⟨ms, hgives, -, hlater⟩ := gives_of_takeUse hspelled hrest htake
        have hleft := hgives.eq_of_flags hflags
        obtain ⟨front, hfront, hdashed⟩ := ih hlater hd hc hextra
        rw [hleft] at hfront
        refine ⟨s :: front, by simp [hfront], ?_⟩
        intro t ht
        rcases List.mem_cons.1 ht with rfl | ht
        · exact hhead
        · exact hdashed t ht

theorem front_of_parseCommand (hflags : ∀ f, (f, true) ∉ g.spellings)
    {arguments : List String} {c : Commanded α} (h : g.parseCommand arguments = .ok c)
    (hc : c.command = some (command, left)) (hcommand : command ≠ "--") (hextra : c.extra = []) :
    ∃ front, arguments = front ++ command :: left ∧ ∀ s ∈ front, s.toList.head? = some '-' := by
  obtain ⟨ws, hws, hwords⟩ := bind_eq_ok.1 h
  obtain ⟨hmap, hplaced⟩ := placed_words hws
  rw [← hmap]
  exact front_of_commandWords hflags hplaced hwords hc hcommand hextra

end Command

end Grammar

end ComponentBuild.CommandLine
