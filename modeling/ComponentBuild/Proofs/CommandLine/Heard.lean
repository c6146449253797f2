import ComponentBuild.Proofs.CommandLine.Told
import ComponentBuild.Proofs.Fallible

namespace ComponentBuild.CommandLine

namespace Grammar

variable {α : Type} {g : Grammar α} {s spelling start text : String} {r : OptionRule α}
  {use : OptionUse α} {attached : Option String}

def spellings (g : Grammar α) : Spellings := g.spelled.map fun p => (p.1, p.2.takesText)

theorem mem_spellings (h : (s, r) ∈ g.spelled) : (s, r.takesText) ∈ g.spellings :=
  List.mem_map.2 ⟨_, h, rfl⟩

theorem mem_names_iff : s ∈ g.spellings.names ↔ ∃ r, (s, r) ∈ g.spelled := by
  simp [Spellings.names, spellings]

theorem mem_spelled_of_rule? (h : g.rule? s = some r) : (s, r) ∈ g.spelled := by
  obtain ⟨before, after, he, -⟩ := List.lookup_eq_some_iff.1 h
  rw [he]
  simp

theorem rule?_eq_none_iff : g.rule? s = none ↔ s ∉ g.spellings.names := by
  rw [rule?, List.lookup_eq_none_iff, mem_names_iff]
  constructor
  · rintro h ⟨r, hmem⟩
    simpa using h _ hmem
  · rintro h ⟨name, r⟩ hmem
    simp only [bne_iff_ne]
    rintro rfl
    exact h ⟨r, hmem⟩

theorem isCut_of_cutAtEquals (h : cutAtEquals s = (start, some text)) : IsCut s start text := by
  unfold cutAtEquals at h
  split at h
  · rename_i before after hcut
    obtain ⟨rfl, htext⟩ := Prod.mk.inj h
    obtain rfl := Option.some.inj htext
    obtain ⟨hchars, hfirst⟩ := Text.cut?_eq_some.1 hcut
    exact ⟨by simpa using hchars, by simpa using hfirst⟩
  · simp at h

theorem cutAtEquals_of_isCut (h : IsCut s start text) : cutAtEquals s = (start, some text) := by
  rw [cutAtEquals, h.cut?_eq]
  simp

theorem not_mem_of_cutAtEquals (h : cutAtEquals s = (start, none)) : start = s ∧ '=' ∉ s.toList := by
  unfold cutAtEquals at h
  split at h
  · simp at h
  · rename_i hcut
    refine ⟨(Prod.mk.inj h).1.symm, ?_⟩
    exact Text.cut?_eq_none.1 hcut

theorem means_of_plainUse? (h : g.plainUse? s = some use) :
    g.spellings.Means s use.spelling use.attached ∧ (use.spelling, use.rule) ∈ g.spelled := by
  unfold plainUse? at h
  split at h
  · rename_i r hr
    obtain rfl := Option.some.inj h
    have hmem := mem_spelled_of_rule? hr
    exact ⟨.whole (mem_names_iff.2 ⟨r, hmem⟩), hmem⟩
  · rename_i hs
    cases hcut : cutAtEquals s with
    | mk start attached =>
      simp only [hcut] at h
      cases attached with
      | none => cases h
      | some text =>
        obtain ⟨r, hr, rfl⟩ := Option.map_eq_some_iff.1 h
        have hmem := mem_spelled_of_rule? hr
        have hstart := mem_names_iff.2 ⟨r, hmem⟩
        exact ⟨.cut (rule?_eq_none_iff.1 hs) (isCut_of_cutAtEquals hcut) hstart, hmem⟩

theorem not_mem_of_plainUse? (h : g.plainUse? s = none) : s ∉ g.spellings.names ∧
    ∀ start text, IsCut s start text → start ∉ g.spellings.names := by
  unfold plainUse? at h
  split at h
  · cases h
  · rename_i hs
    refine ⟨rule?_eq_none_iff.1 hs, ?_⟩
    intro start text hcut
    simp only [cutAtEquals_of_isCut hcut, Option.isNone_some, Bool.false_eq_true, if_false,
      Option.map_eq_none_iff] at h
    exact rule?_eq_none_iff.1 h

theorem exists_letter (hs : s.toList.head? = some '-') (hdash : s ≠ "-") :
    ∃ c cs, s.toList = '-' :: c :: cs := by
  match hchars : s.toList with
  | [] => simp [hchars] at hs
  | [c] =>
    obtain rfl : c = '-' := by simpa [hchars] using hs
    exact absurd (String.toList_injective hchars) hdash
  | c :: d :: cs =>
    obtain rfl : c = '-' := by simpa [hchars] using hs
    exact ⟨d, cs, rfl⟩

theorem mayMean_of_mem_candidates (h : use ∈ g.candidates s) (hs : s.toList.head? = some '-')
    (hdash : s ≠ "-") : g.spellings.MayMean s use.spelling use.attached ∧
      (use.spelling, use.rule) ∈ g.spelled := by
  unfold candidates at h
  split at h
  · rename_i hshort
    obtain ⟨⟨spelling, r⟩, hmem, h⟩ := List.mem_filterMap.1 h
    have hname := mem_names_iff.2 ⟨r, hmem⟩
    simp only at h
    split at h
    · rename_i hletter
      obtain rfl := Option.some.inj h
      refine ⟨.letterWith hshort hname ?_ ?_, hmem⟩
      · obtain ⟨c, cs, hchars⟩ := exists_letter hs hdash
        simp [hletter, hchars]
      · simp [hletter]
    · split at h
      · rename_i hprefix
        obtain rfl := Option.some.inj h
        exact ⟨.start (.inl hshort) hname (List.isPrefixOf_iff_prefix.1 hprefix), hmem⟩
      · cases h
  · rename_i hlong
    cases hcut : cutAtEquals s with
    | mk start attached =>
      simp only [hcut] at h
      obtain ⟨⟨spelling, r⟩, hmem, h⟩ := List.mem_filterMap.1 h
      have hname := mem_names_iff.2 ⟨r, hmem⟩
      simp only at h
      split at h
      · rename_i hprefix
        obtain rfl := Option.some.inj h
        have hstart := List.isPrefixOf_iff_prefix.1 hprefix
        refine ⟨?_, hmem⟩
        cases attached with
        | none =>
          obtain ⟨rfl, hno⟩ := not_mem_of_cutAtEquals hcut
          exact .start (.inr hno) hname hstart
        | some text =>
          exact .startWith (Bool.eq_false_iff.2 hlong) (isCut_of_cutAtEquals hcut) hname hstart
      · cases h

theorem mem_candidates_of_mayMean (hs : s ∉ g.spellings.names)
    (h : g.spellings.MayMean s spelling attached) :
    ∃ use ∈ g.candidates s, use.spelling = spelling ∧ use.attached = attached := by
  unfold candidates
  cases h with
  | start hshort hname hprefix =>
    obtain ⟨r, hmem⟩ := mem_names_iff.1 hname
    refine ⟨⟨r, spelling, none⟩, ?_, rfl, rfl⟩
    have hpre := List.isPrefixOf_iff_prefix.2 hprefix
    split
    · -- A spelling of two characters that starts with the argument is the argument.
      have hletter : spelling ≠ String.ofList (s.toList.take 2) := by
        intro hletter
        rw [hletter, String.toList_ofList] at hprefix
        have hsame := hprefix.eq_of_length_le (List.length_take_le' 2 s.toList)
        rw [← hsame, String.ofList_toList] at hletter
        exact hs (hletter ▸ hname)
      refine List.mem_filterMap.2 ⟨_, hmem, ?_⟩
      simp [hletter, hpre]
    · rename_i hlong
      have hno : '=' ∉ s.toList := hshort.resolve_left hlong
      have hcut : cutAtEquals s = (s, none) := by
        rw [cutAtEquals, Text.cut?_eq_none.2 hno]
      simp only [hcut]
      refine List.mem_filterMap.2 ⟨_, hmem, ?_⟩
      simp only [hpre, if_true]
  | @startWith start text _ hlong hcut hname hprefix =>
    obtain ⟨r, hmem⟩ := mem_names_iff.1 hname
    refine ⟨⟨r, spelling, some text⟩, ?_, rfl, rfl⟩
    simp only [hlong, Bool.false_eq_true, if_false, cutAtEquals_of_isCut hcut]
    refine List.mem_filterMap.2 ⟨_, hmem, ?_⟩
    simp only [List.isPrefixOf_iff_prefix.2 hprefix, if_true]
  | @letterWith _ text hshort hname hlength hchars =>
    obtain ⟨r, hmem⟩ := mem_names_iff.1 hname
    refine ⟨⟨r, spelling, some text⟩, ?_, rfl, rfl⟩
    rw [if_pos hshort]
    refine List.mem_filterMap.2 ⟨_, hmem, ?_⟩
    simp [hchars, ← hlength]

theorem means_of_word {g : Grammar α} (h : g.word s = .ok (.known use)) :
    s.toList.head? = some '-' ∧ g.spellings.Means s use.spelling use.attached ∧
      (use.spelling, use.rule) ∈ g.spelled := by
  unfold word at h
  split at h
  · cases h
  · rename_i hhead
    have hhead : s.toList.head? = some '-' := not_not.1 hhead
    refine ⟨hhead, ?_⟩
    split at h
    · rename_i use' hplain
      obtain rfl : use' = use := by simpa using h
      exact means_of_plainUse? hplain
    · rename_i hplain
      obtain ⟨hs, hno⟩ := not_mem_of_plainUse? hplain
      split at h
      · cases h
      · rename_i hdash
        split at h
        · rename_i use' hone
          obtain rfl : use' = use := by simpa using h
          have hmem : use' ∈ g.candidates s := by simp [hone]
          obtain ⟨hmay, hspelled⟩ := mayMean_of_mem_candidates hmem hhead hdash
          refine ⟨.only hs hno hdash hmay ?_, hspelled⟩
          intro spelling attached hmay'
          obtain ⟨other, hother, rfl, rfl⟩ := mem_candidates_of_mayMean hs hmay'
          rw [hone, List.mem_singleton] at hother
          rw [hother]
          exact ⟨rfl, rfl⟩
        · split at h <;> cases h
        · cases h

theorem isOperand_of_word (h : g.word s = .ok .operand) : g.spellings.IsOperand s := by
  unfold word at h
  split at h
  · rename_i hhead
    exact .plain hhead
  · split at h
    · cases h
    · rename_i hplain
      obtain ⟨hs, hno⟩ := not_mem_of_plainUse? hplain
      split at h
      · rename_i hdash
        exact .dash hs hdash
      · split at h
        · cases h
        · rename_i hnone
          split at h
          · rename_i hlooks
            refine .dashed hs hno ?_ ?_
            · intro spelling attached hmay
              obtain ⟨use, huse, -⟩ := mem_candidates_of_mayMean hs hmay
              simp [hnone] at huse
            · simpa using hlooks
          · cases h
        · cases h

theorem word_ne_dashes : g.word s ≠ .ok .dashes := by
  unfold word
  split
  · simp
  · split
    · simp
    · split
      · simp
      · split
        · simp
        · split <;> simp
        · simp

end Grammar

end ComponentBuild.CommandLine
