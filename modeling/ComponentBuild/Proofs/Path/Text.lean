import ComponentBuild.Generator.Project
import ComponentBuild.Proofs.Path.Below

namespace ComponentBuild

namespace Text

variable {mark : Char}

theorem pieces_append_mark {cs : List Char} (h : mark ∉ cs) (rest : List Char) :
    pieces mark (cs ++ mark :: rest) = cs :: pieces mark rest := by
  rw [pieces_append, pieces_of_not_mem h]
  rfl

theorem pieces_intercalate_of_not_mem {ps : List (List Char)} (hne : ps ≠ [])
    (h : ∀ p ∈ ps, mark ∉ p) : pieces mark ([mark].intercalate ps) = ps := by
  induction ps with
  | nil => exact absurd rfl hne
  | cons p ps ih =>
    have hp := h p List.mem_cons_self
    cases ps with
    | nil =>
      rw [List.intercalate_singleton]
      exact pieces_of_not_mem hp
    | cons q ps =>
      have hi : [mark].intercalate (p :: q :: ps) = p ++ mark :: [mark].intercalate (q :: ps) := by
        simp [List.intercalate, List.intersperse]
      have hq : ∀ r ∈ q :: ps, mark ∉ r := by
        intro r hr
        exact h r (List.mem_cons_of_mem _ hr)
      rw [hi, pieces_append_mark hp, ih (by simp) hq]

theorem split_intercalate {ss : List String} (hne : ss ≠ []) (h : ∀ s ∈ ss, mark ∉ s.toList) :
    split mark ((String.singleton mark).intercalate ss) = ss := by
  have hchars : ∀ p ∈ ss.map String.toList, mark ∉ p := by
    intro p hp
    obtain ⟨s, hs, rfl⟩ := List.mem_map.1 hp
    exact h s hs
  have hpieces := pieces_intercalate_of_not_mem (by simpa using hne) hchars
  have hmark : (String.singleton mark).toList = [mark] := by simp
  rw [split, String.toList_intercalate, hmark, hpieces]
  simp

end Text

theorem Segment.ofText?_text (s : Segment) : ofText? s.text = some s := by
  cases s with
  | up => rfl
  | entry n => simp [ofText?, text, Name.ofText?, n.isName, n.isName.2.2.1]

theorem Segment.ofText?_eq_some {t : String} {s : Segment} : ofText? t = some s ↔ s.text = t := by
  constructor
  · intro h
    unfold ofText? at h
    split at h
    · rename_i hup
      obtain rfl := Option.some.inj h
      exact hup.symm
    · obtain ⟨n, hn, rfl⟩ := Option.map_eq_some_iff.1 h
      unfold Name.ofText? at hn
      split at hn
      · obtain rfl := Option.some.inj hn
        rfl
      · cases hn
  · rintro rfl
    exact s.ofText?_text

theorem Segment.exists_ofText? {t : String} {c : Char} (hslash : '/' ∉ t.toList) (h : c ∈ t.toList)
    (hc : c ≠ '.') : ∃ s, ofText? t = some s := by
  have hname : IsName t := by
    refine ⟨?_, ?_, ?_, hslash⟩
    · rintro rfl
      simp at h
    · rintro rfl
      exact hc (by simpa using h)
    · rintro rfl
      exact hc (by simpa using h)
  exact ⟨.entry ⟨t, hname⟩, ofText?_eq_some.2 rfl⟩

namespace Path

theorem segments_of_split (ss : List Segment) :
    (Text.split '/' ("/".intercalate (ss.map Segment.text))).filterMap Segment.ofText? = ss := by
  by_cases hne : ss = []
  · subst hne
    decide
  · have hslash : ∀ t ∈ ss.map Segment.text, '/' ∉ t.toList := by
      intro t ht
      obtain ⟨s, -, rfl⟩ := List.mem_map.1 ht
      exact s.slash_not_mem_text
    have hsplit : Text.split '/' ("/".intercalate (ss.map Segment.text)) = ss.map Segment.text :=
      Text.split_intercalate (by simpa using hne) hslash
    have hsome : Segment.ofText? ∘ Segment.text = some := by
      funext s
      exact Segment.ofText?_text s
    rw [hsplit, List.filterMap_map, hsome, List.filterMap_some]

theorem head?_intercalate_ne (ss : List Segment) :
    ("/".intercalate (ss.map Segment.text)).toList.head? ≠ some '/' := by
  cases ss with
  | nil => decide
  | cons s ss =>
    have hne : s.text.toList ≠ [] := by simpa using s.text_ne_empty
    obtain ⟨c, cs, hc⟩ := List.exists_cons_of_ne_nil hne
    have hslash : c ≠ '/' := by
      rintro rfl
      apply s.slash_not_mem_text
      simp [hc]
    have hhead : ("/".intercalate ((s :: ss).map Segment.text)).toList.head? = some c := by
      rw [String.toList_intercalate]
      cases ss with
      | nil => simp [List.intercalate, hc]
      | cons r ss => simp [List.intercalate, hc]
    rw [hhead]
    simpa using hslash

theorem ofChars_anchor (a : Anchor) {cs : List Char} (h : cs.head? ≠ some '/') :
    Anchor.ofChars (a.text.toList ++ cs) = a := by
  cases cs with
  | nil => cases a <;> rfl
  | cons c cs =>
    have hc : c ≠ '/' := by simpa using h
    cases a with
    | relative => simp [Anchor.ofChars, Anchor.text, hc]
    | root => simp [Anchor.ofChars, Anchor.text, hc]
    | doubleRoot => simp [Anchor.ofChars, Anchor.text, hc]

theorem split_anchor (a : Anchor) (s : String) :
    (Text.split '/' (a.text ++ s)).filterMap Segment.ofText? =
      (Text.split '/' s).filterMap Segment.ofText? := by
  have hempty : Segment.ofText? (String.ofList []) = none := by decide
  cases a with
  | relative => simp [Anchor.text]
  | root => simp [Text.split, Anchor.text, Text.pieces, hempty]
  | doubleRoot => simp [Text.split, Anchor.text, Text.pieces, hempty]

theorem ofText_text (p : Path) : ofText p.text = p := by
  by_cases hp : p = here
  · subst hp
    decide
  · rw [text, if_neg hp, ofText, split_anchor, segments_of_split, String.toList_append,
      ofChars_anchor _ (head?_intercalate_ne _)]

theorem isAbsolute_ofText_iff {s : String} :
    (ofText s).isAbsolute = true ↔ s.toList.head? = some '/' := by
  have hanchor : (ofText s).anchor = .ofChars s.toList := rfl
  rw [isAbsolute, hanchor]
  unfold Anchor.ofChars
  split
  · rename_i h
    simp [h]
  · rename_i h
    simp [h]
  · rename_i h
    simp [h]
  · rename_i h
    cases hs : s.toList with
    | nil => simp
    | cons c cs =>
      have hc : c ≠ '/' := by
        rintro rfl
        exact h cs hs
      simpa using hc

theorem head?_text_iff {p : Path} : p.text.toList.head? = some '/' ↔ p.isAbsolute = true := by
  rw [← isAbsolute_ofText_iff, ofText_text]

theorem text_injective {p q : Path} (h : p.text = q.text) : p = q := by
  rw [← ofText_text p, h, ofText_text]

theorem text_ne_empty (p : Path) : p.text ≠ "" := by
  intro h
  have hp := ofText_text p
  rw [h] at hp
  have he : ofText "" = here := by decide
  rw [he] at hp
  subst hp
  exact absurd h (by decide)

theorem head?_text_of_homeUser? {p : Path} {found : String × List Segment}
    (h : p.homeUser? = some found) : p.text.toList.head? = some '~' := by
  obtain ⟨anchor, segments⟩ := p
  unfold homeUser? at h
  split at h
  · rename_i n rest ha hs
    simp only at ha hs
    subst ha hs
    split at h
    · rename_i user hn
      have hne : (⟨.relative, .entry n :: rest⟩ : Path) ≠ here := by simp [here]
      rw [text, if_neg hne, String.toList_append, String.toList_intercalate]
      cases rest with
      | nil => simp [Anchor.text, List.intercalate, Segment.text, hn]
      | cons r rest => simp [Anchor.text, List.intercalate, Segment.text, hn]
    · cases h
  · cases h

end Path

theorem Host.settledText_text (host : Host) (p : Path) : host.settledText p.text = host.settled p := by
  simp only [Host.settledText, Path.ofText_text]
  split
  · rfl
  · rename_i h
    have hu : p.homeUser? = none := by
      cases hf : p.homeUser? with
      | none => rfl
      | some found => exact absurd (Path.head?_text_of_homeUser? hf) h
    rw [Host.settled, Path.expandKnownHome, Path.expandHome_of_homeUser?_eq_none _ hu]
    rfl

theorem Project.make_text (host : Host) (dependencies : List Path) (sources : List SourceFile)
    (output : Path) (loader : Nat) : Project.make host dependencies sources (some output.text) loader =
      match host.settled output with
      | .error fault => .error (.home fault)
      | .ok d => .ok ⟨dependencies, sources, d, loader⟩ := by
  have hs : (some output.text).filter (· ≠ "") = some output.text := by
    simp [output.text_ne_empty]
  rw [Project.make, hs]
  cases hd : host.settled output with
  | error fault => simp only [Host.settledText_text, hd]
  | ok d => simp only [Host.settledText_text, hd]

end ComponentBuild
