import ComponentBuild.Proofs.Classpath.Additions
import ComponentBuild.Proofs.Path.Text
import Mathlib.Data.List.DropRight

namespace ComponentBuild

namespace Text

variable {mark c : Char} {cs : List Char} {s : String}

theorem subset_of_mem_pieces {p : List Char} (h : p ∈ pieces mark cs) : p ⊆ cs := by
  induction cs generalizing p with
  | nil => simp_all [pieces]
  | cons d cs ih =>
    rw [pieces] at h
    split at h
    · rcases List.mem_cons.1 h with rfl | h
      · exact List.nil_subset _
      · exact List.subset_cons_of_subset _ (ih h)
    · split at h
      · rename_i hnil
        exact absurd hnil (pieces_ne_nil mark cs)
      · rename_i q qs hq
        rcases List.mem_cons.1 h with rfl | h
        · exact List.cons_subset_cons d (ih (hq ▸ List.mem_cons_self))
        · exact List.subset_cons_of_subset _ (ih (hq ▸ List.mem_cons_of_mem _ h))

theorem exists_pieces_append (mark : Char) (cs : List Char) :
    ∃ front last, ∀ more, mark ∉ more → pieces mark (cs ++ more) = front ++ [last ++ more] := by
  induction cs with
  | nil => exact ⟨[], [], fun more h => pieces_of_not_mem h⟩
  | cons c cs ih =>
    obtain ⟨front, last, ih⟩ := ih
    by_cases hc : c = mark
    · refine ⟨[] :: front, last, ?_⟩
      intro more h
      rw [List.cons_append, pieces, if_pos hc, ih more h, List.cons_append]
    · cases front with
      | nil =>
        refine ⟨[], c :: last, ?_⟩
        intro more h
        rw [List.cons_append, pieces, if_neg hc, ih more h]
        rfl
      | cons q front =>
        refine ⟨(c :: q) :: front, last, ?_⟩
        intro more h
        rw [List.cons_append, pieces, if_neg hc, ih more h]
        rfl

theorem trimChars_of_head (h : cs.head? = some c) (hc : isBlank c = false) :
    trimChars cs = cs.rdropWhile isBlank := by
  rw [trimChars, trimStart_of_head? h hc]
  rfl

theorem toList_trim_subset (s : String) : (trim s).toList ⊆ s.toList := by
  have hstart : trimStart s.toList ⊆ s.toList := (List.dropWhile_suffix _).subset
  have hend : trimChars s.toList <+: trimStart s.toList := List.rdropWhile_prefix _ _
  rw [trim, String.toList_ofList]
  exact List.Subset.trans hend.subset hstart

theorem not_mem_of_mem_parts {part : String} (h : part ∈ parts mark s) : mark ∉ part.toList := by
  obtain ⟨piece, hpiece, rfl⟩ := List.mem_map.1 h
  intro hmem
  exact not_mem_of_mem_split (List.mem_filter.1 hpiece).1 (toList_trim_subset piece hmem)

theorem parts_intercalate {ss : List String} (hmark : ∀ s ∈ ss, mark ∉ s.toList)
    (hblank : ∀ s ∈ ss, isBlankText s = false) :
    parts mark ((String.singleton mark).intercalate ss) = ss.map trim := by
  by_cases hne : ss = []
  · subst hne
    rw [String.intercalate_nil]
    rfl
  · have hall : ss.filter (fun s => !isBlankText s) = ss := by
      apply List.filter_eq_self.2
      intro s hs
      rw [hblank s hs]
      rfl
    rw [parts, split_intercalate hne hmark, hall]

end Text

theorem filterMap_singleton_inj {α β : Type} {f : α → Option β} {a b : α}
    (h : [a].filterMap f = [b].filterMap f) : f a = f b := by
  cases ha : f a with
  | none =>
    cases hb : f b with
    | none => rfl
    | some y => simp [ha, hb] at h
  | some x =>
    cases hb : f b with
    | none => simp [ha, hb] at h
    | some y => simpa [ha, hb] using h

theorem Segment.ofText?_append_ne {last more : List Char} (hslash : '/' ∉ last ++ more)
    (hmore : ∃ c ∈ more, c ≠ '.') :
    ofText? (String.ofList (last ++ more)) ≠ ofText? (String.ofList last) := by
  obtain ⟨c, hc, hdot⟩ := hmore
  obtain ⟨s, hs⟩ := Segment.exists_ofText? (t := String.ofList (last ++ more)) (c := c)
    (by simpa using hslash) (by simp [hc]) hdot
  intro h
  have htexts := (ofText?_eq_some.1 hs).symm.trans (ofText?_eq_some.1 (h.symm.trans hs))
  have hnil : more = [] := by simpa using String.ofList_injective htexts
  rw [hnil] at hc
  cases hc

namespace Path

variable {p : Path} {c : Char}

theorem toList_trim_text (h : p.isAbsolute = true) :
    (Text.trim p.text).toList = p.text.toList.rdropWhile Text.isBlank := by
  rw [Text.trim, String.toList_ofList, Text.trimChars_of_head (head?_text_iff.2 h) (by decide)]

theorem isAbsolute_ofText_trim (h : p.isAbsolute = true) :
    (ofText (Text.trim p.text)).isAbsolute = true := by
  obtain ⟨rest, hrest⟩ := List.head?_eq_some_iff.1 (head?_text_iff.2 h)
  have hne : p.text.toList.rdropWhile Text.isBlank ≠ [] := by
    intro hnil
    have hslash := List.rdropWhile_eq_nil_iff.1 hnil '/' (by simp [hrest])
    exact absurd hslash (by decide)
  obtain ⟨more, hmore⟩ : p.text.toList.rdropWhile Text.isBlank <+: p.text.toList :=
    List.rdropWhile_prefix _ _
  obtain ⟨c, cs, hcs⟩ := List.exists_cons_of_ne_nil hne
  rw [hcs, hrest] at hmore
  rw [isAbsolute_ofText_iff, toList_trim_text h, hcs]
  exact congrArg some (List.cons.inj hmore).1

theorem segments_of_homeUser? {user : String} {rest : List Segment}
    (h : p.homeUser? = some (user, rest)) : rest ⊆ p.segments := by
  unfold homeUser? at h
  split at h
  · rename_i n others ha hs
    split at h
    · obtain ⟨-, rfl⟩ := Prod.mk.inj (Option.some.inj h)
      rw [hs]
      exact List.subset_cons_self _ _
    · cases h
  · cases h

theorem not_mem_text (h : p.isAbsolute = true) (hc : c ≠ '/')
    (hs : ∀ s ∈ p.segments, c ∉ s.text.toList) : c ∉ p.text.toList := by
  have hanchor : c ∉ p.anchor.text.toList := by
    cases p.anchor with
    | relative => simp [Anchor.text]
    | root => simpa [Anchor.text] using hc
    | doubleRoot => simpa [Anchor.text] using hc
  have hnames (ss : List Segment) (hss : ∀ s ∈ ss, c ∉ s.text.toList) :
      c ∉ ("/".intercalate (ss.map Segment.text)).toList := by
    induction ss with
    | nil => simp
    | cons s ss ih =>
      obtain ⟨hs, hss⟩ := List.forall_mem_cons.1 hss
      by_cases hne : ss = []
      · subst hne
        simpa using hs
      · rw [List.map_cons, String.intercalate_cons_of_ne_nil (by simpa using hne)]
        simp only [String.toList_append, List.mem_append, not_or]
        exact ⟨⟨hs, by simpa using hc⟩, ih hss⟩
  rw [text_of_isAbsolute h, String.toList_append, List.mem_append, not_or]
  exact ⟨hanchor, hnames _ hs⟩

theorem rtakeWhile_eq_nil_of_trim (h : p.isAbsolute = true) (hp : ofText (Text.trim p.text) = p) :
    p.text.toList.rtakeWhile Text.isBlank = [] := by
  have hblank {c : Char} (hc : c ∈ p.text.toList.rtakeWhile Text.isBlank) : Text.isBlank c = true :=
    List.mem_rtakeWhile_imp hc
  have hslash : '/' ∉ p.text.toList.rtakeWhile Text.isBlank := by
    intro hmem
    exact absurd (hblank hmem) (by decide)
  obtain ⟨front, last, happend⟩ :=
    Text.exists_pieces_append '/' (p.text.toList.rdropWhile Text.isBlank)
  have hfull := happend _ hslash
  rw [List.rdropWhile_append_rtakeWhile] at hfull
  have hcut := happend [] (by simp)
  rw [List.append_nil, List.append_nil, ← toList_trim_text h] at hcut
  have hsegments := congrArg Path.segments ((ofText_text p).trans hp.symm)
  simp only [ofText, Text.split, hfull, hcut, List.map_append, List.filterMap_append,
    List.append_cancel_left_eq, List.map_singleton] at hsegments
  have hpiece : last ++ p.text.toList.rtakeWhile Text.isBlank ∈ Text.pieces '/' p.text.toList := by
    simp [hfull]
  by_contra hne
  obtain ⟨c, hc⟩ := List.exists_mem_of_ne_nil _ hne
  have hdot : c ≠ '.' := by
    rintro rfl
    exact absurd (hblank hc) (by decide)
  exact Segment.ofText?_append_ne (Text.not_mem_of_mem_pieces hpiece) ⟨c, hc, hdot⟩
    (filterMap_singleton_inj hsegments)

theorem ofText_trim_text_iff (h : p.isAbsolute = true) : ofText (Text.trim p.text) = p ↔
    ∀ hne : p.text.toList ≠ [], ¬ Text.isBlank (p.text.toList.getLast hne) = true := by
  constructor
  · intro hp
    exact List.rtakeWhile_eq_nil_iff.1 (rtakeWhile_eq_nil_of_trim h hp)
  · intro hlast
    have htext : Text.trim p.text = p.text := by
      apply String.toList_injective
      rw [toList_trim_text h]
      exact List.rdropWhile_eq_self_iff.2 hlast
    rw [htext, ofText_text]

end Path

namespace Classpath

variable {cp : Classpath} {p q : Path}

/-- The text of the path has no mark in it and no blank at its end. -/
def Listable (p : Path) : Prop :=
  separator ∉ p.text.toList ∧ ∀ h : p.text.toList ≠ [], ¬ Text.isBlank (p.text.toList.getLast h) = true

def topHost : Host := ⟨.empty, [], ⟨⟨.root, []⟩, []⟩, [], fun _ => true⟩

theorem segments_subset_of_entered (h : topHost.entered p = .ok q) : q.segments ⊆ p.segments := by
  obtain ⟨r, hr, rfl⟩ := map_eq_ok.1 h
  have hsubset : r.segments ⊆ p.segments := by
    unfold Path.expandHome at hr
    split at hr
    · obtain rfl := Except.ok.inj hr
      exact List.Subset.refl _
    · rename_i user rest hu
      by_cases huser : user = ""
      · subst huser
        obtain rfl := Except.ok.inj hr
        exact Path.segments_of_homeUser? hu
      · have hnone : topHost.home.directory? user = none := by
          rw [Home.directory?, if_neg huser]
          rfl
        rw [hnone] at hr
        split at hr <;> cases hr
  have habsolute : (topHost.absolute r).segments = r.segments := by
    unfold Host.absolute Path.join
    split
    · rfl
    · exact List.nil_append _
  rw [habsolute]
  exact hsubset

theorem separator_not_mem_of_entered {part : String} (hpart : separator ∉ part.toList)
    (h : topHost.entered (.ofText part) = .ok q) : separator ∉ q.text.toList := by
  apply Path.not_mem_text (Host.entered_isAbsolute h) (by decide)
  intro s hs
  obtain ⟨t, ht, hst⟩ := List.mem_filterMap.1 (segments_subset_of_entered h hs)
  obtain ⟨piece, hpiece, rfl⟩ := List.mem_map.1 ht
  rw [Segment.ofText?_eq_some.1 hst, String.toList_ofList]
  intro hmem
  exact hpart (Text.subset_of_mem_pieces hpiece hmem)

theorem parts_text (h : ∀ p ∈ cp.entries, separator ∉ p.text.toList) :
    (Text.parts separator cp.text).map Path.ofText =
      cp.entries.map fun p => Path.ofText (Text.trim p.text) := by
  have hmark : ∀ s ∈ cp.entries.map Path.text, separator ∉ s.toList := by
    intro s hs
    obtain ⟨p, hp, rfl⟩ := List.mem_map.1 hs
    exact h p hp
  have hblank : ∀ s ∈ cp.entries.map Path.text, Text.isBlankText s = false := by
    intro s hs
    obtain ⟨p, hp, rfl⟩ := List.mem_map.1 hs
    obtain ⟨rest, hrest⟩ := List.head?_eq_some_iff.1 (Path.head?_text_iff.2 (cp.absolute p hp))
    have hslash : Text.isBlank '/' = false := by decide
    simp [Text.isBlankText, hrest, hslash]
  rw [text, Text.parts_intercalate hmark hblank, List.map_map, List.map_map]
  rfl

theorem eraseDups_sublist (l : List Path) : l.eraseDups.Sublist l := by
  induction l using List.reverseRecOn with
  | nil => exact List.Sublist.refl _
  | append_singleton l p ih =>
    rw [List.eraseDups_append]
    refine ih.append ?_
    by_cases hp : p ∈ l
    · simp [List.removeAll, hp]
    · have hone : [p].eraseDups = [p] := eraseDups_of_nodup (by simp)
      simp [List.removeAll, hp, hone]

theorem listable_of_parse (h : parse topHost cp.text = .ok cp) : ∀ p ∈ cp.entries, Listable p := by
  obtain ⟨qs, hqs, hentries⟩ := parse_eq_ok.1 h
  have hmark : ∀ p ∈ cp.entries, separator ∉ p.text.toList := by
    intro p hp
    rw [← hentries, List.mem_eraseDups] at hp
    obtain ⟨_, hr, hentered⟩ := mem_of_mapM (mapM_eq_ok.2 hqs) hp
    obtain ⟨part, hpart, rfl⟩ := List.mem_map.1 hr
    exact separator_not_mem_of_entered (Text.not_mem_of_mem_parts hpart) hentered
  have habsolute : ∀ q ∈ cp.entries.map fun p => Path.ofText (Text.trim p.text),
      q.isAbsolute = true := by
    intro q hq
    obtain ⟨p, hp, rfl⟩ := List.mem_map.1 hq
    exact Path.isAbsolute_ofText_trim (cp.absolute p hp)
  rw [parts_text hmark, entered_absolute habsolute] at hqs
  subst hqs
  have hlength := congrArg List.length hentries
  -- As many entries come back as were read, so that none of them was left out.
  have hsame := (eraseDups_sublist _).eq_of_length (hlength.trans (List.length_map _).symm)
  rw [hentries] at hsame
  intro p hp
  have htrim := List.map_inj_left.1 (hsame.symm.trans (List.map_id _).symm) p hp
  exact ⟨hmark p hp, (Path.ofText_trim_text_iff (cp.absolute p hp)).1 htrim⟩

theorem parse_text (h : ∀ p ∈ cp.entries, Listable p) (host : Host) :
    parse host cp.text = .ok cp := by
  have htrim : cp.entries.map (fun p => Path.ofText (Text.trim p.text)) = cp.entries := by
    refine (List.map_congr_left ?_).trans (List.map_id _)
    intro p hp
    exact (Path.ofText_trim_text_iff (cp.absolute p hp)).2 (h p hp).2
  have hmark : ∀ p ∈ cp.entries, separator ∉ p.text.toList := fun p hp => (h p hp).1
  rw [parse_eq_ok, parts_text hmark, htrim]
  exact ⟨cp.entries, (entered_absolute cp.absolute).2 rfl, eraseDups_of_nodup cp.distinct⟩

/-- Wherever the text of a classpath is read, it is read as this classpath, exactly if every entry
can stand in a list. -/
theorem parse_text_iff (cp : Classpath) :
    (∀ host, parse host cp.text = .ok cp) ↔ ∀ p ∈ cp.entries, Listable p := by
  constructor
  · intro h
    exact listable_of_parse (h topHost)
  · intro h host
    exact parse_text h host

section Odd

def oddClasspath : Classpath where
  entries := [.ofText "/", .ofText "//a", .ofText "/~b", .ofText "/ c d/.."]
  distinct := by decide
  absolute := by decide

theorem parse_text_odd : oddClasspath.text = "/://a:/~b:/ c d/.." ∧
    ∀ host, parse host oddClasspath.text = .ok oddClasspath := by
  have hlistable : ∀ p ∈ oddClasspath.entries, Listable p := by
    unfold Listable
    decide +kernel
  exact ⟨by decide +kernel, (parse_text_iff oddClasspath).2 hlistable⟩

end Odd

end Classpath

end ComponentBuild
