import ComponentBuild.Proofs.SourceSet.RelativeText
import Mathlib.Data.List.Sort

/-!
The default excludes as patterns. A walk that enters no directory of version control finds what one
that enters all of them and asks for the patterns finds, as long as no name has a line feed.
-/

namespace ComponentBuild

namespace Before

instance : Std.Irrefl Before where
  irrefl _ := irrefl

instance : Std.Antisymm Before where
  antisymm _ _ h h' := absurd h' h.asymm

end Before

/-- No entry below the location has a line feed in its name or in that of a directory on the way. -/
def Tree.OneLine (t : Tree) (loc : Location) : Prop :=
  ∀ names, (t.node? (loc ++ names)).isSome → ∀ n ∈ names, '\n' ∉ n.text.toList

theorem Tree.oneLine_of_entries {t : Tree}
    (h : ∀ e ∈ t.entries, ∀ n ∈ e.1, '\n' ∉ n.text.toList) (loc : Location) : t.OneLine loc := by
  intro names hsome n hn
  have hne : loc ++ names ≠ [] := List.append_ne_nil_of_right_ne_nil _ (List.ne_nil_of_mem hn)
  obtain ⟨node, hentry⟩ := (node?_isSome hne).1 hsome
  exact h _ hentry n (List.mem_append_right _ hn)

theorem Tree.FileBelow.oneLine {t : Tree} {loc : Location} {root : Path} {dirs : List Name}
    {n : Name} (hb : t.FileBelow loc root dirs n) (h : t.OneLine loc) :
    '\n' ∉ (SourceSet.relativeText (dirs ++ [n])).toList := by
  have hentry : (t.node? (loc ++ (dirs ++ [n]))).isSome := by
    rw [← List.append_assoc]
    exact hb.entry
  rw [SourceSet.mem_relativeText (by decide)]
  rintro ⟨m, hm, hline⟩
  exact h _ hentry m hm hline

namespace SourceSet

variable {s : SourceSet} {host : Host} {root : Path} {dirs : List Name} {n : Name}

def directoryText (directory : String) : String := "**/" ++ directory ++ "/"

def fileText (file : String) : String := "**/" ++ file

def spelledOut (s : SourceSet) : SourceSet :=
  { s with
    defaultExcludes := false
    excludes := s.excludes ++
      (excludedDirectories.map directoryText ++ excludedFiles.map fileText).map .text }

section Patterns

theorem normalText?_directoryText : ∀ d ∈ excludedDirectories,
    Pattern.normalText? (directoryText d) =
      some (Pattern.anyNames ++ '/' :: (d.toList ++ '/' :: Pattern.anyNames)) := by
  decide

theorem plain_excludedDirectories : ∀ d ∈ excludedDirectories,
    '/' ∉ d.toList ∧ '*' ∉ d.toList ∧ '?' ∉ d.toList := by
  decide

theorem excludedDirectories_not_source : ∀ d ∈ excludedDirectories,
    ¬ ClassName.sourceEnding.toList <:+ d.toList := by
  decide

theorem mem_relativeNames {d : String} :
    d.toList ∈ Pattern.segments (relativeText (dirs ++ [n])).toList ↔
      ∃ m ∈ dirs ++ [n], m.text = d := by
  rw [segments_relativeText (by simp), List.mem_map]
  simp [String.toList_inj]

theorem fits_directoryText {d : String} (hd : d ∈ excludedDirectories)
    (hs : ClassName.sourceEnding.toList <:+ n.text.toList)
    (hl : '\n' ∉ (relativeText (dirs ++ [n])).toList) :
    ∃ p, Pattern.ofText? (directoryText d) = some p ∧
      (p.fits (relativeText (dirs ++ [n])) = true ↔ ∃ m ∈ dirs, m.text = d) := by
  obtain ⟨hslash, hstar, hone⟩ := plain_excludedDirectories d hd
  obtain ⟨p, ho, hf⟩ :=
    Pattern.fits_anywhere (normalText?_directoryText d hd) hslash hstar hone hl
  refine ⟨p, ho, ?_⟩
  -- The pattern fits a file of the same name as well, but that is no source file.
  have hname : n.text ≠ d := by
    rintro rfl
    exact excludedDirectories_not_source _ hd hs
  rw [hf, mem_relativeNames]
  simp [or_and_right, exists_or, hname]

theorem mem_excludedFilePatterns {p : Pattern} :
    p ∈ excludedFilePatterns ↔ ∃ f ∈ excludedFiles, Pattern.ofText? (fileText f) = some p := by
  simp [excludedFilePatterns, Pattern.ofTexts, fileText]

theorem mem_excludes_spelledOut {x : String} :
    .text x ∈ s.spelledOut.excludes ↔ .text x ∈ s.excludes ∨
      (∃ d ∈ excludedDirectories, directoryText d = x) ∨ ∃ f ∈ excludedFiles, fileText f = x := by
  simp [spelledOut]

theorem nothing_mem_spelledOut :
    .nothing ∈ s.spelledOut.includes ++ s.spelledOut.excludes ↔
      .nothing ∈ s.includes ++ s.excludes := by
  simp [spelledOut]

end Patterns

theorem admits_spelledOut (h : s.defaultExcludes = true)
    (hl : '\n' ∉ (relativeText (dirs ++ [n])).toList) :
    s.spelledOut.Admits dirs n ↔ s.Admits dirs n := by
  constructor
  · intro ha
    have hexcluded {x : String} {p : Pattern} (hx : .text x ∈ s.spelledOut.excludes)
        (hp : Pattern.ofText? x = some p) := ha.excluded x p hx hp
    refine ⟨?_, ha.source, ?_, ha.included, ?_⟩
    · intro _ m hm hd
      obtain ⟨p, ho, hf⟩ := fits_directoryText hd ha.source hl
      have hno := hexcluded (mem_excludes_spelledOut.2 (.inr (.inl ⟨_, hd, rfl⟩))) ho
      rw [hf.2 ⟨m, hm, rfl⟩] at hno
      cases hno
    · intro _ p hp
      obtain ⟨f, hfile, ho⟩ := mem_excludedFilePatterns.1 hp
      exact hexcluded (mem_excludes_spelledOut.2 (.inr (.inr ⟨f, hfile, rfl⟩))) ho
    · intro x p hx hp
      exact hexcluded (mem_excludes_spelledOut.2 (.inl hx)) hp
  · intro ha
    refine ⟨nofun, ha.source, nofun, ha.included, ?_⟩
    intro x p hx hp
    rcases mem_excludes_spelledOut.1 hx with hx | ⟨d, hd, rfl⟩ | ⟨f, hfile, rfl⟩
    · exact ha.excluded x p hx hp
    · obtain ⟨p', ho, hf⟩ := fits_directoryText hd ha.source hl
      obtain rfl : p' = p := Option.some.inj (ho.symm.trans hp)
      rw [Bool.eq_false_iff, ne_eq, hf]
      rintro ⟨m, hm, rfl⟩
      exact ha.entered h m hm hd
    · exact ha.unusual h p (mem_excludedFilePatterns.2 ⟨f, hfile, hp⟩)

theorem collect_of_root_error {fault : RootFault} (h : s.root host = .error fault) :
    s.collect host = .error (.root fault) := by
  rw [collect, located, h]
  rfl

theorem collect_congr {s' : SourceSet} (h : s.root host = .ok root) (h' : s'.root host = .ok root)
    (hn : .nothing ∉ s.includes ++ s.excludes) (hn' : .nothing ∉ s'.includes ++ s'.excludes)
    (hh : ∀ dirs n, s'.Holds host.tree root dirs n ↔ s.Holds host.tree root dirs n) :
    s'.collect host = s.collect host := by
  simp only [List.mem_append, not_or] at hn hn'
  obtain ⟨includes, hi⟩ := Given.eq_map_text hn.1
  obtain ⟨excludes, he⟩ := Given.eq_map_text hn.2
  obtain ⟨includes', hi'⟩ := Given.eq_map_text hn'.1
  obtain ⟨excludes', he'⟩ := Given.eq_map_text hn'.2
  have hroot := root_isAbsolute h
  obtain ⟨loc, hp, -⟩ := locate_root h
  rw [collect_texts hi he h, collect_texts hi' he' h']
  congr 1
  apply (found_pairwise ..).eq_of_mem_iff (found_pairwise ..)
  intro names
  simp only [mem_found hi he hroot hp, mem_found hi' he' hroot hp, hh]

/-- The default excludes say no more and no less than their names as patterns after the excludes
of the set. -/
theorem collect_spelledOut (h : s.defaultExcludes = true)
    (hlines : ∀ root loc, s.root host = .ok root → host.tree.locate [] root = .ok loc →
      host.tree.OneLine loc) :
    s.spelledOut.collect host = s.collect host := by
  cases hroot : s.root host with
  | error fault =>
    have hroot' : s.spelledOut.root host = .error fault := hroot
    rw [collect_of_root_error hroot, collect_of_root_error hroot']
  | ok root =>
    have hroot' : s.spelledOut.root host = .ok root := hroot
    by_cases hn : .nothing ∈ s.includes ++ s.excludes
    · rw [collect_nothing hroot hn, collect_nothing hroot' (nothing_mem_spelledOut.2 hn)]
    · apply collect_congr hroot hroot' hn (mt nothing_mem_spelledOut.1 hn)
      intro dirs n
      constructor
      · rintro ⟨⟨loc, hp, hb⟩, ha⟩
        exact ⟨⟨loc, hp, hb⟩, (admits_spelledOut h (hb.oneLine (hlines root loc hroot hp))).1 ha⟩
      · rintro ⟨⟨loc, hp, hb⟩, ha⟩
        exact ⟨⟨loc, hp, hb⟩, (admits_spelledOut h (hb.oneLine (hlines root loc hroot hp))).2 ha⟩

section Versioned

def versionDirectory : Name := ⟨"CVS", by decide⟩

def lockFile : Name := ⟨".#A.java", by decide⟩

def versionedTree : Tree where
  entries := [([plainDirectory], .directory), ([plainDirectory, versionDirectory], .directory),
    ([plainDirectory, versionDirectory, plainFile], .file []),
    ([plainDirectory, lockFile], .file []), ([plainDirectory, plainFile], .file [])]
  distinct := by decide

def versionedHost : Host := { plainHost with tree := versionedTree }

def versionedSet : SourceSet := { plainSet with defaultExcludes := true }

theorem collect_spelledOut_versioned :
    versionedHost.tree.OneLine [plainDirectory] ∧
      versionedSet.spelledOut.collect versionedHost =
        .ok [⟨plainRoot.below [plainFile], "A"⟩] := by
  have hlines (loc : Location) : versionedHost.tree.OneLine loc :=
    Tree.oneLine_of_entries (by decide) loc
  refine ⟨hlines _, ?_⟩
  rw [collect_spelledOut (s := versionedSet) rfl fun _ loc _ _ => hlines loc]
  rfl

end Versioned

end SourceSet

end ComponentBuild
