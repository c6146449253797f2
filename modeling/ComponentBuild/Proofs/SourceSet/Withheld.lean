import ComponentBuild.Proofs.SourceSet.RelativeText

namespace ComponentBuild.SourceSet

variable {s : SourceSet} {host : Host} {root : Path} {includes excludes : List Pattern}
  {dirs : List Name} {n : Name}

def withoutDefaults (s : SourceSet) : SourceSet := { s with defaultExcludes := false }

def Unusual (n : Name) : Prop := ∃ f ∈ excludedFiles, Pattern.nameFits f.toList n.text.toList = true

theorem excludedFilePatterns_eq : excludedFilePatterns = excludedFiles.map fun f =>
    ⟨"**/" ++ f, .leading :: f.toList.map Pattern.namePiece⟩ := by
  decide +kernel

theorem slash_not_mem_excludedFiles : ∀ f ∈ excludedFiles, '/' ∉ f.toList := by
  decide

theorem anyFits_excludedFilePatterns (dirs : List Name) (n : Name) :
    Pattern.anyFits excludedFilePatterns (relativeText (dirs ++ [n])) = true ↔
      Unusual n ∧ ∀ d ∈ dirs, '\n' ∉ d.text.toList := by
  simp only [Pattern.anyFits, excludedFilePatterns_eq, List.any_map, List.any_eq_true, Unusual]
  constructor
  · rintro ⟨f, hf, hfits⟩
    obtain ⟨hname, hlines⟩ :=
      (matchPieces_relativeText (slash_not_mem_excludedFiles f hf) dirs n).1 hfits
    exact ⟨⟨f, hf, hname⟩, hlines⟩
  · rintro ⟨⟨f, hf, hname⟩, hlines⟩
    exact ⟨f, hf, (matchPieces_relativeText (slash_not_mem_excludedFiles f hf) dirs n).2
      ⟨hname, hlines⟩⟩

theorem selects_iff_withoutDefaults (h : s.defaultExcludes = true) :
    s.selects includes excludes (dirs ++ [n]) = true ↔
      s.withoutDefaults.selects includes excludes (dirs ++ [n]) = true ∧
        (Unusual n → ∃ d ∈ dirs, '\n' ∈ d.text.toList) := by
  have hselects : s.selects includes excludes (dirs ++ [n]) =
      (!Pattern.anyFits excludedFilePatterns (relativeText (dirs ++ [n])) &&
        s.withoutDefaults.selects includes excludes (dirs ++ [n])) := by
    simp only [selects, withoutDefaults, h, Bool.true_and, Bool.false_and, Bool.not_false,
      Bool.and_assoc]
    rfl
  have hdefault : (!Pattern.anyFits excludedFilePatterns (relativeText (dirs ++ [n]))) = true ↔
      (Unusual n → ∃ d ∈ dirs, '\n' ∈ d.text.toList) := by
    rw [Bool.not_eq_true', Bool.eq_false_iff, ne_eq, anyFits_excludedFilePatterns]
    simp
  rw [hselects, Bool.and_eq_true, hdefault, and_comm]

theorem files_eq_ok {paths : List Path} :
    s.files host = .ok paths ↔
      ∃ root includes excludes, s.root host = .ok root ∧ patterns s.includes = .ok includes ∧
        patterns s.excludes = .ok excludes ∧
        paths = (s.namesBelow host.tree root includes excludes).map root.below := by
  rw [files, map_eq_ok, located]
  cases hroot : s.root host with
  | error fault => simp
  | ok root =>
    simp only [bind_eq_ok]
    constructor
    · rintro ⟨found, ⟨includes, hi, excludes, he, hfound⟩, rfl⟩
      obtain rfl := Except.ok.inj hfound
      exact ⟨root, includes, excludes, rfl, hi, he, rfl⟩
    · rintro ⟨root', includes, excludes, hr, hi, he, rfl⟩
      obtain rfl := Except.ok.inj hr
      exact ⟨_, ⟨includes, hi, excludes, he, rfl⟩, rfl⟩

theorem mem_namesBelow {t : Tree} (hroot : root.isAbsolute = true) {loc : Location}
    (hp : t.locate [] root = .ok loc) {names : List Name} :
    names ∈ s.namesBelow t root includes excludes ↔
      ∃ dirs n, names = dirs ++ [n] ∧ t.FileBelow loc root dirs n ∧ root.Passable dirs ∧
        (∀ d ∈ dirs, s.enters d = true) ∧ s.selects includes excludes names = true :=
  Tree.mem_filesBelow_root hroot hp (Nat.lt_succ_self _)

theorem mem_namesBelow_iff_withoutDefaults (h : s.defaultExcludes = true) {t : Tree}
    (hroot : root.isAbsolute = true) {loc : Location} (hp : t.locate [] root = .ok loc) :
    dirs ++ [n] ∈ s.namesBelow t root includes excludes ↔
      dirs ++ [n] ∈ s.withoutDefaults.namesBelow t root includes excludes ∧
        (∀ d ∈ dirs, d.text ∉ excludedDirectories) ∧
        (Unusual n → ∃ d ∈ dirs, '\n' ∈ d.text.toList) := by
  have henters (d : Name) : s.enters d = true ↔ d.text ∉ excludedDirectories := by
    simp [enters_eq_true, h]
  have hall (d : Name) : s.withoutDefaults.enters d = true := by
    simp [enters_eq_true, withoutDefaults]
  rw [mem_namesBelow hroot hp, mem_namesBelow hroot hp]
  constructor
  · rintro ⟨ds, m, hnames, hbelow, hpass, hent, hsel⟩
    obtain ⟨rfl, rfl⟩ : dirs = ds ∧ n = m := by simpa using hnames
    obtain ⟨hsel, hlines⟩ := (selects_iff_withoutDefaults h).1 hsel
    refine ⟨⟨dirs, n, rfl, hbelow, hpass, fun d _ => hall d, hsel⟩, ?_, hlines⟩
    intro d hd
    exact (henters d).1 (hent d hd)
  · rintro ⟨⟨ds, m, hnames, hbelow, hpass, -, hsel⟩, hent, hlines⟩
    obtain ⟨rfl, rfl⟩ : dirs = ds ∧ n = m := by simpa using hnames
    refine ⟨dirs, n, rfl, hbelow, hpass, ?_, (selects_iff_withoutDefaults h).2 ⟨hsel, hlines⟩⟩
    intro d hd
    exact (henters d).2 (hent d hd)

/-- The default excludes leave out what lies in a directory of version control and, of the rest,
the files with the name of a backup or of version control, except below a directory with a line feed
in its name. They leave out nothing else. -/
theorem files_withheld (h : s.defaultExcludes = true) {paths : List Path}
    (hf : s.files host = .ok paths) :
    ∃ root all, s.root host = .ok root ∧ s.withoutDefaults.files host = .ok all ∧
      (∀ path ∈ paths, ∃ dirs n, path = root.below (dirs ++ [n])) ∧
      ∀ dirs n, root.below (dirs ++ [n]) ∈ paths ↔
        root.below (dirs ++ [n]) ∈ all ∧ (∀ d ∈ dirs, d.text ∉ excludedDirectories) ∧
          (Unusual n → ∃ d ∈ dirs, '\n' ∈ d.text.toList) := by
  obtain ⟨root, includes, excludes, hr, hi, he, rfl⟩ := files_eq_ok.1 hf
  obtain ⟨loc, hp, -⟩ := locate_root hr
  have hroot := root_isAbsolute hr
  have hall := (files_eq_ok (s := s.withoutDefaults)).2 ⟨root, includes, excludes, hr, hi, he, rfl⟩
  refine ⟨root, _, hr, hall, ?_, ?_⟩
  · intro path hpath
    obtain ⟨names, hnames, rfl⟩ := List.mem_map.1 hpath
    obtain ⟨dirs, n, rfl, -⟩ := (mem_namesBelow hroot hp).1 hnames
    exact ⟨dirs, n, rfl⟩
  · intro dirs n
    have hmem (found : List (List Name)) :
        root.below (dirs ++ [n]) ∈ found.map root.below ↔ dirs ++ [n] ∈ found :=
      List.mem_map_of_injective fun _ _ => root.below_injective
    rw [hmem, hmem]
    exact mem_namesBelow_iff_withoutDefaults h hroot hp

section Split

def splitDirectory : Name := ⟨"a\nb", by decide⟩

def ignoreFile : Name := ⟨".gitignore", by decide⟩

def splitTree : Tree where
  entries := [([plainDirectory], .directory), ([plainDirectory, splitDirectory], .directory),
    ([plainDirectory, splitDirectory, ignoreFile], .file []),
    ([plainDirectory, ignoreFile], .file [])]
  distinct := by decide

def splitHost : Host := { plainHost with tree := splitTree }

def splitSet : SourceSet := { plainSet with defaultExcludes := true }

theorem files_splitSet :
    splitSet.files splitHost = .ok [plainRoot.below [splitDirectory, ignoreFile]] := by
  rfl

theorem unusual_ignoreFile : Unusual ignoreFile := ⟨".gitignore", by decide, by decide⟩

theorem files_withheld_split :
    splitSet.defaultExcludes = true ∧
      splitSet.files splitHost = .ok [plainRoot.below [splitDirectory, ignoreFile]] ∧
      ∃ all, splitSet.withoutDefaults.files splitHost = .ok all ∧
        plainRoot.below [splitDirectory, ignoreFile] ∈ all ∧
        plainRoot.below [ignoreFile] ∉ [plainRoot.below [splitDirectory, ignoreFile]] := by
  obtain ⟨root, all, hr, hall, -, hmem⟩ := files_withheld (s := splitSet) rfl files_splitSet
  have hroot : splitSet.root splitHost = .ok plainRoot := rfl
  obtain rfl : plainRoot = root := Except.ok.inj (hroot.symm.trans hr)
  refine ⟨rfl, files_splitSet, all, hall, ?_, ?_⟩
  · exact ((hmem [splitDirectory] ignoreFile).1 List.mem_cons_self).1
  · intro h
    obtain ⟨d, hd, -⟩ := ((hmem [] ignoreFile).1 h).2.2 unusual_ignoreFile
    cases hd

/-- A file that belongs to version control stays in the set below a directory with a line feed in
its name. -/
theorem files_keep_split :
    splitSet.defaultExcludes = true ∧ Unusual ignoreFile ∧
      splitSet.files splitHost = .ok [plainRoot.below [splitDirectory, ignoreFile]] :=
  ⟨rfl, unusual_ignoreFile, files_splitSet⟩

end Split

end ComponentBuild.SourceSet
