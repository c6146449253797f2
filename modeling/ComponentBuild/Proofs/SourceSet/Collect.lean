import ComponentBuild.Proofs.ClassName.Naming
import ComponentBuild.Proofs.Fallible
import ComponentBuild.Proofs.SourceSet.Membership
import ComponentBuild.Proofs.SourceSet.Root

namespace ComponentBuild

namespace SourceSet

def relativeText (names : List Name) : String := "/".intercalate (names.map Name.text)

structure Admits (s : SourceSet) (dirs : List Name) (n : Name) : Prop where
  entered : s.defaultExcludes = true → ∀ d ∈ dirs, d.text ∉ excludedDirectories
  source : ClassName.sourceEnding.toList <:+ n.text.toList
  unusual : s.defaultExcludes = true →
    ∀ p ∈ excludedFilePatterns, p.fits (relativeText (dirs ++ [n])) = false
  included : (∀ x, .text x ∈ s.includes → Text.isBlankText x = true) ∨
    ∃ x p, .text x ∈ s.includes ∧ Pattern.ofText? x = some p ∧
      p.fits (relativeText (dirs ++ [n])) = true
  excluded : ∀ x p, .text x ∈ s.excludes → Pattern.ofText? x = some p →
    p.fits (relativeText (dirs ++ [n])) = false

/-- A file below the root, no link on the way to it, that the set admits. -/
structure Holds (s : SourceSet) (t : Tree) (root : Path) (dirs : List Name) (n : Name) : Prop where
  below : ∃ loc, t.locate [] root = .ok loc ∧ t.FileBelow loc root dirs n
  admits : s.Admits dirs n

section Patterns

theorem patterns_texts (texts : List String) :
    patterns (texts.map .text) = .ok (Pattern.ofTexts texts) := by
  rw [patterns, Given.mapM_required_eq_ok.2 rfl]

theorem patterns_nothing {given : List Given} (h : .nothing ∈ given) :
    patterns given = .error (.pattern .pattern) := by
  rw [patterns, Given.mapM_required_nothing h]

theorem ofTexts_isEmpty (texts : List String) :
    (Pattern.ofTexts texts).isEmpty = true ↔ ∀ x ∈ texts, Text.isBlankText x = true := by
  simp only [Pattern.ofTexts, List.isEmpty_iff, List.filterMap_eq_nil_iff, Pattern.ofText?_eq_none]

theorem anyFits_ofTexts (texts : List String) (rel : String) :
    Pattern.anyFits (Pattern.ofTexts texts) rel = true ↔
      ∃ x p, x ∈ texts ∧ Pattern.ofText? x = some p ∧ p.fits rel = true := by
  simp only [Pattern.anyFits, Pattern.ofTexts, List.any_eq_true, List.mem_filterMap]
  constructor
  · rintro ⟨p, ⟨x, hx, hp⟩, hf⟩
    exact ⟨x, p, hx, hp, hf⟩
  · rintro ⟨x, p, hx, hp, hf⟩
    exact ⟨p, ⟨x, hx, hp⟩, hf⟩

end Patterns

section Admits

variable {s : SourceSet} {includes excludes : List String}

theorem enters_eq_true {d : Name} :
    s.enters d = true ↔ (s.defaultExcludes = true → d.text ∉ excludedDirectories) := by
  cases h : s.defaultExcludes <;> simp [enters, h]

theorem isSource_concat {dirs : List Name} {n : Name} :
    isSource (dirs ++ [n]) = true ↔ ClassName.sourceEnding.toList <:+ n.text.toList := by
  simp [isSource, ClassName.isSourceText]

theorem selects_eq_true (hi : s.includes = includes.map .text) (he : s.excludes = excludes.map .text)
    {names : List Name} :
    s.selects (Pattern.ofTexts includes) (Pattern.ofTexts excludes) names = true ↔
      (s.defaultExcludes = true →
          ∀ p ∈ excludedFilePatterns, p.fits (relativeText names) = false) ∧
        ((∀ x, .text x ∈ s.includes → Text.isBlankText x = true) ∨
          ∃ x p, .text x ∈ s.includes ∧ Pattern.ofText? x = some p ∧
            p.fits (relativeText names) = true) ∧
        ∀ x p, .text x ∈ s.excludes → Pattern.ofText? x = some p →
          p.fits (relativeText names) = false := by
  have hdefault : (!(s.defaultExcludes && Pattern.anyFits excludedFilePatterns
      (relativeText names))) = true ↔ (s.defaultExcludes = true →
        ∀ p ∈ excludedFilePatterns, p.fits (relativeText names) = false) := by
    cases s.defaultExcludes <;> simp [Pattern.anyFits]
  have hincluded : ((Pattern.ofTexts includes).isEmpty
      || Pattern.anyFits (Pattern.ofTexts includes) (relativeText names)) = true ↔
        (∀ x, .text x ∈ s.includes → Text.isBlankText x = true) ∨
          ∃ x p, .text x ∈ s.includes ∧ Pattern.ofText? x = some p ∧
            p.fits (relativeText names) = true := by
    rw [Bool.or_eq_true, ofTexts_isEmpty, anyFits_ofTexts, hi]
    simp
  have hexcluded : (!Pattern.anyFits (Pattern.ofTexts excludes) (relativeText names)) = true ↔
      ∀ x p, .text x ∈ s.excludes → Pattern.ofText? x = some p →
        p.fits (relativeText names) = false := by
    rw [Bool.not_eq_true', Bool.eq_false_iff, ne_eq, anyFits_ofTexts, he]
    constructor
    · intro h x p hx hp
      have hx' : x ∈ excludes := by simpa using hx
      apply Bool.eq_false_iff.2
      intro hf
      exact h ⟨x, p, hx', hp, hf⟩
    · rintro h ⟨x, p, hx, hp, hf⟩
      have hx' : .text x ∈ excludes.map Given.text := List.mem_map_of_mem hx
      rw [h x p hx' hp] at hf
      cases hf
  rw [selects, Bool.and_eq_true, Bool.and_eq_true]
  exact and_assoc.trans (and_congr hdefault (and_congr hincluded hexcluded))

theorem admits_iff (hi : s.includes = includes.map .text) (he : s.excludes = excludes.map .text)
    {dirs : List Name} {n : Name} :
    s.Admits dirs n ↔ (∀ d ∈ dirs, s.enters d = true) ∧
      (s.selects (Pattern.ofTexts includes) (Pattern.ofTexts excludes) (dirs ++ [n])
        && isSource (dirs ++ [n])) = true := by
  rw [Bool.and_eq_true, selects_eq_true hi he, isSource_concat]
  constructor
  · intro h
    refine ⟨?_, ⟨h.unusual, h.included, h.excluded⟩, h.source⟩
    intro d hd
    apply enters_eq_true.2
    intro hs
    exact h.entered hs d hd
  · rintro ⟨hent, ⟨hu, hinc, hexc⟩, hs⟩
    refine ⟨?_, hs, hu, hinc, hexc⟩
    intro hd d hm
    exact enters_eq_true.1 (hent d hm) hd

end Admits

section Collect

variable {s : SourceSet} {includes excludes : List String} {t : Tree} {root : Path}

def found (s : SourceSet) (t : Tree) (root : Path) (includes excludes : List Pattern) :
    List (List Name) :=
  (s.namesBelow t root includes excludes).filter isSource

theorem mem_found (hi : s.includes = includes.map .text) (he : s.excludes = excludes.map .text)
    (hroot : root.isAbsolute = true) {loc : Location} (hp : t.locate [] root = .ok loc)
    {names : List Name} :
    names ∈ s.found t root (Pattern.ofTexts includes) (Pattern.ofTexts excludes) ↔
      ∃ dirs n, names = dirs ++ [n] ∧ s.Holds t root dirs n ∧ root.Passable dirs := by
  rw [found, namesBelow, Tree.filter_filesBelow,
    Tree.mem_filesBelow_root hroot hp (Nat.lt_succ_self _)]
  constructor
  · rintro ⟨dirs, n, rfl, hb, hpass, hent, hsel⟩
    exact ⟨dirs, n, rfl, ⟨⟨loc, hp, hb⟩, (admits_iff hi he).2 ⟨hent, hsel⟩⟩, hpass⟩
  · rintro ⟨dirs, n, rfl, ⟨⟨loc', hp', hb⟩, ha⟩, hpass⟩
    obtain rfl : loc = loc' := Except.ok.inj (hp.symm.trans hp')
    obtain ⟨hent, hsel⟩ := (admits_iff hi he).1 ha
    exact ⟨dirs, n, rfl, hb, hpass, hent, hsel⟩

theorem found_pairwise (s : SourceSet) (t : Tree) (root : Path) (includes excludes : List Pattern) :
    (s.found t root includes excludes).Pairwise Before :=
  (Tree.filesBelow_pairwise _ _).filter _

theorem mapM_ofPath (hroot : root.isAbsolute = true) {ns : List (List Name)}
    (hs : ∀ names ∈ ns, isSource names = true) :
    ∃ files, (ns.mapM fun names => SourceFile.ofPath root (root.below names)) = .ok files ∧
      files.map SourceFile.path = ns.map root.below ∧
      ∀ f ∈ files, ClassName.derive f.path root = .ok f.className := by
  induction ns with
  | nil => exact ⟨[], rfl, rfl, by simp⟩
  | cons names ns ih =>
    have hs' : ∀ ms ∈ ns, isSource ms = true := by
      intro ms h
      exact hs ms (List.mem_cons_of_mem _ h)
    obtain ⟨files, hm, hpaths, hnames⟩ := ih hs'
    obtain ⟨name, hname⟩ := ClassName.derive_below hroot (hs names List.mem_cons_self)
    refine ⟨⟨root.below names, name⟩ :: files, ?_, by simp [hpaths], ?_⟩
    · rw [List.mapM_cons, hm, SourceFile.ofPath, hname]
      rfl
    · rintro f (_ | ⟨_, hf⟩)
      · exact hname
      · exact hnames f hf

theorem collect_texts (hi : s.includes = includes.map .text) (he : s.excludes = excludes.map .text)
    {host : Host} (h : s.root host = .ok root) :
    s.collect host = (s.found host.tree root (Pattern.ofTexts includes)
      (Pattern.ofTexts excludes)).mapM fun names => SourceFile.ofPath root (root.below names) := by
  rw [collect, located, h]
  simp only [hi, he, patterns_texts]
  rfl

theorem collect_nothing {host : Host} (h : s.root host = .ok root)
    (hg : .nothing ∈ s.includes ++ s.excludes) :
    s.collect host = .error (.pattern .pattern) := by
  rw [collect, located, h]
  by_cases hin : .nothing ∈ s.includes
  · simp only [patterns_nothing hin]
    rfl
  · obtain ⟨texts, ht⟩ := Given.eq_map_text hin
    have hex : .nothing ∈ s.excludes := (List.mem_append.1 hg).resolve_left hin
    simp only [ht, patterns_texts, patterns_nothing hex]
    rfl

theorem collect_eq_ok {host : Host} (h : s.root host = .ok root)
    (hg : .nothing ∉ s.includes ++ s.excludes) :
    ∃ (files : List SourceFile) (names : List (List Name)), s.collect host = .ok files ∧
      files.map SourceFile.path = names.map root.below ∧
      (∀ f ∈ files, ClassName.derive f.path root = .ok f.className) ∧
      (∀ ns, ns ∈ names ↔
        ∃ dirs n, ns = dirs ++ [n] ∧ s.Holds host.tree root dirs n ∧ root.Passable dirs) ∧
      names.Pairwise Before := by
  simp only [List.mem_append, not_or] at hg
  obtain ⟨includes, hi⟩ := Given.eq_map_text hg.1
  obtain ⟨excludes, he⟩ := Given.eq_map_text hg.2
  have hroot := root_isAbsolute h
  obtain ⟨loc, hp, -⟩ := locate_root h
  have hsource : ∀ ns ∈ s.found host.tree root (Pattern.ofTexts includes) (Pattern.ofTexts excludes),
      isSource ns = true := by
    intro ns hns
    exact (List.mem_filter.1 hns).2
  obtain ⟨files, hm, hpaths, hnames⟩ := mapM_ofPath hroot hsource
  refine ⟨files, _, (collect_texts hi he h).trans hm, hpaths, hnames, ?_, s.found_pairwise ..⟩
  intro ns
  exact mem_found hi he hroot hp

/-- Collecting never fails for patterns that are texts, and finds each file that the set holds once,
in the order of the walk. Only where the system does not take the path of its directory is a file
left out. -/
theorem collect_of_root {host : Host} (h : s.root host = .ok root) :
    (.nothing ∉ s.includes ++ s.excludes →
      ∃ (files : List SourceFile) (names : List (List Name)), s.collect host = .ok files ∧
        files.map SourceFile.path = names.map root.below ∧
        (∀ f ∈ files, ClassName.derive f.path root = .ok f.className) ∧
        (∀ ns, ns ∈ names ↔
          ∃ dirs n, ns = dirs ++ [n] ∧ s.Holds host.tree root dirs n ∧ root.Passable dirs) ∧
        (files.map SourceFile.path).Nodup ∧ names.Pairwise Before) ∧
      (.nothing ∈ s.includes ++ s.excludes → s.collect host = .error (.pattern .pattern)) := by
  constructor
  · intro hg
    obtain ⟨files, names, hc, hpaths, hnames, hmem, hb⟩ := collect_eq_ok h hg
    have hnodup : (files.map SourceFile.path).Nodup := by
      rw [hpaths]
      apply List.pairwise_map.2
      apply hb.imp
      intro ns ms hns he
      obtain rfl := root.below_injective he
      exact hns.irrefl
    exact ⟨files, names, hc, hpaths, hnames, hmem, hnodup, hb⟩
  · exact collect_nothing h

end Collect

section Plain

def plainDirectory : Name := ⟨"src", by decide⟩

def plainFile : Name := ⟨"A.java", by decide⟩

def plainTree : Tree where
  entries := [([plainDirectory], .directory), ([plainDirectory, plainFile], .file [])]
  distinct := by decide

def plainHost : Host := ⟨plainTree, [], ⟨.ofLocation [], []⟩, [], fun _ => true⟩

def plainRoot : Path := .ofLocation [plainDirectory]

def plainSet : SourceSet := ⟨some plainRoot, [], [], false⟩

def innerDirectory : Name := ⟨"inner", by decide⟩

def hiddenDirectory : Name := ⟨".git", by decide⟩

def linkName : Name := ⟨"link", by decide⟩

def lostFile : Name := ⟨"Lost.java", by decide⟩

def lateFile : Name := ⟨"Late.java", by decide⟩

def testFile : Name := ⟨"ATest.java", by decide⟩

def mixedTree : Tree where
  entries := [([plainDirectory], .directory), ([plainDirectory, lateFile], .file []),
    ([plainDirectory, plainFile], .file []), ([plainDirectory, testFile], .file []),
    ([plainDirectory, innerDirectory], .directory),
    ([plainDirectory, innerDirectory, lateFile], .file []),
    ([plainDirectory, hiddenDirectory], .directory),
    ([plainDirectory, hiddenDirectory, plainFile], .file []),
    ([plainDirectory, linkName], .link ⟨.ofText "inner", false⟩),
    ([plainDirectory, lostFile], .link ⟨.ofText "nowhere", false⟩)]
  distinct := by decide

def mixedHost : Host := { plainHost with tree := mixedTree }

def mixedSet : SourceSet := ⟨some plainRoot, [], [.text "**/*Test.java"], true⟩

theorem root_mixedSet : mixedSet.root mixedHost = .ok plainRoot := by
  have hp : mixedTree.locate [] plainRoot = .ok [plainDirectory] := rfl
  exact root_of_locate rfl (settled_ofLocation _ _) hp rfl

theorem collect_of_root_plain :
    mixedSet.root mixedHost = .ok plainRoot ∧
      ∃ (files : List SourceFile) (names : List (List Name)),
        mixedSet.collect mixedHost = .ok files ∧
        files.map SourceFile.className = ["A", "Late", "Lost", "inner.Late"] ∧
        files.map SourceFile.path = names.map plainRoot.below ∧
        (∀ ns, ns ∈ names ↔ ∃ dirs n, ns = dirs ++ [n] ∧
          mixedSet.Holds mixedTree plainRoot dirs n ∧ plainRoot.Passable dirs) ∧
        (files.map SourceFile.path).Nodup ∧ names.Pairwise Before := by
  have hnames : (mixedSet.collect mixedHost).toOption.map (fun files =>
      files.map SourceFile.className) = some ["A", "Late", "Lost", "inner.Late"] := by
    decide +kernel
  obtain ⟨files, names, hc, hpaths, -, hmem, hnodup, hbefore⟩ :=
    (collect_of_root root_mixedSet).1 (by decide)
  rw [hc] at hnames
  exact ⟨root_mixedSet, files, names, hc, Option.some.inj hnames, hpaths, hmem, hnodup, hbefore⟩

end Plain

section Deep

def loop : Name := .repeated 'a' 255 (by decide) (by decide)

def deepDirectory : Name := .repeated 'b' 255 (by decide) (by decide)

def deepFile : Name := ⟨"F.java", by decide⟩

theorem deepDirectory_ne_loop : deepDirectory ≠ loop := by
  intro h
  have hmem : 'a' ∈ loop.text.toList := by
    rw [loop, Name.repeated, String.toList_ofList, List.mem_replicate]
    exact ⟨by decide, rfl⟩
  rw [← h] at hmem
  exact Name.not_mem_repeated _ _ (by decide) hmem

def deepTree : Tree where
  entries := [([loop], .link ⟨.here, true⟩), ([deepDirectory], .directory),
    ([deepDirectory, deepFile], .file [])]
  distinct := by simp [deepDirectory_ne_loop.symm]

def deepHost : Host := ⟨deepTree, [], ⟨.ofLocation [], []⟩, [], fun _ => true⟩

def loopPath (k : Nat) : Path := .ofLocation (List.replicate k loop)

def deepRoot : Path := loopPath 15

def deepSet : SourceSet := ⟨some deepRoot, [], [], false⟩

theorem deepTree_loop : deepTree.node? [loop] = some (.link ⟨.here, true⟩) := by
  simp [Tree.node?, deepTree]

theorem deepTree_directory : deepTree.node? [deepDirectory] = some .directory := by
  have hne : (deepDirectory == loop) = false := beq_eq_false_iff_ne.2 deepDirectory_ne_loop
  simp [Tree.node?, deepTree, List.lookup_cons, hne]

theorem deepTree_file : deepTree.node? [deepDirectory, deepFile] = some (.file []) := by
  simp [Tree.node?, deepTree, List.lookup_cons]

theorem size_loop : loop.text.utf8ByteSize = 255 := Name.size_repeated 'a' 255 _ _

theorem size_deepDirectory : deepDirectory.text.utf8ByteSize = 255 := Name.size_repeated 'b' 255 _ _

theorem size_loopPath (k : Nat) : (loopPath (k + 1)).text.utf8ByteSize = 256 * (k + 1) := by
  have hslash : "/".utf8ByteSize = 1 := rfl
  induction k with
  | zero =>
    rw [Path.text_of_isAbsolute rfl]
    simp [loopPath, Path.ofLocation, Anchor.text, hslash, size_loop, Segment.text]
  | succ k ih =>
    have hb : loopPath (k + 1 + 1) = (loopPath (k + 1)).child loop := by
      rw [loopPath, List.replicate_succ', ← Path.ofLocation_below, ← List.nil_append [loop],
        Path.below_concat, Path.below_nil, loopPath]
    rw [hb, Path.size_text_child rfl (by simp [loopPath, Path.ofLocation, List.replicate_succ]), ih,
      size_loop]
    omega

theorem walk_loop {k m : Nat} (h : m ≤ k) :
    deepTree.walk false k [] ((List.replicate m loop).map .entry) = .ok [] := by
  have hn : loop.isTooLong = false := by simp [Name.isTooLong, size_loop]
  induction m generalizing k with
  | zero => cases k <;> simp [Tree.walk, Tree.walkWith]
  | succ m ih =>
    obtain ⟨k, rfl⟩ : ∃ j, k = j + 1 := ⟨k - 1, by omega⟩
    have hk := ih (k := k) (by omega)
    have hd : deepTree.node? [] = some .directory := rfl
    have hs : Tree.startOf [] Path.here = [] := rfl
    have hh : Path.here.segments = [] := rfl
    rw [List.replicate_succ, List.map_cons, Tree.walk, Tree.walkWith_link hd hn deepTree_loop]
    simp only [List.nil_append, hs, hh, hk]
    simp [Except.bind, Tree.asDirectory, hd]

theorem hasNullByte_loopPath (k : Nat) : (loopPath k).hasNullByte = false := by
  have hloop : '\x00' ∉ loop.text.toList := Name.not_mem_repeated _ _ (by decide)
  simp [loopPath, Path.ofLocation, Path.hasNullByte, Segment.text, hloop]

theorem locate_deepRoot : deepTree.locate [] deepRoot = .ok [] := by
  have hf : deepRoot.fault? = none := by
    rw [deepRoot, Path.fault?, hasNullByte_loopPath, size_loopPath]
    decide
  exact Tree.locate_eq_ok.2 ⟨hf, walk_loop (by decide)⟩

theorem root_deepSet : deepSet.root deepHost = .ok deepRoot :=
  root_of_locate rfl (settled_ofLocation _ _) locate_deepRoot rfl

theorem deepSet_holds : deepSet.Holds deepTree deepRoot [deepDirectory] deepFile where
  below := by
    refine ⟨[], locate_deepRoot, Tree.fileBelow_cons.2 ⟨rfl, Tree.fileBelow_nil.2 ?_⟩⟩
    have hf : deepTree.node? ([] ++ [deepDirectory] ++ [deepFile]) = some (.file []) := deepTree_file
    exact ⟨deepTree_directory, by rw [hf]; rfl, by rw [Tree.leadsToDirectory, hf]⟩
  admits := by
    refine ⟨by simp [deepSet], by decide, by simp [deepSet], .inl (by simp [deepSet]), ?_⟩
    simp [deepSet]

theorem not_isSource_repeated {c : Char} {k : Nat} (hc : c ≠ '/') (hk : 2 < k) (hdot : c ≠ '.') :
    ¬ ClassName.sourceEnding.toList <:+ (Name.repeated c k hc hk).text.toList := by
  intro h
  have hending : '.' ∈ ClassName.sourceEnding.toList := by decide
  exact Name.not_mem_repeated hc hk (Ne.symm hdot) (h.subset hending)

theorem deepSet_not_passable {dirs : List Name} {n : Name}
    (h : deepSet.Holds deepTree deepRoot dirs n) : ¬ deepRoot.Passable dirs := by
  obtain ⟨loc, hp, hb⟩ := h.below
  obtain rfl : loc = [] := Except.ok.inj (hp.symm.trans locate_deepRoot)
  have hentry (m : Name) (hm : (deepTree.node? [m]).isSome) : m = loop ∨ m = deepDirectory := by
    obtain ⟨node, he⟩ := (Tree.node?_isSome (by simp)).1 hm
    simp only [deepTree, List.mem_cons, Prod.mk.injEq, List.cons.injEq, reduceCtorEq, and_true,
      and_false, false_and, List.not_mem_nil, or_false] at he
    exact he.imp And.left And.left
  intro hpass
  cases dirs with
  | nil =>
    rcases hentry n (Tree.fileBelow_nil.1 hb).2.1 with rfl | rfl
    · exact not_isSource_repeated _ _ (by decide) h.admits.source
    · exact not_isSource_repeated _ _ (by decide) h.admits.source
  | cons d ds =>
    have hdir := (Tree.fileBelow_cons.1 hb).2.directory
    rw [List.nil_append] at hdir
    rcases hentry d (by simp [hdir]) with rfl | rfl
    · rw [deepTree_loop] at hdir
      cases hdir
    · have hsize : (deepRoot.child deepDirectory).text.utf8ByteSize = 4096 := by
        rw [Path.size_text_child rfl (by simp [deepRoot, loopPath, Path.ofLocation]), deepRoot,
          size_loopPath, size_deepDirectory]
      have hf := ((Path.passable_cons rfl _ _).1 hpass).1
      rw [Path.fault?, hsize] at hf
      split at hf <;> cases hf

theorem collect_deepSet : deepSet.collect deepHost = .ok [] := by
  obtain ⟨files, names, hc, hpaths, -, hmem, -⟩ := collect_eq_ok root_deepSet (by simp [deepSet])
  have hnil : names = [] := by
    apply List.eq_nil_iff_forall_not_mem.2
    intro ns hns
    obtain ⟨dirs, n, -, hh, hpass⟩ := (hmem ns).1 hns
    exact deepSet_not_passable hh hpass
  rw [hnil, List.map_nil, List.map_eq_nil_iff] at hpaths
  rw [hc, hpaths]

/-- A file whose directory has too long a path is left out, although the set holds it. -/
theorem collect_omits_deep :
    deepSet.root deepHost = .ok deepRoot ∧
      deepSet.Holds deepHost.tree deepRoot [deepDirectory] deepFile ∧
        deepSet.collect deepHost = .ok [] :=
  ⟨root_deepSet, deepSet_holds, collect_deepSet⟩

end Deep

end SourceSet

end ComponentBuild
