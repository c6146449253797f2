import ComponentBuild.Proofs.Pattern.Itself
import ComponentBuild.Proofs.SourceSet.Identified
import ComponentBuild.Proofs.SourceSet.Iteration

namespace ComponentBuild

def SourceFile.textBelow (root : Path) (f : SourceFile) : String :=
  ((f.path.relativeTo? root).getD .here).text

theorem SourceFile.textBelow_of_path {root : Path} {f : SourceFile} {names : List Name}
    (hn : names ≠ []) (h : f.path = root.below names) :
    f.textBelow root = SourceSet.relativeText names := by
  have hrelative : f.path.relativeTo? root = some ⟨.relative, names.map .entry⟩ := by
    simp [h, Path.relativeTo?, Path.below]
  have hhere : (⟨.relative, names.map .entry⟩ : Path) ≠ .here := by
    simpa [Path.here] using hn
  rw [textBelow, hrelative, Option.getD_some, Path.text, if_neg hhere, List.map_map]
  exact String.empty_append

namespace SourceSet

variable {s : SourceSet} {host : Host} {root : Path} {t : Tree} {x : String} {p : Pattern}
  {before after : List String} {files : List SourceFile}

def withExcludes (s : SourceSet) (excludes : List Given) : SourceSet :=
  { s with excludes := excludes }

theorem anyFits_insert (hp : Pattern.ofText? x = some p) (rel : String) :
    Pattern.anyFits (Pattern.ofTexts (before ++ x :: after)) rel =
      (Pattern.anyFits (Pattern.ofTexts (before ++ after)) rel || p.fits rel) := by
  simp only [Pattern.anyFits, Pattern.ofTexts, List.filterMap_append,
    List.filterMap_cons_some hp, List.any_append, List.any_cons]
  rw [Bool.or_left_comm, Bool.or_comm]

theorem found_insert (hp : Pattern.ofText? x = some p) (excludes : List Given)
    (includes : List Pattern) :
    (s.withExcludes excludes).found t root includes (Pattern.ofTexts (before ++ x :: after)) =
      (s.found t root includes (Pattern.ofTexts (before ++ after))).filter fun names =>
        !p.fits (relativeText names) := by
  have hselects (names : List Name) :
      ((s.withExcludes excludes).selects includes (Pattern.ofTexts (before ++ x :: after)) names
          && isSource names) =
        (s.selects includes (Pattern.ofTexts (before ++ after)) names && isSource names
          && !p.fits (relativeText names)) := by
    rw [selects, selects, anyFits_insert hp, Bool.not_or, ← Bool.and_assoc, Bool.and_right_comm]
    rfl
  rw [found, found, namesBelow, namesBelow, Tree.filter_filesBelow, Tree.filter_filesBelow,
    Tree.filter_filesBelow]
  congr 1
  funext names
  exact hselects names

theorem textBelow_of_found {includes excludes : List Pattern} {names : List Name} {f : SourceFile}
    (hn : names ∈ s.found t root includes excludes)
    (hf : SourceFile.ofPath root (root.below names) = .ok f) :
    f.textBelow root = relativeText names := by
  have hne : names ≠ [] := by
    rintro rfl
    exact absurd (List.mem_filter.1 hn).2 (by decide)
  exact SourceFile.textBelow_of_path hne (SourceFile.path_of_ofPath hf)

theorem collect_insert (hc : s.collect host = .ok files) (hr : s.root host = .ok root)
    {before after : List Given} (he : s.excludes = before ++ after)
    (hp : Pattern.ofText? x = some p) :
    (s.withExcludes (before ++ .text x :: after)).collect host =
      .ok (files.filter fun f => !p.fits (f.textBelow root)) := by
  have htexts : .nothing ∉ s.includes ++ s.excludes := by
    intro hnothing
    rw [collect_nothing hr hnothing] at hc
    cases hc
  simp only [he, List.mem_append, not_or] at htexts
  obtain ⟨includes, hi⟩ := Given.eq_map_text htexts.1
  obtain ⟨bs, rfl⟩ := Given.eq_map_text htexts.2.1
  obtain ⟨as, rfl⟩ := Given.eq_map_text htexts.2.2
  have he' : s.excludes = (bs ++ as).map .text := by rw [he, List.map_append]
  have hnew : bs.map .text ++ .text x :: as.map .text = (bs ++ x :: as).map Given.text := by simp
  have hcollect := collect_texts (s := s.withExcludes ((bs ++ x :: as).map .text)) hi rfl hr
  rw [collect_texts hi he' hr] at hc
  rw [hnew, hcollect, found_insert hp]
  apply mapM_filter hc
  intro names hn f hf
  rw [textBelow_of_found hn hf]

/-- A text without a backslash, with neither a blank nor a slash at its ends, fits the pattern that it
is read as. So once the path of a collected file is among the excludes, wherever it is put, that file
is collected no more, and of the others those stay that the pattern does not fit. -/
theorem excluded_by_own_path :
    (∀ text, Pattern.Tidy text → ∃ p, Pattern.ofText? text = some p ∧ p.fits text = true) ∧
      ∀ (s : SourceSet) (host : Host) (files : List SourceFile), s.collect host = .ok files →
        ∃ root, s.root host = .ok root ∧ ∀ f ∈ files, f.path.Extends root ∧
          (Pattern.Tidy (f.textBelow root) → ∀ before after, s.excludes = before ++ after →
            ∃ p left, Pattern.ofText? (f.textBelow root) = some p ∧
              (s.withExcludes (before ++ .text (f.textBelow root) :: after)).collect host =
                .ok left ∧
              left = files.filter (fun g => !p.fits (g.textBelow root)) ∧ f ∉ left) := by
  refine ⟨fun text h => h.fits_itself, ?_⟩
  intro s host files hc
  obtain ⟨root, hr, hnamed⟩ := named_of_collect hc
  refine ⟨root, hr, ?_⟩
  intro f hf
  refine ⟨(hnamed f hf).1, ?_⟩
  intro htidy before after he
  obtain ⟨p, hp, hfits⟩ := htidy.fits_itself
  refine ⟨p, _, hp, collect_insert hc hr he hp, rfl, ?_⟩
  intro hleft
  have hkept := (List.mem_filter.1 hleft).2
  rw [hfits] at hkept
  cases hkept

section Starred

def starredNames : List Name := [⟨"a***b", by decide⟩, ⟨"?[x]\n**.java", by decide⟩]

def starredHost : Host :=
  { plainHost with
    tree :=
      { entries := plainTree.entries ++
          [(plainDirectory :: starredNames.take 1, .directory),
            (plainDirectory :: starredNames, .file [])]
        distinct := by decide } }

def starredText : String := "a***b/?[x]\n**.java"

def starredFile : SourceFile := ⟨plainRoot.below starredNames, "a***b.?[x]\n**"⟩

theorem tidy_starredText : Pattern.Tidy starredText where
  unslashed := by decide
  start := ⟨'a', by decide, by decide, by decide⟩
  ending := ⟨'a', by decide, by decide, by decide⟩

theorem collect_starred : plainSet.collect starredHost = .ok
    [⟨plainRoot.below [plainFile], "A"⟩, starredFile] := by
  rfl

theorem excluded_by_own_path_starred :
    Pattern.Tidy starredText ∧
      (∃ p, Pattern.ofText? starredText = some p ∧ p.fits starredText = true) ∧
      starredFile.textBelow plainRoot = starredText ∧
      plainSet.collect starredHost = .ok [⟨plainRoot.below [plainFile], "A"⟩, starredFile] ∧
      (plainSet.withExcludes [.text starredText]).collect starredHost =
        .ok [⟨plainRoot.below [plainFile], "A"⟩] := by
  have htext : starredFile.textBelow plainRoot = starredText := by decide
  have hroot : plainSet.root starredHost = .ok plainRoot := rfl
  obtain ⟨root, hr, hfiles⟩ := excluded_by_own_path.2 _ _ _ collect_starred
  obtain rfl : plainRoot = root := Except.ok.inj (hroot.symm.trans hr)
  have htidy : Pattern.Tidy (starredFile.textBelow plainRoot) := htext ▸ tidy_starredText
  obtain ⟨p, left, hp, hleft, hkept, -⟩ := (hfiles starredFile (by simp)).2 htidy [] [] rfl
  rw [htext] at hp hleft
  obtain rfl := Option.some.inj (tidy_starredText.ofText?_eq.symm.trans hp)
  have hfits := excluded_by_own_path.1 starredText tidy_starredText
  refine ⟨tidy_starredText, hfits, htext, collect_starred, ?_⟩
  rw [List.nil_append] at hleft
  rw [hleft, hkept]
  rfl

end Starred

end SourceSet

end ComponentBuild
