import ComponentBuild.Proofs.SourceSet.SpelledOut

namespace ComponentBuild

def Path.bareText (p : Path) : String :=
  String.ofList (p.text.toList.reverse.dropWhile (· == '/')).reverse

namespace ClassName

variable {file root : Path} {name : String} {rest : List Segment} {cs more : List Char}

def slashed (c : Char) : Char := if c = '.' then '/' else c

def sourceText (root : Path) (name : String) : String :=
  root.bareText ++ "/" ++ name.map slashed ++ sourceEnding

def OneDot (root file : Path) : Prop :=
  ∃ rest stem, rest ≠ [] ∧ file = root.append rest ∧ '.' ∉ stem.toList ∧
    "/".intercalate (rest.map Segment.text) = stem ++ sourceEnding

theorem rootStart_eq (root : Path) : rootStart root = (root.bareText ++ "/").toList := by
  rw [String.toList_append, Path.bareText, String.toList_ofList]
  rfl

theorem map_slashed_dotted (h : '.' ∉ cs) : (cs.map dotted).map slashed = cs := by
  rw [List.map_map]
  have hback : ∀ c ∈ cs, (slashed ∘ dotted) c = c := by
    intro c hc
    have hdot : c ≠ '.' := by
      rintro rfl
      exact h hc
    by_cases hslash : c = '/'
    · subst hslash
      rfl
    · simp [slashed, dotted, hslash, hdot]
  rw [List.map_congr_left hback, List.map_id']

theorem more_of_append (h : root.isAbsolute = true) (hr : rest ≠ [])
    (hmore : (root.append rest).text.toList = rootStart root ++ more) :
    ∃ slash, '.' ∉ slash ∧ more = slash ++ ("/".intercalate (rest.map Segment.text)).toList := by
  by_cases hs : root.segments = []
  · have habs : (root.append rest).isAbsolute = true := h
    have hrest : (root.append rest).segments = rest := by rw [Path.append, hs, List.nil_append]
    rw [rootStart_of_top h hs, Path.toList_text_of_isAbsolute habs, hrest] at hmore
    refine ⟨_, ?_, (List.cons.inj hmore).2.symm⟩
    split <;> decide
  · rw [Path.text_append h hs hr, String.toList_append, ← rootStart_of_ne_top h hs] at hmore
    exact ⟨[], by decide, (List.append_cancel_left hmore).symm⟩

theorem text_of_derive (h : root.isAbsolute = true) (hderive : derive file root = .ok name)
    (hdot : OneDot root file) : file.text = sourceText root name := by
  obtain ⟨rest, stem, hr, rfl, hstem, hrest⟩ := hdot
  obtain ⟨more, htext, -, hname⟩ := derive_eq_ok.1 hderive
  obtain ⟨slash, hslash, hmore⟩ := more_of_append h hr htext
  have hway : more = slash ++ stem.toList ++ sourceEnding.toList := by
    rw [hmore, hrest, String.toList_append, List.append_assoc]
  have hending : sourceEnding.toList.map dotted = sourceEnding.toList := by decide
  have hspelled : name.toList = (slash ++ stem.toList).map dotted := by
    rw [hway, List.map_append, hending, String.toList_append] at hname
    exact List.append_cancel_right hname
  have hback : (name.map slashed).toList = slash ++ stem.toList := by
    rw [String.toList_map, hspelled]
    apply map_slashed_dotted
    simp [hslash, hstem]
  rw [← String.toList_inj, htext, rootStart_eq, hway, ← hback]
  simp [sourceText]

end ClassName

namespace SourceSet

open ClassName (OneDot sourceText)

variable {s : SourceSet} {host : Host} {files : List SourceFile}

theorem named_of_collect (h : s.collect host = .ok files) :
    ∃ root, s.root host = .ok root ∧ ∀ f ∈ files, f.path.Extends root ∧
      ClassName.derive f.path root = .ok f.className := by
  cases hroot : s.root host with
  | error fault =>
    rw [collect_of_root_error hroot] at h
    cases h
  | ok root =>
    have htexts : .nothing ∉ s.includes ++ s.excludes := by
      intro hnothing
      rw [collect_nothing hroot hnothing] at h
      cases h
    obtain ⟨found, names, hc, hpaths, hnames, hmem, -⟩ := collect_eq_ok hroot htexts
    obtain rfl := Except.ok.inj (h.symm.trans hc)
    refine ⟨root, rfl, ?_⟩
    intro f hf
    refine ⟨?_, hnames f hf⟩
    have hpath : f.path ∈ names.map root.below := hpaths ▸ List.mem_map_of_mem hf
    obtain ⟨ns, hns, hbelow⟩ := List.mem_map.1 hpath
    obtain ⟨dirs, n, rfl, -⟩ := (hmem ns).1 hns
    exact ⟨_, by simp, hbelow.symm⟩

/-- Each collected file lies below the root. If there is no dot on the way to it but that of the
ending, its text is read off its class name, and no other such file has the same name. -/
theorem names_identify (h : s.collect host = .ok files) :
    ∃ root, s.root host = .ok root ∧
      (∀ u ∈ files, u.path.Extends root ∧
        (OneDot root u.path → u.path.text = sourceText root u.className)) ∧
      ∀ u ∈ files, ∀ v ∈ files, OneDot root u.path → OneDot root v.path →
        u.className = v.className → u = v := by
  obtain ⟨root, hroot, hnamed⟩ := named_of_collect h
  have habs := root_isAbsolute hroot
  have htext : ∀ u ∈ files, OneDot root u.path → u.path.text = sourceText root u.className := by
    intro u hu hdot
    exact ClassName.text_of_derive habs (hnamed u hu).2 hdot
  refine ⟨root, hroot, ?_, ?_⟩
  · intro u hu
    exact ⟨(hnamed u hu).1, htext u hu⟩
  · rintro ⟨p, name⟩ hu ⟨q, name'⟩ hv hdot hdot' hname
    obtain rfl : name = name' := hname
    obtain rfl : p = q := Path.text_injective ((htext _ hu hdot).trans (htext _ hv hdot').symm)
    rfl

section Nested

def nestedNames : List Name := [⟨"a", by decide⟩, ⟨"b", by decide⟩, ⟨"C.java", by decide⟩]

def dottedNames : List Name := [⟨"a.b", by decide⟩, ⟨"C.java", by decide⟩]

def nestedHost : Host :=
  { plainHost with
    tree :=
      { entries := plainTree.entries ++
          [(plainDirectory :: nestedNames.take 1, .directory),
            (plainDirectory :: nestedNames.take 2, .directory),
            (plainDirectory :: nestedNames, .file []),
            (plainDirectory :: dottedNames.take 1, .directory),
            (plainDirectory :: dottedNames, .file [])]
        distinct := by decide } }

def nestedFile : SourceFile := ⟨plainRoot.below nestedNames, "a.b.C"⟩

def dottedFile : SourceFile := ⟨plainRoot.below dottedNames, "a.b.C"⟩

theorem collect_nested : plainSet.collect nestedHost = .ok
    [⟨plainRoot.below [plainFile], "A"⟩, nestedFile, dottedFile] := by
  rfl

theorem names_identify_nested :
    OneDot plainRoot nestedFile.path ∧ nestedFile.path.text = sourceText plainRoot "a.b.C" ∧
      ¬ OneDot plainRoot dottedFile.path := by
  have hroot : plainSet.root nestedHost = .ok plainRoot := rfl
  obtain ⟨root, hroot', htexts, hsame⟩ := names_identify collect_nested
  obtain rfl : plainRoot = root := Except.ok.inj (hroot.symm.trans hroot')
  have hdot : OneDot plainRoot nestedFile.path :=
    ⟨nestedNames.map .entry, "a/b/C", by decide, rfl, by decide, by decide⟩
  refine ⟨hdot, (htexts nestedFile (by simp)).2 hdot, ?_⟩
  intro hdot'
  have heq := hsame nestedFile (by simp) dottedFile (by simp) hdot hdot' rfl
  exact absurd heq (by decide)

end Nested

end SourceSet

end ComponentBuild
