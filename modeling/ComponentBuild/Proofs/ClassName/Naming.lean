import ComponentBuild.Proofs.ClassName
import ComponentBuild.Proofs.Path.Extension

/-!
Which files have a class name against a root, and which name. A root with a name in its path names
the source files whose paths go on where its own ends, by the names after it. At the top the text
of the root is no more than a slash, so that a doubled slash is taken for a single one.
-/

namespace ComponentBuild

namespace Path

variable {p : Path}

theorem toList_text_of_isAbsolute (h : p.isAbsolute = true) :
    p.text.toList = '/' :: ((if p.anchor = .doubleRoot then ['/'] else []) ++
      ("/".intercalate (p.segments.map Segment.text)).toList) := by
  rw [text_of_isAbsolute h]
  cases ha : p.anchor with
  | relative => simp [isAbsolute, ha] at h
  | root => simp [Anchor.text]
  | doubleRoot => simp [Anchor.text]

def Extends (p base : Path) : Prop := ∃ rest, rest ≠ [] ∧ p = base.append rest

theorem append_segments_inj {base : Path} {ss rest : List Segment}
    (h : base.append ss = base.append rest) : ss = rest := by
  simpa [append] using h

end Path

namespace ClassName

variable {file root : Path} {name : String} {rest : List Segment}

def Dotted (names : List Segment) (name : String) : Prop :=
  name ++ sourceEnding = ".".intercalate (names.map Segment.text)

theorem Dotted.unique {names : List Segment} {name' : String} (h : Dotted names name)
    (h' : Dotted names name') : name = name' :=
  String.append_left_inj _ |>.1 (h.trans h'.symm)

theorem map_dotted_of_not_mem {cs : List Char} (h : '/' ∉ cs) : cs.map dotted = cs := by
  have heq : ∀ c ∈ cs, dotted c = c := by
    intro c hc
    have hne : c ≠ '/' := by
      rintro rfl
      exact h hc
    rw [dotted, if_neg hne]
  rw [List.map_congr_left heq, List.map_id']

theorem map_dotted_intercalate (ss : List Segment) :
    ("/".intercalate (ss.map Segment.text)).toList.map dotted =
      (".".intercalate (ss.map Segment.text)).toList := by
  induction ss with
  | nil => rfl
  | cons s ss ih =>
    have hs := map_dotted_of_not_mem s.slash_not_mem_text
    by_cases hss : ss = []
    · subst hss
      simpa using hs
    · have hne : ss.map Segment.text ≠ [] := by simpa using hss
      have hdot : "/".toList.map dotted = ".".toList := by decide
      rw [List.map_cons, String.intercalate_cons_of_ne_nil hne,
        String.intercalate_cons_of_ne_nil hne]
      simp only [String.toList_append, List.map_append, hs, hdot, ih]

theorem withoutEnding_append {cs : List Char} (h : isSourceText cs = true) :
    withoutEnding cs ++ sourceEnding.toList = cs := by
  obtain ⟨before, rfl⟩ := List.isSuffixOf_iff_suffix.1 h
  have hlen : (before ++ sourceEnding.toList).length - sourceEnding.length = before.length := by
    rw [List.length_append, String.length_toList, Nat.add_sub_cancel]
  rw [withoutEnding, hlen, List.take_left]

theorem isSourceText_map_dotted {cs : List Char} (h : isSourceText cs = true) :
    isSourceText (cs.map dotted) = true := by
  obtain ⟨before, rfl⟩ := List.isSuffixOf_iff_suffix.1 h
  apply List.isSuffixOf_iff_suffix.2
  rw [List.map_append]
  exact List.suffix_append ..

theorem isSourceText_append_slash (before cs : List Char) :
    isSourceText (before ++ '/' :: cs) = isSourceText cs := by
  rw [Bool.eq_iff_iff, isSourceText, isSourceText, List.isSuffixOf_iff_suffix,
    List.isSuffixOf_iff_suffix]
  constructor
  · intro h
    exact Text.suffix_of_suffix_append_mark h (by decide)
  · intro h
    exact h.trans ⟨before ++ ['/'], by simp⟩

theorem isSourceText_after_rootStart (root : Path) (more : List Char) :
    isSourceText (rootStart root ++ more) = isSourceText more := by
  rw [rootStart, List.append_assoc]
  exact isSourceText_append_slash _ more

theorem derive_of_start {more : List Char} (h : file.text.toList = rootStart root ++ more) :
    derive file root =
      if isSourceText more then .ok (String.ofList (withoutEnding (more.map dotted)))
      else .error (.notSource file) := by
  have hprefix : (rootStart root).isPrefixOf file.text.toList = true :=
    List.isPrefixOf_iff_prefix.2 ⟨more, h.symm⟩
  have hdrop : file.text.toList.drop (rootStart root).length = more := by
    rw [h, List.drop_left]
  have hsource : isSourceText file.text.toList = isSourceText more := by
    rw [h, isSourceText_after_rootStart]
  simp only [derive, hprefix, hdrop, hsource]
  cases isSourceText more with
  | false => rfl
  | true => rfl

theorem derive_of_not_start (h : ¬ rootStart root <+: file.text.toList) :
    derive file root = .error (.notBelow file root) := by
  have hprefix : (rootStart root).isPrefixOf file.text.toList = false := by
    rw [Bool.eq_false_iff, ne_eq, List.isPrefixOf_iff_prefix]
    exact h
  simp only [derive, hprefix]
  rfl

theorem ofList_withoutEnding_eq {more : List Char} (h : isSourceText more = true) :
    String.ofList (withoutEnding (more.map dotted)) = name ↔
      (name ++ sourceEnding).toList = more.map dotted := by
  have happend := withoutEnding_append (isSourceText_map_dotted h)
  rw [String.toList_append]
  constructor
  · rintro rfl
    rw [String.toList_ofList, happend]
  · intro he
    rw [← happend] at he
    rw [← List.append_cancel_right he, String.ofList_toList]

theorem derive_eq_ok :
    derive file root = .ok name ↔ ∃ more, file.text.toList = rootStart root ++ more ∧
      isSourceText more = true ∧ (name ++ sourceEnding).toList = more.map dotted := by
  constructor
  · intro h
    by_cases hp : rootStart root <+: file.text.toList
    · obtain ⟨more, hmore⟩ := hp
      rw [derive_of_start hmore.symm] at h
      split at h
      · rename_i hs
        exact ⟨more, hmore.symm, hs, (ofList_withoutEnding_eq hs).1 (Except.ok.inj h)⟩
      · cases h
    · rw [derive_of_not_start hp] at h
      cases h
  · rintro ⟨more, hmore, hs, hname⟩
    rw [derive_of_start hmore, if_pos hs, (ofList_withoutEnding_eq hs).2 hname]

theorem isSourceText_intercalate (ss : List Segment) :
    isSourceText ("/".intercalate (ss.map Segment.text)).toList =
      isSourceText ((ss.getLast?.map Segment.text).getD "").toList := by
  rcases List.eq_nil_or_concat ss with rfl | ⟨ss, s, rfl⟩
  · rfl
  · rw [List.concat_eq_append, List.getLast?_concat]
    by_cases hss : ss = []
    · subst hss
      simp
    · have hm : ss.map Segment.text ≠ [] := by simpa using hss
      rw [List.map_append, List.map_singleton, Text.intercalate_concat hm, String.toList_append,
        String.toList_append, List.append_assoc]
      exact isSourceText_append_slash _ _

theorem isSourceText_name_append {p : Path} (hr : rest ≠ []) :
    isSourceText (p.append rest).name.toList =
      isSourceText ("/".intercalate (rest.map Segment.text)).toList := by
  rw [isSourceText_intercalate, Path.name, Path.append, List.getLast?_append,
    List.getLast?_eq_some_getLast hr]
  rfl

theorem exists_append_sourceEnding {cs : List Char} (h : isSourceText cs = true) :
    ∃ name, name ++ sourceEnding = String.ofList cs := by
  refine ⟨String.ofList (withoutEnding cs), ?_⟩
  rw [← String.toList_inj, String.toList_append, String.toList_ofList, String.toList_ofList,
    withoutEnding_append h]

theorem exists_dotted {ss : List Segment}
    (h : isSourceText ("/".intercalate (ss.map Segment.text)).toList = true) :
    ∃ name, Dotted ss name := by
  have hdotted := isSourceText_map_dotted h
  rw [map_dotted_intercalate] at hdotted
  obtain ⟨name, hname⟩ := exists_append_sourceEnding hdotted
  exact ⟨name, hname.trans String.ofList_toList⟩

theorem derive_eq_ok_of_ne_top (h : root.isAbsolute = true) (hs : root.segments ≠ []) :
    derive file root = .ok name ↔ ∃ rest, rest ≠ [] ∧ file = root.append rest ∧
      isSourceText file.name.toList = true ∧ Dotted rest name := by
  have hstart := rootStart_of_ne_top h hs
  rw [derive_eq_ok]
  constructor
  · rintro ⟨more, hmore, hsource, hname⟩
    have htext : file.text = root.text ++ "/" ++ String.ofList more := by
      rw [← String.toList_inj, String.toList_append, String.toList_ofList, hmore, hstart]
    obtain ⟨rest, hr, rfl, hrest⟩ := (Path.text_eq_append_iff h hs).1 htext
    obtain rfl : more = ("/".intercalate (rest.map Segment.text)).toList := by
      rw [← hrest, String.toList_ofList]
    refine ⟨rest, hr, rfl, ?_, ?_⟩
    · rw [isSourceText_name_append hr]
      exact hsource
    · rw [map_dotted_intercalate] at hname
      exact String.toList_inj.1 hname
  · rintro ⟨rest, hr, rfl, hsource, hname⟩
    refine ⟨("/".intercalate (rest.map Segment.text)).toList, ?_, ?_, ?_⟩
    · rw [Path.text_append h hs hr, String.toList_append, hstart]
    · rw [← isSourceText_name_append (p := root) hr]
      exact hsource
    · rw [map_dotted_intercalate, hname]

theorem derive_eq_ok_of_top (h : root.isAbsolute = true) (hs : root.segments = []) :
    derive file root = .ok name ↔ file.isAbsolute = true ∧ isSourceText file.name.toList = true ∧
      name ++ sourceEnding = (if file.anchor = .doubleRoot then "." else "") ++
        ".".intercalate (file.segments.map Segment.text) := by
  rw [derive_eq_ok, rootStart_of_top h hs]
  cases hf : file.isAbsolute with
  | false =>
    have hhead : file.text.toList.head? ≠ some '/' := by simp [Path.head?_text_iff, hf]
    constructor
    · rintro ⟨more, hmore, -⟩
      rw [hmore] at hhead
      exact absurd rfl hhead
    · simp
  | true =>
    rw [Path.toList_text_of_isAbsolute hf]
    simp only [List.singleton_append, List.cons.injEq, true_and, exists_eq_left', Path.name,
      ← isSourceText_intercalate, ← String.toList_inj, String.toList_append, List.map_append,
      map_dotted_intercalate]
    by_cases ha : file.anchor = .doubleRoot
    · simp only [if_pos ha]
      exact and_congr_left' (Bool.eq_iff_iff.1 (isSourceText_append_slash [] _))
    · simp only [if_neg ha]
      rfl

structure Named (file root : Path) : Prop where
  named_iff : (∃ name, derive file root = .ok name) ↔
    file.Extends root ∧ isSourceText file.name.toList = true
  dotted : ∀ rest name, file = root.append rest → derive file root = .ok name → Dotted rest name

/-- A source file and a root at the top, one of them at the doubled slash. -/
structure MeetsDoubled (file root : Path) : Prop where
  top : root.segments = []
  absolute : file.isAbsolute = true
  source : isSourceText file.name.toList = true
  doubled : root.anchor = .doubleRoot ∨ file.anchor = .doubleRoot

theorem named_of_ne_top (h : root.isAbsolute = true) (hs : root.segments ≠ []) : Named file root := by
  constructor
  · constructor
    · rintro ⟨name, hname⟩
      obtain ⟨rest, hr, hfile, hsource, -⟩ := (derive_eq_ok_of_ne_top h hs).1 hname
      exact ⟨⟨rest, hr, hfile⟩, hsource⟩
    · rintro ⟨⟨rest, hr, hfile⟩, hsource⟩
      have hrest : isSourceText ("/".intercalate (rest.map Segment.text)).toList = true := by
        rw [← isSourceText_name_append (p := root) hr, ← hfile]
        exact hsource
      obtain ⟨name, hname⟩ := exists_dotted hrest
      exact ⟨name, (derive_eq_ok_of_ne_top h hs).2 ⟨rest, hr, hfile, hsource, hname⟩⟩
  · intro rest name hfile hname
    obtain ⟨rest', -, hfile', -, hdotted⟩ := (derive_eq_ok_of_ne_top h hs).1 hname
    rw [Path.append_segments_inj (hfile.symm.trans hfile')]
    exact hdotted

theorem succeeds_iff_of_top (h : root.isAbsolute = true) (hs : root.segments = []) :
    (∃ name, derive file root = .ok name) ↔
      file.isAbsolute = true ∧ isSourceText file.name.toList = true := by
  simp only [derive_eq_ok_of_top h hs]
  constructor
  · rintro ⟨name, hf, hsource, -⟩
    exact ⟨hf, hsource⟩
  · rintro ⟨hf, hsource⟩
    have hrest := hsource
    rw [Path.name, ← isSourceText_intercalate] at hrest
    obtain ⟨name, hname⟩ := exists_dotted hrest
    refine ⟨(if file.anchor = .doubleRoot then "." else "") ++ name, hf, hsource, ?_⟩
    rw [String.append_assoc, hname]

theorem extends_iff_of_top (hs : root.segments = []) :
    file.Extends root ↔ file.anchor = root.anchor ∧ file.segments ≠ [] := by
  obtain ⟨anchor, segments⟩ := file
  simp only [Path.Extends, Path.append, hs, List.nil_append, Path.mk.injEq]
  constructor
  · rintro ⟨rest, hr, rfl, rfl⟩
    exact ⟨rfl, hr⟩
  · rintro ⟨rfl, hr⟩
    exact ⟨segments, hr, rfl, rfl⟩

theorem segments_ne_nil_of_source (h : isSourceText file.name.toList = true) :
    file.segments ≠ [] := by
  intro hnil
  rw [Path.name, hnil] at h
  cases h

theorem not_named_of_meetsDoubled (h : root.isAbsolute = true) (hm : MeetsDoubled file root) :
    ¬ Named file root := by
  intro hnamed
  obtain ⟨name, hname⟩ := (succeeds_iff_of_top h hm.top).2 ⟨hm.absolute, hm.source⟩
  obtain ⟨⟨rest, -, hfile⟩, -⟩ := hnamed.named_iff.1 ⟨name, hname⟩
  have hanchor : file.anchor = .doubleRoot := by
    rcases hm.doubled with hd | hd
    · rw [hfile]
      exact hd
    · exact hd
  -- The name then begins with a dot that the way from the root does not have.
  have hdotted := hnamed.dotted rest name hfile hname
  obtain ⟨-, -, htop⟩ := (derive_eq_ok_of_top h hm.top).1 hname
  have hrest : file.segments = rest := by rw [hfile, Path.append, hm.top, List.nil_append]
  rw [if_pos hanchor, hrest, ← hdotted] at htop
  have hlen := congrArg String.length htop
  have hdot : ".".length = 1 := rfl
  simp only [String.length_append, hdot] at hlen
  omega

theorem named_of_top (h : root.isAbsolute = true) (hs : root.segments = [])
    (hm : ¬ MeetsDoubled file root) : Named file root := by
  have hsingle (hf : file.isAbsolute = true) (hsource : isSourceText file.name.toList = true) :
      root.anchor = .root ∧ file.anchor = .root := by
    have hnone : ¬ (root.anchor = .doubleRoot ∨ file.anchor = .doubleRoot) := by
      intro hd
      exact hm ⟨hs, hf, hsource, hd⟩
    rw [not_or] at hnone
    cases hr : root.anchor <;> cases ha : file.anchor <;>
      simp_all [Path.isAbsolute]
  constructor
  · rw [succeeds_iff_of_top h hs, extends_iff_of_top hs]
    constructor
    · rintro ⟨hf, hsource⟩
      obtain ⟨hr, ha⟩ := hsingle hf hsource
      exact ⟨⟨ha.trans hr.symm, segments_ne_nil_of_source hsource⟩, hsource⟩
    · rintro ⟨⟨ha, -⟩, hsource⟩
      have hf : file.isAbsolute = true := by
        rw [Path.isAbsolute, ha]
        exact h
      exact ⟨hf, hsource⟩
  · intro rest name hfile hname
    obtain ⟨hf, hsource, htop⟩ := (derive_eq_ok_of_top h hs).1 hname
    have hne : file.anchor ≠ .doubleRoot := by
      rw [(hsingle hf hsource).2]
      decide
    have hrest : file.segments = rest := by rw [hfile, Path.append, hs, List.nil_append]
    rw [if_neg hne, String.empty_append, hrest] at htop
    exact htop

theorem named_iff_not_meetsDoubled (h : root.isAbsolute = true) :
    Named file root ↔ ¬ MeetsDoubled file root := by
  by_cases hs : root.segments = []
  · constructor
    · intro hnamed hm
      exact not_named_of_meetsDoubled h hm hnamed
    · exact named_of_top h hs
  · constructor
    · intro _ hm
      exact hs hm.top
    · intro _
      exact named_of_ne_top h hs

theorem derive_append (h : root.isAbsolute = true) (hr : rest ≠ [])
    (hsource : isSourceText ("/".intercalate (rest.map Segment.text)).toList = true)
    (hname : Dotted rest name) :
    derive (root.append rest) root =
      .ok ((if root = ⟨.doubleRoot, []⟩ then "." else "") ++ name) := by
  have hfile : isSourceText (root.append rest).name.toList = true := by
    rw [isSourceText_name_append hr]
    exact hsource
  by_cases hs : root.segments = []
  · have hrest : (root.append rest).segments = rest := by rw [Path.append, hs, List.nil_append]
    have hroot : root = ⟨.doubleRoot, []⟩ ↔ (root.append rest).anchor = .doubleRoot := by
      obtain ⟨anchor, segments⟩ := root
      subst hs
      simp [Path.append]
    apply (derive_eq_ok_of_top h hs).2
    refine ⟨h, hfile, ?_⟩
    simp only [hroot, hrest, String.append_assoc]
    rw [hname]
  · have hroot : root ≠ ⟨.doubleRoot, []⟩ := by
      rintro rfl
      exact hs rfl
    rw [if_neg hroot, String.empty_append]
    exact (derive_eq_ok_of_ne_top h hs).2 ⟨rest, hr, rfl, hfile, hname⟩

theorem derive_below (h : root.isAbsolute = true) {ns : List Name}
    (hs : SourceSet.isSource ns = true) : ∃ name, derive (root.below ns) root = .ok name := by
  rcases List.eq_nil_or_concat ns with rfl | ⟨ms, n, rfl⟩
  · cases hs
  · rw [List.concat_eq_append] at hs ⊢
    have hsource : isSourceText
        ("/".intercalate (((ms ++ [n]).map Segment.entry).map Segment.text)).toList = true := by
      rw [isSourceText_intercalate, List.map_append, List.map_singleton, List.getLast?_concat]
      simpa [SourceSet.isSource, Segment.text] using hs
    obtain ⟨name, hname⟩ := exists_dotted hsource
    exact ⟨_, derive_append h (by simp) hsource hname⟩

/-- A file has a class name exactly if it is a source file below the root, and the name is that of
its way from there, unless a doubled slash meets a root at the top. At the doubled slash itself
each name begins with a dot too many. -/
theorem derive_follows_way (h : root.isAbsolute = true) :
    (∀ file, Named file root ↔ ¬ MeetsDoubled file root) ∧
      ∀ r : Path, r.isAbsolute = false → isSourceText r.name.toList = true →
        ∃ name, Dotted r.segments name ∧ derive (root.join r) root =
          .ok ((if root = ⟨.doubleRoot, []⟩ then "." else "") ++ name) := by
  constructor
  · intro file
    exact named_iff_not_meetsDoubled h
  · intro r hrelative hr
    have hne := segments_ne_nil_of_source hr
    have hsource : isSourceText ("/".intercalate (r.segments.map Segment.text)).toList = true := by
      rw [isSourceText_intercalate]
      exact hr
    have hjoin : root.join r = root.append r.segments := by
      rw [Path.join, hrelative]
      rfl
    obtain ⟨name, hname⟩ := exists_dotted hsource
    refine ⟨name, hname, ?_⟩
    rw [hjoin]
    exact derive_append h hne hsource hname

section Doubled

def siblingRoot : Path := .ofText "/s"

theorem derive_follows_way_sibling :
    siblingRoot.isAbsolute = true ∧
      derive (siblingRoot.join (.ofText "a.b/../C.java")) siblingRoot = .ok "a.b....C" ∧
      ¬ ∃ name, derive (.ofText "/s2/C.java") siblingRoot = .ok name := by
  have habsolute : siblingRoot.isAbsolute = true := by decide
  obtain ⟨hnamed, hway⟩ := derive_follows_way habsolute
  refine ⟨habsolute, ?_, ?_⟩
  · obtain ⟨name, hname, hderive⟩ := hway (.ofText "a.b/../C.java") (by decide) (by decide)
    have hspelled : Dotted (Path.ofText "a.b/../C.java").segments "a.b....C" := by
      unfold Dotted
      decide
    rw [hderive, if_neg (by decide), String.empty_append, hname.unique hspelled]
  · intro hsome
    have hroot : ¬ MeetsDoubled (.ofText "/s2/C.java") siblingRoot := by
      intro hm
      exact absurd hm.top (by decide)
    obtain ⟨⟨rest, -, hrest⟩, -⟩ := ((hnamed _).2 hroot).named_iff.1 hsome
    have hhead : (Path.ofText "/s2/C.java").segments.head? = siblingRoot.segments.head? := by
      rw [hrest]
      rfl
    exact absurd hhead (by decide)

def doubledRoot : Path := .ofText "//"

/-- At the doubled slash a file is named as if it were in a directory without a name, and a file
that is not below it has a name as well. -/
theorem derive_doubles_dot :
    derive (doubledRoot.join (.ofText "a/B.java")) doubledRoot = .ok ".a.B" ∧
      Dotted (Path.ofText "a/B.java").segments "a.B" ∧
      derive (.ofText "/a/B.java") doubledRoot = .ok "a.B" ∧
      ¬ (Path.ofText "/a/B.java").Extends doubledRoot := by
  refine ⟨rfl, ?_, rfl, ?_⟩
  · unfold Dotted
    decide
  · rintro ⟨rest, -, hrest⟩
    cases congrArg Path.anchor hrest

end Doubled

end ClassName

end ComponentBuild
