import ComponentBuild.Proofs.Classpath.Existing
import ComponentBuild.Proofs.Settings.Meaning

namespace ComponentBuild

def Home.Knows (home : Home) (p : Path) : Prop :=
  ∀ user rest, p.homeUser? = some (user, rest) →
    '\x00' ∉ user.toList ∧ (home.directory? user).isSome = true

theorem Home.knows_iff {home : Home} {p : Path} :
    home.Knows p ↔ ∃ q, p.expandHome home = .ok q := by
  unfold Knows Path.expandHome
  cases hp : p.homeUser? with
  | none => simp
  | some found =>
    obtain ⟨user, rest⟩ := found
    by_cases hnull : '\x00' ∈ user.toList
    · simp [hnull]
    · cases hd : home.directory? user <;> simp [hnull, hd]

def Value.Short (v : Value) : Prop :=
  ∀ i, v = .int i → i.natAbs < Decimal.tenTo Decimal.longest

namespace Settings

variable {home : Home} {root : Path} {v : Value} {pairs : List (Value × Value)}

inductive Listed : Value → String → Prop
  | single (s : String) : Listed (.text s) s
  | item {items : List Value} {x : Value} {s : String} : x ∈ items → Says x s →
      Listed (.list items) s
  | byte {bytes : List UInt8} {b : UInt8} : b ∈ bytes → Listed (.binary bytes) (toString b.toNat)

def ShortItems (v : Value) : Prop := ∀ items, v = .list items → ∀ x ∈ items, x.Short

def ShortPairs (v : Value) : Prop :=
  ∀ pairs, v = .map pairs → ∀ pair ∈ pairs, pair.2.isScalar = true → pair.1.Short ∧ pair.2.Short

def textFields : List String :=
  ["final_name", "metatype_name", "srcdir", "destdir", "spec_version", "generator"]

def listFields : List String := ["classpath", "annotation_processors", "includes", "excludes"]

def pathFields : List String := ["srcdir", "destdir"]

structure Legible (home : Home) (pairs : List (Value × Value)) : Prop where
  texts : ∀ name ∈ textFields, (field pairs name).Short
  lists : ∀ name ∈ listFields, ShortItems (field pairs name)
  properties : ShortPairs (field pairs "properties")
  directories : ∀ name ∈ pathFields, ∀ s, Says (field pairs name) s → s ≠ "" →
    home.Knows (.ofText s)
  classpath : ∀ s, Listed (field pairs "classpath") s → ∀ part ∈ Text.parts ':' s,
    home.Knows (.ofText part)

theorem intText_succeeds_iff {i : Int} :
    (∃ s, Decimal.intText i = .ok s) ↔ i.natAbs < Decimal.tenTo Decimal.longest := by
  unfold Decimal.intText
  split <;> simp [*]

theorem short_int {i : Int} :
    (Value.int i).Short ↔ i.natAbs < Decimal.tenTo Decimal.longest := by
  simp [Value.Short]

theorem asText?_succeeds_iff : (∃ o, asText? v = .ok o) ↔ v.Short := by
  cases v with
  | int i =>
    rw [short_int, ← intText_succeeds_iff, asText?, Value.scalarText?]
    cases Decimal.intText i <;> simp [Except.map]
  | _ => simp [asText?, Value.scalarText?, Value.Short]

theorem keyText_succeeds_iff : (∃ name, v.keyText = .ok name) ↔ v.Short := by
  cases v with
  | int i => rw [short_int, ← intText_succeeds_iff, Value.keyText]
  | _ => simp [Value.keyText, Value.Short]

theorem asTexts_succeeds_iff : (∃ texts, asTexts v = .ok texts) ↔ ShortItems v := by
  cases v with
  | list items =>
    rw [asTexts, map_succeeds_iff, mapM_succeeds_iff]
    simp only [asText?_succeeds_iff, ShortItems, Value.list.injEq, forall_eq']
  | _ => simp [asTexts, ShortItems]

theorem asProperty?_succeeds_iff {pair : Value × Value} :
    (∃ o, asProperty? pair = .ok o) ↔
      (pair.2.isScalar = true → pair.1.Short ∧ pair.2.Short) := by
  unfold asProperty?
  cases hscalar : pair.2.isScalar with
  | false => simp
  | true =>
    rw [← keyText_succeeds_iff, ← asText?_succeeds_iff]
    cases pair.1.keyText with
    | error fault => simp
    | ok name => simp [map_succeeds_iff]

theorem asProperties_succeeds_iff : (∃ found, asProperties v = .ok found) ↔ ShortPairs v := by
  cases v with
  | map pairs =>
    rw [asProperties, map_succeeds_iff, mapM_succeeds_iff]
    simp only [asProperty?_succeeds_iff, ShortPairs, Value.map.injEq, forall_eq']
  | _ => simp [asProperties, ShortPairs]

theorem pathFrom_succeeds_iff {s : String} :
    (∃ p, pathFrom home root s = .ok p) ↔ home.Knows (.ofText s) := by
  rw [Home.knows_iff, pathFrom]
  cases (Path.ofText s).expandHome home <;> simp

theorem asPath?_succeeds_iff :
    (∃ o, asPath? home root v = .ok o) ↔
      v.Short ∧ ∀ s, Says v s → s ≠ "" → home.Knows (.ofText s) := by
  rw [← asText?_succeeds_iff]
  simp only [asPath?, bind_eq_ok]
  constructor
  · rintro ⟨o, found, hfound, ho⟩
    refine ⟨⟨found, hfound⟩, ?_⟩
    intro s hs hne
    obtain rfl := (says_iff hfound s).1 hs
    simp only [hne, ↓reduceIte] at ho
    obtain ⟨p, hp, -⟩ := map_eq_ok.1 ho
    exact pathFrom_succeeds_iff.1 ⟨p, hp⟩
  · rintro ⟨⟨found, hfound⟩, hknows⟩
    cases found with
    | none => exact ⟨none, none, hfound, rfl⟩
    | some s =>
      by_cases hs : s = ""
      · exact ⟨none, some s, hfound, by simp [hs, pure, Except.pure]⟩
      · have hsays := (says_iff hfound s).2 rfl
        have hpath : ∃ p, pathFrom home root s = .ok p :=
          pathFrom_succeeds_iff.2 (hknows s hsays hs)
        obtain ⟨p, hp⟩ := hpath
        refine ⟨some p, some s, hfound, ?_⟩
        simp [hs, hp, Functor.map, Except.map]

theorem mem_found {items : List Value} {found : List (Option String)}
    (h : List.Forall₂ (fun x o => asText? x = .ok o) items found) {s : String} :
    s ∈ found.filterMap id ↔ ∃ x ∈ items, Says x s := by
  induction h with
  | nil => simp
  | @cons x o items found hx _ ih =>
    rw [List.exists_mem_cons_iff, says_iff hx, ← ih]
    cases o with
    | none => simp
    | some t => simp [eq_comm]

theorem mem_asTexts {texts : List String} (h : asTexts v = .ok texts) {s : String} :
    s ∈ texts ↔ Listed v s := by
  cases v with
  | text t =>
    obtain rfl := Except.ok.inj h
    rw [List.mem_singleton]
    constructor
    · rintro rfl
      exact .single s
    · rintro ⟨⟩
      rfl
  | list items =>
    obtain ⟨found, hfound, rfl⟩ := map_eq_ok.1 h
    rw [mem_found (mapM_eq_ok.1 hfound)]
    constructor
    · rintro ⟨x, hx, hs⟩
      exact .item hx hs
    · rintro ⟨⟩
      exact ⟨_, ‹_›, ‹_›⟩
  | binary bytes =>
    obtain rfl := Except.ok.inj h
    rw [List.mem_map]
    constructor
    · rintro ⟨b, hb, rfl⟩
      exact .byte hb
    · rintro ⟨⟩
      exact ⟨_, ‹_›, rfl⟩
  | _ =>
    obtain rfl := Except.ok.inj h
    simp only [List.not_mem_nil, false_iff]
    nofun

theorem asPaths_succeeds_iff :
    (∃ paths, asPaths home root v = .ok paths) ↔
      ShortItems v ∧ ∀ s, Listed v s → ∀ part ∈ Text.parts ':' s, home.Knows (.ofText part) := by
  rw [← asTexts_succeeds_iff]
  simp only [asPaths, bind_eq_ok]
  constructor
  · rintro ⟨paths, texts, htexts, hpaths⟩
    refine ⟨⟨texts, htexts⟩, ?_⟩
    intro s hs part hpart
    have hmem : part ∈ texts.flatMap (Text.parts ':') :=
      List.mem_flatMap.2 ⟨s, (mem_asTexts htexts).2 hs, hpart⟩
    exact pathFrom_succeeds_iff.1 (mapM_succeeds_iff.1 ⟨paths, hpaths⟩ part hmem)
  · rintro ⟨⟨texts, htexts⟩, hknows⟩
    have hpaths : ∃ paths, (texts.flatMap (Text.parts ':')).mapM (pathFrom home root) = .ok paths := by
      apply mapM_succeeds_iff.2
      intro part hpart
      obtain ⟨s, hs, hpart⟩ := List.mem_flatMap.1 hpart
      exact pathFrom_succeeds_iff.2 (hknows s ((mem_asTexts htexts).1 hs) part hpart)
    obtain ⟨paths, hpaths⟩ := hpaths
    exact ⟨paths, texts, htexts, hpaths⟩

theorem asGivens_succeeds_iff : (∃ given, asGivens v = .ok given) ↔ ShortItems v := by
  rw [asGivens, map_succeeds_iff, asTexts_succeeds_iff]

theorem Describes.legible {c : Settings} (h : Describes home root pairs c) :
    Legible home pairs := by
  have hsource := asPath?_succeeds_iff.1 ⟨_, h.sourceDirectory⟩
  have houtput := asPath?_succeeds_iff.1 ⟨_, h.outputDirectory⟩
  have hclasspath := asPaths_succeeds_iff.1 ⟨_, h.classpath⟩
  obtain ⟨descriptor, hdescriptor, -⟩ := h.descriptor
  obtain ⟨metadata, hmetadata, -⟩ := h.metadata
  obtain ⟨version, hversion, -⟩ := h.specVersion
  refine ⟨?_, ?_, ?_, ?_, hclasspath.2⟩
  · simp only [textFields, List.forall_mem_cons]
    refine ⟨?_, ?_, hsource.1, houtput.1, ?_, ?_, by simp⟩
    · exact asText?_succeeds_iff.1 ⟨_, hdescriptor⟩
    · exact asText?_succeeds_iff.1 ⟨_, hmetadata⟩
    · exact asText?_succeeds_iff.1 ⟨_, hversion⟩
    · exact asText?_succeeds_iff.1 ⟨_, h.generator⟩
  · simp only [listFields, List.forall_mem_cons]
    refine ⟨hclasspath.1, ?_, ?_, ?_, by simp⟩
    · exact asGivens_succeeds_iff.1 ⟨_, h.annotationProcessors⟩
    · exact asGivens_succeeds_iff.1 ⟨_, h.includes⟩
    · exact asGivens_succeeds_iff.1 ⟨_, h.excludes⟩
  · exact asProperties_succeeds_iff.1 ⟨_, h.properties⟩
  · simp only [pathFields, List.forall_mem_cons]
    exact ⟨hsource.2, houtput.2, by simp⟩

theorem ofPairs_succeeds_iff : (∃ c, ofPairs home root pairs = .ok c) ↔ Legible home pairs := by
  constructor
  · rintro ⟨c, hc⟩
    exact (ofPairs_eq_ok.1 hc).legible
  · intro h
    have htext (name : String) (hname : name ∈ textFields) :
        ∃ o, asText? (field pairs name) = .ok o := asText?_succeeds_iff.2 (h.texts name hname)
    have hgivens (name : String) (hname : name ∈ listFields) :
        ∃ given, asGivens (field pairs name) = .ok given :=
      asGivens_succeeds_iff.2 (h.lists name hname)
    have hpath (name : String) (hname : name ∈ textFields ∧ name ∈ pathFields) :
        ∃ o, asPath? home root (field pairs name) = .ok o :=
      asPath?_succeeds_iff.2 ⟨h.texts name hname.1, h.directories name hname.2⟩
    have hpaths : ∃ paths, asPaths home root (field pairs "classpath") = .ok paths :=
      asPaths_succeeds_iff.2 ⟨h.lists "classpath" (by decide), h.classpath⟩
    obtain ⟨descriptor, hdescriptor⟩ := htext "final_name" (by decide)
    obtain ⟨metadata, hmetadata⟩ := htext "metatype_name" (by decide)
    obtain ⟨source, hsource⟩ := hpath "srcdir" (by decide)
    obtain ⟨output, houtput⟩ := hpath "destdir" (by decide)
    obtain ⟨classpath, hclasspath⟩ := hpaths
    obtain ⟨version, hversion⟩ := htext "spec_version" (by decide)
    obtain ⟨processors, hprocessors⟩ := hgivens "annotation_processors" (by decide)
    obtain ⟨includes, hincludes⟩ := hgivens "includes" (by decide)
    obtain ⟨excludes, hexcludes⟩ := hgivens "excludes" (by decide)
    obtain ⟨properties, hproperties⟩ := asProperties_succeeds_iff.2 h.properties
    obtain ⟨generator, hgenerator⟩ := htext "generator" (by decide)
    simp only [ofPairs, bind_eq_ok]
    exact ⟨_, _, hdescriptor, _, hmetadata, _, hsource, _, houtput, _, hclasspath, _, hversion, _,
      hprocessors, _, hincludes, _, hexcludes, _, hproperties, _, hgenerator, rfl⟩

end Settings

end ComponentBuild
