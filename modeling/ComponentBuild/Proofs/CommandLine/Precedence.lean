import ComponentBuild.Proofs.CommandLine.Overlay
import ComponentBuild.Proofs.CommandLine.Recorded
import ComponentBuild.Proofs.CommandLine.Reported
import ComponentBuild.Proofs.Settings.Meaning
import ComponentBuild.Proofs.Step.Called
import ComponentBuild.Proofs.Step.Described

/-!
Which settings a generator sees: the command line counts before the settings file, and the file
before what is usual. Lists are continued, and of properties the last value of a name counts.
-/

namespace ComponentBuild

/-- What counts of a setting: what the command line gives, else what the file says if it says
anything, else what is usual. -/
inductive Prevails {α : Type} (line : Option α) (said : α → Prop) (usual : α) : α → Prop
  | line {x : α} : line = some x → Prevails line said usual x
  | file {x : α} : line = none → said x → Prevails line said usual x
  | usual : line = none → (∀ x, ¬ said x) → Prevails line said usual usual

theorem prevails_getD {α : Type} {line found : Option α} {said : α → Prop} {usual : α}
    (h : ∀ x, said x ↔ found = some x) :
    Prevails line said usual (line.getD (found.getD usual)) := by
  cases line with
  | some x => exact .line rfl
  | none =>
    cases found with
    | some x => exact .file rfl ((h x).2 rfl)
    | none =>
      apply Prevails.usual rfl
      intro x hx
      cases (h x).1 hx

namespace CommandLine

open Settings (field Says SaysFlag SaysList SaysPairs Reads Describes)

variable {a : GenerateArguments} {pairs : List (Value × Value)} {c : Settings}

/-- Settings as they come of the mapping of a file and of a command line. -/
structure Layered (a : GenerateArguments) (pairs : List (Value × Value)) (c : Settings) :
    Prop where
  strictMode : Prevails a.strictMode (SaysFlag (field pairs "strict_mode")) false c.strictMode
  generateAccessors :
    Prevails a.generateAccessors (SaysFlag (field pairs "generate_accessors")) true
      c.generateAccessors
  specVersion :
    Prevails (a.specVersion.map some)
      (fun given => ∃ t, given = some (.text t) ∧ Says (field pairs "spec_version") t) none
      c.specVersion
  descriptor :
    Prevails (a.descriptor.bind Given.nonempty?)
      (fun t => Says (field pairs "final_name") t ∧ t ≠ "") "serviceComponents.xml" c.descriptor
  metadata :
    Prevails (a.metadata.bind Given.nonempty?)
      (fun t => Says (field pairs "metatype_name") t ∧ t ≠ "") "metatype.xml" c.metadata
  generator :
    Prevails ((a.generator.bind Given.nonempty?).map some)
      (fun given => ∃ t, given = some t ∧ Says (field pairs "generator") t) none c.generator
  annotationProcessors : ∃ listed, SaysList (field pairs "annotation_processors") listed ∧
    c.annotationProcessors = listed.map .text ++ a.annotationProcessors
  includes : ∃ listed, SaysList (field pairs "includes") listed ∧
    c.includes = listed.map .text ++ a.includes
  excludes : ∃ listed, SaysList (field pairs "excludes") listed ∧
    c.excludes = listed.map .text ++ a.excludes
  defaultExcludes : c.defaultExcludes = false ↔
    a.defaultExcludes = false ∨ SaysFlag (field pairs "default_excludes") false
  properties : ∃ found given, SaysPairs (field pairs "properties") found ∧
    a.properties = given.map some ∧ (c.properties.map Prod.fst).Nodup ∧
    ∀ name, c.properties.lookup name = (found ++ given).reverse.lookup name

structure Carries (c : Settings) (host : Host) (registry : Registry) (s : Step) (call : Call) :
    Prop where
  strictMode : call.request.options.strictMode = c.strictMode
  generateAccessors : call.request.options.generateAccessors = c.generateAccessors
  specVersion : Step.AsksFor c.specVersion call.request.options.specVersion
  descriptor : call.request.descriptor = c.descriptor
  metadata : call.request.metadata = c.metadata
  annotationProcessors : call.request.options.annotationProcessors = c.annotationProcessors
  properties : call.request.options.properties = c.properties
  sources : SourceSet.collect ⟨c.sourceDirectory, c.includes, c.excludes, c.defaultExcludes⟩ host =
    .ok call.request.project.sources
  generator : ∃ loaded, registry.load c.generator (some .default) = .ok loaded ∧
    s.Called host .empty loaded.generator call (s.generate host registry .empty)

theorem nonempty_iff {v : Value} {o : Option String} (h : Settings.asText? v = .ok o) (t : String) :
    (Says v t ∧ t ≠ "") ↔ Settings.nonempty o = some t := by
  rw [Settings.says_iff h, Settings.nonempty, Option.filter_eq_some_iff, decide_eq_true_eq]

theorem prevails_or {β : Type} (line : Option β) (f : String → β) {v : Value} {o : Option String}
    (h : Settings.asText? v = .ok o) :
    Prevails (line.map some) (fun given => ∃ t, given = some (f t) ∧ Says v t) none
      (line.or (o.map f)) := by
  cases line with
  | some x => exact .line rfl
  | none =>
    cases o with
    | some t => exact .file rfl ⟨t, rfl, (Settings.says_iff h t).2 rfl⟩
    | none =>
      apply Prevails.usual rfl
      rintro given ⟨t, -, ht⟩
      cases (Settings.says_iff h t).1 ht

theorem listed_of_asGivens {v : Value} {gs : List Given} (h : Settings.asGivens v = .ok gs) :
    ∃ listed, SaysList v listed ∧ gs = listed.map .text := by
  obtain ⟨listed, hlisted, rfl⟩ := map_eq_ok.1 h
  exact ⟨listed, Settings.saysList_of_asTexts hlisted, rfl⟩

theorem layered_of_overlay {base : Settings} {home : Home} {root : Path}
    (hbase : Describes home root pairs base) (hc : a.overlay base = .ok c) : Layered a pairs c := by
  obtain ⟨output, classpath, given, -, -, hgiven, rfl⟩ := GenerateArguments.overlay_eq_ok.1 hc
  constructor
  case strictMode =>
    rw [← hbase.strictMode]
    exact prevails_getD fun b => Settings.saysFlag_iff
  case generateAccessors =>
    rw [← hbase.generateAccessors]
    exact prevails_getD fun b => Settings.saysFlag_iff
  case specVersion =>
    obtain ⟨version, hversion, he⟩ := hbase.specVersion
    rw [← he]
    exact prevails_or _ Given.text hversion
  case descriptor =>
    obtain ⟨name, hname, he⟩ := hbase.descriptor
    rw [override, ← he]
    exact prevails_getD (nonempty_iff hname)
  case metadata =>
    obtain ⟨name, hname, he⟩ := hbase.metadata
    rw [override, ← he]
    exact prevails_getD (nonempty_iff hname)
  case generator =>
    have hprevails := prevails_or (a.generator.bind Given.nonempty?) id hbase.generator
    rw [Option.map_id] at hprevails
    exact hprevails
  case annotationProcessors =>
    obtain ⟨listed, hlisted, he⟩ := listed_of_asGivens hbase.annotationProcessors
    exact ⟨listed, hlisted, by rw [← he]⟩
  case includes =>
    obtain ⟨listed, hlisted, he⟩ := listed_of_asGivens hbase.includes
    exact ⟨listed, hlisted, by rw [← he]⟩
  case excludes =>
    obtain ⟨listed, hlisted, he⟩ := listed_of_asGivens hbase.excludes
    exact ⟨listed, hlisted, by rw [← he]⟩
  case defaultExcludes =>
    rw [Settings.saysFlag_iff, ← hbase.defaultExcludes]
    cases Settings.asBool? (field pairs "default_excludes") with
    | none => simp
    | some b => cases b <;> simp
  case properties =>
    obtain ⟨found, hfound, he⟩ := Settings.saysPairs_of_asProperties hbase.properties
    refine ⟨found, given, hfound, hgiven, ?_, ?_⟩
    -- Both layers are put one pair after another, so the last pair of a name is found first.
    · apply Properties.names_putAll_nodup
      rw [he]
      exact Properties.names_putAll_nodup found List.nodup_nil
    · intro name
      rw [Properties.lookup_putAll, he, Properties.lookup_ofPairs, List.reverse_append,
        List.lookup_append]

theorem described_of_step {host : Host} {s : Step} (h : a.step host = .ok s) :
    ∃ c base, a.settings host = .ok c ∧ Settings.load host (a.settingsPath host) = .ok base ∧
      a.overlay base = .ok c ∧ ∃ cp, s = Step.described c none cp := by
  unfold GenerateArguments.step at h
  split at h
  · cases h
  · rename_i c hc
    split at h
    · cases h
    · rename_i s' hs'
      obtain rfl := Except.ok.inj h
      obtain ⟨cp, -, hs⟩ := Step.ofSettings_eq_ok.1 hs'
      refine ⟨c, ?_⟩
      have hsettings := hc
      unfold GenerateArguments.settings at hc
      split at hc
      · cases hc
      · rename_i base hbase
        split at hc
        · cases hc
        · rename_i c' hc'
          obtain rfl := Except.ok.inj hc
          exact ⟨base, hsettings, hbase, hc', cp, hs⟩

theorem carries_of_called {host : Host} {registry : Registry} {cp : Classpath} {g : Generator}
    {call : Call} (hnames : (c.properties.map Prod.fst).Nodup)
    (hg : (Step.described c none cp).findGenerator registry = .ok g)
    (hcalled : (Step.described c none cp).Called host .empty g call
      ((Step.described c none cp).generate host registry .empty)) :
    Carries c host registry (Step.described c none cp) call := by
  obtain ⟨loaded, hload, rfl⟩ := map_eq_ok.1 hg
  have hdescribed := hcalled.described
  obtain ⟨version, hversion, hoptions⟩ := map_eq_ok.1 hdescribed.options
  constructor
  case strictMode =>
    rw [← hoptions]
    rfl
  case generateAccessors =>
    rw [← hoptions]
    rfl
  case specVersion => exact hdescribed.version
  case descriptor => exact hdescribed.descriptor
  case metadata => exact hdescribed.metadata
  case annotationProcessors =>
    rw [← hoptions]
    rfl
  case properties =>
    have hpairs : (Step.described c none cp).rawOptions.properties.map (fun p => (p.1, p.2.display)) =
        c.properties := by
      simp [Step.described, Step.rawOptions, Function.comp_def, Value.display]
    rw [← hoptions, hpairs]
    exact Properties.ofPairs_of_nodup hnames
  case sources => exact hdescribed.sources
  case generator => exact ⟨loaded, hload, hcalled⟩

section Plain

def layeredText : String :=
  "final_name: a.xml\nstrict_mode: 'on'\ngenerate_accessors: no\nannotation_processors: [p.A]\n" ++
    "excludes: [x/*]\ndefault_excludes: no\nproperties:\n k: file\n l: file\ngenerator: g:h\n"

def layeredHost : Host :=
  { SourceSet.plainHost with
    tree := SourceSet.plainTree.insert [Settings.fileName] (.file (Text.utf8Bytes layeredText)) }

def layeredArguments : List String :=
  ["generate", "src", "-vd", "out", "--strict-mode", "--no-strict", "--final-name", "first.xml",
    "--final-name=b.xml", "--spec-version", "1.2", "--property=k=v=w", "--property", " m =x",
    "--annotation-processor", "p.B", "--include", "A.*", "--exc", "y/*", "--generator",
    "gens:silent"]

def layeredOptions : GenerateArguments :=
  { GenerateArguments.empty with
    sourceDirectory := some "src"
    outputDirectory := some (.text "out")
    descriptor := some (.text "b.xml")
    strictMode := some false
    specVersion := some (.text "1.2")
    annotationProcessors := [.text "p.B"]
    includes := [.text "A.*"]
    excludes := [.text "y/*"]
    properties := [some ("k", "v=w"), some ("m", "x")]
    generator := some (.text "gens:silent") }

def layeredPairs : List (Value × Value) :=
  [(.text "final_name", .text "a.xml"), (.text "strict_mode", .text "on"),
    (.text "generate_accessors", .bool false),
    (.text "annotation_processors", .list [.text "p.A"]), (.text "excludes", .list [.text "x/*"]),
    (.text "default_excludes", .bool false),
    (.text "properties", .map [(.text "k", .text "file"), (.text "l", .text "file")]),
    (.text "generator", .text "g:h")]

theorem reads_layered :
    Reads layeredHost layeredHost.workingPath (.ofText "/.scrtask.yml") layeredPairs := by
  refine ⟨?_, ?_, ?_⟩
  · decide +kernel
  · decide +kernel
  · apply Settings.readValue_of_holds
    decide +kernel

theorem parse_layered : parse layeredArguments = .ok ⟨true, .generate layeredOptions⟩ := by
  decide +kernel

def layeredFile : Settings :=
  { Settings.usual (.ofText "/") with
    descriptor := "a.xml"
    strictMode := true
    generateAccessors := false
    annotationProcessors := [.text "p.A"]
    excludes := [.text "x/*"]
    defaultExcludes := false
    properties := [("k", "file"), ("l", "file")]
    generator := some "g:h" }

def layeredSettings : Settings :=
  { layeredFile with
    sourceDirectory := some (.ofText "src")
    outputDirectory := some (.ofText "out")
    descriptor := "b.xml"
    strictMode := false
    specVersion := some (.text "1.2")
    annotationProcessors := [.text "p.A", .text "p.B"]
    includes := [.text "A.*"]
    excludes := [.text "x/*", .text "y/*"]
    properties := [("k", "v=w"), ("l", "file"), ("m", "x")]
    generator := some "gens:silent" }

theorem settings_layered : layeredOptions.settings layeredHost = .ok layeredSettings := by
  have hpairs : Settings.ofPairs layeredHost.home (Path.ofText "/.scrtask.yml").parent layeredPairs =
      .ok layeredFile := by
    decide +kernel
  have hload : Settings.load layeredHost (layeredOptions.settingsPath layeredHost) =
      .ok layeredFile := by
    have hpath : layeredOptions.settingsPath layeredHost = layeredHost.workingPath := rfl
    rw [hpath, Settings.load_eq_of_reads reads_layered, hpairs]
    rfl
  have hoverlay : layeredOptions.overlay layeredFile = .ok layeredSettings := by
    decide +kernel
  simp only [GenerateArguments.settings, hload, hoverlay]

end Plain

end CommandLine

end ComponentBuild
