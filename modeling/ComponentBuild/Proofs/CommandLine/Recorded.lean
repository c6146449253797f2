import ComponentBuild.CommandLine.Arguments
import ComponentBuild.Proofs.CommandLine.Parsed

namespace ComponentBuild.CommandLine

def generateOptions : Spellings :=
  [("-h", false), ("--help", false), ("-v", false), ("--verbose", false), ("--config", true),
    ("-d", true), ("--destdir", true), ("-cp", true), ("--classpath", true), ("--final-name", true),
    ("--metatype-name", true), ("--generate-accessors", false), ("--no-generate-accessors", false),
    ("--strict-mode", false), ("--no-strict-mode", false), ("--spec-version", true),
    ("--annotation-processor", true), ("--include", true), ("--exclude", true),
    ("--no-default-excludes", false), ("--property", true), ("--generator", true)]

/-- What is told to the generate command, by the arguments behind its name; only options stand in
front of that. -/
def Told (arguments : List String) (ms : List Mention) (operand : Option String) : Prop :=
  ∃ front rest, arguments = front ++ "generate" :: rest ∧
    (∀ s ∈ front, s.toList.head? = some '-') ∧ generateOptions.Tells rest ms operand

def Mention.given? (spellings : List String) (m : Mention) : Option Given :=
  if m.spelling ∈ spellings then some m.given else none

def givens (spellings : List String) (ms : List Mention) : List Given :=
  ms.filterMap (Mention.given? spellings)

def lastGiven (spellings : List String) (ms : List Mention) : Option Given :=
  (givens spellings ms).getLast?

def Mention.switch? (name : String) (m : Mention) : Option Bool :=
  if m.spelling = "--" ++ name then some true
  else if m.spelling = "--no-" ++ name then some false
  else none

def switched (name : String) (ms : List Mention) : Option Bool :=
  (ms.filterMap (Mention.switch? name)).getLast?

def IsProperty (s : String) (property : String × String) : Prop :=
  ∃ key : List Char, s.toList = key ++ '=' :: property.2.toList ∧ '=' ∉ key ∧
    property.1 = Text.trim (String.ofList key)

inductive IsPair : Given → Option (String × String) → Prop
  | text {s : String} {property : String × String} : IsProperty s property →
      IsPair (.text s) (some property)
  | nothing : IsPair .nothing none

/-- The arguments of a generation, each as it is told. -/
structure Records (ms : List Mention) (operand : Option String) (a : GenerateArguments) : Prop where
  sourceDirectory : a.sourceDirectory = operand
  config : a.config = lastGiven ["--config"] ms
  outputDirectory : a.outputDirectory = lastGiven ["-d", "--destdir"] ms
  classpath : a.classpath = givens ["-cp", "--classpath"] ms
  descriptor : a.descriptor = lastGiven ["--final-name"] ms
  metadata : a.metadata = lastGiven ["--metatype-name"] ms
  generateAccessors : a.generateAccessors = switched "generate-accessors" ms
  strictMode : a.strictMode = switched "strict-mode" ms
  specVersion : a.specVersion = lastGiven ["--spec-version"] ms
  annotationProcessors : a.annotationProcessors = givens ["--annotation-processor"] ms
  includes : a.includes = givens ["--include"] ms
  excludes : a.excludes = givens ["--exclude"] ms
  defaultExcludes : a.defaultExcludes = false ↔ ∃ m ∈ ms, m.spelling = "--no-default-excludes"
  properties : List.Forall₂ IsPair (givens ["--property"] ms) a.properties
  generator : a.generator = lastGiven ["--generator"] ms

inductive Asks : Mention → Setting → Prop
  | v (given : Given) : Asks ⟨"-v", given⟩ .verbose
  | verbose (given : Given) : Asks ⟨"--verbose", given⟩ .verbose
  | config (given : Given) : Asks ⟨"--config", given⟩ (.config given)
  | d (given : Given) : Asks ⟨"-d", given⟩ (.outputDirectory given)
  | destdir (given : Given) : Asks ⟨"--destdir", given⟩ (.outputDirectory given)
  | cp (given : Given) : Asks ⟨"-cp", given⟩ (.classpath given)
  | classpath (given : Given) : Asks ⟨"--classpath", given⟩ (.classpath given)
  | descriptor (given : Given) : Asks ⟨"--final-name", given⟩ (.descriptor given)
  | metadata (given : Given) : Asks ⟨"--metatype-name", given⟩ (.metadata given)
  | accessors (given : Given) : Asks ⟨"--generate-accessors", given⟩ (.generateAccessors true)
  | noAccessors (given : Given) : Asks ⟨"--no-generate-accessors", given⟩ (.generateAccessors false)
  | strict (given : Given) : Asks ⟨"--strict-mode", given⟩ (.strictMode true)
  | noStrict (given : Given) : Asks ⟨"--no-strict-mode", given⟩ (.strictMode false)
  | specVersion (given : Given) : Asks ⟨"--spec-version", given⟩ (.specVersion given)
  | annotationProcessor (given : Given) :
      Asks ⟨"--annotation-processor", given⟩ (.annotationProcessor given)
  | includes (given : Given) : Asks ⟨"--include", given⟩ (.includes given)
  | excludes (given : Given) : Asks ⟨"--exclude", given⟩ (.excludes given)
  | noDefaultExcludes (given : Given) : Asks ⟨"--no-default-excludes", given⟩ .noDefaultExcludes
  | property {given : Given} {pair : Option (String × String)} : IsPair given pair →
      Asks ⟨"--property", given⟩ (.property pair)
  | generator (given : Given) : Asks ⟨"--generator", given⟩ (.generator given)

theorem isProperty_of_parseProperty {s : String} {property : String × String}
    (h : parseProperty s = .ok property) : IsProperty s property := by
  unfold parseProperty at h
  split at h
  · rename_i key value hcut
    obtain ⟨hs, hkey⟩ := Text.cut?_eq_some.1 hcut
    split at h
    · cases h
    · obtain rfl := Except.ok.inj h
      exact ⟨key, by simpa using hs, hkey, rfl⟩
  · cases h

theorem pair_of_read {spelling : String} {given : Given} {x : Setting}
    (h : propertyRule.read spelling given = .setting x) : ∃ pair, IsPair given pair ∧
      x = .property pair := by
  cases given with
  | nothing =>
    cases h
    exact ⟨none, .nothing, rfl⟩
  | text s =>
    simp only [propertyRule] at h
    split at h
    · rename_i property hproperty
      cases h
      exact ⟨some property, .text (isProperty_of_parseProperty hproperty), rfl⟩
    · cases h

def RuleAsks (r : OptionRule Setting) : Prop :=
  ∀ spelling ∈ r.spellings, ∀ given given' x, (r.takesText = true → given' = given) →
    r.read spelling given = .setting x → Asks ⟨spelling, given'⟩ x

theorem ruleAsks_text {spellings : List String} {a : Given → Setting}
    (h : ∀ f ∈ spellings, ∀ given, Asks ⟨f, given⟩ (a given)) : RuleAsks (textRule spellings a) := by
  intro f hf given given' x hgiven hread
  obtain rfl := hgiven rfl
  cases hread
  exact h f hf _

theorem ruleAsks_flag {spellings : List String} {a : Setting}
    (h : ∀ f ∈ spellings, ∀ given, Asks ⟨f, given⟩ a) : RuleAsks (flagRule spellings a) := by
  intro f hf given given' x _ hread
  cases hread
  exact h f hf _

theorem ruleAsks_switch {name : String} {a : Bool → Setting}
    (hon : ∀ given, Asks ⟨"--" ++ name, given⟩ (a true))
    (hoff : ∀ given, Asks ⟨"--no-" ++ name, given⟩ (a false)) : RuleAsks (switchRule name a) := by
  intro f hf given given' x _ hread
  have hne : "--" ++ name ≠ "--no-" ++ name := by
    intro heq
    have hlength := congrArg String.length heq
    simp only [String.length_append] at hlength
    have hshorter : "--".length < "--no-".length := by decide
    omega
  simp only [switchRule, List.mem_cons, List.not_mem_nil, or_false] at hf
  rcases hf with rfl | rfl
  · simp only [switchRule, bne_iff_ne.2 hne, Reading.setting.injEq] at hread
    exact hread ▸ hon given'
  · simp only [switchRule, bne_self_eq_false, Reading.setting.injEq] at hread
    exact hread ▸ hoff given'

theorem ruleAsks_property : RuleAsks propertyRule := by
  intro f hf given given' x hgiven hread
  obtain rfl := hgiven rfl
  obtain rfl := List.mem_singleton.1 hf
  obtain ⟨pair, hpair, rfl⟩ := pair_of_read hread
  exact .property hpair

theorem ruleAsks_help : RuleAsks helpRule := by
  intro f hf given given' x hgiven hread
  cases hread

theorem ruleAsks_of_mem {r : OptionRule Setting} (h : r ∈ generateGrammar.rules) : RuleAsks r := by
  have hone {spelling : String} {P : String → Prop} (hP : P spelling) : ∀ f ∈ [spelling], P f :=
    List.forall_mem_singleton.2 hP
  have htwo {spelling spelling' : String} {P : String → Prop} (hP : P spelling) (hP' : P spelling') :
      ∀ f ∈ [spelling, spelling'], P f :=
    List.forall_mem_cons.2 ⟨hP, hone hP'⟩
  simp only [generateGrammar, List.mem_cons, List.not_mem_nil, or_false] at h
  rcases h with rfl | rfl | rfl | rfl | rfl | rfl | rfl | rfl | rfl | rfl | rfl | rfl | rfl | rfl |
    rfl | rfl
  · exact ruleAsks_help
  · exact ruleAsks_flag (htwo .v .verbose)
  · exact ruleAsks_text (hone .config)
  · exact ruleAsks_text (htwo .d .destdir)
  · exact ruleAsks_text (htwo .cp .classpath)
  · exact ruleAsks_text (hone .descriptor)
  · exact ruleAsks_text (hone .metadata)
  · exact ruleAsks_switch .accessors .noAccessors
  · exact ruleAsks_switch .strict .noStrict
  · exact ruleAsks_text (hone .specVersion)
  · exact ruleAsks_text (hone .annotationProcessor)
  · exact ruleAsks_text (hone .includes)
  · exact ruleAsks_text (hone .excludes)
  · exact ruleAsks_flag (hone .noDefaultExcludes)
  · exact ruleAsks_property
  · exact ruleAsks_text (hone .generator)

theorem asks_of_sets {m : Mention} {x : Setting} (h : generateGrammar.Sets m x) : Asks m x := by
  obtain ⟨e, he, hread⟩ := h
  have hspelled := he.spelled
  simp only [Grammar.spelled, List.mem_flatMap, List.mem_map, Prod.mk.injEq] at hspelled
  obtain ⟨r, hr, spelling, hspelling, hsame, rfl⟩ := hspelled
  rw [hsame] at hspelling
  have hasks := ruleAsks_of_mem hr e.spelling hspelling e.given m.given x he.given hread
  rw [← he.spelling] at hasks
  exact hasks

variable {ms : List Mention} {xs : List Setting} {operand : Option String}

theorem foldl_put_last {β : Type} (field : GenerateArguments → Option β)
    (said : Mention → Option β)
    (hput : ∀ a m x, Asks m x → field (a.put x) = (said m).or (field a))
    (h : List.Forall₂ Asks ms xs) (a : GenerateArguments) :
    field (xs.foldl .put a) = ((ms.filterMap said).getLast?).or (field a) := by
  induction h generalizing a with
  | nil => rfl
  | @cons m x ms xs hx _ ih =>
    rw [List.foldl_cons, ih, hput a m x hx, List.filterMap_cons]
    cases said m with
    | none => rfl
    | some b => simp [List.getLast?_cons]

theorem foldl_put_all {β : Type} (field : GenerateArguments → List β) (said : Mention → Option β)
    (hput : ∀ a m x, Asks m x →
      field (a.put x) = (said m).elim (field a) fun b => field a ++ [b])
    (h : List.Forall₂ Asks ms xs) (a : GenerateArguments) :
    field (xs.foldl .put a) = field a ++ ms.filterMap said := by
  induction h generalizing a with
  | nil => simp
  | @cons m x ms xs hx _ ih =>
    rw [List.foldl_cons, ih, hput a m x hx, List.filterMap_cons]
    cases said m with
    | none => rfl
    | some b => simp

theorem foldl_put_properties (h : List.Forall₂ Asks ms xs) (a : GenerateArguments) :
    ∃ pairs, (xs.foldl .put a).properties = a.properties ++ pairs ∧
      List.Forall₂ IsPair (givens ["--property"] ms) pairs := by
  induction h generalizing a with
  | nil => exact ⟨[], by simp, .nil⟩
  | @cons m x ms xs hx _ ih =>
    obtain ⟨pairs, hpairs, hgivens⟩ := ih (a.put x)
    cases hx with
    | @property given pair hpair =>
      refine ⟨pair :: pairs, ?_, .cons hpair hgivens⟩
      rw [List.foldl_cons, hpairs]
      simp [GenerateArguments.put]
    | _ => exact ⟨pairs, hpairs, hgivens⟩

theorem foldl_put_defaultExcludes (h : List.Forall₂ Asks ms xs) (a : GenerateArguments) :
    (xs.foldl .put a).defaultExcludes = false ↔
      a.defaultExcludes = false ∨ ∃ m ∈ ms, m.spelling = "--no-default-excludes" := by
  induction h generalizing a with
  | nil => simp
  | @cons m x ms xs hx _ ih =>
    rw [List.foldl_cons, ih]
    cases hx with
    | noDefaultExcludes given => simp [GenerateArguments.put]
    | _ => simp [GenerateArguments.put]

theorem foldl_put_sourceDirectory (xs : List Setting) (a : GenerateArguments) :
    (xs.foldl .put a).sourceDirectory = a.sourceDirectory := by
  induction xs generalizing a with
  | nil => rfl
  | cons x xs ih =>
    rw [List.foldl_cons, ih]
    cases x <;> rfl

theorem records_foldl (h : List.Forall₂ Asks ms xs) : Records ms operand
    (xs.foldl .put { GenerateArguments.empty with sourceDirectory := operand }) := by
  -- At first nothing is recorded, so each field is what the settings leave there.
  have hlast {β : Type} (field : GenerateArguments → Option β) (said : Mention → Option β)
      (hempty : field { GenerateArguments.empty with sourceDirectory := operand } = none)
      (hput : ∀ a m x, Asks m x → field (a.put x) = (said m).or (field a)) :
      field (xs.foldl .put { GenerateArguments.empty with sourceDirectory := operand }) =
        (ms.filterMap said).getLast? := by
    rw [foldl_put_last field said hput h, hempty, Option.or_none]
  have hall {β : Type} (field : GenerateArguments → List β) (said : Mention → Option β)
      (hempty : field { GenerateArguments.empty with sourceDirectory := operand } = [])
      (hput : ∀ a m x, Asks m x →
        field (a.put x) = (said m).elim (field a) fun b => field a ++ [b]) :
      field (xs.foldl .put { GenerateArguments.empty with sourceDirectory := operand }) =
        ms.filterMap said := by
    rw [foldl_put_all field said hput h, hempty, List.nil_append]
  constructor
  case sourceDirectory => exact foldl_put_sourceDirectory xs _
  case config =>
    apply hlast GenerateArguments.config _ rfl
    rintro a m x (_ | _) <;> rfl
  case outputDirectory =>
    apply hlast GenerateArguments.outputDirectory _ rfl
    rintro a m x (_ | _) <;> rfl
  case classpath =>
    apply hall GenerateArguments.classpath _ rfl
    rintro a m x (_ | _) <;> rfl
  case descriptor =>
    apply hlast GenerateArguments.descriptor _ rfl
    rintro a m x (_ | _) <;> rfl
  case metadata =>
    apply hlast GenerateArguments.metadata _ rfl
    rintro a m x (_ | _) <;> rfl
  case generateAccessors =>
    apply hlast GenerateArguments.generateAccessors _ rfl
    rintro a m x (_ | _) <;> rfl
  case strictMode =>
    apply hlast GenerateArguments.strictMode _ rfl
    rintro a m x (_ | _) <;> rfl
  case specVersion =>
    apply hlast GenerateArguments.specVersion _ rfl
    rintro a m x (_ | _) <;> rfl
  case annotationProcessors =>
    apply hall GenerateArguments.annotationProcessors _ rfl
    rintro a m x (_ | _) <;> rfl
  case includes =>
    apply hall GenerateArguments.includes _ rfl
    rintro a m x (_ | _) <;> rfl
  case excludes =>
    apply hall GenerateArguments.excludes _ rfl
    rintro a m x (_ | _) <;> rfl
  case defaultExcludes =>
    rw [foldl_put_defaultExcludes h]
    simp [GenerateArguments.empty]
  case properties =>
    obtain ⟨pairs, hpairs, hgivens⟩ :=
      foldl_put_properties h { GenerateArguments.empty with sourceDirectory := operand }
    rw [hpairs]
    exact hgivens
  case generator =>
    apply hlast GenerateArguments.generator _ rfl
    rintro a m x (_ | _) <;> rfl

theorem eq_of_withoutExtra {extra : List String} {i j : Invocation}
    (h : withoutExtra extra i = .ok j) : extra = [] ∧ j = i := by
  unfold withoutExtra at h
  split at h
  · rename_i hempty
    exact ⟨List.isEmpty_iff.1 hempty, (Except.ok.inj h).symm⟩
  · cases h

theorem rest_of_front {front : List String} (h : ∀ s ∈ front, s.toList.head? = some '-')
    (rest : List String) :
    (front ++ "generate" :: rest).dropWhile (fun s => s.toList.head? = some '-') =
      "generate" :: rest := by
  rw [List.dropWhile_append_of_pos (by simpa using h)]
  exact List.dropWhile_cons_of_neg (by decide)

theorem Told.unique {arguments : List String} {ms' : List Mention} {operand' : Option String}
    (h : Told arguments ms operand) (h' : Told arguments ms' operand') :
    ms = ms' ∧ operand = operand' := by
  obtain ⟨front, rest, rfl, hfront, htells⟩ := h
  obtain ⟨front', rest', hsame, hfront', htells'⟩ := h'
  have hrests := rest_of_front hfront rest
  rw [hsame, rest_of_front hfront' rest'] at hrests
  obtain rfl := (List.cons.inj hrests).2
  exact htells.unique (by decide) htells'

theorem flags_mainGrammar (f : String) : (f, true) ∉ mainGrammar.spellings := by
  simp [Grammar.spellings, Grammar.spelled, mainGrammar, helpRule, verboseRule, flagRule]

theorem told_of_parse {arguments : List String} {verbose : Bool} {a : GenerateArguments}
    (h : parse arguments = .ok ⟨verbose, .generate a⟩) :
    ∃ ms operand, Told arguments ms operand ∧ Records ms operand a := by
  obtain ⟨c, hc, h⟩ := bind_eq_ok.1 h
  simp only at h
  split at h
  · cases h
  · rename_i name rest hcommand
    split at h
    · rename_i hname
      subst hname
      obtain ⟨p, hp, h⟩ := bind_eq_ok.1 h
      obtain ⟨hextra, hi⟩ := eq_of_withoutExtra h
      obtain ⟨hfrontExtra, hrestExtra⟩ := List.append_eq_nil_iff.1 hextra
      simp only [Invocation.mk.injEq, Command.generate.injEq] at hi
      obtain ⟨front, harguments, hfront⟩ := Grammar.front_of_parseCommand flags_mainGrammar hc hcommand
        (by decide) hfrontExtra
      obtain ⟨ms, htells, hsets⟩ := Grammar.tells_of_parse hp hrestExtra
      refine ⟨ms, p.operand, ⟨front, rest, harguments, hfront, htells⟩, ?_⟩
      rw [hi.2]
      exact records_foldl (hsets.imp fun m x hx => asks_of_sets hx)
    · split at h
      · obtain ⟨p, hp, h⟩ := bind_eq_ok.1 h
        cases (eq_of_withoutExtra h).2
      · cases h

end ComponentBuild.CommandLine
