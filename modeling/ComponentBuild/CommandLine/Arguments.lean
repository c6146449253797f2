import ComponentBuild.CommandLine.Grammar
import ComponentBuild.Settings.Basic
import ComponentBuild.Text.Parts

namespace ComponentBuild.CommandLine

inductive Setting
  | verbose
  | config (path : Given)
  | outputDirectory (path : Given)
  | classpath (paths : Given)
  | descriptor (name : Given)
  | metadata (name : Given)
  | generateAccessors (on : Bool)
  | strictMode (on : Bool)
  | specVersion (version : Given)
  | annotationProcessor (name : Given)
  | includes (pattern : Given)
  | excludes (pattern : Given)
  | noDefaultExcludes
  | property (pair : Option (String × String))
  | generator (reference : Given)
  deriving DecidableEq

structure GenerateArguments where
  sourceDirectory : Option String
  config : Option Given
  outputDirectory : Option Given
  classpath : List Given
  descriptor : Option Given
  metadata : Option Given
  generateAccessors : Option Bool
  strictMode : Option Bool
  specVersion : Option Given
  annotationProcessors : List Given
  includes : List Given
  excludes : List Given
  defaultExcludes : Bool
  properties : List (Option (String × String))
  generator : Option Given
  deriving DecidableEq

inductive Command
  | generate (arguments : GenerateArguments)
  | generators
  deriving DecidableEq

structure Invocation where
  verbose : Bool
  command : Command
  deriving DecidableEq

def parseProperty (s : String) : Except String (String × String) :=
  match Text.cut? '=' s.toList with
  | some (key, value) =>
    if key.all Text.isBlank then .error s!"expected KEY=VALUE, got '{s}'"
    else .ok (Text.trim (String.ofList key), String.ofList value)
  | none => .error s!"expected KEY=VALUE, got '{s}'"

def flagRule (spellings : List String) (a : Setting) : OptionRule Setting :=
  ⟨spellings, false, fun _ _ => .setting a⟩

def textRule (spellings : List String) (a : Given → Setting) : OptionRule Setting :=
  ⟨spellings, true, fun _ given => .setting (a given)⟩

def switchRule (name : String) (a : Bool → Setting) : OptionRule Setting :=
  let denial := "--no-" ++ name
  ⟨["--" ++ name, denial], false, fun spelling _ => .setting (a (spelling != denial))⟩

def helpRule : OptionRule Setting := ⟨["-h", "--help"], false, fun _ _ => .help⟩

def verboseRule : OptionRule Setting := flagRule ["-v", "--verbose"] .verbose

def propertyRule : OptionRule Setting where
  spellings := ["--property"]
  takesText := true
  read := fun _ given =>
    match given with
    | .nothing => .setting (.property none)
    | .text s =>
      match parseProperty s with
      | .ok pair => .setting (.property (some pair))
      | .error why => .refused why

def mainGrammar : Grammar Setting := ⟨"scrtask", [helpRule, verboseRule]⟩

def generatorsGrammar : Grammar Setting := ⟨"scrtask generators", [helpRule, verboseRule]⟩

def generateGrammar : Grammar Setting :=
  ⟨"scrtask generate",
    [helpRule,
      verboseRule,
      textRule ["--config"] .config,
      textRule ["-d", "--destdir"] .outputDirectory,
      textRule ["-cp", "--classpath"] .classpath,
      textRule ["--final-name"] .descriptor,
      textRule ["--metatype-name"] .metadata,
      switchRule "generate-accessors" .generateAccessors,
      switchRule "strict-mode" .strictMode,
      textRule ["--spec-version"] .specVersion,
      textRule ["--annotation-processor"] .annotationProcessor,
      textRule ["--include"] .includes,
      textRule ["--exclude"] .excludes,
      flagRule ["--no-default-excludes"] .noDefaultExcludes,
      propertyRule,
      textRule ["--generator"] .generator]⟩

def isVerbose (settings : List Setting) : Bool := settings.contains .verbose

namespace GenerateArguments

def empty : GenerateArguments :=
  { sourceDirectory := none
    config := none
    outputDirectory := none
    classpath := []
    descriptor := none
    metadata := none
    generateAccessors := none
    strictMode := none
    specVersion := none
    annotationProcessors := []
    includes := []
    excludes := []
    defaultExcludes := true
    properties := []
    generator := none }

def put (a : GenerateArguments) : Setting → GenerateArguments
  | .verbose => a
  | .config path => { a with config := some path }
  | .outputDirectory path => { a with outputDirectory := some path }
  | .classpath paths => { a with classpath := a.classpath ++ [paths] }
  | .descriptor name => { a with descriptor := some name }
  | .metadata name => { a with metadata := some name }
  | .generateAccessors on => { a with generateAccessors := some on }
  | .strictMode on => { a with strictMode := some on }
  | .specVersion version => { a with specVersion := some version }
  | .annotationProcessor name =>
    { a with annotationProcessors := a.annotationProcessors ++ [name] }
  | .includes pattern => { a with includes := a.includes ++ [pattern] }
  | .excludes pattern => { a with excludes := a.excludes ++ [pattern] }
  | .noDefaultExcludes => { a with defaultExcludes := false }
  | .property pair => { a with properties := a.properties ++ [pair] }
  | .generator reference => { a with generator := some reference }

def ofParsed (p : Grammar.Parsed Setting) : GenerateArguments :=
  p.settings.foldl put { empty with sourceDirectory := p.operand }

end GenerateArguments

def commandNames : List String := ["generate", "generators"]

def unknownCommand (name : String) : Stop :=
  let choices := ", ".intercalate (commandNames.map Text.quoted)
  mainGrammar.usage s!"argument command: invalid choice: {Text.quoted name} (choose from {choices})"

def withoutExtra (extra : List String) (i : Invocation) : Except Stop Invocation :=
  if extra.isEmpty then .ok i
  else .error (mainGrammar.usage ("unrecognized arguments: " ++ " ".intercalate extra))

def parse (arguments : List String) : Except Stop Invocation := do
  let c ← mainGrammar.parseCommand arguments
  let verbose := isVerbose c.settings
  match c.command with
  | none => throw (mainGrammar.usage "the following arguments are required: command")
  | some (name, rest) =>
    if name = "generate" then do
      let p ← generateGrammar.parse true rest
      withoutExtra (c.extra ++ p.extra)
        ⟨verbose || isVerbose p.settings, .generate (.ofParsed p)⟩
    else if name = "generators" then do
      let p ← generatorsGrammar.parse false rest
      withoutExtra (c.extra ++ p.extra) ⟨verbose || isVerbose p.settings, .generators⟩
    else throw (unknownCommand name)

/-- The parts of a classpath option, blank ones left out; blanks around a part belong to it. -/
def classpathPaths (s : String) : List Path :=
  ((Text.split ':' s).filter fun part => !Text.isBlankText part).map Path.ofText

def override (before : String) (given : Option Given) : String :=
  (given.bind Given.nonempty?).getD before

def pairsFrom (place : Nat) :
    List (Option (String × String)) → Except GivenFault (List (String × String))
  | [] => .ok []
  | none :: _ => .error (.property place)
  | some pair :: rest => (pairsFrom (place + 1) rest).map (pair :: ·)

def GenerateArguments.overlay (a : GenerateArguments) (c : Settings) :
    Except GivenFault Settings := do
  let output ← a.outputDirectory.mapM (Given.required .outputDirectory)
  let classpath ← a.classpath.mapM (Given.required .classpath)
  let properties ← pairsFrom 0 a.properties
  return { c with
    sourceDirectory := (a.sourceDirectory.map Path.ofText).or c.sourceDirectory
    outputDirectory := (output.map Path.ofText).or c.outputDirectory
    classpath := c.classpath ++ classpath.flatMap classpathPaths
    descriptor := override c.descriptor a.descriptor
    metadata := override c.metadata a.metadata
    generateAccessors := a.generateAccessors.getD c.generateAccessors
    strictMode := a.strictMode.getD c.strictMode
    specVersion := a.specVersion.or c.specVersion
    annotationProcessors := c.annotationProcessors ++ a.annotationProcessors
    includes := c.includes ++ a.includes
    excludes := c.excludes ++ a.excludes
    defaultExcludes := c.defaultExcludes && a.defaultExcludes
    properties := c.properties.putAll properties
    generator := (a.generator.bind Given.nonempty?).or c.generator }

end ComponentBuild.CommandLine
