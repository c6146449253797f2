import ComponentBuild.Given
import ComponentBuild.Path.Home
import ComponentBuild.Properties
import ComponentBuild.Text.Case
import ComponentBuild.Text.Parts
import ComponentBuild.Value

namespace ComponentBuild

structure Settings where
  root : Path
  sourceDirectory : Option Path
  outputDirectory : Option Path
  classpath : List Path
  descriptor : String
  metadata : String
  generateAccessors : Bool
  strictMode : Bool
  specVersion : Option Given
  annotationProcessors : List Given
  includes : List Given
  excludes : List Given
  defaultExcludes : Bool
  properties : Properties
  generator : Option String
  deriving DecidableEq

inductive FieldFault
  | numeral (fault : Decimal.NumeralFault)
  | home (fault : HomeFault)
  deriving DecidableEq

def FieldFault.message : FieldFault → String
  | numeral fault => fault.message
  | home fault => fault.message

namespace Settings

def usualDescriptor : String := "serviceComponents.xml"

def usualMetadata : String := "metatype.xml"

def usual (root : Path) : Settings :=
  { root := root
    sourceDirectory := none
    outputDirectory := none
    classpath := []
    descriptor := usualDescriptor
    metadata := usualMetadata
    generateAccessors := true
    strictMode := false
    specVersion := none
    annotationProcessors := []
    includes := []
    excludes := []
    defaultExcludes := true
    properties := []
    generator := none }

def truthWords : List (String × Bool) :=
  [("true", true), ("yes", true), ("on", true), ("1", true), ("false", false), ("no", false),
    ("off", false), ("0", false)]

def asBool? : Value → Option Bool
  | .bool b => some b
  | .text s => truthWords.lookup (Text.lower (Text.trim s))
  | _ => none

def asText? (v : Value) : Except FieldFault (Option String) :=
  match v.scalarText? with
  | .ok s => .ok s
  | .error fault => .error (.numeral fault)

def asTexts : Value → Except FieldFault (List String)
  | .text s => .ok [s]
  | .list items => (items.mapM asText?).map (List.filterMap id)
  | .binary bytes => .ok (bytes.map fun b => toString b.toNat)
  | _ => .ok []

def asProperty? (pair : Value × Value) : Except FieldFault (Option (String × String)) :=
  if !pair.2.isScalar then .ok none
  else match pair.1.keyText with
    | .error fault => .error (.numeral fault)
    | .ok name => (asText? pair.2).map fun s => s.map fun s => (name, s)

def asProperties : Value → Except FieldFault Properties
  | .map pairs => (pairs.mapM asProperty?).map fun found => .ofPairs (found.filterMap id)
  | _ => .ok []

def pathFrom (home : Home) (root : Path) (s : String) : Except FieldFault Path :=
  match (Path.ofText s).expandHome home with
  | .ok p => .ok (root.join p)
  | .error fault => .error (.home fault)

def asPath? (home : Home) (root : Path) (v : Value) : Except FieldFault (Option Path) := do
  match ← asText? v with
  | none => return none
  | some s => if s = "" then return none else some <$> pathFrom home root s

def asPaths (home : Home) (root : Path) (v : Value) : Except FieldFault (List Path) := do
  ((← asTexts v).flatMap (Text.parts ':')).mapM (pathFrom home root)

def field (pairs : List (Value × Value)) (name : String) : Value :=
  ((pairs.find? fun p => p.1.sameKey (.text name)).map Prod.snd).getD .null

def nonempty (s : Option String) : Option String := s.filter (· ≠ "")

def asGivens (v : Value) : Except FieldFault (List Given) := (asTexts v).map (List.map .text)

/-- Of several faults the first counts, names before paths and paths before lists. -/
def ofPairs (home : Home) (root : Path) (pairs : List (Value × Value)) :
    Except FieldFault Settings := do
  let get := field pairs
  let descriptor ← asText? (get "final_name")
  let metadata ← asText? (get "metatype_name")
  return {
    root := root
    sourceDirectory := ← asPath? home root (get "srcdir")
    outputDirectory := ← asPath? home root (get "destdir")
    classpath := ← asPaths home root (get "classpath")
    descriptor := (nonempty descriptor).getD usualDescriptor
    metadata := (nonempty metadata).getD usualMetadata
    generateAccessors := (asBool? (get "generate_accessors")).getD true
    strictMode := (asBool? (get "strict_mode")).getD false
    specVersion := (← asText? (get "spec_version")).map .text
    annotationProcessors := ← asGivens (get "annotation_processors")
    includes := ← asGivens (get "includes")
    excludes := ← asGivens (get "excludes")
    defaultExcludes := (asBool? (get "default_excludes")).getD true
    properties := ← asProperties (get "properties")
    generator := ← asText? (get "generator") }

end Settings

end ComponentBuild
