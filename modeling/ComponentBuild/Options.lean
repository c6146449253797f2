import ComponentBuild.Given
import ComponentBuild.Properties
import ComponentBuild.Text.Blank
import ComponentBuild.Value

namespace ComponentBuild

inductive SpecVersion
  | v1_0
  | v1_1
  | v1_1Felix
  | v1_2
  | v1_3
  deriving DecidableEq

namespace SpecVersion

def all : List SpecVersion := [v1_0, v1_1, v1_1Felix, v1_2, v1_3]

def text : SpecVersion → String
  | v1_0 => "1.0"
  | v1_1 => "1.1"
  | v1_1Felix => "1.1-felix"
  | v1_2 => "1.2"
  | v1_3 => "1.3"

def ofText? (s : String) : Option SpecVersion := all.find? fun v => v.text = Text.trim s

theorem ofText?_text (v : SpecVersion) : ofText? v.text = some v := by
  cases v <;> decide

end SpecVersion

structure GenerationOptions where
  strictMode : Bool
  generateAccessors : Bool
  specVersion : Option SpecVersion
  properties : Properties
  annotationProcessors : List Given
  deriving DecidableEq

structure RawOptions where
  specVersion : Option Given
  strictMode : Value
  generateAccessors : Value
  annotationProcessors : List Given
  properties : List (String × Value)

inductive OptionsFault
  | unknownVersion (text : String)
  deriving DecidableEq

def OptionsFault.message : OptionsFault → String
  | unknownVersion text => s!"Unknown spec version specified: {text}"

namespace GenerationOptions

def flag (default : Bool) : Value → Bool
  | .null => default
  | v => v.isTruthy

def version (given : Option Given) : Except OptionsFault (Option SpecVersion) :=
  match given.bind Given.text? with
  | none => .ok none
  | some s =>
    if Text.isBlankText s then .ok none
    else match SpecVersion.ofText? s with
      | some v => .ok (some v)
      | none => .error (.unknownVersion s)

def assemble (raw : RawOptions) : Except OptionsFault GenerationOptions :=
  (version raw.specVersion).map fun v =>
    { strictMode := flag false raw.strictMode
      generateAccessors := flag true raw.generateAccessors
      specVersion := v
      properties := .ofPairs (raw.properties.map fun p => (p.1, p.2.display))
      annotationProcessors := raw.annotationProcessors }

end GenerationOptions

end ComponentBuild
