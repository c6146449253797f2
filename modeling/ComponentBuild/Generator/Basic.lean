import ComponentBuild.Classpath.Context
import ComponentBuild.Failure
import ComponentBuild.Log.Record
import ComponentBuild.Options
import ComponentBuild.SourceSet.Basic

namespace ComponentBuild

structure Project where
  dependencies : List Path
  sources : List SourceFile
  classesDirectory : Path
  loader : Nat

structure Request where
  project : Project
  options : GenerationOptions
  outputDirectory : Path
  descriptor : String
  metadata : String

structure Response where
  tree : Tree
  records : List LogRecord
  thrown : Option Thrown

def FileFault.typeName : FileFault → String
  | .missing => "FileNotFoundError"
  | .present => "FileExistsError"
  | .notDirectory => "NotADirectoryError"
  | .isDirectory => "IsADirectoryError"
  | .tooLong => "OSError"
  | .tooManyLinks => "OSError"
  | .nullByte => "ValueError"

def Thrown.ofFile (e : FileError) : Thrown :=
  .other ⟨e.fault.typeName, e.fault.typeName⟩ e.message

abbrev Behaviour := Request → ClassContexts → Host → Response

structure Generator where
  typeName : String
  behaviour : Behaviour

inductive Argument
  | nothing
  | log (log : Option TaskLog)

/-- Makes objects. The parameters are unknown when they cannot be inspected; some of those that are
required may be given by name only. -/
structure Factory (α : Type) where
  name : String
  parameters : Option (List String)
  required : List String
  namedOnly : List String
  body : Argument → Except Thrown α

inductive Object where
  | mk (owner typeName : String) (isClass : Bool) (behaviour : Option Behaviour)
      (factory : Option (Factory Object)) (attributes : List (String × Object))

namespace Object

def owner : Object → String
  | mk o _ _ _ _ _ => o

def typeName : Object → String
  | mk _ t _ _ _ _ => t

def isClass : Object → Bool
  | mk _ _ c _ _ _ => c

def behaviour? : Object → Option Behaviour
  | mk _ _ _ b _ _ => b

def factory? : Object → Option (Factory Object)
  | mk _ _ _ _ f _ => f

def attributes : Object → List (String × Object)
  | mk _ _ _ _ _ as => as

def generator? (o : Object) : Option Generator := o.behaviour?.map fun b => ⟨o.typeName, b⟩

end Object

structure AttributeFault where
  owner : String
  name : String
  deriving DecidableEq

def AttributeFault.message (f : AttributeFault) : String :=
  s!"{f.owner} has no attribute {Text.quoted f.name}"

namespace Object

def walk : Object → List String → Except AttributeFault Object
  | o, [] => .ok o
  | o, name :: rest =>
    match o.attributes.lookup name with
    | some o' => o'.walk rest
    | none => .error ⟨o.owner, name⟩

end Object

namespace Factory

variable {α : Type}

def acceptsLog (f : Factory α) : Bool :=
  match f.parameters with
  | some ps => ps.contains "log"
  | none => false

def argument (f : Factory α) (log : Option TaskLog) : Argument :=
  if f.acceptsLog then .log log else .nothing

def unfilled (f : Factory α) : List String :=
  f.required.filter fun p => !(f.acceptsLog && p == "log")

def listed : List String → String
  | [] => ""
  | [a] => a
  | [a, b] => s!"{a} and {b}"
  | a :: rest => a ++ ", " ++ listedTail rest
where
  listedTail : List String → String
    | [] => ""
    | [a] => s!"and {a}"
    | a :: rest => a ++ ", " ++ listedTail rest

/-- The parameters that are told to be missing, and their kind: those without a place of their own
only if all the others have a value. -/
def missing (f : Factory α) : String × List String :=
  match f.unfilled.filter fun p => !f.namedOnly.contains p with
  | [] => ("keyword-only", f.unfilled)
  | placed => ("positional", placed)

def missingArguments (f : Factory α) : Thrown :=
  let (kind, ps) := f.missing
  let noun := if ps.length = 1 then "argument" else "arguments"
  .other ⟨"TypeError", "TypeError"⟩
    s!"{f.name}() missing {ps.length} required {kind} {noun}: {listed (ps.map Text.quoted)}"

def call (f : Factory α) (log : Option TaskLog) : Except Thrown α :=
  if f.unfilled = [] then f.body (f.argument log) else .error f.missingArguments

end Factory

end ComponentBuild
