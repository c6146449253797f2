import ComponentBuild.Generator.Basic
import ComponentBuild.Text.Pieces
import ComponentBuild.Text.Word

namespace ComponentBuild

structure EntryPoint where
  name : String
  value : String
  group : String
  deriving DecidableEq

structure Registry where
  modules : List (String × Object)
  entryPoints : List EntryPoint

inductive ImportFault
  | relative (module : String)
  | missing (module : String)
  | notPackage (module parent : String)
  deriving DecidableEq

def ImportFault.message : ImportFault → String
  | relative m => "the 'package' argument is required to perform a relative import for " ++
      Text.quoted m
  | missing m => s!"No module named {Text.quoted m}"
  | notPackage m parent =>
    s!"No module named {Text.quoted m}; {Text.quoted parent} is not a package"

inductive EntryPointFault
  | value
  | module (fault : ImportFault)
  | missing (fault : AttributeFault)
  deriving DecidableEq

def EntryPointFault.message : EntryPointFault → String
  | value => "'NoneType' object has no attribute 'group'"
  | module fault => fault.message
  | missing fault => fault.message

inductive GeneratorFault
  | badReference (reference : String)
  | unimportable (module : String) (fault : ImportFault)
  | notFound (reference : String)
  | notGenerator (name : String)
  | noneInstalled
  | severalInstalled (names : List String)
  | entryPoint (name : String) (fault : EntryPointFault)
  deriving DecidableEq

def generatorGroup : String := "scrtask.generators"

def GeneratorFault.message : GeneratorFault → String
  | badReference r => s!"Generator reference must look like 'module:attr': {r}"
  | unimportable m fault => s!"Unable to import generator module '{m}': {fault.message}"
  | notFound r => s!"Generator '{r}' not found"
  | notGenerator name => s!"Generator '{name}' must be a DescriptorGenerator or a factory for one"
  | noneInstalled => s!"No descriptor generator installed (entry point group '{generatorGroup}')"
  | severalInstalled names =>
    "Multiple descriptor generators installed: " ++ ", ".intercalate names
  | entryPoint name fault => s!"Failed to load generator entry point '{name}': {fault.message}"

/-- Why no generator was found; a relative import and what a factory throws are not the fault of
the configuration. -/
inductive LoadFault
  | configuration (fault : GeneratorFault)
  | relativeImport (fault : ImportFault)
  | thrown (e : Thrown)

inductive Loaded
  | readyMade (generator : Generator)
  | made (generator : Generator) (argument : Argument)

def Loaded.generator : Loaded → Generator
  | readyMade g => g
  | made g _ => g

namespace Registry

/-- A package is known by the modules below it. -/
def isPackage (r : Registry) (name : String) : Bool :=
  r.modules.any fun m => (name ++ ".").toList.isPrefixOf m.1.toList

def importParts (r : Registry) (parent : Option (String × Object)) :
    List String → Except ImportFault Object
  | [] => match parent with
    | some (_, o) => .ok o
    | none => .error (.missing "")
  | part :: rest =>
    let name := match parent with
      | some (above, _) => s!"{above}.{part}"
      | none => part
    match r.modules.lookup name with
    | some o => r.importParts (some (name, o)) rest
    | none => .error (match parent with
      | some (above, _) => if r.isPackage above then .missing name else .notPackage name above
      | none => .missing name)

def importModule (r : Registry) (name : String) : Except ImportFault Object :=
  if name.toList.head? = some '.' then .error (.relative name)
  else r.importParts none (Text.split '.' name)

def coerce (o : Object) (name : String) (log : Option TaskLog) : Except LoadFault Loaded :=
  match o.generator?, o.isClass, o.factory? with
  | some g, false, _ => .ok (.readyMade g)
  | _, _, none => .error (.configuration (.notGenerator name))
  | _, _, some f =>
    match f.call log with
    | .error e => .error (.thrown e)
    | .ok made =>
      match made.generator? with
      | some g => .ok (.made g (f.argument log))
      | none => .error (.configuration (.notGenerator name))

def cutReference? (reference : String) : Option (String × String) :=
  match Text.cut? ':' reference.toList with
  | some (c :: cs, d :: ds) => some (String.ofList (c :: cs), String.ofList (d :: ds))
  | _ => none

def resolveReference (r : Registry) (reference : String) : Except LoadFault Object :=
  match cutReference? reference with
  | none => .error (.configuration (.badReference reference))
  | some (name, way) =>
    match r.importModule name with
    | .error (.relative m) => .error (.relativeImport (.relative m))
    | .error fault => .error (.configuration (.unimportable name fault))
    | .ok o =>
      match o.walk (Text.split '.' way) with
      | .ok o' => .ok o'
      | .error _ => .error (.configuration (.notFound reference))

def isReferenceChar (c : Char) : Bool := c == '.' || Text.isWordChar c

def endsValue (cs : List Char) : Bool :=
  match cs with
  | [] => true
  | '[' :: rest =>
    match (Text.trimEnd rest).reverse with
    | ']' :: inner => inner.all (· != '\n')
    | _ => false
  | _ => false

def cutValue? (value : String) : Option (String × List String) :=
  let cs := value.toList
  let name := cs.takeWhile isReferenceChar
  let rest := Text.trimStart (cs.dropWhile isReferenceChar)
  if name.isEmpty then none
  else if endsValue rest then some (String.ofList name, [])
  else
    match rest with
    | ':' :: rest =>
      let rest := Text.trimStart rest
      let way := rest.takeWhile isReferenceChar
      if !way.isEmpty && endsValue (Text.trimStart (rest.dropWhile isReferenceChar)) then
        some (String.ofList name, (Text.split '.' (String.ofList way)).filter (· ≠ ""))
      else none
    | _ => none

def loadEntryPoint (r : Registry) (value : String) : Except EntryPointFault Object :=
  match cutValue? value with
  | none => .error .value
  | some (name, attributes) =>
    match r.importModule name with
    | .error fault => .error (.module fault)
    | .ok o =>
      match o.walk attributes with
      | .ok o' => .ok o'
      | .error fault => .error (.missing fault)

def installed (r : Registry) : List EntryPoint :=
  r.entryPoints.filter fun e => e.group = generatorGroup

def available (r : Registry) : List String := Text.sortTexts (r.installed.map EntryPoint.name)

def loadInstalled (r : Registry) (log : Option TaskLog) : Except LoadFault Loaded :=
  match r.installed with
  | [] => .error (.configuration .noneInstalled)
  | [e] =>
    match r.loadEntryPoint e.value with
    | .ok o => coerce o e.name log
    | .error fault => .error (.configuration (.entryPoint e.name fault))
  | _ => .error (.configuration (.severalInstalled r.available))

def load (r : Registry) (reference : Option String) (log : Option TaskLog) :
    Except LoadFault Loaded :=
  match reference with
  | none => r.loadInstalled log
  | some s =>
    if s = "" then r.loadInstalled log
    else match r.resolveReference s with
      | .ok o => coerce o s log
      | .error fault => .error fault

end Registry

end ComponentBuild
