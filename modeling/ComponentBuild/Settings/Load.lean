import ComponentBuild.Host
import ComponentBuild.Settings.Basic
import ComponentBuild.Text.Utf8
import ComponentBuild.Tree.Canonical
import ComponentBuild.Yaml.Load

namespace ComponentBuild

inductive SettingsFault
  | malformed (file : String) (what : String)
  | notMapping (file : String)
  | document (fault : Yaml.Fault)
  | field (fault : FieldFault)
  | unreadable (error : FileError)
  | notText
  | home (fault : HomeFault)
  | linkLoop (loop : LinkLoop)
  deriving DecidableEq

def SettingsFault.message : SettingsFault → String
  | malformed file what => s!"Failed to parse {file}: {what}"
  | notMapping file => s!"{file} must contain a mapping at the root"
  | document fault => fault.message
  | field fault => fault.message
  | unreadable error => error.message
  | notText => "the file is not UTF-8 text"
  | home fault => fault.message
  | linkLoop loop => loop.message

def SettingsFault.isConfiguration : SettingsFault → Bool
  | malformed _ _ => true
  | notMapping _ => true
  | _ => false

namespace Settings

def fileName : Name := ⟨".scrtask.yml", by decide⟩

def canonical (host : Host) (p : Path) : Except SettingsFault Path :=
  if p.hasNullByte then .error (.unreadable ⟨.nullByte, p⟩)
  else match host.tree.canonical host.workingDirectory p with
    | .ok q => .ok q
    | .error loop => .error (.linkLoop loop)

def filePath (host : Host) (p : Path) : Except SettingsFault Path :=
  match p.expandHome host.home with
  | .error fault => .error (.home fault)
  | .ok p =>
    match host.isDirectory p with
    | .error e => .error (.unreadable e)
    | .ok inside => canonical host (if inside then p.child fileName else p)

/-- The settings are a mapping whose values are lists and mappings of scalars at most. -/
def depth : Nat := 2

/-- The value that a file holds; blanks hold an empty mapping, and so does what counts as false. -/
def readValue (host : Host) (p : Path) : Except SettingsFault Value :=
  match host.tree.read host.workingDirectory p with
  | .error e => .error (.unreadable e)
  | .ok bytes =>
    match Text.decodeUtf8 bytes with
    | none => .error .notText
    | some cs =>
      let cs := Text.unifyNewlines cs
      if cs.all Text.isBlank then .ok (.map [])
      else match Yaml.load depth cs with
        | .error (.malformed what) => .error (.malformed p.name what)
        | .error fault => .error (.document fault)
        | .ok v => .ok (if v.isTruthy then v else .map [])

def readFile (host : Host) (file : Path) : Except SettingsFault Settings :=
  match readValue host file with
  | .error fault => .error fault
  | .ok (.map pairs) =>
    match ofPairs host.home file.parent pairs with
    | .ok settings => .ok settings
    | .error fault => .error (.field fault)
  | .ok _ => .error (.notMapping file.name)

def load (host : Host) (p : Path) : Except SettingsFault Settings :=
  match filePath host p with
  | .error fault => .error fault
  | .ok file =>
    match host.exists? file with
    | .error e => .error (.unreadable e)
    | .ok false => .ok (usual file.parent)
    | .ok true => readFile host file

end Settings

end ComponentBuild
