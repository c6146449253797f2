import ComponentBuild.Generator.Basic

namespace ComponentBuild

inductive ProjectFault
  | outputUnset
  | home (fault : HomeFault)
  deriving DecidableEq

def ProjectFault.message : ProjectFault → String
  | outputUnset => "destdir attribute must be set!"
  | home fault => fault.message

def Host.settledText (host : Host) (s : String) : Except HomeFault Path :=
  let p := Path.ofText s
  if s.toList.head? = some '~' then host.settled p else .ok (host.absolute p).normalized

def Project.make (host : Host) (dependencies : List Path) (sources : List SourceFile)
    (directory : Option String) (loader : Nat) : Except ProjectFault Project :=
  match directory.filter (· ≠ "") with
  | none => .error .outputUnset
  | some s =>
    match host.settledText s with
    | .error fault => .error (.home fault)
    | .ok d => .ok ⟨dependencies, sources, d, loader⟩

end ComponentBuild
