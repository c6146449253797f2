import ComponentBuild.Path.Home
import ComponentBuild.Tree.Lookup

/-!
What a run finds around it: the file tree, the working directory, which is there when the run
starts, the home directories, the places that classes are always loaded from, and the characters
that standard output has an encoding for.
-/

namespace ComponentBuild

structure Host where
  tree : Tree
  workingDirectory : Location
  home : Home
  systemPath : List String
  prints : Char → Bool

namespace Host

def workingPath (host : Host) : Path := .ofLocation host.workingDirectory

def absolute (host : Host) (p : Path) : Path := host.workingPath.join p

def settled (host : Host) (p : Path) : Except HomeFault Path :=
  (p.expandKnownHome host.home).map fun q => (host.absolute q).normalized

def canPrint (host : Host) (s : String) : Bool := s.toList.all host.prints

def exists? (host : Host) (p : Path) : Except FileError Bool :=
  host.tree.ask host.workingDirectory p fun _ => true

def isFile (host : Host) (p : Path) : Except FileError Bool :=
  host.tree.ask host.workingDirectory p fun node => match node with
    | .file _ => true
    | _ => false

def isDirectory (host : Host) (p : Path) : Except FileError Bool :=
  host.tree.ask host.workingDirectory p (· = .directory)

theorem absolute_isAbsolute (host : Host) (p : Path) : (host.absolute p).isAbsolute = true :=
  Path.isAbsolute_join p rfl

theorem settled_isAbsolute {host : Host} {p q : Path} (h : host.settled p = .ok q) :
    q.isAbsolute = true := by
  unfold settled at h
  cases hp : p.expandKnownHome host.home with
  | error fault => simp [hp, Except.map] at h
  | ok r =>
    simp only [hp, Except.map, Except.ok.injEq] at h
    exact h ▸ host.absolute_isAbsolute r

theorem absolute_absolute (host : Host) (p : Path) :
    host.absolute (host.absolute p) = host.absolute p :=
  Path.join_absolute (host.absolute_isAbsolute p)

end Host

end ComponentBuild
