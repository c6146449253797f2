import ComponentBuild.ClassName
import ComponentBuild.Given
import ComponentBuild.Host
import ComponentBuild.Pattern.Basic

namespace ComponentBuild

structure SourceFile where
  path : Path
  className : String
  deriving DecidableEq

structure SourceSet where
  directory : Option Path
  includes : List Given
  excludes : List Given
  defaultExcludes : Bool

inductive SourceFault
  | unset
  | missing (root : Path)
  | notDirectory (root : Path)
  deriving DecidableEq

def SourceFault.message : SourceFault → String
  | unset => "srcdir attribute must be set!"
  | missing root => s!"srcdir {root.text} does not exist!"
  | notDirectory root => s!"srcdir {root.text} is not a directory!"

inductive RootFault
  | source (fault : SourceFault)
  | home (fault : HomeFault)
  | file (error : FileError)
  deriving DecidableEq

def RootFault.message : RootFault → String
  | source fault => fault.message
  | home fault => fault.message
  | file error => error.message

inductive CollectFault
  | root (fault : RootFault)
  | pattern (fault : GivenFault)
  | className (fault : ClassNameFault)
  deriving DecidableEq

def CollectFault.message : CollectFault → String
  | root fault => fault.message
  | pattern fault => fault.message
  | className fault => fault.message

def SourceFile.ofPath (root path : Path) : Except CollectFault SourceFile :=
  match ClassName.derive path root with
  | .ok name => .ok ⟨path, name⟩
  | .error fault => .error (.className fault)

namespace SourceSet

def empty : SourceSet := ⟨none, [], [], true⟩

def excludedDirectories : List String := ["CVS", "SCCS", ".svn", ".git", ".hg", ".bzr"]

def excludedFiles : List String :=
  ["*~", "#*#", ".#*", "%*%", "._*", ".cvsignore", "vssver.scc", ".DS_Store", ".gitattributes",
    ".gitignore", ".gitmodules", ".hgignore", ".hgsub", ".hgsubstate", ".hgtags", ".bzrignore"]

def excludedFilePatterns : List Pattern := Pattern.ofTexts (excludedFiles.map ("**/" ++ ·))

def checkedRoot (host : Host) (root : Path) : Except RootFault Path :=
  match host.exists? root, host.isDirectory root with
  | .error e, _ => .error (.file e)
  | _, .error e => .error (.file e)
  | .ok false, _ => .error (.source (.missing root))
  | _, .ok false => .error (.source (.notDirectory root))
  | _, _ => .ok root

def root (s : SourceSet) (host : Host) : Except RootFault Path :=
  match s.directory with
  | none => .error (.source .unset)
  | some d =>
    match host.settled d with
    | .error fault => .error (.home fault)
    | .ok root => checkedRoot host root

def patterns (given : List Given) : Except CollectFault (List Pattern) :=
  match given.mapM (Given.required .pattern) with
  | .ok texts => .ok (Pattern.ofTexts texts)
  | .error fault => .error (.pattern fault)

def selects (s : SourceSet) (includes excludes : List Pattern) (below : List Name) : Bool :=
  let rel := "/".intercalate (below.map Name.text)
  !(s.defaultExcludes && Pattern.anyFits excludedFilePatterns rel)
    && (includes.isEmpty || Pattern.anyFits includes rel)
    && !Pattern.anyFits excludes rel

def enters (s : SourceSet) (directory : Name) : Bool :=
  !(s.defaultExcludes && excludedDirectories.contains directory.text)

def text (s : SourceSet) : String :=
  let directory := (s.directory.map Path.text).getD "None"
  s!"FileSet(dir={directory}, includes={Given.shownList s.includes}, " ++
    s!"excludes={Given.shownList s.excludes})"

end SourceSet

end ComponentBuild
