import ComponentBuild.SourceSet.Basic

namespace ComponentBuild

/-- The names in one directory; what is no directory when links are followed is a file. -/
structure Listing where
  files : List Name
  directories : List Name

def Path.below (p : Path) (names : List Name) : Path := ⟨p.anchor, p.segments ++ names.map .entry⟩

namespace Tree

def leadsToDirectory (t : Tree) (dir : Path) (loc : Location) (n : Name) : Bool :=
  match t.node? (loc ++ [n]) with
  | some .directory => true
  | some (.link _) => t.isDirectory [] (dir.child n)
  | _ => false

def listing? (t : Tree) (dir : Path) : Option Listing :=
  match t.locate [] dir with
  | .error _ => none
  | .ok loc =>
    if t.node? loc = some .directory then
      let names := t.names loc
      some ⟨names.filter fun n => !t.leadsToDirectory dir loc n,
        names.filter (t.leadsToDirectory dir loc)⟩
    else none

def isLink (t : Tree) (dir : Path) (n : Name) : Bool := (t.linkTarget? [] dir n).isSome

def filesBelow (t : Tree) (root : Path) (selects : List Name → Bool) (enters : Name → Bool) :
    Nat → List Name → List (List Name)
  | 0, _ => []
  | depth + 1, dir =>
    match t.listing? (root.below dir) with
    | none => []
    | some l =>
      (l.files.map fun n => dir ++ [n]).filter selects ++
        (l.directories.filter enters).flatMap fun d =>
          if t.isLink (root.below dir) d then []
          else t.filesBelow root selects enters depth (dir ++ [d])

end Tree

namespace SourceSet

/-- The names below the root of the files in the set; no file is deeper than the tree is high. -/
def namesBelow (s : SourceSet) (t : Tree) (root : Path) (includes excludes : List Pattern) :
    List (List Name) :=
  t.filesBelow root (s.selects includes excludes) s.enters (t.height + 1) []

def located (s : SourceSet) (host : Host) : Except CollectFault (Path × List (List Name)) :=
  match s.root host with
  | .error fault => .error (.root fault)
  | .ok root => do
    let includes ← patterns s.includes
    let excludes ← patterns s.excludes
    return (root, s.namesBelow host.tree root includes excludes)

def files (s : SourceSet) (host : Host) : Except CollectFault (List Path) :=
  (s.located host).map fun found => found.2.map found.1.below

def isSource (below : List Name) : Bool :=
  (below.getLast?.map Name.text).any fun s => ClassName.isSourceText s.toList

def collect (s : SourceSet) (host : Host) : Except CollectFault (List SourceFile) := do
  let (root, found) ← s.located host
  (found.filter isSource).mapM fun names => SourceFile.ofPath root (root.below names)

end SourceSet

end ComponentBuild
