import ComponentBuild.Tree.Lookup

namespace ComponentBuild.Tree

def write (t : Tree) (base : Location) (p : Path) (content : List UInt8) : Except FileError Tree :=
  match t.locateNew base p with
  | .error fault => .error ⟨fault, p⟩
  | .ok loc =>
    if t.node? loc = some .directory then .error ⟨.isDirectory, p⟩
    else .ok (t.insert loc (.file content))

def append (t : Tree) (base : Location) (p : Path) (content : List UInt8) : Except FileError Tree :=
  match t.locateNew base p with
  | .error fault => .error ⟨fault, p⟩
  | .ok loc =>
    match t.node? loc with
    | some (.file before) => .ok (t.insert loc (.file (before ++ content)))
    | none => .ok (t.insert loc (.file content))
    | some _ => .error ⟨.isDirectory, p⟩

def locateFree (t : Tree) (base : Location) (dir : Path) (n : Name) : Except FileFault Location :=
  match t.locateEntry base dir n with
  | .error fault => .error fault
  | .ok loc => if (t.node? loc).isSome then .error .present else .ok loc

def makeNew (t : Tree) (base : Location) (p : Path) : Except FileFault Tree :=
  match p.entry? with
  | some (dir, n) => (t.locateFree base dir n).map fun loc => t.insert loc .directory
  | none =>
    match t.locate base p with
    | .error fault => .error fault
    | .ok _ => .error .present

def makeUpTo (t : Tree) (base : Location) (p : Path) : Nat → Except FileError Tree
  | 0 => .ok t
  | k + 1 =>
    let q : Path := ⟨p.anchor, p.segments.take (k + 1)⟩
    let settled (t : Tree) : Except FileError Tree :=
      match t.makeNew base q with
      | .ok t' => .ok t'
      | .error fault => if t.isDirectory base q then .ok t else .error ⟨fault, q⟩
    match t.makeNew base q with
    | .error .missing =>
      match makeUpTo t base p k with
      | .ok t' => settled t'
      | .error e => .error e
    | _ => settled t

def makeDirectories (t : Tree) (base : Location) (p : Path) : Except FileError Tree :=
  t.makeUpTo base p p.segments.length

def put (t : Tree) (base : Location) (p : Path) (content : List UInt8) : Except FileError Tree := do
  (← t.makeDirectories base p.parent).write base p content

def makeLink (t : Tree) (base : Location) (dir : Path) (n : Name) (target : LinkTarget) :
    Except FileError Tree :=
  match t.locateFree base dir n with
  | .error fault => .error ⟨fault, dir.child n⟩
  | .ok loc => .ok (t.insert loc (.link target))

def remove (t : Tree) (base : Location) (dir : Path) (n : Name) : Except FileError Tree :=
  match t.locateEntry base dir n with
  | .error fault => .error ⟨fault, dir.child n⟩
  | .ok loc =>
    if (t.node? loc).isSome then .ok (t.erase loc) else .error ⟨.missing, dir.child n⟩

theorem node?_insert (t : Tree) {loc : Location} (node : Node) (h : loc ≠ []) :
    (t.insert loc node).node? loc = some node := by
  cases loc with
  | nil => exact absurd rfl h
  | cons n ns => simp [node?, insert]

end ComponentBuild.Tree
