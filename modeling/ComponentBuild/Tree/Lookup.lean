import ComponentBuild.Tree.Basic
import ComponentBuild.Text.Quoted

namespace ComponentBuild

inductive FileFault
  | missing
  | present
  | notDirectory
  | isDirectory
  | tooLong
  | tooManyLinks
  | nullByte
  deriving DecidableEq

def FileFault.label? : FileFault → Option (Nat × String)
  | missing => some (2, "No such file or directory")
  | present => some (17, "File exists")
  | notDirectory => some (20, "Not a directory")
  | isDirectory => some (21, "Is a directory")
  | tooLong => some (36, "File name too long")
  | tooManyLinks => some (40, "Too many levels of symbolic links")
  | nullByte => none

structure FileError where
  fault : FileFault
  path : Path
  deriving DecidableEq

def FileError.message (e : FileError) : String :=
  match e.fault.label? with
  | some (number, words) => s!"[Errno {number}] {words}: {Text.quoted e.path.text}"
  | none => nullByteText

def Name.isTooLong (n : Name) : Bool := 255 < n.text.utf8ByteSize

/-- What is wrong with a path before anything is looked up: 4096 bytes are too long. -/
def Path.fault? (p : Path) : Option FileFault :=
  if p.hasNullByte then some .nullByte
  else if 4096 ≤ p.text.utf8ByteSize then some .tooLong
  else none

namespace Tree

def startOf (base : Location) (p : Path) : Location := if p.isAbsolute then [] else base

def asDirectory (t : Tree) (create : Bool) (loc : Location) : Except FileFault Location :=
  if create then .error .isDirectory
  else if t.node? loc = some .directory then .ok loc
  else .error .notDirectory

/-- Goes through the segments from a location, handing over to `follow` at a link. With `create`
the last name need not be there. -/
def walkWith (t : Tree) (create : Bool)
    (follow : Location → List Segment → Except FileFault Location) :
    Location → List Segment → Except FileFault Location
  | loc, [] => .ok loc
  | loc, s :: rest =>
    match t.node? loc with
    | none => .error .missing
    | some .directory =>
      match s with
      | .up => walkWith t create follow loc.dropLast rest
      | .entry n =>
        if n.isTooLong then .error .tooLong
        else match t.node? (loc ++ [n]) with
          | none => if create && rest.isEmpty then .ok (loc ++ [n]) else .error .missing
          | some (.link target) =>
            let found := follow (startOf loc target.path) (target.path.segments ++ rest)
            if target.slashed && rest.isEmpty then found.bind (t.asDirectory create) else found
          | some _ => walkWith t create follow (loc ++ [n]) rest
    | some _ => .error .notDirectory

def walk (t : Tree) (create : Bool) : Nat → Location → List Segment → Except FileFault Location
  | 0 => t.walkWith create fun _ _ => .error .tooManyLinks
  | links + 1 => t.walkWith create (t.walk create links)

def linkLimit : Nat := 40

def locateWith (t : Tree) (create : Bool) (base : Location) (p : Path) :
    Except FileFault Location :=
  match p.fault? with
  | some fault => .error fault
  | none => t.walk create linkLimit (startOf base p) p.segments

def locate (t : Tree) (base : Location) (p : Path) : Except FileFault Location :=
  t.locateWith false base p

def locateNew (t : Tree) (base : Location) (p : Path) : Except FileFault Location :=
  t.locateWith true base p

def find (t : Tree) (base : Location) (p : Path) : Except FileFault Node :=
  match t.locate base p with
  | .error e => .error e
  | .ok loc => match t.node? loc with
    | some node => .ok node
    | none => .error .missing

def exists? (t : Tree) (base : Location) (p : Path) : Bool :=
  match t.find base p with
  | .ok _ => true
  | .error _ => false

def isFile (t : Tree) (base : Location) (p : Path) : Bool :=
  match t.find base p with
  | .ok (.file _) => true
  | _ => false

def isDirectory (t : Tree) (base : Location) (p : Path) : Bool :=
  match t.find base p with
  | .ok .directory => true
  | _ => false

/-- Asks about the node at a path. Nothing is true of what is not there; only what is too long
cannot be asked about. -/
def ask (t : Tree) (base : Location) (p : Path) (isTrue : Node → Bool) : Except FileError Bool :=
  match t.find base p with
  | .ok node => .ok (isTrue node)
  | .error .tooLong => .error ⟨.tooLong, p⟩
  | .error _ => .ok false

def locateEntry (t : Tree) (base : Location) (dir : Path) (n : Name) :
    Except FileFault Location :=
  match (dir.child n).fault?, t.locate base dir with
  | some fault, _ => .error fault
  | none, .error fault => .error fault
  | none, .ok loc =>
    if t.node? loc ≠ some .directory then .error .notDirectory
    else if n.isTooLong then .error .tooLong
    else .ok (loc ++ [n])

def linkTarget? (t : Tree) (base : Location) (dir : Path) (n : Name) : Option Path :=
  match t.locateEntry base dir n with
  | .error _ => none
  | .ok loc => match t.node? loc with
    | some (.link target) => some target.path
    | _ => none

def read (t : Tree) (base : Location) (p : Path) : Except FileError (List UInt8) :=
  match t.find base p with
  | .ok (.file content) => .ok content
  | .ok _ => .error ⟨.isDirectory, p⟩
  | .error fault => .error ⟨fault, p⟩

theorem isFile_exists {t : Tree} {base : Location} {p : Path} (h : t.isFile base p = true) :
    t.exists? base p = true := by
  unfold isFile at h
  unfold exists?
  split at h <;> simp_all

end Tree

end ComponentBuild
