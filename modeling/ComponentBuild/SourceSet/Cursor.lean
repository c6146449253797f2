import ComponentBuild.SourceSet.Listing

/-!
The source files of a set one at a time. A cursor reads the patterns of its set when it is first
asked and lists a directory when it comes to it, so it follows a tree that changes meanwhile.
-/

namespace ComponentBuild

inductive Pending
  | files (dir : List Name) (names : List Name)
  | directories (dir : List Name) (names : List Name)

structure Walk where
  root : Path
  includes : List Pattern
  excludes : List Pattern
  pending : List Pending

inductive CursorState
  | fresh
  | walking (walk : Walk)
  | ended

/-- Files are named against the root that was found when the cursor was made. -/
structure Cursor where
  namingRoot : Path
  state : CursorState

namespace Walk

abbrev Found := Option (List Name × List Pending)

def wanted (w : Walk) (s : SourceSet) (names : List Name) : Bool :=
  s.selects w.includes w.excludes names && SourceSet.isSource names

def firstFile (w : Walk) (s : SourceSet) (dir : List Name) : List Name → Found
  | [] => none
  | n :: ns =>
    if w.wanted s (dir ++ [n]) then some (dir ++ [n], [.files dir ns])
    else w.firstFile s dir ns

def firstBelow (w : Walk) (t : Tree) (enter : List Name → Found) (dir : List Name) :
    List Name → Found
  | [] => none
  | d :: ds =>
    if t.isLink (w.root.below dir) d then w.firstBelow t enter dir ds
    else match enter (dir ++ [d]) with
      | some (found, left) => some (found, left ++ [.directories dir ds])
      | none => w.firstBelow t enter dir ds

def enter (w : Walk) (s : SourceSet) (t : Tree) : Nat → List Name → Found
  | 0, _ => none
  | depth + 1, dir =>
    match t.listing? (w.root.below dir) with
    | none => none
    | some l =>
      let directories := l.directories.filter s.enters
      match w.firstFile s dir l.files with
      | some (found, left) => some (found, left ++ [.directories dir directories])
      | none => w.firstBelow t (w.enter s t depth) dir directories

def resume (w : Walk) (s : SourceSet) (t : Tree) : List Pending → Found
  | [] => none
  | p :: rest =>
    let found := match p with
      | .files dir names => w.firstFile s dir names
      | .directories dir names => w.firstBelow t (w.enter s t (t.height + 1)) dir names
    match found with
    | some (names, left) => some (names, left ++ rest)
    | none => w.resume s t rest

end Walk

def SourceSet.started (s : SourceSet) (host : Host) : Except CollectFault Walk :=
  match s.root host with
  | .error fault => .error (.root fault)
  | .ok root => do return ⟨root, ← patterns s.includes, ← patterns s.excludes, []⟩

namespace Cursor

def make (s : SourceSet) (host : Host) : Except RootFault Cursor :=
  (s.root host).map fun root => ⟨root, .fresh⟩

def deliver (c : Cursor) (w : Walk) : Walk.Found → Cursor × Except CollectFault (Option SourceFile)
  | none => ({ c with state := .ended }, .ok none)
  | some (names, left) =>
    match SourceFile.ofPath c.namingRoot (w.root.below names) with
    | .ok file => ({ c with state := .walking { w with pending := left } }, .ok (some file))
    | .error fault => ({ c with state := .ended }, .error fault)

/-- The next source file; a cursor that failed or came to its end stays there. -/
def next (c : Cursor) (s : SourceSet) (host : Host) :
    Cursor × Except CollectFault (Option SourceFile) :=
  match c.state with
  | .ended => (c, .ok none)
  | .walking w => c.deliver w (w.resume s host.tree w.pending)
  | .fresh =>
    match s.started host with
    | .error fault => ({ c with state := .ended }, .error fault)
    | .ok w => c.deliver w (w.enter s host.tree (host.tree.height + 1) [])

end Cursor

end ComponentBuild
