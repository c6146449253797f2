import ComponentBuild.Classpath.Basic

namespace ComponentBuild

structure ClassContext where
  locations : List Path
  parent : Option Nat
  closed : Bool
  deriving DecidableEq

/-- The contexts made so far, the newest first; a context is known by how many are older. -/
structure ClassContexts where
  newestFirst : List ClassContext

inductive ContextFault
  | closed
  deriving DecidableEq

def ContextFault.message : ContextFault → String
  | closed => "Class-loading context has been closed"

def ClassContext.close : ClassContext := ⟨[], none, true⟩

def ClassContext.extend (c : ClassContext) (inherited : List Path) : List Path :=
  inherited ++ c.locations.filter (· ∉ inherited)

namespace ClassContexts

def empty : ClassContexts := ⟨[]⟩

def get? (cs : ClassContexts) (id : Nat) : Option ClassContext := cs.newestFirst.reverse[id]?

def make (cs : ClassContexts) (locations : List Path) (parent : Option Nat) : ClassContexts × Nat :=
  (⟨⟨locations, parent, false⟩ :: cs.newestFirst⟩, cs.newestFirst.length)

def searchIn : List ClassContext → Nat → Except ContextFault (List Path)
  | [], _ => .ok []
  | c :: older, id =>
    if id = older.length then
      if c.closed then .error .closed
      else match c.parent with
        | none => .ok (c.extend [])
        | some parent => (searchIn older parent).map c.extend
    else searchIn older id

def searchPath (cs : ClassContexts) (id : Nat) : Except ContextFault (List Path) :=
  searchIn cs.newestFirst id

def closeIn : List ClassContext → Nat → List ClassContext
  | [], _ => []
  | c :: older, id =>
    if id = older.length then .close :: older else c :: closeIn older id

def close (cs : ClassContexts) (id : Nat) : ClassContexts := ⟨closeIn cs.newestFirst id⟩

def makeSystem (cs : ClassContexts) (host : Host) : ClassContexts × Nat :=
  cs.make ((host.systemPath.filter (· ≠ "")).map Path.ofText) none

def makeLoader (cs : ClassContexts) (host : Host) (cp : Classpath) (parent : Option Nat) :
    Except FileError (ClassContexts × Nat) :=
  (cp.entries.filterM host.exists?).map fun locations => cs.make locations parent

theorem length_closeIn (cs : List ClassContext) (id : Nat) :
    (closeIn cs id).length = cs.length := by
  induction cs with
  | nil => rfl
  | cons c cs ih =>
    simp only [closeIn]
    split <;> simp [ih]

end ClassContexts

end ComponentBuild
