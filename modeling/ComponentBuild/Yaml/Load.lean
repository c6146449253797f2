import ComponentBuild.Yaml.Merge
import ComponentBuild.Yaml.Scalar

/-!
The value of a document. A collection is known by its kind before what is in it is looked at, and
is filled in the order in which the collections were come to; so of several faults the one that is
come to first counts, and a collection may hold itself.
-/

namespace ComponentBuild.Yaml

/-- A value that is no collection, with the node it comes from; there is only one value that is no
number by its looks, and it comes from no node. -/
structure Atom where
  value : Value
  source : Option Nat

namespace Atom

def sameKey (a b : Atom) : Bool := a.source == b.source || a.value.sameKey b.value

def put {α : Type} (key : Atom) (value : α) : List (Atom × α) → List (Atom × α)
  | [] => [(key, value)]
  | (k, v) :: rest =>
    if k.sameKey key then (k, value) :: rest else (k, v) :: put key value rest

end Atom

inductive Part
  | atom (a : Atom)
  | list (items : List Nat)
  | map (pairs : List (Atom × Nat))
  | set (keys : List Atom)
  | pairs (items : List (Nat × Nat))

namespace Part

def empty? : Tag → Option Part
  | .list => some (list [])
  | .map => some (map [])
  | .set => some (set [])
  | .orderedMap => some (pairs [])
  | .pairs => some (pairs [])
  | _ => none

end Part

structure Building where
  nodes : Array Node
  parts : Array (Option Part)
  waiting : List Nat

abbrev Build := StateT Building (Except Fault)

namespace Build

def fail {α : Type} (what : String) : Build α := throw (.malformed what)

def node (n : Nat) : Build Node := do
  match (← get).nodes[n]? with
  | some node => return node
  | none => fail "expected a node"

def setPart (n : Nat) (part : Part) : Build Unit :=
  modify fun s => { s with parts := s.parts.setIfInBounds n (some part) }

def scalarText (nodes : Array Node) : Nat → Nat → Except Fault String
  | 0, _ => .error .endless
  | fuel + 1, n =>
    match nodes[n]?.map Node.content with
    | some (.scalar text) => .ok text
    | some (.mapping pairs) =>
      match pairs.find? fun p => Merge.hasTag nodes .defaultValue p.1 with
      | some p => scalarText nodes fuel p.2
      | none => .error (.malformed "expected a scalar")
    | _ => .error (.malformed "expected a scalar")

def atom (n : Nat) : Build Atom := do
  let nodes := (← get).nodes
  let node ← node n
  match Scalar.reader? node.tag with
  | none => fail "found an unknown tag"
  | some read =>
    let text ← scalarText nodes (nodes.size + 1) n
    if let (.moment, .mapping _) := (node.tag, node.content) then throw .momentMapping
    return ⟨← read text, if Scalar.isNoNumber node.tag text then none else some n⟩

def part (n : Nat) : Build Part := do
  match (← get).parts[n]? with
  | some (some part) => return part
  | _ =>
    match Part.empty? (← node n).tag with
    | some part =>
      setPart n part
      modify fun s => { s with waiting := n :: s.waiting }
      return part
    | none =>
      let part := .atom (← atom n)
      setPart n part
      return part

def entry (pair : Nat × Nat) : Build Atom := do
  match ← part pair.1 with
  | .atom key =>
    discard (part pair.2)
    return key
  | _ => fail "found a collection as a key"

def entries (n : Nat) : Build (List (Atom × Nat)) := do
  let s ← get
  let nodes ← Merge.mergeInto s.nodes n
  set { s with nodes := nodes }
  ((Merge.pairs? nodes n).getD []).foldlM (fun found p => do
    return (← entry p).put p.2 found) []

def single (n : Nat) : Build (Nat × Nat) := do
  match (← node n).content with
  | .mapping [pair] =>
    discard (part pair.1)
    discard (part pair.2)
    return pair
  | _ => fail "expected a mapping of length 1"

def filled (n : Nat) : Build Part := do
  let node ← node n
  match node.tag, node.content with
  | .list, .sequence items =>
    items.forM fun item => discard (part item)
    return .list items
  | .map, .mapping _ => return .map (← entries n)
  | .set, .mapping _ => return .set ((← entries n).map Prod.fst)
  | .orderedMap, .sequence items => return .pairs (← items.mapM single)
  | .pairs, .sequence items => return .pairs (← items.mapM single)
  | _, _ => fail "expected a collection of another kind"

/-- Fills the collections that wait, then those that were come to meanwhile. Each waits only once,
so there are no more rounds than nodes. -/
def fillAll : Nat → Build Unit
  | 0 => return
  | fuel + 1 => do
    match (← get).waiting with
    | [] => return
    | waiting =>
      modify fun s => { s with waiting := [] }
      waiting.reverse.forM fun n => do setPart n (← filled n)
      fillAll fuel

end Build

def unfold (parts : Array (Option Part)) : Nat → Nat → Value
  | 0, n =>
    match parts[n]?.join with
    | some (.atom a) => a.value
    | some (.map _) => .map []
    | some (.set _) => .set []
    | some _ => .list []
    | none => .null
  | depth + 1, n =>
    let inner := unfold parts depth
    match parts[n]?.join with
    | some (.atom a) => a.value
    | some (.list items) => .list (items.map inner)
    | some (.map pairs) => .map (pairs.map fun p => (p.1.value, inner p.2))
    | some (.set keys) => .set (keys.map Atom.value)
    | some (.pairs items) => .list (items.map fun p => .list [inner p.1, inner p.2])
    | none => .null

def Document.value (d : Document) (depth : Nat) : Except Fault Value := do
  let start : Building := ⟨d.nodes, d.nodes.map fun _ => none, []⟩
  let build : Build Unit := do
    discard (Build.part d.root)
    Build.fillAll (d.nodes.size + 1)
  let ((), s) ← build.run start
  return unfold s.parts depth d.root

def load (depth : Nat) (cs : List Char) : Except Fault Value := do
  match ← Document.read cs with
  | none => return .null
  | some d => d.value depth

end ComponentBuild.Yaml
