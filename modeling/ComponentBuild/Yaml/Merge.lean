import ComponentBuild.Yaml.Node

/-!
Merge keys. A mapping takes over the pairs of those that stand under a merge key, in front of its
own. The change is made to the mapping itself, so whatever else refers to it sees it too.
-/

namespace ComponentBuild.Yaml.Merge

def pairs? (nodes : Array Node) (n : Nat) : Option (List (Nat × Nat)) :=
  match nodes[n]?.map Node.content with
  | some (.mapping pairs) => some pairs
  | _ => none

def setPairs (nodes : Array Node) (n : Nat) (pairs : List (Nat × Nat)) : Array Node :=
  nodes.modify n fun node => { node with content := .mapping pairs }

def hasTag (nodes : Array Node) (tag : Tag) (n : Nat) : Bool :=
  nodes[n]?.map Node.tag == some tag

def settleKey (nodes : Array Node) (key : Nat) : Array Node :=
  if hasTag nodes .defaultValue key then
    nodes.modify key fun node => { node with tag := .text }
  else nodes

def nextKey (nodes : Array Node) (place : Nat) :
    List (Nat × Nat) → Array Node × Option (Nat × Nat)
  | [] => (nodes, none)
  | (key, value) :: rest =>
    if hasTag nodes .merge key then (nodes, some (place, value))
    else nextKey (settleKey nodes key) (place + 1) rest

def sources (nodes : Array Node) (value : Nat) : Except Fault (List Nat) :=
  match nodes[value]?.map Node.content with
  | some (.mapping _) => .ok [value]
  | some (.sequence items) => .ok items
  | _ => .error (.malformed "expected a mapping or a list of mappings for merging")

/-- Merges into a mapping from a place on, all that was found before that place being `merged`.
Each step removes a merge key, so there are no more steps than pairs in the document. -/
def mergeFrom : Nat → Array Node → Nat → Nat → List (Nat × Nat) → Except Fault (Array Node)
  | 0, nodes, _, _, _ => .ok nodes
  | fuel + 1, nodes, n, place, merged => do
    let pairs := (pairs? nodes n).getD []
    match nextKey nodes place (pairs.drop place) with
    | (nodes, none) => return setPairs nodes n (merged ++ pairs)
    | (nodes, some (place, value)) =>
      let nodes := setPairs nodes n (pairs.eraseIdx place)
      let (nodes, found) ← (← sources nodes value).foldlM (fun (nodes, found) source =>
        match pairs? nodes source with
        | none => .error (.malformed "expected a mapping for merging")
        | some _ => do
          let nodes ← mergeFrom fuel nodes source 0 []
          return (nodes, (pairs? nodes source).getD [] ++ found)) (nodes, [])
      mergeFrom fuel nodes n place (merged ++ found)

def pairCount (nodes : Array Node) : Nat :=
  nodes.foldl (fun count node => match node.content with
    | .mapping pairs => count + pairs.length
    | _ => count) 0

def mergeInto (nodes : Array Node) (n : Nat) : Except Fault (Array Node) :=
  mergeFrom (pairCount nodes + 1) nodes n 0 []

end ComponentBuild.Yaml.Merge
