import ComponentBuild.Yaml.Tag
import ComponentBuild.Yaml.Token

namespace ComponentBuild.Yaml

inductive Content
  | scalar (text : String)
  | sequence (items : List Nat)
  | mapping (pairs : List (Nat × Nat))

structure Node where
  tag : Tag
  content : Content

structure Document where
  nodes : Array Node
  root : Nat

structure Nodes where
  tokens : List Token
  made : Array Node
  named : List (String × Nat)

structure Scope where
  handles : List (String × String)
  lastFault : Fault

abbrev ReadNode := ReaderT Scope (StateT Nodes (Except Fault))

namespace ReadNode

def fail {α : Type} (what : String) : ReadNode α := throw (.malformed what)

def peek : ReadNode Token := do
  match (← get).tokens with
  | t :: _ => return t
  | [] => throw (← read).lastFault

def skip : ReadNode Unit := modify fun s => { s with tokens := s.tokens.drop 1 }

def accept (t : Token) : ReadNode Bool := do
  if (← peek) = t then
    skip
    return true
  else return false

def expect (t : Token) : ReadNode Unit := do
  if !(← accept t) then fail "unexpected token"

def isNext (ts : List Token) : ReadNode Bool := do return ts.contains (← peek)

def tagName (handle : Option String) (suffix : String) : ReadNode String := do
  match handle with
  | none => return suffix
  | some h =>
    match (← read).handles.lookup h with
    | some shorthand => return shorthand ++ suffix
    | none => fail "found an undefined tag handle"

def acceptAnchor : ReadNode (Option String) := do
  match ← peek with
  | .anchor name =>
    skip
    return some name
  | _ => return none

def acceptTag : ReadNode (Option (Option String × String)) := do
  match ← peek with
  | .tag handle suffix =>
    skip
    return some (handle, suffix)
  | _ => return none

def resolved (tag : Option (Option String × String)) : ReadNode (Option String) :=
  tag.mapM fun t => tagName t.1 t.2

def signs : ReadNode (Option String × Option String) := do
  match ← acceptAnchor with
  | some name =>
    let tag ← acceptTag
    return (some name, ← resolved tag)
  | none =>
    let tag ← acceptTag
    if tag.isNone then return (none, none)
    let name ← acceptAnchor
    return (name, ← resolved tag)

def make (name : Option String) (tag : Tag) (content : Content) : ReadNode Nat := do
  let s ← get
  let n := s.made.size
  let named ← match name with
    | none => pure s.named
    | some name =>
      if (s.named.lookup name).isSome then fail "found a duplicate anchor"
      pure ((name, n) :: s.named)
  set { s with made := s.made.push ⟨tag, content⟩, named := named }
  return n

def makeAround (name : Option String) (tag : Tag) (empty : Content) (content : ReadNode Content) :
    ReadNode Nat := do
  let n ← make name tag empty
  let content ← content
  modify fun s => { s with made := s.made.setIfInBounds n ⟨tag, content⟩ }
  return n

def nothing : ReadNode Nat := make none .null (.scalar "")

def givenTag (tag : Option String) (usual : Tag) : Tag :=
  match tag with
  | none => usual
  | some s => if s = "!" then usual else .ofName s

def scalarTag (tag : Option String) (text : String) (plain : Bool) : Tag :=
  givenTag tag (if plain || tag == some "!" then .ofPlain text else .text)

structure Place where
  inBlock : Bool
  listAtKey : Bool

def itemUnless (ends : List Token) (node : ReadNode Nat) : ReadNode Nat := do
  if ← isNext ends then nothing else node

def dashed (node : ReadNode Nat) (ends : List Token) : Nat → ReadNode (List Nat)
  | 0 => return []
  | fuel + 1 => do
    if ← accept .blockEntry then
      let item ← itemUnless ends node
      return item :: (← dashed node ends fuel)
    else return []

def blockPairs (node : ReadNode Nat) : Nat → ReadNode (List (Nat × Nat))
  | 0 => return []
  | fuel + 1 => do
    if ← accept .key then
      let key ← itemUnless [.key, .value, .blockEnd] node
      let value ←
        if ← accept .value then itemUnless [.key, .value, .blockEnd] node else nothing
      return (key, value) :: (← blockPairs node fuel)
    else
      expect .blockEnd
      return []

def flowValue (node : ReadNode Nat) (ending : Token) : ReadNode Nat := do
  if ← accept .value then itemUnless [.flowEntry, ending] node else nothing

def flowItems (node : ReadNode Nat) : Nat → Bool → ReadNode (List Nat)
  | 0, _ => return []
  | fuel + 1, first => do
    if ← accept .flowSequenceEnd then return []
    if !first then expect .flowEntry
    if ← accept .key then
      let key ← itemUnless [.value, .flowEntry, .flowSequenceEnd] node
      let value ← flowValue node .flowSequenceEnd
      let item ← make none .map (.mapping [(key, value)])
      return item :: (← flowItems node fuel false)
    else if ← accept .flowSequenceEnd then return []
    else
      let item ← node
      return item :: (← flowItems node fuel false)

def flowPairs (node : ReadNode Nat) : Nat → Bool → ReadNode (List (Nat × Nat))
  | 0, _ => return []
  | fuel + 1, first => do
    if ← accept .flowMappingEnd then return []
    if !first then expect .flowEntry
    if ← accept .key then
      let key ← itemUnless [.value, .flowEntry, .flowMappingEnd] node
      let value ← flowValue node .flowMappingEnd
      return (key, value) :: (← flowPairs node fuel false)
    else if ← accept .flowMappingEnd then return []
    else
      let key ← node
      let value ← nothing
      return (key, value) :: (← flowPairs node fuel false)

def listOf (items : ReadNode (List Nat)) : ReadNode Content := .sequence <$> items

def mapOf (pairs : ReadNode (List (Nat × Nat))) : ReadNode Content := .mapping <$> pairs

def node : Nat → Place → ReadNode Nat
  | 0, _ => fail "too many tokens"
  | fuel + 1, place => do
    if let .reference name := ← peek then
      skip
      match (← get).named.lookup name with
      | some n => return n
      | none => fail "found an undefined alias"
    let (name, tag) ← signs
    let inner (inBlock listAtKey : Bool) : ReadNode Nat := node fuel ⟨inBlock, listAtKey⟩
    let list (items : ReadNode (List Nat)) : ReadNode Nat :=
      makeAround name (givenTag tag .list) (.sequence []) (listOf items)
    let map (pairs : ReadNode (List (Nat × Nat))) : ReadNode Nat :=
      makeAround name (givenTag tag .map) (.mapping []) (mapOf pairs)
    let t ← peek
    match t with
    | .scalar text plain =>
      skip
      make name (scalarTag tag text plain) (.scalar text)
    | .flowSequence =>
      skip
      list (flowItems (inner false false) fuel true)
    | .flowMapping =>
      skip
      map (flowPairs (inner false false) fuel true)
    | _ =>
      if place.listAtKey && t == .blockEntry then
        list (dashed (inner true false) [.blockEntry, .key, .value, .blockEnd] fuel)
      else if place.inBlock && t == .blockSequence then
        skip
        list do
          let items ← dashed (inner true false) [.blockEntry, .blockEnd] fuel
          expect .blockEnd
          return items
      else if place.inBlock && t == .blockMapping then
        skip
        map (blockPairs (inner true true) fuel)
      else if name.isSome || tag.isSome then
        make name (givenTag tag .null) (.scalar "")
      else fail "expected the content of a node"

def skipDocumentEnds : Nat → ReadNode Unit
  | 0 => return
  | fuel + 1 => do if ← accept .documentEnd then skipDocumentEnds fuel

def directives : Nat → Bool → List (String × String) → ReadNode (List (String × String))
  | 0, _, handles => return handles
  | fuel + 1, versioned, handles => do
    match ← peek with
    | .directive (.version major) =>
      if versioned then fail "found a duplicate version"
      if major ≠ 1 then fail "found an incompatible version"
      skip
      directives fuel true handles
    | .directive (.tag handle shorthand) =>
      if (handles.lookup handle).isSome then fail "found a duplicate tag handle"
      skip
      directives fuel versioned (handles ++ [(handle, shorthand)])
    | .directive .unknown =>
      skip
      directives fuel versioned handles
    | _ => return handles

def usualHandles : List (String × String) := [("!", "!"), ("!!", Tag.standard)]

def atEnd (fuel : Nat) : ReadNode Unit := do
  skipDocumentEnds fuel
  if !(← isNext [.streamEnd]) then
    discard (directives fuel false [])
    fail "expected a single document"

def startsExplicitly : Token → Bool
  | .directive _ => true
  | .documentStart => true
  | .streamEnd => true
  | _ => false

def endsEmpty : Token → Bool
  | .documentEnd => true
  | t => startsExplicitly t

def document (fuel : Nat) : ReadNode (Option Nat) := do
  let place : Place := ⟨true, false⟩
  if !startsExplicitly (← peek) then
    let root ← node fuel place
    atEnd fuel
    return some root
  else
    skipDocumentEnds fuel
    if ← isNext [.streamEnd] then return none
    let handles ← directives fuel false []
    expect .documentStart
    let root ←
      if endsEmpty (← peek) then nothing
      else
        withReader (fun scope => { scope with handles := handles ++ usualHandles })
          (node fuel place)
    atEnd fuel
    return some root

end ReadNode

def Document.read (cs : List Char) : Except Fault (Option Document) := do
  let (tokens, fault) := Token.scan cs
  let scope : Scope := ⟨ReadNode.usualHandles, fault.getD (.malformed "unexpected end")⟩
  let (root, nodes) ← ((ReadNode.document (4 * tokens.length + 8)).run scope).run ⟨tokens, #[], []⟩
  return root.map fun r => ⟨nodes.made, r⟩

end ComponentBuild.Yaml
