import ComponentBuild.Yaml.Lexeme

/-!
Tokens of a document. Blocks are opened and closed by their indentation. A key whose mark comes
only after it is remembered by its place among the tokens, and its token is put there when the mark
is met on the same line.
-/

namespace ComponentBuild.Yaml

inductive Token
  | directive (d : Lexeme.Directive)
  | documentStart
  | documentEnd
  | streamEnd
  | blockSequence
  | blockMapping
  | blockEnd
  | flowSequence
  | flowSequenceEnd
  | flowMapping
  | flowMappingEnd
  | blockEntry
  | flowEntry
  | key
  | value
  | reference (name : String)
  | anchor (name : String)
  | tag (handle : Option String) (suffix : String)
  | scalar (text : String) (plain : Bool)
  deriving DecidableEq

structure MaybeKey where
  place : Nat
  required : Bool
  index : Nat
  line : Nat
  column : Nat

/-- A position in a document and what has been read so far, the last token first. Keys are
remembered by how many brackets are open. -/
structure Reader where
  rest : List Char
  index : Nat
  line : Nat
  column : Nat
  flow : Nat
  indent : Int
  outer : List Int
  keyAllowed : Bool
  maybeKeys : List (Nat × MaybeKey)
  tokens : List Token

namespace Reader

def start (cs : List Char) : Reader :=
  ⟨if cs.head? = some '\ufeff' then cs.drop 1 else cs, 0, 0, 0, 0, -1, [], true, [], []⟩

def step (r : Reader) (c : Char) : Reader :=
  if isBreak c then { r with index := r.index + 1, line := r.line + 1, column := 0 }
  else if c = '\ufeff' then { r with index := r.index + 1 }
  else { r with index := r.index + 1, column := r.column + 1 }

def forward (r : Reader) (rest : List Char) : Reader :=
  { (r.rest.take (r.rest.length - rest.length)).foldl step r with rest := rest }

def put (r : Reader) (t : Token) : Reader := { r with tokens := t :: r.tokens }

def putAt (r : Reader) (place : Nat) (t : Token) : Reader :=
  { r with tokens := r.tokens.insertIdx (r.tokens.length - place) t }

def inFlow (r : Reader) : Bool := r.flow != 0

def closeBlocks (r : Reader) (column : Int) : Reader :=
  if r.inFlow then r
  else
    let deeper := (r.indent :: r.outer).takeWhile fun i => column < i
    match (r.indent :: r.outer).drop deeper.length with
    | [] => r
    | indent :: outer =>
      { r with
        indent := indent
        outer := outer
        tokens := List.replicate deeper.length .blockEnd ++ r.tokens }

def missingColon : Fault := .malformed "could not find expected ':'"

def dropKey (r : Reader) : Except Fault Reader :=
  if r.maybeKeys.any fun k => k.1 == r.flow && k.2.required then .error missingColon
  else .ok { r with maybeKeys := r.maybeKeys.filter fun k => k.1 != r.flow }

def isStale (r : Reader) (k : MaybeKey) : Bool := k.line != r.line || 1024 < r.index - k.index

def dropStaleKeys (r : Reader) : Except Fault Reader :=
  if r.maybeKeys.any fun k => r.isStale k.2 && k.2.required then .error missingColon
  else .ok { r with maybeKeys := r.maybeKeys.filter fun k => !r.isStale k.2 }

def saveKey (r : Reader) : Except Fault Reader :=
  if !r.keyAllowed then .ok r
  else
    let key : MaybeKey :=
      ⟨r.tokens.length, !r.inFlow && r.indent == (r.column : Int), r.index, r.line, r.column⟩
    r.dropKey.map fun r => { r with maybeKeys := (r.flow, key) :: r.maybeKeys }

def allowKey (r : Reader) (b : Bool) : Reader := { r with keyAllowed := b }

def indentTo (r : Reader) (column : Nat) : Reader :=
  { r with indent := column, outer := r.indent :: r.outer }

def openBlock (r : Reader) (t : Token) : Reader :=
  if r.indent < (r.column : Int) then (r.indentTo r.column).put t else r

def mark (r : Reader) (width : Nat) (t : Token) : Reader := (r.forward (r.rest.drop width)).put t

def atDirective (r : Reader) : Bool := r.column == 0 && r.rest.head? == some '%'

def readEnd (r : Reader) : Except Fault Reader := do
  let r ← (r.closeBlocks (-1)).dropKey
  return ({ r with maybeKeys := [] }.allowKey false).put .streamEnd

def readDirective (r : Reader) : Except Fault Reader := do
  let r ← (r.closeBlocks (-1)).dropKey
  let (d, rest) ← Lexeme.directive (r.rest.drop 1)
  return ((r.allowKey false).forward rest).put (.directive d)

def readDocumentMark (r : Reader) (t : Token) : Except Fault Reader := do
  let r ← (r.closeBlocks (-1)).dropKey
  return (r.allowKey false).mark 3 t

def readFlowStart (r : Reader) (t : Token) : Except Fault Reader := do
  let r ← r.saveKey
  return ({ r with flow := r.flow + 1 }.allowKey true).mark 1 t

def readFlowEnd (r : Reader) (t : Token) : Except Fault Reader := do
  let r ← r.dropKey
  return ({ r with flow := r.flow - 1 }.allowKey false).mark 1 t

def readFlowEntry (r : Reader) : Except Fault Reader := do
  let r ← (r.allowKey true).dropKey
  return r.mark 1 .flowEntry

def readBlockEntry (r : Reader) : Except Fault Reader := do
  if !r.inFlow && !r.keyAllowed then throw (.malformed "sequence entries are not allowed here")
  let r := if r.inFlow then r else r.openBlock .blockSequence
  let r ← (r.allowKey true).dropKey
  return r.mark 1 .blockEntry

def readKey (r : Reader) : Except Fault Reader := do
  if !r.inFlow && !r.keyAllowed then throw (.malformed "mapping keys are not allowed here")
  let r := if r.inFlow then r else r.openBlock .blockMapping
  let r ← (r.allowKey (!r.inFlow)).dropKey
  return r.mark 1 .key

def readValue (r : Reader) : Except Fault Reader :=
  match r.maybeKeys.lookup r.flow with
  | some k =>
    let r := { r with maybeKeys := r.maybeKeys.filter fun k => k.1 != r.flow }
    let r := r.putAt k.place .key
    let r :=
      if !r.inFlow && decide (r.indent < (k.column : Int)) then
        (r.indentTo k.column).putAt k.place .blockMapping
      else r
    .ok ((r.allowKey false).mark 1 .value)
  | none => do
    if !r.inFlow && !r.keyAllowed then throw (.malformed "mapping values are not allowed here")
    let r := if r.inFlow then r else r.openBlock .blockMapping
    let r ← (r.allowKey (!r.inFlow)).dropKey
    return r.mark 1 .value

def readNode {α : Type} (r : Reader) (lexeme : List Char → Except Fault (α × List Char))
    (skip : Nat) (token : α → Token) : Except Fault Reader := do
  let r ← r.saveKey
  let (a, rest) ← lexeme (r.rest.drop skip)
  return ((r.allowKey false).forward rest).put (token a)

def readBlock (r : Reader) (folded : Bool) : Except Fault Reader := do
  let r ← (r.allowKey true).dropKey
  let (text, rest) ← Lexeme.block folded r.indent (r.rest.drop 1)
  return (r.forward rest).put (.scalar (String.ofList text) false)

def readQuoted (r : Reader) (mark : Char) : Except Fault Reader :=
  r.readNode (Lexeme.quoted mark (r.rest.length + 1)) 1 fun text =>
    .scalar (String.ofList text) false

def readPlain (r : Reader) : Except Fault Reader := do
  let r ← r.saveKey
  let (text, rest, broken) :=
    Lexeme.plain r.inFlow (r.indent + 1) (r.rest.length + 1) [] false r.rest
  return ((r.allowKey broken).forward rest).put (.scalar (String.ofList text) true)

def startsPlain (r : Reader) (c : Char) (after : List Char) : Bool :=
  !("-?:,[]\x7b\x7d#&*!|>'\"%@`".toList.contains c) && !atBlank [c]
    || (!atBlank after && (c == '-' || (!r.inFlow && (c == '?' || c == ':'))))

def read (r : Reader) : Except Fault Reader := do
  let (broken, rest) := Lexeme.gap false r.rest
  let r := r.forward rest
  let r ← (if broken && !r.inFlow then r.allowKey true else r).dropStaleKeys
  let r := r.closeBlocks r.column
  match r.rest with
  | [] => r.readEnd
  | c :: after =>
    if r.atDirective then r.readDirective
    else if r.column = 0 ∧ c = '-' ∧ atDocumentMark r.rest then r.readDocumentMark .documentStart
    else if r.column = 0 ∧ c = '.' ∧ atDocumentMark r.rest then r.readDocumentMark .documentEnd
    else if c = '[' then r.readFlowStart .flowSequence
    else if c = '\x7b' then r.readFlowStart .flowMapping
    else if c = ']' then r.readFlowEnd .flowSequenceEnd
    else if c = '\x7d' then r.readFlowEnd .flowMappingEnd
    else if c = ',' then r.readFlowEntry
    else if c = '-' ∧ atBlank after then r.readBlockEntry
    else if c = '?' ∧ (r.inFlow ∨ atBlank after) then r.readKey
    else if c = ':' ∧ (r.inFlow ∨ atBlank after) then r.readValue
    else if c = '*' then r.readNode Lexeme.anchor 1 .reference
    else if c = '&' then r.readNode Lexeme.anchor 1 .anchor
    else if c = '!' then r.readNode Lexeme.tag 0 fun t => .tag t.1 t.2
    else if c = '|' ∧ !r.inFlow then r.readBlock false
    else if c = '>' ∧ !r.inFlow then r.readBlock true
    else if c = '\'' ∨ c = '"' then r.readQuoted c
    else if r.startsPlain c after then r.readPlain
    else throw (.malformed "found a character that cannot start any token")

def settledTokens (r : Reader) : List Token :=
  let pending := r.maybeKeys.filter fun k => !r.isStale k.2
  r.tokens.reverse.take (pending.foldl (fun least k => min least k.2.place) r.tokens.length)

/-- Reads to the end of the document or to a fault; each token takes at least one character. -/
def readAll : Nat → Reader → List Token × Option Fault
  | 0, r => (r.tokens.reverse, none)
  | fuel + 1, r =>
    match r.read with
    | .error fault => (r.settledTokens, some fault)
    | .ok r' =>
      if r'.tokens.head? = some .streamEnd then (r'.tokens.reverse, none) else readAll fuel r'

end Reader

def Token.scan (cs : List Char) : List Token × Option Fault :=
  if cs.all isDocumentChar then (Reader.start cs).readAll (cs.length + 2)
  else ([], some (.malformed "special characters are not allowed"))

end ComponentBuild.Yaml
