import ComponentBuild.Text.Surrogate
import ComponentBuild.Text.Utf8
import ComponentBuild.Yaml.Fault

/-!
The pieces of text that a document is made of: gaps, names, and scalars in their plain, quoted and
block forms. Every function gives what it has read and the characters after it. Lines end in a line
feed, U+0085, U+2028 or U+2029; the first two are read as line feeds.
-/

namespace ComponentBuild.Yaml

def isBreak (c : Char) : Bool := c == '\n' || c == '\x85' || c == '\u2028' || c == '\u2029'

def isSpace (c : Char) : Bool := c == ' ' || c == '\t'

def breakChar (c : Char) : Char := if c = '\x85' then '\n' else c

def atBlank : List Char → Bool
  | [] => true
  | c :: _ => isSpace c || isBreak c

def atGap : List Char → Bool
  | [] => true
  | c :: _ => c == ' ' || isBreak c

def atLineEnd : List Char → Bool
  | [] => true
  | c :: _ => isBreak c

def atDocumentMark : List Char → Bool
  | '-' :: '-' :: '-' :: cs => atBlank cs
  | '.' :: '.' :: '.' :: cs => atBlank cs
  | _ => false

def isDocumentChar (c : Char) : Bool :=
  let n := c.toNat
  n == 9 || n == 10 || n == 13 || (0x20 ≤ n && n ≤ 0x7E) || n == 0x85 || (0xA0 ≤ n && n ≤ 0xD7FF)
    || (0xE000 ≤ n && n ≤ 0xFFFD) || 0x10000 ≤ n

namespace Lexeme

def dropLine (cs : List Char) : List Char := cs.dropWhile fun c => !isBreak c

def dropSpaces (cs : List Char) : List Char := cs.dropWhile (· == ' ')

def gap : Bool → List Char → Bool × List Char
  | _, [] => (false, [])
  | true, c :: cs => if isBreak c then (true, (gap false cs).2) else gap true cs
  | false, c :: cs =>
    if c = ' ' then gap false cs
    else if c = '#' then gap true cs
    else if isBreak c then (true, (gap false cs).2)
    else (false, c :: cs)

def ignoredLine (cs : List Char) : Except Fault (List Char) :=
  let cs := dropSpaces cs
  let cs := if cs.head? = some '#' then dropLine cs else cs
  if atLineEnd cs then .ok (cs.drop 1) else .error (.malformed "expected a comment or a line break")

def isNameChar (c : Char) : Bool :=
  ('0' ≤ c && c ≤ '9') || ('A' ≤ c && c ≤ 'Z') || ('a' ≤ c && c ≤ 'z') || c == '-' || c == '_'

def anchor (cs : List Char) : Except Fault (String × List Char) :=
  let name := cs.takeWhile isNameChar
  let rest := cs.dropWhile isNameChar
  let ends := atBlank rest || rest.head?.any fun c => "?:,]\x7d%@`".toList.contains c
  if name.isEmpty || !ends then .error (.malformed "expected an anchor name")
  else .ok (String.ofList name, rest)

def hexValue? (c : Char) : Option Nat :=
  if '0' ≤ c ∧ c ≤ '9' then some (c.toNat - 48)
  else if 'a' ≤ c ∧ c ≤ 'f' then some (c.toNat - 87)
  else if 'A' ≤ c ∧ c ≤ 'F' then some (c.toNat - 55)
  else none

def hexNumber? (width : Nat) (cs : List Char) : Option (Nat × List Char) :=
  let digits := (cs.take width).filterMap hexValue?
  if digits.length = width then some (digits.foldl (fun n d => n * 16 + d) 0, cs.drop width)
  else none

def isUriChar (c : Char) : Bool :=
  ('0' ≤ c && c ≤ '9') || ('A' ≤ c && c ≤ 'Z') || ('a' ≤ c && c ≤ 'z')
    || "-;/?:@&=+$,_.!~*'()[]".toList.contains c

def uriBytes : List Char → Except Fault (List UInt8 × List Char)
  | '%' :: a :: b :: cs =>
    match hexNumber? 2 [a, b] with
    | none => .error (.malformed "expected two hexadecimal digits")
    | some (n, _) => (uriBytes cs).map fun r => (UInt8.ofNat n :: r.1, r.2)
  | '%' :: _ => .error (.malformed "expected two hexadecimal digits")
  | cs => .ok ([], cs)

def uriRuns : Nat → List Char → Except Fault (List Char × List Char)
  | 0, cs => .ok ([], cs)
  | fuel + 1, cs =>
    let run := cs.takeWhile isUriChar
    let rest := cs.dropWhile isUriChar
    if rest.head? = some '%' then
      match uriBytes rest with
      | .error fault => .error fault
      | .ok (bytes, rest) =>
        match Text.decodeUtf8 bytes with
        | none => .error (.malformed "expected well-formed bytes")
        | some decoded => (uriRuns fuel rest).map fun r => (run ++ decoded ++ r.1, r.2)
    else .ok (run, rest)

def uri (cs : List Char) : Except Fault (String × List Char) :=
  if cs.head?.any fun c => isUriChar c || c == '%' then
    (uriRuns (cs.length + 1) cs).map fun r => (String.ofList r.1, r.2)
  else .error (.malformed "expected a tag")

def tagHandle : List Char → Except Fault (String × List Char)
  | '!' :: cs =>
    if cs.head? = some ' ' then .ok ("!", cs)
    else match cs.dropWhile isNameChar with
      | '!' :: rest => .ok (String.ofList ('!' :: cs.takeWhile isNameChar ++ ['!']), rest)
      | _ => .error (.malformed "expected an exclamation mark")
  | _ => .error (.malformed "expected an exclamation mark")

def tag (cs : List Char) : Except Fault ((Option String × String) × List Char) := do
  let (tag, rest) ← match cs.drop 1 with
    | '<' :: inner => do
      let (suffix, rest) ← uri inner
      match rest with
      | '>' :: rest => pure ((none, suffix), rest)
      | _ => throw (.malformed "expected a closing angle bracket")
    | after =>
      if atBlank after then pure ((none, "!"), after)
      else do
        let word := after.takeWhile fun c => c != ' ' && !isBreak c
        let (handle, rest) ← if word.contains '!' then tagHandle cs else pure ("!", after)
        let (suffix, rest) ← uri rest
        pure ((some handle, suffix), rest)
  if atGap rest then return (tag, rest) else throw (.malformed "expected a blank after a tag")

inductive Directive
  | version (major : Nat)
  | tag (handle shorthand : String)
  | unknown
  deriving DecidableEq

def number (cs : List Char) : Except Fault (Nat × List Char) :=
  let digits := cs.takeWhile Char.isDigit
  if digits.isEmpty then .error (.malformed "expected a digit")
  else if Decimal.longest < digits.length then .error (.numeral (.reading digits.length))
  else .ok (digits.foldl (fun n d => n * 10 + (d.toNat - 48)) 0, cs.dropWhile Char.isDigit)

def directive (cs : List Char) : Except Fault (Directive × List Char) := do
  let name := String.ofList (cs.takeWhile isNameChar)
  let rest := cs.dropWhile isNameChar
  if name = "" || !atGap rest then throw (.malformed "expected a directive name")
  let (d, rest) ←
    if name = "YAML" then do
      let (major, rest) ← number (dropSpaces rest)
      match rest with
      | '.' :: rest => do
        let (_, rest) ← number rest
        if atGap rest then pure (Directive.version major, rest)
        else throw (.malformed "expected a blank after a version")
      | _ => throw (.malformed "expected a point in a version")
    else if name = "TAG" then do
      let (handle, rest) ← tagHandle (dropSpaces rest)
      if rest.head? ≠ some ' ' then throw (.malformed "expected a blank after a handle")
      let (shorthand, rest) ← uri (dropSpaces rest)
      if atGap rest then pure (Directive.tag handle shorthand, rest)
      else throw (.malformed "expected a blank after a tag")
    else pure (Directive.unknown, dropLine rest)
  return (d, ← ignoredLine rest)

def endsPlain (inFlow : Bool) (c : Char) (after : List Char) : Bool :=
  let atFlowMark := inFlow && after.head?.any fun d => ",[]\x7b\x7d".toList.contains d
  isSpace c || isBreak c || (c == ':' && (atBlank after || atFlowMark))
    || (inFlow && ",?[]\x7b\x7d".toList.contains c)

def plainRun (inFlow : Bool) : List Char → List Char × List Char
  | [] => ([], [])
  | c :: cs =>
    if endsPlain inFlow c cs then ([], c :: cs)
    else
      let r := plainRun inFlow cs
      (c :: r.1, r.2)

structure PlainGap where
  text : List Char
  rest : List Char
  column : Option Nat

def plainBreaks (column : Nat) : List Char → Option (List Char) × List Char × Nat
  | [] => (some [], [], column)
  | c :: cs =>
    if c = ' ' then plainBreaks (column + 1) cs
    else if isBreak c then
      if atDocumentMark cs then (none, cs, 0)
      else
        let r := plainBreaks 0 cs
        (r.1.map (breakChar c :: ·), r.2)
    else (some [], c :: cs, column)

def joinBreaks (first : Char) (others : List Char) : List Char :=
  if first ≠ '\n' then first :: others else if others.isEmpty then [' '] else others

def plainGap (cs : List Char) : PlainGap :=
  match cs.dropWhile (· == ' ') with
  | [] => ⟨cs, [], none⟩
  | c :: rest =>
    if !isBreak c then ⟨cs.takeWhile (· == ' '), c :: rest, none⟩
    else if atDocumentMark rest then ⟨[], rest, some 0⟩
    else match plainBreaks 0 rest with
      | (none, rest, column) => ⟨[], rest, some column⟩
      | (some others, rest, column) => ⟨joinBreaks (breakChar c) others, rest, some column⟩

def plain (inFlow : Bool) (indent : Int) : Nat → List Char → Bool → List Char →
    List Char × List Char × Bool
  | 0, _, broken, cs => ([], cs, broken)
  | fuel + 1, before, broken, cs =>
    let (run, rest) := plainRun inFlow cs
    if cs.head? = some '#' || run.isEmpty then ([], cs, broken)
    else
      let g := plainGap rest
      let outside := !inFlow && g.column.any fun column => (column : Int) < indent
      let (tail, rest) :=
        if g.text.isEmpty || g.rest.head? = some '#' || outside then ([], g.rest, g.column.isSome)
        else plain inFlow indent fuel g.text g.column.isSome g.rest
      (before ++ run ++ tail, rest)

def quotedBreaks : Bool → List Char → Except Fault (List Char × List Char)
  | _, [] => .ok ([], [])
  | lineStart, c :: cs =>
    if lineStart && atDocumentMark (c :: cs) then .error (.malformed "unexpected document mark")
    else if isSpace c then quotedBreaks false cs
    else if isBreak c then (quotedBreaks true cs).map fun r => (breakChar c :: r.1, r.2)
    else .ok ([], c :: cs)

def escapes : List (Char × Char) :=
  [('0', '\x00'), ('a', '\x07'), ('b', '\x08'), ('t', '\t'), ('\t', '\t'), ('n', '\n'),
    ('v', '\x0b'), ('f', '\x0c'), ('r', '\r'), ('e', '\x1b'), (' ', ' '), ('"', '"'), ('\\', '\\'),
    ('/', '/'), ('N', '\x85'), ('_', '\xa0'), ('L', '\u2028'), ('P', '\u2029')]

def escapeWidths : List (Char × Nat) := [('x', 2), ('u', 4), ('U', 8)]

def codeChar (n : Nat) : Except Fault Char :=
  if 0x7FFFFFFF < n then .error .hugeCodePoint
  else if 0x10FFFF < n then .error .codePoint
  else .ok (Text.ofCodePoint n)

def escape : List Char → Except Fault (List Char × List Char)
  | [] => .error (.malformed "unexpected end of a quoted scalar")
  | c :: cs =>
    match escapes.lookup c, escapeWidths.lookup c with
    | some d, _ => .ok ([d], cs)
    | none, some width =>
      match hexNumber? width cs with
      | none => .error (.malformed "expected hexadecimal digits")
      | some (n, rest) => (codeChar n).map fun d => ([d], rest)
    | none, none =>
      if isBreak c then quotedBreaks true cs else .error (.malformed "unknown escape character")

def quotedGap (cs : List Char) : Except Fault (List Char × List Char) :=
  match cs.dropWhile isSpace with
  | [] => .error (.malformed "unexpected end of a quoted scalar")
  | c :: rest =>
    if isBreak c then (quotedBreaks true rest).map fun r => (joinBreaks (breakChar c) r.1, r.2)
    else .ok (cs.takeWhile isSpace, c :: rest)

def quoted (mark : Char) : Nat → List Char → Except Fault (List Char × List Char)
  | 0, _ => .error (.malformed "unexpected end of a quoted scalar")
  | _, [] => .error (.malformed "unexpected end of a quoted scalar")
  | fuel + 1, c :: cs =>
    let onward (r : List Char × List Char) : Except Fault (List Char × List Char) :=
      (quoted mark fuel r.2).map fun q => (r.1 ++ q.1, q.2)
    if c = mark then
      if mark = '\'' ∧ cs.head? = some '\'' then onward (['\''], cs.drop 1) else .ok ([], cs)
    else if c = '\\' ∧ mark = '"' then
      match escape cs with
      | .error fault => .error fault
      | .ok r => onward r
    else if isSpace c || isBreak c then
      match quotedGap (c :: cs) with
      | .error fault => .error fault
      | .ok r => onward r
    else onward ([c], cs)

inductive Chomping
  | strip
  | clip
  | keep
  deriving DecidableEq

def chomping? (c : Char) : Option Chomping :=
  if c = '+' then some .keep else if c = '-' then some .strip else none

def increment (c : Char) : Except Fault (Option Nat) :=
  if c = '0' then .error (.malformed "an indentation of zero")
  else .ok (if c.isDigit then some (c.toNat - 48) else none)

def blockSigns (cs : List Char) : Except Fault (Chomping × Option Nat × List Char) := do
  let (chomping, step, rest) ← match cs with
    | [] => pure (Chomping.clip, none, [])
    | c :: after =>
      match chomping? c with
      | some chomping => do
        let step ← match after.head? with
          | some d => increment d
          | none => pure none
        pure (chomping, step, if step.isSome then after.drop 1 else after)
      | none => do
        let step ← increment c
        if step.isNone then pure (Chomping.clip, none, c :: after)
        else match after.head?.bind chomping? with
          | some chomping => pure (chomping, step, after.drop 1)
          | none => pure (Chomping.clip, step, after)
  if atGap rest then return (chomping, step, rest)
  else throw (.malformed "expected signs of a block scalar")

def blockStart (column widest : Nat) : List Char → List Char × Nat × Nat × List Char
  | [] => ([], widest, column, [])
  | c :: cs =>
    if c = ' ' then blockStart (column + 1) (max widest (column + 1)) cs
    else if isBreak c then
      let r := blockStart 0 widest cs
      (breakChar c :: r.1, r.2)
    else ([], widest, column, c :: cs)

def blockBreaks (indent column : Nat) : List Char → List Char × Nat × List Char
  | [] => ([], column, [])
  | c :: cs =>
    if c = ' ' ∧ column < indent then blockBreaks indent (column + 1) cs
    else if isBreak c then
      let r := blockBreaks indent 0 cs
      (breakChar c :: r.1, r.2)
    else ([], column, c :: cs)

def blockLines (folded : Bool) (indent : Nat) : Nat → List Char → Nat → List Char →
    List Char × List Char × List Char × List Char
  | 0, breaks, _, cs => ([], [], breaks, cs)
  | fuel + 1, breaks, column, cs =>
    if column ≠ indent ∨ cs.isEmpty then ([], [], breaks, cs)
    else
      let line := cs.takeWhile fun c => !isBreak c
      let rest := dropLine cs
      let ending := (rest.take 1).map breakChar
      let (others, next, rest) := blockBreaks indent 0 (rest.drop 1)
      if next = indent ∧ !rest.isEmpty then
        let even := !(cs.head?.any isSpace) && !(rest.head?.any isSpace)
        let glue :=
          if !(folded && ending == ['\n'] && even) then ending
          else if others.isEmpty then [' ']
          else []
        let r := blockLines folded indent fuel others next rest
        (breaks ++ line ++ glue ++ r.1, r.2)
      else (breaks ++ line, ending, others, rest)

def block (folded : Bool) (outer : Int) (cs : List Char) :
    Except Fault (List Char × List Char) := do
  let (chomping, step, rest) ← blockSigns cs
  let rest ← ignoredLine rest
  let least := (outer + 1).toNat.max 1
  let (indent, breaks, column, rest) := match step with
    | some n =>
      let indent := least + n - 1
      (indent, blockBreaks indent 0 rest)
    | none =>
      let (breaks, widest, column, rest) := blockStart 0 0 rest
      (max least widest, breaks, column, rest)
  let (text, ending, others, rest) := blockLines folded indent (rest.length + 1) breaks column rest
  let ending := if chomping = .strip then [] else ending
  let others := if chomping = .keep then others else []
  return (text ++ ending ++ others, rest)

end Lexeme

end ComponentBuild.Yaml
