import ComponentBuild.Given
import ComponentBuild.Text.Digit
import ComponentBuild.Text.Pieces

/-!
Options on a command line. A long option may be shortened as long as one option starts that way, a
short one may have its text attached or be followed by more short ones, and after two dashes there
are no more options.
-/

namespace ComponentBuild.CommandLine

inductive Reading (α : Type)
  | setting (a : α)
  | help
  | refused (why : String)

structure OptionRule (α : Type) where
  spellings : List String
  takesText : Bool
  read : String → Given → Reading α

structure Grammar (α : Type) where
  program : String
  rules : List (OptionRule α)

inductive Stop
  | help (text : String)
  | usage (program message : String)
  deriving DecidableEq

structure OptionUse (α : Type) where
  rule : OptionRule α
  spelling : String
  attached : Option String

inductive Word (α : Type)
  | operand
  | dashes
  | known (use : OptionUse α)
  | unknown

abbrev Words (α : Type) := List (String × Word α)

variable {α : Type}

def OptionRule.title (r : OptionRule α) : String := "/".intercalate r.spellings

def OptionRule.refusal (r : OptionRule α) (why : String) : String := s!"argument {r.title}: {why}"

def OptionRule.form (r : OptionRule α) : String :=
  "[" ++ " | ".intercalate r.spellings ++ (if r.takesText then " TEXT]" else "]")

def isShort (spelling : String) : Bool := (spelling.toList.drop 1).head? != some '-'

def isNegativeNumber (s : String) : Bool :=
  match s.toList with
  | '-' :: cs =>
    let cs := if cs.getLast? = some '\n' then cs.dropLast else cs
    let whole := cs.takeWhile Text.isDigit
    match cs.dropWhile Text.isDigit with
    | [] => !whole.isEmpty
    | '.' :: fraction => !fraction.isEmpty && fraction.all Text.isDigit
    | _ => false
  | _ => false

namespace Grammar

def spelled (g : Grammar α) : List (String × OptionRule α) :=
  g.rules.flatMap fun r => r.spellings.map fun s => (s, r)

def rule? (g : Grammar α) (s : String) : Option (OptionRule α) := g.spelled.lookup s

def cutAtEquals (s : String) : String × Option String :=
  match Text.cut? '=' s.toList with
  | some (before, after) => (String.ofList before, some (String.ofList after))
  | none => (s, none)

def candidates (g : Grammar α) (s : String) : List (OptionUse α) :=
  if isShort s then
    let short := String.ofList (s.toList.take 2)
    g.spelled.filterMap fun (spelling, r) =>
      if spelling = short then some ⟨r, spelling, some (String.ofList (s.toList.drop 2))⟩
      else if s.toList.isPrefixOf spelling.toList then some ⟨r, spelling, none⟩
      else none
  else
    let (start, attached) := cutAtEquals s
    g.spelled.filterMap fun (spelling, r) =>
      if start.toList.isPrefixOf spelling.toList then some ⟨r, spelling, attached⟩ else none

def plainUse? (g : Grammar α) (s : String) : Option (OptionUse α) :=
  match g.rule? s with
  | some r => some ⟨r, s, none⟩
  | none =>
    let (start, attached) := cutAtEquals s
    if attached.isNone then none else (g.rule? start).map fun r => ⟨r, start, attached⟩

def usage (g : Grammar α) (message : String) : Stop := .usage g.program message

def helpText (g : Grammar α) : String :=
  s!"usage: {g.program} " ++ " ".intercalate (g.rules.map OptionRule.form) ++ "\n"

def word (g : Grammar α) (s : String) : Except Stop (Word α) :=
  if s.toList.head? ≠ some '-' then .ok .operand
  else match g.plainUse? s with
    | some use => .ok (.known use)
    | none =>
      if s = "-" then .ok .operand
      else match g.candidates s with
        | [use] => .ok (.known use)
        | [] =>
          if isNegativeNumber s || s.toList.contains ' ' then .ok .operand else .ok .unknown
        | uses =>
          let matching := ", ".intercalate (uses.map OptionUse.spelling)
          .error (g.usage s!"ambiguous option: {s} could match {matching}")

/-- All arguments are looked at before any of them takes effect. -/
def words (g : Grammar α) : List String → Except Stop (Words α)
  | [] => .ok []
  | s :: rest =>
    if s = "--" then .ok ((s, .dashes) :: rest.map fun t => (t, .operand))
    else do return (s, ← g.word s) :: (← g.words rest)

structure Effect (α : Type) where
  rule : OptionRule α
  spelling : String
  given : Given

structure Taken (α : Type) where
  effects : List (Effect α)
  rest : Words α

def ignoredText (r : OptionRule α) (text : String) : String :=
  r.refusal s!"ignored explicit argument {Text.quoted text}"

def onlyEffect (r : OptionRule α) (spelling : String) (given : Given) (rest : Words α) : Taken α :=
  ⟨[⟨r, spelling, given⟩], rest⟩

/-- Takes an option. What is attached to a short one without a text starts with the letter of the
next short option. -/
def take (g : Grammar α) (rest : Words α) : Nat → OptionUse α → Except String (Taken α)
  | 0, _ => .ok ⟨[], rest⟩
  | fuel + 1, use =>
    let r := use.rule
    match use.attached with
    | none =>
      if !r.takesText then .ok (onlyEffect r use.spelling (.text "") rest)
      else match rest with
        | (t, .operand) :: rest => .ok (onlyEffect r use.spelling (.text t) rest)
        | _ => .error (r.refusal "expected one argument")
    | some text =>
      if r.takesText then .ok (onlyEffect r use.spelling (.ofAttached text) rest)
      else match isShort use.spelling, text.toList with
        | true, c :: cs =>
          let next := String.ofList ['-', c]
          match g.rule? next with
          | none => .error (ignoredText r text)
          | some r' =>
            let attached := if cs.isEmpty then none else some (String.ofList cs)
            (g.take rest fuel ⟨r', next, attached⟩).map fun t =>
              { t with effects := ⟨r, use.spelling, .text ""⟩ :: t.effects }
        | _, _ => .error (ignoredText r text)

def takeUse (g : Grammar α) (rest : Words α) (use : OptionUse α) : Except Stop (Taken α) :=
  let length := (use.attached.map String.length).getD 0
  match g.take rest (length + 1) use with
  | .ok taken => .ok taken
  | .error message => .error (g.usage message)

def settings (g : Grammar α) : List (Effect α) → Except Stop (List α)
  | [] => .ok []
  | e :: rest =>
    match e.rule.read e.spelling e.given with
    | .setting a => (g.settings rest).map (a :: ·)
    | .help => .error (.help g.helpText)
    | .refused why => .error (g.usage (e.rule.refusal why))

structure Parsed (α : Type) where
  settings : List α
  operand : Option String
  extra : List String

def parseWords (g : Grammar α) : Nat → Bool → Words α → Except Stop (Parsed α)
  | 0, _, _ => .ok ⟨[], none, []⟩
  | _, _, [] => .ok ⟨[], none, []⟩
  | fuel + 1, wanted, (s, w) :: rest =>
    let withOperand (t : String) (rest : Words α) : Except Stop (Parsed α) :=
      (g.parseWords fuel false rest).map fun p => { p with operand := some t }
    let withExtra : Except Stop (Parsed α) :=
      (g.parseWords fuel wanted rest).map fun p => { p with extra := s :: p.extra }
    match w with
    | .unknown => withExtra
    | .known use => do
      let taken ← g.takeUse rest use
      let settings ← g.settings taken.effects
      let p ← g.parseWords fuel wanted taken.rest
      return { p with settings := settings ++ p.settings }
    | .operand =>
      if !wanted then withExtra
      else match rest with
        | (_, .dashes) :: rest => withOperand s rest
        | _ => withOperand s rest
    | .dashes =>
      if !wanted then withExtra
      else match rest with
        | (t, .operand) :: rest => withOperand t rest
        | _ => g.parseWords fuel false rest

def parse (g : Grammar α) (wanted : Bool) (arguments : List String) : Except Stop (Parsed α) := do
  let words ← g.words arguments
  g.parseWords (words.length + 1) wanted words

structure Commanded (α : Type) where
  settings : List α
  command : Option (String × List String)
  extra : List String

def commandWords (g : Grammar α) : Nat → Words α → Except Stop (Commanded α)
  | 0, _ => .ok ⟨[], none, []⟩
  | _, [] => .ok ⟨[], none, []⟩
  | fuel + 1, (s, w) :: rest =>
    let withExtra : Except Stop (Commanded α) :=
      (g.commandWords fuel rest).map fun c => { c with extra := s :: c.extra }
    match w with
    | .unknown => withExtra
    | .known use => do
      let taken ← g.takeUse rest use
      let settings ← g.settings taken.effects
      let c ← g.commandWords fuel taken.rest
      return { c with settings := settings ++ c.settings }
    | .operand => .ok ⟨[], some (s, rest.map Prod.fst), []⟩
    | .dashes =>
      match rest with
      | [] => withExtra
      | _ => .ok ⟨[], some (s, rest.map Prod.fst), []⟩

def parseCommand (g : Grammar α) (arguments : List String) : Except Stop (Commanded α) := do
  let words ← g.words arguments
  g.commandWords (words.length + 1) words

end Grammar

end ComponentBuild.CommandLine
