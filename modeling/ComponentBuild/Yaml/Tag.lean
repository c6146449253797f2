import ComponentBuild.Text.Pieces
import ComponentBuild.Yaml.Fault

namespace ComponentBuild.Yaml

inductive Tag
  | null
  | bool
  | int
  | float
  | text
  | binary
  | moment
  | list
  | map
  | set
  | orderedMap
  | pairs
  | merge
  | defaultValue
  | other (name : String)
  deriving DecidableEq

namespace Tag

def standard : String := "tag:yaml.org,2002:"

def names : List (String × Tag) :=
  [("null", null), ("bool", bool), ("int", int), ("float", float), ("str", text),
    ("binary", binary), ("timestamp", moment), ("seq", list), ("map", map), ("set", set),
    ("omap", orderedMap), ("pairs", pairs), ("merge", merge), ("value", defaultValue)]

def ofName (name : String) : Tag :=
  ((names.map fun p => (standard ++ p.1, p.2)).lookup name).getD (.other name)

def isDigitOrBar (c : Char) : Bool := c.isDigit || c == '_'

def dropSign : List Char → List Char
  | '-' :: cs => cs
  | '+' :: cs => cs
  | cs => cs

def isBoolText (s : String) : Bool :=
  ["yes", "Yes", "YES", "no", "No", "NO", "true", "True", "TRUE", "false", "False", "FALSE", "on",
    "On", "ON", "off", "Off", "OFF"].contains s

def isNullText (s : String) : Bool := ["", "~", "null", "Null", "NULL"].contains s

def isRun (test : Char → Bool) (cs : List Char) : Bool := !cs.isEmpty && cs.all test

def isSixtieth : List Char → Bool
  | [c] => c.isDigit
  | [c, d] => '0' ≤ c && c ≤ '5' && d.isDigit
  | _ => false

def isSexagesimal (cs : List Char) : Bool :=
  match Text.pieces ':' cs with
  | first :: second :: rest => first.all isDigitOrBar && (second :: rest).all isSixtieth
  | _ => false

def isIntText (cs : List Char) : Bool :=
  match dropSign cs with
  | ['0'] => true
  | '0' :: 'b' :: rest => isRun (fun c => c == '0' || c == '1' || c == '_') rest
  | '0' :: 'x' :: rest =>
    isRun (fun c => c.isDigit || ('a' ≤ c && c ≤ 'f') || ('A' ≤ c && c ≤ 'F') || c == '_') rest
  | '0' :: rest => isRun (fun c => ('0' ≤ c && c ≤ '7') || c == '_') rest
  | c :: rest => c.isDigit && (rest.all isDigitOrBar || isSexagesimal (c :: rest))
  | [] => false

def endsFloat (cs : List Char) : Bool :=
  match cs.dropWhile isDigitOrBar with
  | [] => true
  | e :: s :: digits =>
    (e == 'e' || e == 'E') && (s == '-' || s == '+') && isRun Char.isDigit digits
  | _ => false

def isFloatText (cs : List Char) : Bool :=
  let unsigned := dropSign cs
  let whole := unsigned.takeWhile (· != '.')
  match unsigned.dropWhile (· != '.') with
  | [] => false
  | _ :: fraction =>
    if whole.isEmpty then
      ["inf", "Inf", "INF"].contains (String.ofList fraction)
        || (unsigned == cs && (["nan", "NaN", "NAN"].contains (String.ofList fraction)
          || (fraction.head?.any Char.isDigit && endsFloat fraction)))
    else
      whole.head?.any Char.isDigit
        && ((whole.all isDigitOrBar && endsFloat fraction)
          || (isSexagesimal whole && fraction.all isDigitOrBar))

def takeNumber? (least most : Nat) (cs : List Char) : Option (Nat × List Char) :=
  let digits := (cs.take most).takeWhile Char.isDigit
  if digits.length < least then none
  else some (digits.foldl (fun n d => n * 10 + (d.toNat - 48)) 0, cs.drop digits.length)

def takeMark? (c : Char) : List Char → Option (List Char)
  | [] => none
  | d :: cs => if d = c then some cs else none

def takeFraction : List Char → Nat × List Char
  | '.' :: cs =>
    let digits := (cs.takeWhile Char.isDigit).take 6
    let padded := digits ++ List.replicate (6 - digits.length) '0'
    (padded.foldl (fun n d => n * 10 + (d.toNat - 48)) 0, cs.dropWhile Char.isDigit)
  | cs => (0, cs)

def takeOffset? (cs : List Char) : Option (Option Int) :=
  match cs.dropWhile fun c => c == ' ' || c == '\t' with
  | [] => if cs.isEmpty then some none else none
  | ['Z'] => some (some 0)
  | sign :: rest =>
    if sign != '-' && sign != '+' then none
    else do
      let (hours, rest) ← takeNumber? 1 2 rest
      let (minutes, rest) ← match rest with
        | [] => some (0, [])
        | _ => do takeNumber? 2 2 (← takeMark? ':' rest)
      if !rest.isEmpty then none
      let total : Int := (hours * 60 + minutes : Nat)
      return some (if sign = '-' then -total else total)

def takeTime? (cs : List Char) : Option (TimeOfDay × Option Int) := do
  let (hour, rest) ← takeNumber? 1 2 cs
  let (minute, rest) ← takeNumber? 2 2 (← takeMark? ':' rest)
  let (second, rest) ← takeNumber? 2 2 (← takeMark? ':' rest)
  let (micro, rest) := takeFraction rest
  return (⟨hour, minute, second, micro⟩, ← takeOffset? rest)

def moment? (cs : List Char) : Option Moment := do
  let (year, rest) ← takeNumber? 4 4 cs
  let (month, rest) ← takeNumber? 1 2 (← takeMark? '-' rest)
  let (day, rest) ← takeNumber? 1 2 (← takeMark? '-' rest)
  match rest with
  | [] => return ⟨year, month, day, none, none⟩
  | c :: rest =>
    let rest ←
      if c = 'T' ∨ c = 't' then some rest
      else if c = ' ' ∨ c = '\t' then some (rest.dropWhile fun c => c == ' ' || c == '\t')
      else none
    let (time, offset) ← takeTime? rest
    return ⟨year, month, day, some time, offset⟩

def isMomentText (cs : List Char) : Bool :=
  (moment? cs).any fun m => m.time.isSome || cs.length == 10

def ofLooks (s : String) : Tag :=
  let cs := s.toList
  if isBoolText s then bool
  else if isFloatText cs then float
  else if isIntText cs then int
  else if s = "<<" then merge
  else if isNullText s then null
  else if isMomentText cs then moment
  else if s = "=" then defaultValue
  else text

def ofPlain (s : String) : Tag :=
  match s.toList.getLast? with
  | some '\n' => if s = "\n" then text else ofLooks (String.ofList s.toList.dropLast)
  | _ => ofLooks s

end Tag

end ComponentBuild.Yaml
