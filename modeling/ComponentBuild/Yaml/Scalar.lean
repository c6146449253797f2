import ComponentBuild.Decimal.Reading
import ComponentBuild.Text.Base64
import ComponentBuild.Text.Case
import ComponentBuild.Value
import ComponentBuild.Yaml.Tag

namespace ComponentBuild.Yaml.Scalar

def boolWords : List (String × Bool) :=
  [("yes", true), ("no", false), ("true", true), ("false", false), ("on", true), ("off", false)]

def bool (s : String) : Except Fault Bool :=
  match boolWords.lookup (Text.lower s) with
  | some b => .ok b
  | none => .error (.notBool (Text.lower s))

def whole (base : Nat) (cs : List Char) : Except Fault Int :=
  let digits := Decimal.leadingDigits cs
  if base = 10 ∧ Decimal.longest < digits then .error (.numeral (.reading digits))
  else match Decimal.readInt? base cs with
    | some n => .ok n
    | none => .error (.notInt base (String.ofList cs))

def withoutBars (s : String) : List Char := s.toList.filter (· != '_')

def signed (cs : List Char) : Except Fault (Bool × List Char) :=
  if cs.isEmpty then .error .emptyNumber else .ok (Decimal.takeSign cs)

def intMagnitude (cs : List Char) : Except Fault Int :=
  match cs with
  | [] => .error .emptyNumber
  | ['0'] => .ok 0
  | '0' :: 'b' :: rest => whole 2 rest
  | '0' :: 'x' :: rest => whole 16 rest
  | '0' :: _ => whole 8 cs
  | _ =>
    if cs.contains ':' then do
      let parts ← (Text.pieces ':' cs).mapM (whole 10)
      return parts.foldl (fun n part => n * 60 + part) 0
    else whole 10 cs

def int (s : String) : Except Fault Int := do
  let (negative, cs) ← signed (withoutBars s)
  let n ← intMagnitude cs
  return if negative then -n else n

def fraction (cs : List Char) : Except Fault Float :=
  match Decimal.readFloat? cs with
  | some x => .ok x
  | none => .error (.notFloat (String.ofList cs))

def scaledPart (part : Float) (scale : Nat) : Except Fault Float :=
  let x := Float.ofScientific scale false 0
  if x.isInf then .error .hugeScale else .ok (part * x)

def sexagesimal (sum : Float) (scale : Nat) : List Float → Except Fault Float
  | [] => .ok sum
  | part :: before =>
    match scaledPart part scale with
    | .error fault => .error fault
    | .ok x => sexagesimal (sum + x) (scale * 60) before

def floatMagnitude (cs : List Char) : Except Fault Float :=
  if cs = ['.', 'i', 'n', 'f'] then .ok (1.0 / 0.0)
  else if cs = ['.', 'n', 'a', 'n'] then .ok (0.0 / 0.0)
  else if cs.contains ':' then do
    sexagesimal 0.0 1 (← (Text.pieces ':' cs).mapM fraction).reverse
  else fraction cs

def float (s : String) : Except Fault Float := do
  let (negative, cs) ← signed (withoutBars (Text.lower s))
  let x ← floatMagnitude cs
  return if negative then -x else x

def moment (s : String) : Except Fault Moment :=
  let cs := s.toList
  match Tag.moment? (if cs.getLast? = some '\n' then cs.dropLast else cs) with
  | none => .error .notMoment
  | some m => match m.fault? with
    | some fault => .error (.moment fault)
    | none => .ok m

def binary (s : String) : Except Fault (List UInt8) :=
  match Text.decodeBase64? s.toList with
  | some bytes => .ok bytes
  | none => .error (.malformed "failed to decode bytes")

def isNoNumber (tag : Tag) (s : String) : Bool :=
  tag == .float && (Decimal.takeSign (withoutBars (Text.lower s))).2 == ['.', 'n', 'a', 'n']

def reader? : Tag → Option (String → Except Fault Value)
  | .null => some fun _ => .ok .null
  | .bool => some fun s => (bool s).map .bool
  | .int => some fun s => (int s).map .int
  | .float => some fun s => (float s).map .float
  | .text => some fun s => .ok (.text s)
  | .binary => some fun s => (binary s).map .binary
  | .moment => some fun s => (moment s).map .moment
  | _ => none

end ComponentBuild.Yaml.Scalar
