import ComponentBuild.Decimal.Layout
import ComponentBuild.Decimal.Numeral
import ComponentBuild.Moment
import ComponentBuild.Text.Quoted

namespace ComponentBuild

inductive Value
  | null
  | bool (b : Bool)
  | int (i : Int)
  | float (x : Float)
  | text (s : String)
  | binary (bytes : List UInt8)
  | moment (m : Moment)
  | list (items : List Value)
  | map (pairs : List (Value × Value))
  | set (items : List Value)

namespace Value

def boolText (b : Bool) : String := if b then "True" else "False"

def isTruthy : Value → Bool
  | null => false
  | bool b => b
  | int i => i ≠ 0
  | float x => x.isNaN || x != 0.0
  | text s => s ≠ ""
  | binary bytes => !bytes.isEmpty
  | moment _ => true
  | list items => !items.isEmpty
  | map pairs => !pairs.isEmpty
  | set items => !items.isEmpty

mutual

def shown : Value → String
  | null => "None"
  | bool b => boolText b
  | int i => toString i
  | float x => Decimal.text x
  | text s => Text.quoted s
  | binary bytes => Text.quotedBytes bytes
  | moment m => m.text
  | list items => "[" ++ ", ".intercalate (shownAll items) ++ "]"
  | map pairs => "\x7b" ++ ", ".intercalate (shownPairs pairs) ++ "\x7d"
  | set items => "\x7b" ++ ", ".intercalate (shownAll items) ++ "\x7d"

def shownAll : List Value → List String
  | [] => []
  | v :: vs => v.shown :: shownAll vs

def shownPairs : List (Value × Value) → List String
  | [] => []
  | (k, v) :: rest => (k.shown ++ ": " ++ v.shown) :: shownPairs rest

end

def display : Value → String
  | text s => s
  | v => v.shown

def keyText : Value → Except Decimal.NumeralFault String
  | int i => Decimal.intText i
  | v => .ok v.display

def isScalar : Value → Bool
  | text _ => true
  | bool _ => true
  | int _ => true
  | float _ => true
  | _ => false

def scalarText? : Value → Except Decimal.NumeralFault (Option String)
  | text s => .ok (some s)
  | bool b => .ok (some (boolText b))
  | int i => (Decimal.intText i).map some
  | float x => .ok (some (Decimal.text x))
  | _ => .ok none

def wholeNumber? : Value → Option Int
  | bool b => some (if b then 1 else 0)
  | int i => some i
  | float x =>
    if x.isNaN || x.isInf then none
    else
      let bits := x.toBits.toNat
      let m := Decimal.Binary.ofBits bits
      let size := m.mantissa * Decimal.twoTo m.exponent.toNat
      let scale := Decimal.twoTo (-m.exponent).toNat
      let negative := bits / Decimal.twoTo 63 = 1
      if size % scale ≠ 0 then none
      else some (if negative then -(size / scale : Nat) else (size / scale : Nat))
  | _ => none

def sameKey (a b : Value) : Bool :=
  match a.wholeNumber?, b.wholeNumber? with
  | some i, some j => i == j
  | some _, none => false
  | none, some _ => false
  | none, none =>
    match a, b with
    | null, null => true
    | float x, float y => x == y
    | text s, text t => s == t
    | binary s, binary t => s == t
    | moment m, moment n => m.sameInstant n
    | _, _ => false

end Value

end ComponentBuild
