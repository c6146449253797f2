import ComponentBuild.Decimal.Numeral
import ComponentBuild.Moment
import ComponentBuild.Text.Quoted

namespace ComponentBuild.Yaml

inductive Fault
  | malformed (what : String)
  | moment (fault : MomentFault)
  | notInt (base : Nat) (text : String)
  | numeral (fault : Decimal.NumeralFault)
  | notFloat (text : String)
  | hugeScale
  | notBool (text : String)
  | emptyNumber
  | notMoment
  | momentMapping
  | endless
  | codePoint
  | hugeCodePoint
  deriving DecidableEq

def shortened (text : String) : String := String.ofList ((Text.quoted text).toList.take 200)

def Fault.message : Fault → String
  | malformed what => what
  | moment fault => fault.message
  | notInt base text => s!"invalid literal for int() with base {base}: {shortened text}"
  | numeral fault => fault.message
  | notFloat text => s!"could not convert string to float: {Text.quoted text}"
  | hugeScale => "int too large to convert to float"
  | notBool text => Text.quoted text
  | emptyNumber => "string index out of range"
  | notMoment => "'NoneType' object has no attribute 'groupdict'"
  | momentMapping => "expected string or bytes-like object, got 'list'"
  | endless => "maximum recursion depth exceeded"
  | codePoint => "chr() arg not in range(0x110000)"
  | hugeCodePoint => "Python int too large to convert to C int"

end ComponentBuild.Yaml
