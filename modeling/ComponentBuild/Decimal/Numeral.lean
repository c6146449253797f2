import ComponentBuild.Decimal.Shortest

namespace ComponentBuild.Decimal

inductive NumeralFault
  | reading (digits : Nat)
  | writing
  deriving DecidableEq

def longest : Nat := 4300

def NumeralFault.message (fault : NumeralFault) : String :=
  let count := match fault with
    | reading digits => s!": value has {digits} digits"
    | writing => ""
  s!"Exceeds the limit ({longest} digits) for integer string conversion{count}; " ++
    "use sys.set_int_max_str_digits() to increase the limit"

def intText (i : Int) : Except NumeralFault String :=
  if i.natAbs < tenTo longest then .ok (toString i) else .error .writing

end ComponentBuild.Decimal
