/-!
The fewest decimal digits that single out a binary floating-point number. A decimal belongs to the
number when it lies between the midpoints to the two neighbours; for each count of digits the two
points of the decimal grid around the number are tried, and the nearer one that belongs wins.
-/

namespace ComponentBuild.Decimal

/-- A positive number `mantissa * 2 ^ exponent`; `narrow` when the neighbour below is half as far
as the one above. -/
structure Binary where
  mantissa : Nat
  exponent : Int
  narrow : Bool

def twoTo (n : Nat) : Nat := Nat.pow 2 n

def tenTo (n : Nat) : Nat := Nat.pow 10 n

def Binary.ofBits (bits : Nat) : Binary :=
  let fraction : Nat := bits % twoTo 52
  let field : Nat := bits / twoTo 52 % twoTo 11
  if field = 0 then ⟨fraction, -1074, false⟩
  else ⟨fraction + twoTo 52, (field : Int) - 1075, fraction = 0 && 1 < field⟩

/-- The factors `(a, b)` that turn the comparison of `d * 10 ^ power` with `k` quarters of the
last binary place into that of `d * a` with `k * b`. -/
def Binary.factors (x : Binary) (power : Int) : Nat × Nat :=
  let quarter := x.exponent - 2
  (tenTo power.toNat * twoTo (-quarter).toNat, twoTo quarter.toNat * tenTo (-power).toNat)

/-- Whether `d * 10 ^ power` is closer to the number than to its neighbours, a midpoint counting
for an even mantissa. -/
def Binary.owns (x : Binary) (d : Nat) (power : Int) : Bool :=
  let (a, b) := x.factors power
  let low := (4 * x.mantissa - if x.narrow then 1 else 2) * b
  let high := (4 * x.mantissa + 2) * b
  if x.mantissa % 2 = 0 then low ≤ d * a && d * a ≤ high else low < d * a && d * a < high

def digitCount (n : Nat) : Nat := (Nat.toDigits 10 n).length

def Binary.top (x : Binary) : Int :=
  let (a, b) := x.factors (-400)
  (digitCount (4 * x.mantissa * b / a) : Int) - 400

def Binary.candidate (x : Binary) (count : Nat) : Option (Nat × Int) :=
  let power := x.top - count
  let (a, b) := x.factors power
  let exact := 4 * x.mantissa * b
  let below := exact / a
  let above := below + 1
  let rest := exact - below * a
  let nearer := if 2 * rest < a || (2 * rest == a && below % 2 == 0) then below else above
  let farther := if nearer = below then above else below
  if x.owns nearer power then some (nearer, power)
  else if x.owns farther power then some (farther, power)
  else none

def Binary.shortest (x : Binary) : Nat × Int :=
  ((List.range 17).findSome? fun i => x.candidate (i + 1)).getD (x.mantissa, x.exponent)

end ComponentBuild.Decimal
