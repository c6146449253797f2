import ComponentBuild.Decimal.Shortest

namespace ComponentBuild.Decimal

def dropZeros (digits : List Char) (power : Int) : List Char × Int :=
  let kept := (digits.reverse.dropWhile (· == '0')).reverse
  (kept, power + (digits.length - kept.length : Nat))

def exponentText (e : Int) : List Char :=
  let digits := Nat.toDigits 10 e.natAbs
  'e' :: (if e < 0 then '-' else '+') :: (if digits.length < 2 then '0' :: digits else digits)

def layout (digits : List Char) (point : Int) : List Char :=
  if -4 < point ∧ point ≤ 16 then
    if point ≤ 0 then '0' :: '.' :: List.replicate (-point).toNat '0' ++ digits
    else
      let whole := digits.take point.toNat
      let zeros := List.replicate (point.toNat - digits.length) '0'
      let fraction := digits.drop point.toNat
      whole ++ zeros ++ '.' :: (if fraction.isEmpty then ['0'] else fraction)
  else
    match digits with
    | [] => []
    | [d] => d :: exponentText (point - 1)
    | d :: ds => d :: '.' :: ds ++ exponentText (point - 1)

def text (f : Float) : String :=
  if f.isNaN then "nan"
  else
    let bits := f.toBits.toNat
    let sign := if bits / twoTo 63 = 1 then ['-'] else []
    if f.isInf then String.ofList (sign ++ ['i', 'n', 'f'])
    else
      let x := Binary.ofBits bits
      if x.mantissa = 0 then String.ofList (sign ++ ['0', '.', '0'])
      else
        let (digits, power) := x.shortest
        let (digits, power) := dropZeros (Nat.toDigits 10 digits) power
        String.ofList (sign ++ layout digits (power + digits.length))

end ComponentBuild.Decimal
