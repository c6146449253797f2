namespace ComponentBuild.Text

def sixBits? (c : Char) : Option Nat :=
  if 'A' ≤ c ∧ c ≤ 'Z' then some (c.toNat - 65)
  else if 'a' ≤ c ∧ c ≤ 'z' then some (c.toNat - 71)
  else if '0' ≤ c ∧ c ≤ '9' then some (c.toNat + 4)
  else if c = '+' then some 62
  else if c = '/' then some 63
  else none

def decodeGroup (seen bits pads : Nat) : List Char → Option (List UInt8)
  | [] => if seen = 0 then some [] else none
  | c :: cs =>
    if c = '=' then
      if 2 ≤ seen ∧ 4 ≤ seen + pads + 1 then some []
      else decodeGroup seen bits (if 2 ≤ seen then pads + 1 else pads) cs
    else match sixBits? c with
      | none => decodeGroup seen bits pads cs
      | some n =>
        match seen with
        | 0 => decodeGroup 1 n 0 cs
        | 1 => (decodeGroup 2 (n % 16) 0 cs).map (UInt8.ofNat (bits * 4 + n / 16) :: ·)
        | 2 => (decodeGroup 3 (n % 4) 0 cs).map (UInt8.ofNat (bits * 16 + n / 4) :: ·)
        | _ => (decodeGroup 0 0 0 cs).map (UInt8.ofNat (bits * 64 + n) :: ·)

def decodeBase64? (cs : List Char) : Option (List UInt8) :=
  if cs.all fun c => c.toNat < 0x80 then decodeGroup 0 0 0 cs else none

end ComponentBuild.Text
