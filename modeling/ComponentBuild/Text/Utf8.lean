namespace ComponentBuild.Text

def isTail (b : UInt8) : Bool := 0x80 ≤ b && b < 0xC0

def tailBits (b : UInt8) : Nat := b.toNat % 64

def decodeUtf8 : List UInt8 → Option (List Char)
  | [] => some []
  | a :: rest =>
    if a < 0x80 then (decodeUtf8 rest).map (Char.ofNat a.toNat :: ·)
    else match rest with
      | b :: rest =>
        if 0xC2 ≤ a && a < 0xE0 && isTail b then
          (decodeUtf8 rest).map (Char.ofNat (a.toNat % 32 * 64 + tailBits b) :: ·)
        else match rest with
          | c :: rest =>
            if 0xE0 ≤ a && a < 0xF0 && isTail b && isTail c
                && !(a == 0xE0 && b < 0xA0) && !(a == 0xED && 0xA0 ≤ b) then
              (decodeUtf8 rest).map
                (Char.ofNat ((a.toNat % 16 * 64 + tailBits b) * 64 + tailBits c) :: ·)
            else match rest with
              | d :: rest =>
                if 0xF0 ≤ a && a < 0xF5 && isTail b && isTail c && isTail d
                    && !(a == 0xF0 && b < 0x90) && !(a == 0xF4 && 0x90 ≤ b) then
                  (decodeUtf8 rest).map (Char.ofNat
                    (((a.toNat % 8 * 64 + tailBits b) * 64 + tailBits c) * 64 + tailBits d) :: ·)
                else none
              | [] => none
          | [] => none
      | [] => none

def encodeChar (c : Char) : List UInt8 :=
  let n := c.toNat
  let byte (k : Nat) : UInt8 := UInt8.ofNat k
  if n < 0x80 then [byte n]
  else if n < 0x800 then [byte (0xC0 + n / 64), byte (0x80 + n % 64)]
  else if n < 0x10000 then
    [byte (0xE0 + n / 4096), byte (0x80 + n / 64 % 64), byte (0x80 + n % 64)]
  else
    [byte (0xF0 + n / 262144), byte (0x80 + n / 4096 % 64), byte (0x80 + n / 64 % 64),
      byte (0x80 + n % 64)]

def encodeUtf8 (cs : List Char) : List UInt8 := cs.flatMap encodeChar

def utf8Bytes (s : String) : List UInt8 := encodeUtf8 s.toList

def unifyNewlines : List Char → List Char
  | '\r' :: '\n' :: cs => '\n' :: unifyNewlines cs
  | '\r' :: cs => '\n' :: unifyNewlines cs
  | c :: cs => c :: unifyNewlines cs
  | [] => []

end ComponentBuild.Text
