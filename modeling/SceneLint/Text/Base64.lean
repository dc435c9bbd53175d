/-!
# Octets written in base 64

`decode` reads octets that are written as letters of six bits each. Whatever is no such letter is
passed over. Equals signs that fill up a group of four end the text, and a text may not end within
a group.
-/

namespace SceneLint.Text.Base64

/-- `sextet? c` is the six bits that a letter stands for. -/
def sextet? (c : Char) : Option Nat :=
  if 'A' ≤ c && c ≤ 'Z' then some (c.toNat - 0x41)
  else if 'a' ≤ c && c ≤ 'z' then some (c.toNat - 0x61 + 26)
  else if '0' ≤ c && c ≤ '9' then some (c.toNat - 0x30 + 52)
  else if c = '+' then some 62
  else if c = '/' then some 63
  else none

/-- `decodeFrom place bits signs cs` reads on where `place` letters of a group have been read, of
which `bits` are left over, and `signs` equals signs. -/
def decodeFrom : Nat → Nat → Nat → List Char → Option (List UInt8)
  | place, _, _, [] => if place = 0 then some [] else none
  | place, bits, signs, c :: cs =>
      if c = '=' then
        if place < 2 then decodeFrom place bits signs cs
        else if 4 ≤ place + (signs + 1) then some []
        else decodeFrom place bits (signs + 1) cs
      else
        match sextet? c with
        | none => decodeFrom place bits signs cs
        | some n =>
            match place with
            | 0 => decodeFrom 1 n 0 cs
            | 1 => (decodeFrom 2 (n % 16) 0 cs).map (UInt8.ofNat (bits * 4 + n / 16) :: ·)
            | 2 => (decodeFrom 3 (n % 4) 0 cs).map (UInt8.ofNat (bits * 16 + n / 4) :: ·)
            | _ => (decodeFrom 0 0 0 cs).map (UInt8.ofNat (bits * 64 + n) :: ·)

/-- `decode cs` is the octets that a text writes. -/
def decode (cs : List Char) : Option (List UInt8) :=
  decodeFrom 0 0 0 cs

end SceneLint.Text.Base64
