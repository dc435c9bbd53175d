import SceneLint.Text.Quoted

/-!
# Reading octets as UTF-8

`decode` reads octets as text or names the first ill-formed sequence: where it starts, which octets
of it were read, and why it was refused. A sequence is refused as soon as no continuation can make
it well formed, so the octets of a refusal are the longest start of the sequence that could still
have been completed, and never none.
-/

namespace SceneLint.Text.Utf8

/-- A `Reason` says why a sequence of octets is no character. -/
inductive Reason where
  | startByte
  | continuationByte
  | endOfData

/-- `Reason.text` is the wording of a reason. -/
def Reason.text : Reason → String
  | .startByte => "invalid start byte"
  | .continuationByte => "invalid continuation byte"
  | .endOfData => "unexpected end of data"

/-- A `Malformed` names the octets that could not be read and the offset of the first one. -/
structure Malformed where
  reason : Reason
  start : Nat
  first : UInt8
  count : Nat

/-- `Malformed.message` says which octets could not be decoded, and why. -/
def Malformed.message (m : Malformed) : String :=
  if m.count ≤ 1 then
    "'utf-8' codec can't decode byte 0x" ++ String.ofList (hexPadded 2 m.first.toNat) ++
      " in position " ++ toString m.start ++ ": " ++ m.reason.text
  else
    "'utf-8' codec can't decode bytes in position " ++ toString m.start ++ "-" ++
      toString (m.start + m.count - 1) ++ ": " ++ m.reason.text

/-- `isTail b` says that the octet continues a sequence. -/
def isTail (b : UInt8) : Bool :=
  0x80 ≤ b.toNat && b.toNat < 0xC0

/-- `isSecond lead b` says that `b` may follow `lead`, which excludes overlong forms, surrogates
and code points past the last plane. -/
def isSecond (lead b : UInt8) : Bool :=
  isTail b &&
    (match lead.toNat with
     | 0xE0 => 0xA0 ≤ b.toNat
     | 0xED => b.toNat < 0xA0
     | 0xF0 => 0x90 ≤ b.toNat
     | 0xF4 => b.toNat < 0x90
     | _ => true)

/-- `low b` is the part of a continuation octet that carries the code point. -/
def low (b : UInt8) : Nat :=
  b.toNat % 0x40

/-- `decodeFrom start bytes` reads the octets from the offset `start` on. -/
def decodeFrom (start : Nat) : List UInt8 → Except Malformed (List Char)
  | [] => .ok []
  | lead :: rest =>
      let n := lead.toNat
      let refuse (reason : Reason) (count : Nat) : Except Malformed (List Char) :=
        .error ⟨reason, start, lead, count⟩
      if n < 0x80 then
        match decodeFrom (start + 1) rest with
        | .error e => .error e
        | .ok cs => .ok (Char.ofNat n :: cs)
      else if n < 0xC2 || 0xF5 ≤ n then refuse .startByte 1
      else
        match rest with
        | [] => refuse .endOfData 1
        | b :: rest =>
            if !isSecond lead b then refuse .continuationByte 1
            else if n < 0xE0 then
              match decodeFrom (start + 2) rest with
              | .error e => .error e
              | .ok cs => .ok (Char.ofNat ((n - 0xC0) * 0x40 + low b) :: cs)
            else
              match rest with
              | [] => refuse .endOfData 2
              | c :: rest =>
                  if !isTail c then refuse .continuationByte 2
                  else if n < 0xF0 then
                    match decodeFrom (start + 3) rest with
                    | .error e => .error e
                    | .ok cs =>
                        .ok (Char.ofNat ((n - 0xE0) * 0x1000 + low b * 0x40 + low c) :: cs)
                  else
                    match rest with
                    | [] => refuse .endOfData 3
                    | d :: rest =>
                        if !isTail d then refuse .continuationByte 3
                        else
                          match decodeFrom (start + 4) rest with
                          | .error e => .error e
                          | .ok cs =>
                              .ok (Char.ofNat
                                ((n - 0xF0) * 0x40000 + low b * 0x1000 + low c * 0x40 + low d)
                                :: cs)

/-- `decode bytes` reads the octets as text. -/
def decode (bytes : List UInt8) : Except Malformed (List Char) :=
  decodeFrom 0 bytes

/-- `decodeChunked bytes` reads the octets as they arrive: a sequence cut off by the end of the
data is noticed only once the end is reached, and is then located from its own first octet. -/
def decodeChunked (bytes : List UInt8) : Except Malformed (List Char) :=
  match decode bytes with
  | .ok cs => .ok cs
  | .error m =>
      match m.reason with
      | .endOfData => .error { m with start := 0 }
      | _ => .error m

/-- `encode s` is the UTF-8 form of a text. -/
def encode (s : String) : List UInt8 :=
  s.toUTF8.toList

end SceneLint.Text.Utf8
