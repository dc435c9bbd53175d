import SceneLint.Text.UnprintableTable

/-!
# Quoted text

`quoted s` writes a text between quotes so that every character is visible: single quotes unless
the text holds a single quote and no double one, backslash escapes for the quote, the backslash
and the common controls, and numeric escapes for whatever has no visible form. `quotedOctets` writes
octets in the same way.
-/

namespace SceneLint.Text

/-- `isPrintable c` says that `c` is shown as itself. -/
def isPrintable (c : Char) : Bool :=
  let n := c.toNat
  if n < 0x7F then 0x20 ≤ n
  else !unprintableRanges.any (fun range => range.1 ≤ n && n ≤ range.2)

/-- `hexDigit n` is the digit of value `n`, in lower case. -/
def hexDigit (n : Nat) : Char :=
  if n < 10 then Char.ofNat (0x30 + n) else Char.ofNat (0x57 + n)

/-- `hexPadded width n` writes `n` in base sixteen with exactly `width` digits. -/
def hexPadded : Nat → Nat → List Char
  | 0, _ => []
  | width + 1, n => hexPadded width (n / 16) ++ [hexDigit (n % 16)]

/-- `quotedChar quote c` is `c` as it stands between two `quote` characters. -/
def quotedChar (quote c : Char) : List Char :=
  if c = quote || c = '\\' then ['\\', c]
  else if c = '\n' then ['\\', 'n']
  else if c = '\r' then ['\\', 'r']
  else if c = '\t' then ['\\', 't']
  else if isPrintable c then [c]
  else if c.toNat < 0x100 then '\\' :: 'x' :: hexPadded 2 c.toNat
  else if c.toNat < 0x10000 then '\\' :: 'u' :: hexPadded 4 c.toNat
  else '\\' :: 'U' :: hexPadded 8 c.toNat

/-- `quoteFor cs` is the quote that needs fewer escapes: the single one unless only it occurs. -/
def quoteFor (cs : List Char) : Char :=
  if cs.contains '\'' && !cs.contains '"' then '"' else '\''

/-- `quoted s` is the text `s` between quotes. -/
def quoted (s : String) : String :=
  let quote := quoteFor s.toList
  String.ofList (quote :: s.toList.flatMap (quotedChar quote) ++ [quote])

/-- `quotedOctet quote octet` is an octet as it stands between two `quote` characters. -/
def quotedOctet (quote : Char) (octet : UInt8) : List Char :=
  if octet.toNat < 0x7F then quotedChar quote (Char.ofNat octet.toNat)
  else '\\' :: 'x' :: hexPadded 2 octet.toNat

/-- `quotedOctets octets` is octets between quotes, marked as such. -/
def quotedOctets (octets : List UInt8) : String :=
  let quote := quoteFor (octets.map fun octet => Char.ofNat octet.toNat)
  String.ofList ('b' :: quote :: octets.flatMap (quotedOctet quote) ++ [quote])

end SceneLint.Text
