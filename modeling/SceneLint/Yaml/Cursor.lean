/-!
# A place in a YAML text

`Cursor` is the text still to read with the line and column of its first character. Indentation is
meaning in YAML, so every scanner moves a cursor and can ask where it stands. The end of the text
is seen as the NUL character, which no readable text holds.
-/

namespace SceneLint.Yaml

/-- A `Fault` says at which level a document is not well formed. -/
inductive Fault where
  | character
  | token
  | layout
  | reference
  | tag
  | value (text : String)
deriving DecidableEq

/-- `endMark` is what is seen behind the last character. -/
def endMark : Char := Char.ofNat 0

/-- `isBreak c` says that `c` ends a line. -/
def isBreak (c : Char) : Bool :=
  c == '\n' || c == '\r' || c.toNat == 0x85 || c.toNat == 0x2028 || c.toNat == 0x2029

/-- `endsLine c` holds at line breaks and at the end of the text. -/
def endsLine (c : Char) : Bool :=
  c == endMark || isBreak c

/-- `endsWord c` holds at blanks, line breaks and the end of the text. -/
def endsWord (c : Char) : Bool :=
  c == ' ' || endsLine c

/-- `isGap c` holds at blanks, tabs, line breaks and the end of the text. -/
def isGap (c : Char) : Bool :=
  c == '\t' || endsWord c

/-- `isName c` says that `c` may stand in a name. -/
def isName (c : Char) : Bool :=
  c.isAlphanum || c == '-' || c == '_'

/-- `isReadable c` says that `c` may occur in a YAML text. -/
def isReadable (c : Char) : Bool :=
  let n := c.toNat
  n == 0x09 || n == 0x0A || n == 0x0D || (0x20 ≤ n && n ≤ 0x7E) || n == 0x85 ||
    (0xA0 ≤ n && n ≤ 0xFFFD) || 0x10000 ≤ n

/-- A `Cursor` is the text still to read and its place. -/
structure Cursor where
  rest : List Char
  index : Nat
  line : Nat
  column : Nat

namespace Cursor

/-- `start cs` stands in front of the whole text. -/
def start (cs : List Char) : Cursor := ⟨cs, 0, 0, 0⟩

/-- `peekAt c k` is the character `k` places ahead. -/
def peekAt (c : Cursor) (k : Nat) : Char :=
  c.rest.getD k endMark

/-- `peek c` is the next character. -/
def peek (c : Cursor) : Char :=
  c.peekAt 0

/-- `next c` moves over one character. -/
def next (c : Cursor) : Cursor :=
  match c.rest with
  | [] => c
  | x :: rest =>
      if isBreak x && !(x == '\r' && rest.head? == some '\n') then
        ⟨rest, c.index + 1, c.line + 1, 0⟩
      else if x.toNat = 0xFEFF then { c with rest := rest, index := c.index + 1 }
      else ⟨rest, c.index + 1, c.line, c.column + 1⟩

/-- `forward n c` moves over `n` characters. -/
def forward : Nat → Cursor → Cursor
  | 0, c => c
  | n + 1, c => forward n c.next

/-- `span p c` reads the characters that satisfy `p`. -/
def span (p : Char → Bool) (c : Cursor) : List Char × Cursor :=
  let run := c.rest.takeWhile p
  (run, c.forward run.length)

/-- `skip p c` moves over the characters that satisfy `p`. -/
def skip (p : Char → Bool) (c : Cursor) : Cursor :=
  (c.span p).2

/-- `skipBlanks c` moves over blanks. -/
def skipBlanks (c : Cursor) : Cursor :=
  c.skip (· == ' ')

/-- `lineBreak c` reads a line break; the common ones read as a line feed. -/
def lineBreak (c : Cursor) : List Char × Cursor :=
  match c.rest with
  | '\r' :: '\n' :: _ => (['\n'], c.forward 2)
  | x :: _ =>
      if x == '\n' || x == '\r' || x.toNat == 0x85 then (['\n'], c.next)
      else if isBreak x then ([x], c.next)
      else ([], c)
  | [] => ([], c)

/-- `atSeparator c` says that three dashes or points stand here as a word. -/
def atSeparator (c : Cursor) : Bool :=
  (c.rest.take 3 == ['-', '-', '-'] || c.rest.take 3 == ['.', '.', '.']) && isGap (c.peekAt 3)

/-- `toLineEnd c` moves over blanks and a comment and then over the line break, which must
follow. -/
def toLineEnd (c : Cursor) : Except Fault Cursor :=
  let c := c.skipBlanks
  let c := if c.peek == '#' then c.skip (!endsLine ·) else c
  if endsLine c.peek then .ok c.lineBreak.2 else .error .token

end Cursor

end SceneLint.Yaml
