import SceneLint.Yaml.Scan

/-!
# From YAML text to tokens

`tokens` cuts a text into tokens. A key needs no sign in front of it, so whatever may be a key is
remembered as a `Candidate` until its colon comes, on the same line and within 1024 characters;
then a `key` token is put in front of it, and a `blockMapping` token too where it opens a mapping.
A candidate that starts a line at the current indentation must become a key.
-/

namespace SceneLint.Yaml

/-- A `Candidate` is a place where a key may have started. -/
structure Candidate where
  tokenIndex : Nat
  required : Bool
  index : Nat
  line : Nat
  column : Nat

/-- A `Lexer` is the state between two tokens. -/
structure Lexer where
  cursor : Cursor
  tokens : Array Token
  flowLevel : Nat
  indent : Int
  indents : List Int
  keyAllowed : Bool
  candidates : List (Nat × Candidate)

namespace Lexer

/-- `start cs` is the state in front of the whole text. -/
def start (cs : List Char) : Lexer :=
  ⟨.start cs, #[], 0, -1, [], true, []⟩

/-- `inFlow l` says that the lexer is inside brackets or braces. -/
def inFlow (l : Lexer) : Bool :=
  l.flowLevel != 0

/-- `push token l` adds a token. -/
def push (token : Token) (l : Lexer) : Lexer :=
  { l with tokens := l.tokens.push token }

/-- `candidate? l` is the key candidate of the current flow level. -/
def candidate? (l : Lexer) : Option Candidate :=
  (l.candidates.find? (·.1 == l.flowLevel)).map (·.2)

/-- `forget l` drops the candidate of the current flow level. -/
def forget (l : Lexer) : Lexer :=
  { l with candidates := l.candidates.filter (·.1 != l.flowLevel) }

/-- `dismiss l` gives the candidate of the current flow level up, unless it must be a key. -/
def dismiss (l : Lexer) : Except Fault Lexer :=
  match l.candidate? with
  | some key => if key.required then .error .token else .ok l.forget
  | none => .ok l

/-- `remember l` notes that a key may start here. -/
def remember (l : Lexer) : Except Fault Lexer :=
  if l.keyAllowed then do
    let l ← l.dismiss
    let c := l.cursor
    let required := !l.inFlow && l.indent == (c.column : Int)
    let key : Candidate := ⟨l.tokens.size, required, c.index, c.line, c.column⟩
    .ok { l with candidates := (l.flowLevel, key) :: l.candidates }
  else .ok l

/-- `isStale c key` says that the colon of a candidate can no longer come. -/
def isStale (c : Cursor) (key : Candidate) : Bool :=
  key.line != c.line || 1024 < c.index - key.index

/-- `expire l` gives up the candidates whose colon can no longer come. -/
def expire (l : Lexer) : Except Fault Lexer :=
  if l.candidates.any fun (_, key) => isStale l.cursor key && key.required then .error .token
  else
    .ok { l with candidates := l.candidates.filter fun (_, key) => !isStale l.cursor key }

/-- `closeBlocks column indents indent` counts the block collections that are indented further than
`column`, and gives the indentation that stays. -/
def closeBlocks (column : Int) : List Int → Int → Nat × Int × List Int
  | [], indent => (0, indent, [])
  | outer :: indents, indent =>
      if column < indent then
        let (n, indent, indents) := closeBlocks column indents outer
        (n + 1, indent, indents)
      else (0, indent, outer :: indents)

/-- `unwind column l` closes the block collections that are indented further than `column`. -/
def unwind (column : Int) (l : Lexer) : Lexer :=
  if l.inFlow then l
  else
    let (n, indent, indents) := closeBlocks column l.indents l.indent
    { l with
      indent := indent
      indents := indents
      tokens := l.tokens ++ Array.replicate n Token.blockEnd }

/-- `deepen column l` makes `column` the indentation if it lies further right; it says whether it
did. -/
def deepen (column : Nat) (l : Lexer) : Bool × Lexer :=
  if l.indent < (column : Int) then
    (true, { l with indent := column, indents := l.indent :: l.indents })
  else (false, l)

/-- `skipToToken fuel l` moves over blanks, comments and line breaks. -/
def skipToToken : Nat → Lexer → Lexer
  | 0, l => l
  | fuel + 1, l =>
      let c := l.cursor.skipBlanks
      let c := if c.peek == '#' then c.skip (!endsLine ·) else c
      let (br, behind) := c.lineBreak
      if br.isEmpty then { l with cursor := c }
      else skipToToken fuel { l with cursor := behind, keyAllowed := l.keyAllowed || !l.inFlow }

/-- `single token l` adds a token of one character. -/
def single (token : Token) (l : Lexer) : Lexer :=
  { l with cursor := l.cursor.next }.push token

/-- `fetchDocumentMark token l` reads three dashes or points. -/
def fetchDocumentMark (token : Token) (l : Lexer) : Except Fault Lexer := do
  let l ← (l.unwind (-1)).dismiss
  .ok ({ l with cursor := l.cursor.forward 3, keyAllowed := false }.push token)

/-- `fetchDirective l` reads a directive. -/
def fetchDirective (l : Lexer) : Except Fault Lexer := do
  let l ← (l.unwind (-1)).dismiss
  let (directive, c) ← directiveAt l.cursor
  .ok ({ l with cursor := c, keyAllowed := false }.push (.directive directive))

/-- `fetchFlowStart token l` reads an opening bracket or brace. -/
def fetchFlowStart (token : Token) (l : Lexer) : Except Fault Lexer := do
  let l ← l.remember
  .ok ({ l with flowLevel := l.flowLevel + 1, keyAllowed := true }.single token)

/-- `fetchFlowEnd token l` reads a closing bracket or brace. -/
def fetchFlowEnd (token : Token) (l : Lexer) : Except Fault Lexer :=
  if l.inFlow then do
    let l ← l.dismiss
    .ok ({ l with flowLevel := l.flowLevel - 1, keyAllowed := false }.single token)
  else .error .layout

/-- `fetchFlowEntry l` reads a comma. -/
def fetchFlowEntry (l : Lexer) : Except Fault Lexer := do
  let l ← l.dismiss
  .ok ({ l with keyAllowed := true }.single .flowEntry)

/-- `openBlock token l` opens a block collection at the current column if it is new there. -/
def openBlock (token : Token) (l : Lexer) : Except Fault Lexer :=
  if l.inFlow then .ok l
  else if !l.keyAllowed then .error .token
  else
    let (opened, l) := l.deepen l.cursor.column
    .ok (if opened then l.push token else l)

/-- `fetchBlockEntry l` reads the dash of a sequence. -/
def fetchBlockEntry (l : Lexer) : Except Fault Lexer := do
  let l ← l.openBlock .blockSequence
  let l ← { l with keyAllowed := true }.dismiss
  .ok (l.single .blockEntry)

/-- `fetchKey l` reads the question mark of a key. -/
def fetchKey (l : Lexer) : Except Fault Lexer := do
  let l ← l.openBlock .blockMapping
  let l ← { l with keyAllowed := !l.inFlow }.dismiss
  .ok (l.single .key)

/-- `insertToken i token tokens` puts a token in front of the `i`-th one. -/
def insertToken (i : Nat) (token : Token) (tokens : Array Token) : Array Token :=
  tokens.extract 0 i ++ #[token] ++ tokens.extract i tokens.size

/-- `fetchValue l` reads the colon of a mapping; what stands before it on the line becomes its
key. -/
def fetchValue (l : Lexer) : Except Fault Lexer :=
  match l.candidate? with
  | some key =>
      let l := l.forget
      let l := { l with tokens := insertToken key.tokenIndex .key l.tokens }
      let (opened, l) := if l.inFlow then (false, l) else l.deepen key.column
      let l :=
        if opened then { l with tokens := insertToken key.tokenIndex .blockMapping l.tokens } else l
      .ok ({ l with keyAllowed := false }.single .value)
  | none => do
      let l ← l.openBlock .blockMapping
      let l ← { l with keyAllowed := !l.inFlow }.dismiss
      .ok (l.single .value)

/-- `fetchInline scan l` reads a token that may itself be a key. -/
def fetchInline (scan : Cursor → Except Fault (Token × Cursor)) (l : Lexer) :
    Except Fault Lexer := do
  let l ← l.remember
  let (token, c) ← scan l.cursor
  .ok ({ l with cursor := c, keyAllowed := false }.push token)

/-- `fetchBlockScalar folded l` reads a block scalar. -/
def fetchBlockScalar (folded : Bool) (l : Lexer) : Except Fault Lexer := do
  let l ← { l with keyAllowed := true }.dismiss
  let (text, c) ← blockScalarAt folded l.indent l.cursor
  .ok ({ l with cursor := c }.push (.scalar text false))

/-- `quotedToken double c` reads a quoted scalar. -/
def quotedToken (double : Bool) (c : Cursor) : Except Fault (Token × Cursor) := do
  let (text, c) ← quotedAt double (c.rest.length + 1) c.next
  .ok (.scalar (String.ofList text) false, c)

/-- `fetchPlain l` reads a plain scalar; a line break behind it allows a key again. -/
def fetchPlain (l : Lexer) : Except Fault Lexer := do
  let l ← l.remember
  let c := l.cursor
  let (text, ended, c) := plainAt l.inFlow (l.indent + 1) (c.rest.length + 1) [] false c
  .ok ({ l with cursor := c, keyAllowed := ended }.push (.scalar (String.ofList text) true))

/-- `indicators` are the characters that no plain scalar starts with. -/
def indicators : List Char := "-?:,[]\x7b\x7d#&*!|>'\"%@`".toList

/-- `startsPlain l` says that a plain scalar starts here. -/
def startsPlain (l : Lexer) : Bool :=
  let x := l.cursor.peek
  !(isGap x || indicators.contains x) ||
    (!isGap (l.cursor.peekAt 1) && (x == '-' || (!l.inFlow && (x == '?' || x == ':'))))

/-- `finish l` closes everything at the end of the text. -/
def finish (l : Lexer) : Except Fault Lexer := do
  let l ← (l.unwind (-1)).dismiss
  .ok ({ l with keyAllowed := false, candidates := [] }.push .streamEnd)

/-- `fetch l` reads the token that starts here. -/
def fetch (l : Lexer) : Except Fault Lexer :=
  let c := l.cursor
  let x := c.peek
  let spaced := isGap (c.peekAt 1)
  if x == '%' && c.column = 0 then l.fetchDirective
  else if x == '-' && c.column = 0 && c.atSeparator then l.fetchDocumentMark .documentStart
  else if x == '.' && c.column = 0 && c.atSeparator then l.fetchDocumentMark .documentEnd
  else if x == '[' then l.fetchFlowStart .flowSequence
  else if x == '\x7b' then l.fetchFlowStart .flowMapping
  else if x == ']' then l.fetchFlowEnd .flowSequenceEnd
  else if x == '\x7d' then l.fetchFlowEnd .flowMappingEnd
  else if x == ',' then l.fetchFlowEntry
  else if x == '-' && spaced then l.fetchBlockEntry
  else if x == '?' && (l.inFlow || spaced) then l.fetchKey
  else if x == ':' && (l.inFlow || spaced) then l.fetchValue
  else if x == '*' then
    l.fetchInline fun c => (referenceAt c).map fun (name, c) => (.alias name, c)
  else if x == '&' then
    l.fetchInline fun c => (referenceAt c).map fun (name, c) => (.anchor name, c)
  else if x == '!' then
    l.fetchInline fun c => (tagAt c).map fun ((handle, suffix), c) => (.tag handle suffix, c)
  else if x == '|' && !l.inFlow then l.fetchBlockScalar false
  else if x == '>' && !l.inFlow then l.fetchBlockScalar true
  else if x == '\'' then l.fetchInline (quotedToken false)
  else if x == '"' then l.fetchInline (quotedToken true)
  else if l.startsPlain then l.fetchPlain
  else .error .token

/-- `run fuel l` reads tokens up to the end of the text. -/
def run : Nat → Lexer → Except Fault Lexer
  | 0, _ => .error .token
  | fuel + 1, l => do
      let l := l.skipToToken (l.cursor.rest.length + 1)
      let l ← l.expire
      let l := l.unwind l.cursor.column
      if l.cursor.peek == endMark then l.finish
      else
        let l ← l.fetch
        run fuel l

end Lexer

/-- `dropMark cs` drops a byte order mark in front of the text. -/
def dropMark : List Char → List Char
  | [] => []
  | c :: cs => if c.toNat = 0xFEFF then cs else c :: cs

/-- `tokens cs` cuts a text into tokens. -/
def tokens (cs : List Char) : Except Fault (List Token) :=
  if cs.all isReadable then
    let cs := dropMark cs
    (Lexer.run (cs.length + 2) (.start cs)).map (·.tokens.toList)
  else .error .character

end SceneLint.Yaml
