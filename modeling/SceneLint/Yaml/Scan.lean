import SceneLint.Json.Reader
import SceneLint.Text.Utf8
import SceneLint.Yaml.Token

/-!
# Scanners for single YAML tokens

Directives, anchors, tags and the five forms of scalar. Each scanner starts at the first character
of its token and leaves the cursor behind the last one. Line breaks inside scalars are folded by
the rules of the form.
-/

namespace SceneLint.Yaml

open SceneLint.Json (hexValue?)

/-- `nameAt c` reads a name. -/
def nameAt (c : Cursor) : Except Fault (String × Cursor) :=
  let (name, c) := c.span isName
  if name.isEmpty then .error .token else .ok (String.ofList name, c)

/-- `numberAt c` reads a decimal number. -/
def numberAt (c : Cursor) : Except Fault (Nat × Cursor) :=
  let (ds, c) := c.span Char.isDigit
  if ds.isEmpty then .error .token else .ok (Json.digitsValue ds, c)

/-- `isUri c` says that `c` may stand in the name of a tag. -/
def isUri (c : Char) : Bool :=
  c.isAlphanum || "-;/?:@&=+$,_.!~*'()[]".toList.contains c

/-- `escapedOctets cs` reads octets written as a percent sign and two digits. -/
def escapedOctets : List Char → Except Fault (List UInt8 × List Char)
  | '%' :: a :: b :: rest =>
      match hexValue? a, hexValue? b with
      | some a, some b => do
          let (octets, rest) ← escapedOctets rest
          .ok (UInt8.ofNat (a * 16 + b) :: octets, rest)
      | _, _ => .error .token
  | '%' :: _ => .error .token
  | cs => .ok ([], cs)

/-- `uriChars fuel cs` reads the characters of a tag name with its escapes resolved, and counts
what it read. -/
def uriChars : Nat → List Char → Except Fault (List Char × Nat)
  | 0, _ => .ok ([], 0)
  | fuel + 1, cs =>
      match cs with
      | [] => .ok ([], 0)
      | c :: rest =>
          if c = '%' then do
            let (octets, behind) ← escapedOctets cs
            match Text.Utf8.decode octets with
            | .error _ => .error .token
            | .ok decoded =>
                let (more, n) ← uriChars fuel behind
                .ok (decoded ++ more, n + (cs.length - behind.length))
          else if isUri c then do
            let (more, n) ← uriChars fuel rest
            .ok (c :: more, n + 1)
          else .ok ([], 0)

/-- `uriAt c` reads the name of a tag. -/
def uriAt (c : Cursor) : Except Fault (String × Cursor) := do
  let (chars, n) ← uriChars (c.rest.length + 1) c.rest
  if n = 0 then .error .token else .ok (String.ofList chars, c.forward n)

/-- `handleAt c` reads the handle of a tag: an exclamation mark, or a name between two. -/
def handleAt (c : Cursor) : Except Fault (String × Cursor) :=
  if c.peek != '!' then .error .token
  else if c.peekAt 1 == ' ' then .ok ("!", c.next)
  else
    let (name, behind) := c.next.span isName
    if behind.peek == '!' then .ok (String.ofList ('!' :: name ++ ['!']), behind.next)
    else .error .token

/-- `directiveAt c` reads a directive and the rest of its line. -/
def directiveAt (c : Cursor) : Except Fault (Directive × Cursor) := do
  let (name, c) ← nameAt c.next
  if !endsWord c.peek then .error .token
  else
    let (directive, c) ← (
      if name = "YAML" then do
        let (major, c) ← numberAt c.skipBlanks
        if c.peek != '.' then .error .token
        else
          let (minor, c) ← numberAt c.next
          if endsWord c.peek then .ok (Directive.version major minor, c) else .error .token
      else if name = "TAG" then do
        let (handle, c) ← handleAt c.skipBlanks
        if c.peek != ' ' then .error .token
        else
          let (uri, c) ← uriAt c.skipBlanks
          if endsWord c.peek then .ok (Directive.tag handle uri, c) else .error .token
      else .ok (Directive.other, c.skip (!endsLine ·)) : Except Fault (Directive × Cursor))
    let c ← c.toLineEnd
    .ok (directive, c)

/-- `referenceAt c` reads the name behind an anchor or alias sign. -/
def referenceAt (c : Cursor) : Except Fault (String × Cursor) := do
  let (name, c) ← nameAt c.next
  if isGap c.peek || "?:,]\x7d%@`".toList.contains c.peek then .ok (name, c) else .error .token

/-- `tagAt c` reads a tag: verbatim, bare, or a handle and a suffix. -/
def tagAt (c : Cursor) : Except Fault ((Option String × String) × Cursor) := do
  let (tag, c) ← (
    if c.peekAt 1 == '<' then do
      let (suffix, c) ← uriAt (c.forward 2)
      if c.peek == '>' then .ok ((none, suffix), c.next) else .error .token
    else if isGap (c.peekAt 1) then .ok ((none, "!"), c.next)
    else
      let word := (c.rest.drop 1).takeWhile (!endsWord ·)
      if word.contains '!' then do
        let (handle, c) ← handleAt c
        let (suffix, c) ← uriAt c
        .ok ((some handle, suffix), c)
      else do
        let (suffix, c) ← uriAt c.next
        .ok ((some "!", suffix), c) : Except Fault ((Option String × String) × Cursor))
  if endsWord c.peek then .ok (tag, c) else .error .token

/-- `foldBreak first more` is the text of a line break in a folded form: one line feed becomes a
blank, further ones stay. -/
def foldBreak (first more : List Char) : List Char :=
  (if first ≠ ['\n'] then first else if more.isEmpty then [' '] else []) ++ more

/-! ## Block scalars -/

/-- A `Chomp` says what becomes of the line breaks at the end of a block scalar. -/
inductive Chomp where
  | strip
  | clip
  | keep

/-- `chompAt c` reads a sign for the final line breaks. -/
def chompAt (c : Cursor) : Option (Chomp × Cursor) :=
  if c.peek == '+' then some (.keep, c.next)
  else if c.peek == '-' then some (.strip, c.next)
  else none

/-- `incrementAt c` reads an indentation indicator. -/
def incrementAt (c : Cursor) : Option (Nat × Cursor) :=
  if c.peek.isDigit then some (c.peek.toNat - 0x30, c.next) else none

/-- `blockHeaderAt c` reads the indicators of a block scalar, in either order. -/
def blockHeaderAt (c : Cursor) : Except Fault ((Chomp × Option Nat) × Cursor) :=
  let (header, c) :=
    match chompAt c with
    | some (chomp, c) =>
        match incrementAt c with
        | some (n, c) => ((chomp, some n), c)
        | none => ((chomp, none), c)
    | none =>
        match incrementAt c with
        | some (n, c) =>
            match chompAt c with
            | some (chomp, c) => ((chomp, some n), c)
            | none => ((Chomp.clip, some n), c)
        | none => ((Chomp.clip, none), c)
  if header.2 = some 0 || !endsWord c.peek then .error .token else .ok (header, c)

/-- `leadingLines fuel widest breaks c` reads the empty lines in front of a block scalar; it gives
the widest column of blanks met and the line breaks. -/
def leadingLines : Nat → Nat → List Char → Cursor → Nat × List Char × Cursor
  | 0, widest, breaks, c => (widest, breaks, c)
  | fuel + 1, widest, breaks, c =>
      if c.peek == ' ' then leadingLines fuel (max widest c.next.column) breaks c.next
      else if isBreak c.peek then
        let (br, c) := c.lineBreak
        leadingLines fuel widest (breaks ++ br) c
      else (widest, breaks, c)

/-- `skipIndent indent c` moves over blanks up to a column. -/
def skipIndent (indent : Nat) (c : Cursor) : Cursor :=
  let blanks := (c.rest.takeWhile (· == ' ')).length
  c.forward (min blanks (indent - c.column))

/-- `emptyLines fuel indent breaks c` reads the empty lines inside a block scalar. -/
def emptyLines (indent : Nat) : Nat → List Char → Cursor → List Char × Cursor
  | 0, breaks, c => (breaks, c)
  | fuel + 1, breaks, c =>
      if isBreak c.peek then
        let (br, c) := c.lineBreak
        emptyLines indent fuel (breaks ++ br) (skipIndent indent c)
      else (breaks, c)

/-- `blockLines folded indent fuel breaks c` reads the lines of a block scalar. It gives the text,
the last line break, and the breaks of the empty lines behind. -/
def blockLines (folded : Bool) (indent : Nat) :
    Nat → List Char → Cursor → List Char × List Char × List Char × Cursor
  | 0, breaks, c => ([], [], breaks, c)
  | fuel + 1, breaks, c =>
      if c.column = indent && c.peek != endMark then
        let flush := c.peek != ' ' && c.peek != '\t'
        let (line, c) := c.span (!endsLine ·)
        let (br, c) := c.lineBreak
        let (more, c) := emptyLines indent (c.rest.length + 1) [] (skipIndent indent c)
        if c.column = indent && c.peek != endMark then
          let between :=
            if folded && br = ['\n'] && flush && c.peek != ' ' && c.peek != '\t' then
              (if more.isEmpty then [' '] else [])
            else br
          let (text, last, tail, c) := blockLines folded indent fuel more c
          (breaks ++ line ++ between ++ text, last, tail, c)
        else (breaks ++ line, br, more, c)
      else ([], [], breaks, c)

/-- `blockScalarAt folded parent c` reads a block scalar inside the indentation `parent`. -/
def blockScalarAt (folded : Bool) (parent : Int) (c : Cursor) :
    Except Fault (String × Cursor) := do
  let ((chomp, increment), c) ← blockHeaderAt c.next
  let c ← c.toLineEnd
  let least := (max (parent + 1) 1).toNat
  let (indent, breaks, c) :=
    match increment with
    | none =>
        let (widest, breaks, c) := leadingLines (c.rest.length + 1) 0 [] c
        (max least widest, breaks, c)
    | some n =>
        let indent := least + n - 1
        let (breaks, c) := emptyLines indent (c.rest.length + 1) [] (skipIndent indent c)
        (indent, breaks, c)
  let (text, last, tail, c) := blockLines folded indent (c.rest.length + 1) breaks c
  let text :=
    match chomp with
    | .strip => text
    | .clip => text ++ last
    | .keep => text ++ last ++ tail
  .ok (String.ofList text, c)

/-! ## Quoted scalars -/

/-- `quotedBreaks fuel breaks c` reads the line breaks behind the first one in a quoted scalar. -/
def quotedBreaks : Nat → List Char → Cursor → Except Fault (List Char × Cursor)
  | 0, breaks, c => .ok (breaks, c)
  | fuel + 1, breaks, c =>
      if c.atSeparator then .error .token
      else
        let c := c.skip fun x => x == ' ' || x == '\t'
        if isBreak c.peek then
          let (br, c) := c.lineBreak
          quotedBreaks fuel (breaks ++ br) c
        else .ok (breaks, c)

/-- `quotedSpaces c` reads blanks and line breaks inside a quoted scalar. -/
def quotedSpaces (c : Cursor) : Except Fault (List Char × Cursor) :=
  let (blanks, c) := c.span fun x => x == ' ' || x == '\t'
  if c.peek == endMark then .error .token
  else if isBreak c.peek then do
    let (br, c) := c.lineBreak
    let (more, c) ← quotedBreaks (c.rest.length + 1) [] c
    .ok (foldBreak br more, c)
  else .ok (blanks, c)

/-- `escapes` lists the characters that a backslash and a letter stand for. -/
def escapes : List (Char × Nat) :=
  [('0', 0), ('a', 7), ('b', 8), ('t', 9), ('\t', 9), ('n', 10), ('v', 11), ('f', 12), ('r', 13),
   ('e', 27), (' ', 32), ('"', 34), ('\\', 92), ('/', 47), ('N', 0x85), ('_', 0xA0),
   ('L', 0x2028), ('P', 0x2029)]

/-- `codeLength? c` is the number of digits of a character written by its number. -/
def codeLength? (c : Char) : Option Nat :=
  if c = 'x' then some 2 else if c = 'u' then some 4 else if c = 'U' then some 8 else none

/-- `codeAt length c` reads a character by its number in base sixteen. -/
def codeAt (length : Nat) (c : Cursor) : Except Fault (List Char × Cursor) :=
  let ds := c.rest.take length
  match ds.mapM hexValue? with
  | none => .error .token
  | some values =>
      if values.length < length then .error .token
      else
        let n := values.foldl (fun n d => n * 16 + d) 0
        if 0x110000 ≤ n then .error (.value "chr() arg not in range(0x110000)")
        else .ok ([Json.unitChar n], c.forward length)

/-- `escapeAt c` reads what follows a backslash. -/
def escapeAt (c : Cursor) : Except Fault (List Char × Cursor) :=
  match escapes.find? (·.1 == c.peek) with
  | some (_, n) => if c.rest.isEmpty then .error .token else .ok ([Char.ofNat n], c.next)
  | none =>
      match codeLength? c.peek with
      | some length => codeAt length c.next
      | none =>
          if isBreak c.peek then quotedBreaks (c.rest.length + 1) [] c.lineBreak.2
          else .error .token

/-- `quotedAt double fuel c` reads the rest of a quoted scalar up to its closing quote. -/
def quotedAt (double : Bool) : Nat → Cursor → Except Fault (List Char × Cursor)
  | 0, _ => .error .token
  | fuel + 1, c =>
      let x := c.peek
      let keep (text : List Char) (c : Cursor) : Except Fault (List Char × Cursor) := do
        let (more, c) ← quotedAt double fuel c
        .ok (text ++ more, c)
      if double && x == '"' then .ok ([], c.next)
      else if !double && x == '\'' then
        if c.peekAt 1 == '\'' then keep ['\''] (c.forward 2) else .ok ([], c.next)
      else if double && x == '\\' then do
        let (text, c) ← escapeAt c.next
        keep text c
      else if isGap x then do
        let (text, c) ← quotedSpaces c
        keep text c
      else keep [x] c.next

/-! ## Plain scalars -/

/-- `plainRun flow cs` counts the characters of a word of a plain scalar; `flow` says that it
stands inside brackets or braces. -/
def plainRun (flow : Bool) : List Char → Nat
  | [] => 0
  | c :: rest =>
      let ahead := rest.headD endMark
      if isGap c then 0
      else if c == ':' && (isGap ahead || (flow && ",[]\x7b\x7d".toList.contains ahead)) then 0
      else if flow && ",?[]\x7b\x7d".toList.contains c then 0
      else plainRun flow rest + 1

/-- `plainBreaks fuel breaks c` reads the blanks and line breaks behind the first line break of a
plain scalar, or is `none` when a document separator follows. -/
def plainBreaks : Nat → List Char → Cursor → Option (List Char) × Cursor
  | 0, breaks, c => (some breaks, c)
  | fuel + 1, breaks, c =>
      if c.peek == ' ' then plainBreaks fuel breaks c.next
      else if isBreak c.peek then
        let (br, c) := c.lineBreak
        if c.atSeparator then (none, c) else plainBreaks fuel (breaks ++ br) c
      else (some breaks, c)

/-- `plainSpaces c` reads the space between two words of a plain scalar. It gives the folded space
and whether a line ended; empty space ends the scalar. -/
def plainSpaces (c : Cursor) : List Char × Bool × Cursor :=
  let (blanks, c) := c.span (· == ' ')
  if isBreak c.peek then
    let (br, c) := c.lineBreak
    if c.atSeparator then ([], true, c)
    else
      match plainBreaks (c.rest.length + 1) [] c with
      | (some more, c) => (foldBreak br more, true, c)
      | (none, c) => ([], true, c)
  else (blanks, false, c)

/-- `plainAt flow indent fuel spaces ended c` reads the words of a plain scalar that is indented by
at least `indent`; it gives the text and whether the line ended behind it. -/
def plainAt (flow : Bool) (indent : Int) :
    Nat → List Char → Bool → Cursor → List Char × Bool × Cursor
  | 0, _, ended, c => ([], ended, c)
  | fuel + 1, spaces, ended, c =>
      let n := if c.peek == '#' then 0 else plainRun flow c.rest
      if n = 0 then ([], ended, c)
      else
        let word := c.rest.take n
        let (more, ended, c) := plainSpaces (c.forward n)
        if more.isEmpty || c.peek == '#' || (!flow && (c.column : Int) < indent) then
          (spaces ++ word, ended, c)
        else
          let (text, ended, c) := plainAt flow indent fuel more ended c
          (spaces ++ word ++ text, ended, c)

end SceneLint.Yaml
