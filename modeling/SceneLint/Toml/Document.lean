import SceneLint.Toml.Table

/-!
# TOML documents

`parse` reads a document statement by statement: key and value pairs, table headings and headings
of lists of tables. The result is a mapping in the order of first mention.
-/

namespace SceneLint.Toml

/-- `isBareKey c` says that `c` may stand in a key without quotes. -/
def isBareKey (c : Char) : Bool :=
  c.isAlphanum || c == '-' || c == '_'

/-- `skipComment cs` drops a comment up to the end of its line. -/
def skipComment (cs : List Char) : Except Fault (List Char) :=
  match cs with
  | '#' :: rest =>
      let comment := rest.takeWhile (· != '\n')
      if comment.any isControl then .error .character else .ok (rest.drop comment.length)
  | _ => .ok cs

/-- `skipGap fuel cs` drops space, line breaks and comments between the items of a list. -/
def skipGap : Nat → List Char → Except Fault (List Char)
  | 0, cs => .ok cs
  | fuel + 1, cs =>
      let spaced := cs.dropWhile fun c => isSpace c || c == '\n'
      match skipComment spaced with
      | .error e => .error e
      | .ok rest => if rest.length = cs.length then .ok rest else skipGap fuel rest

/-- `readKeyPart cs` reads one part of a key. -/
def readKeyPart (cs : List Char) : Result String :=
  match cs with
  | '\'' :: rest =>
      match readLiteral rest with
      | .error e => .error e
      | .ok (s, rest) => .ok (String.ofList s, rest)
  | '"' :: rest =>
      match readBasic false (rest.length + 1) rest with
      | .error e => .error e
      | .ok (s, rest) => .ok (String.ofList s, rest)
  | _ =>
      let bare := cs.takeWhile isBareKey
      if bare.isEmpty then .error .key else .ok (String.ofList bare, cs.drop bare.length)

/-- `readKey fuel cs` reads a key whose parts are divided by points. -/
def readKey : Nat → List Char → Result KeyPath
  | 0, _ => .error .key
  | fuel + 1, cs =>
      match readKeyPart cs with
      | .error e => .error e
      | .ok (part, rest) =>
          match skipSpace rest with
          | '.' :: rest =>
              match readKey fuel (skipSpace rest) with
              | .error e => .error e
              | .ok (parts, rest) => .ok (part :: parts, rest)
          | rest => .ok ([part], rest)

/-- `readKeyEquals cs` reads a key and the equals sign behind it. -/
def readKeyEquals (cs : List Char) : Result KeyPath :=
  match readKey (cs.length + 1) cs with
  | .error e => .error e
  | .ok (key, '=' :: rest) => .ok (key, skipSpace rest)
  | .ok _ => .error .key

mutual
/-- `readValue fuel cs` reads one value; `fuel` bounds the nesting and the number of parts. -/
def readValue : Nat → List Char → Result Data
  | 0, _ => .error .value
  | fuel + 1, cs =>
      match cs with
      | '[' :: rest =>
          match skipGap (rest.length + 1) rest with
          | .error e => .error e
          | .ok (']' :: behind) => .ok (.list [], behind)
          | .ok rest =>
              match readItems fuel rest with
              | .error e => .error e
              | .ok (items, behind) => .ok (.list items, behind)
      | '\x7b' :: rest =>
          match skipSpace rest with
          | '\x7d' :: behind => .ok (.map [], behind)
          | rest =>
              match readInline fuel [] [] rest with
              | .error e => .error e
              | .ok (entries, behind) => .ok (.map entries, behind)
      | _ => readScalar cs

/-- `readItems fuel cs` reads the items of a list up to its closing bracket. -/
def readItems : Nat → List Char → Result (List Data)
  | 0, _ => .error .value
  | fuel + 1, cs =>
      match readValue fuel cs with
      | .error e => .error e
      | .ok (item, rest) =>
          match skipGap (rest.length + 1) rest with
          | .error e => .error e
          | .ok (']' :: behind) => .ok ([item], behind)
          | .ok (',' :: rest) =>
              match skipGap (rest.length + 1) rest with
              | .error e => .error e
              | .ok (']' :: behind) => .ok ([item], behind)
              | .ok rest =>
                  match readItems fuel rest with
                  | .error e => .error e
                  | .ok (items, behind) => .ok (item :: items, behind)
          | .ok _ => .error .value

/-- `readInline fuel frozen entries cs` reads the pairs of an inline table up to its closing brace
into `entries`; `frozen` lists the keys whose values are closed. -/
def readInline : Nat → List KeyPath → List (Data × Data) → List Char →
    Result (List (Data × Data))
  | 0, _, _, _ => .error .value
  | fuel + 1, frozen, entries, cs =>
      match readKeyEquals cs with
      | .error e => .error e
      | .ok (key, rest) =>
          match readValue fuel rest with
          | .error e => .error e
          | .ok (value, rest) =>
              if frozen.any (·.isPrefixOf key) then .error .table
              else
                match updateAt false (addNew (key.getLastD "") value) key.dropLast entries with
                | .error e => .error e
                | .ok entries =>
                    match skipSpace rest with
                    | '\x7d' :: behind => .ok (entries, behind)
                    | ',' :: rest =>
                        let frozen := if isInline value then key :: frozen else frozen
                        readInline fuel frozen entries (skipSpace rest)
                    | _ => .error .value
end

/-- A `Draft` is the part of a document read so far and the table that is being filled. -/
structure Draft where
  entries : List (Data × Data)
  marks : Marks
  heading : KeyPath

/-- `innerTables heading key` lists the tables that a dotted key passes through. -/
def innerTables (heading key : KeyPath) : List KeyPath :=
  (List.range (key.length - 1)).map fun i => heading ++ key.take (i + 1)

/-- `Draft.addPair d key value` adds a key and value pair to the table being filled. -/
def Draft.addPair (d : Draft) (key : KeyPath) (value : Data) : Except Fault Draft :=
  let inner := innerTables d.heading key
  let parent := d.heading ++ key.dropLast
  if inner.any d.marks.isOpened || d.marks.isFrozen parent then .error .table
  else
    match updateAt true (addNew (key.getLastD "") value) parent d.entries with
    | .error e => .error e
    | .ok entries =>
        let marks := { d.marks with pending := inner ++ d.marks.pending }
        let marks := if isInline value then marks.freeze (d.heading ++ key) else marks
        .ok { d with entries := entries, marks := marks }

/-- `Draft.openTable d key` starts a table. -/
def Draft.openTable (d : Draft) (key : KeyPath) : Except Fault Draft :=
  if d.marks.isOpened key || d.marks.isFrozen key then .error .table
  else
    match updateAt true .ok key d.entries with
    | .error e => .error e
    | .ok entries => .ok ⟨entries, d.marks.openTable key, key⟩

/-- `Draft.openItem d key` starts a table at the end of a list of tables. -/
def Draft.openItem (d : Draft) (key : KeyPath) : Except Fault Draft :=
  if d.marks.isFrozen key then .error .table
  else
    match updateAt true (appendTable (key.getLastD "")) key.dropLast d.entries with
    | .error e => .error e
    | .ok entries => .ok ⟨entries, (d.marks.clear key).openTable key, key⟩

/-- `readHeading closing start d cs` reads the key of a heading and its closing brackets. -/
def readHeading (closing : List Char) (start : Draft → KeyPath → Except Fault Draft) (d : Draft)
    (cs : List Char) : Result Draft :=
  match readKey (cs.length + 1) (skipSpace cs) with
  | .error e => .error e
  | .ok (key, rest) =>
      match start { d with marks := d.marks.settle } key with
      | .error e => .error e
      | .ok d =>
          match closing.isPrefixOf? rest with
          | some rest => .ok (d, rest)
          | none => .error .statement

/-- `readStatement d cs` reads a pair or a heading. -/
def readStatement (d : Draft) (cs : List Char) : Result Draft :=
  match cs with
  | '[' :: '[' :: rest => readHeading [']', ']'] Draft.openItem d rest
  | '[' :: rest => readHeading [']'] Draft.openTable d rest
  | '#' :: _ => .ok (d, cs)
  | _ =>
      match readKeyEquals cs with
      | .error e => .error e
      | .ok (key, rest) =>
          match readValue (2 * rest.length + 2) rest with
          | .error e => .error e
          | .ok (value, rest) =>
              match d.addPair key value with
              | .error e => .error e
              | .ok d => .ok (d, rest)

/-- `readStatements fuel d cs` reads all statements of a document. -/
def readStatements : Nat → Draft → List Char → Except Fault Draft
  | 0, _, _ => .error .statement
  | fuel + 1, d, cs =>
      match skipSpace cs with
      | [] => .ok d
      | '\n' :: rest => readStatements fuel d rest
      | cs =>
          match readStatement d cs with
          | .error e => .error e
          | .ok (d, rest) =>
              match skipComment (skipSpace rest) with
              | .error e => .error e
              | .ok [] => .ok d
              | .ok ('\n' :: rest) => readStatements fuel d rest
              | .ok _ => .error .statement

/-- `joinBreaks cs` writes a carriage return and line feed as one line feed. -/
def joinBreaks : List Char → List Char
  | [] => []
  | '\r' :: '\n' :: cs => '\n' :: joinBreaks cs
  | c :: cs => c :: joinBreaks cs

/-- `parse cs` reads a TOML document. -/
def parse (cs : List Char) : Except Fault Data :=
  let cs := joinBreaks cs
  match readStatements (cs.length + 1) ⟨[], .empty, []⟩ cs with
  | .error e => .error e
  | .ok d => .ok (.map d.entries)

end SceneLint.Toml
