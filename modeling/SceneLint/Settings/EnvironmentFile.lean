import SceneLint.Text.Blank
import SceneLint.Text.Search

/-!
# Environment files

An environment file gives variables line by line: a name, perhaps behind the word `export`, an
equals sign and a value, which may stand in quotes. A number sign behind a blank starts a comment.
A name without an equals sign is known but has no value. A line that cannot be read is passed
over. `assignments` reads such a file, and `resolve` then puts the values of variables in braces
into the values that mention them.
-/

namespace SceneLint.EnvironmentFile

/-- An `Assignment` is a name and its value, if it has one. -/
abbrev Assignment := String × Option String

/-- `isSpace c` says that `c` is a blank that ends no line. -/
def isSpace (c : Char) : Bool :=
  Text.isBlank c && c != '\n' && c != '\r'

/-- `endsLine c` says that `c` ends a line. -/
def endsLine (c : Char) : Bool :=
  c == '\n' || c == '\r'

/-- `dropLine cs` is the text behind the current line. -/
def dropLine (cs : List Char) : List Char :=
  (cs.dropWhile (!endsLine ·)).drop 1

/-- `dropExport cs` drops the word `export` and the blanks behind it, of which there is one. -/
def dropExport (cs : List Char) : List Char :=
  match "export".toList.isPrefixOf? cs with
  | none => cs
  | some rest =>
      match rest with
      | [] => cs
      | c :: _ => if isSpace c then rest.dropWhile isSpace else cs

/-- `untilQuote quote escaped cs` is the text up to the closing quote and the text behind it. A
quote behind a backslash does not close, unless no other quote does. -/
def untilQuote (quote : Char) : Bool → List Char → Option (List Char × List Char)
  | _, [] => none
  | escaped, c :: cs =>
      if c = quote then
        if escaped then
          match untilQuote quote false cs with
          | some (inner, rest) => some (c :: inner, rest)
          | none => some ([], cs)
        else some ([], cs)
      else (untilQuote quote (c == '\\') cs).map fun found => (c :: found.1, found.2)

/-- `escapeValue? quote c` is the character that `c` means behind a backslash. -/
def escapeValue? (quote c : Char) : Option Char :=
  if c = '\\' || c = '\'' then some c
  else if quote = '\'' then none
  else
    match c with
    | '"' => some '"'
    | 'a' => some (Char.ofNat 7)
    | 'b' => some (Char.ofNat 8)
    | 'f' => some (Char.ofNat 12)
    | 'n' => some '\n'
    | 'r' => some '\r'
    | 't' => some '\t'
    | 'v' => some (Char.ofNat 11)
    | _ => none

/-- `unescape quote cs` replaces the escapes of a quoted value. -/
def unescape (quote : Char) : List Char → List Char
  | [] => []
  | [c] => [c]
  | c :: d :: cs =>
      match (if c = '\\' then escapeValue? quote d else none) with
      | some value => value :: unescape quote cs
      | none => c :: unescape quote (d :: cs)

/-- `beforeComment blank cs` is the text before a number sign that follows a blank; `blank` says
that a blank stands before `cs`. -/
def beforeComment : Bool → List Char → List Char
  | _, [] => []
  | blank, c :: cs =>
      if blank && c == '#' then [] else c :: beforeComment (Text.isBlank c) cs

/-- `readName cs` reads the name of a variable: `none` at a comment. A name that cannot be read
leaves the text where it stands. -/
def readName (cs : List Char) : Except (List Char) (Option (List Char) × List Char) :=
  match cs with
  | '#' :: _ => .ok (none, cs)
  | '\'' :: rest =>
      let name := rest.takeWhile (· != '\'')
      match rest.drop name.length with
      | _ :: behind => if name.isEmpty then .error cs else .ok (some name, behind)
      | [] => .error cs
  | _ =>
      let name := cs.takeWhile fun c => c != '=' && c != '#' && !Text.isBlank c
      if name.isEmpty then .error cs else .ok (some name, cs.drop name.length)

/-- `readValue cs` reads a value behind the equals sign and the blanks after it. -/
def readValue (cs : List Char) : Except (List Char) (List Char × List Char) :=
  match cs with
  | [] => .ok ([], [])
  | c :: rest =>
      if c = '\'' || c = '"' then
        match untilQuote c false rest with
        | some (inner, behind) => .ok (unescape c inner, behind)
        | none => .error cs
      else if endsLine c then .ok ([], cs)
      else
        let line := cs.takeWhile (!endsLine ·)
        .ok (Text.trimEnd (beforeComment false line), cs.drop line.length)

/-- `readEnd cs` passes over blanks, a comment and the end of the line. -/
def readEnd (cs : List Char) : Except (List Char) (List Char) :=
  let rest := cs.dropWhile isSpace
  match rest with
  | [] => .ok []
  | '#' :: _ => .ok (dropLine rest)
  | c :: _ => if endsLine c then .ok (dropLine rest) else .error rest

/-- `readLine cs` reads one assignment from text that is no blank at its start, or gives the place
at which it cannot be read. -/
def readLine (cs : List Char) : Except (List Char) (Option Assignment × List Char) := do
  let (name, rest) ← readName (dropExport cs)
  let rest := rest.dropWhile isSpace
  let (value, rest) ← match rest with
    | '=' :: behind => (readValue (behind.dropWhile isSpace)).map fun read =>
        (some (String.ofList read.1), read.2)
    | _ => .ok (none, rest)
  let rest ← readEnd rest
  return (name.map fun name => (String.ofList name, value), rest)

/-- `readLines fuel cs` reads the assignments of a text. -/
def readLines : Nat → List Char → List Assignment
  | 0, _ => []
  | fuel + 1, cs =>
      match cs.dropWhile Text.isBlank with
      | [] => []
      | c :: rest =>
          match readLine (c :: rest) with
          | .ok (some assignment, rest) => assignment :: readLines fuel rest
          | .ok (none, rest) => readLines fuel rest
          | .error place => readLines fuel (dropLine place)

/-- `assignments cs` is the assignments of an environment file, in their order. -/
def assignments (cs : List Char) : List Assignment :=
  readLines (cs.length + 1) cs

/-- A `Mention` is a variable in braces, with a default if one is written. -/
structure Mention where
  name : List Char
  default : List Char

/-- `mention? cs` reads a variable behind a dollar sign and an opening brace. -/
def mention? (cs : List Char) : Option (Mention × List Char) :=
  let name := cs.takeWhile fun c => c != '\x7d' && c != ':'
  match cs.drop name.length with
  | '\x7d' :: rest => some (⟨name, []⟩, rest)
  | ':' :: '-' :: rest =>
      let default := rest.takeWhile (· != '\x7d')
      match rest.drop default.length with
      | _ :: behind => some (⟨name, default⟩, behind)
      | [] => none
  | _ => none

/-- `fill lookup fuel cs` replaces the variables that a value mentions. -/
def fill (lookup : List Char → Option (List Char)) : Nat → List Char → List Char
  | 0, cs => cs
  | _ + 1, [] => []
  | fuel + 1, c :: cs =>
      match (if c = '$' then ['\x7b'].isPrefixOf? cs else none) with
      | none => c :: fill lookup fuel cs
      | some inner =>
          match mention? inner with
          | none => c :: fill lookup fuel cs
          | some (mention, rest) =>
              (lookup mention.name).getD mention.default ++ fill lookup fuel rest

/-- `lookupIn environment known name` is the value of a variable: an earlier assignment counts
before the environment, and one without a value counts as empty. -/
def lookupIn (environment : List (String × String)) (known : List Assignment)
    (name : List Char) : Option (List Char) :=
  match known.lookup (String.ofList name) with
  | some value => some ((value.map String.toList).getD [])
  | none => (environment.lookup (String.ofList name)).map String.toList

/-- `resolveFrom environment known assignments` fills in the values of assignments one by one;
`known` holds those before, the latest first. -/
def resolveFrom (environment : List (String × String)) :
    List Assignment → List Assignment → List Assignment
  | _, [] => []
  | known, (name, value) :: others =>
      let filled := value.map fun text =>
        String.ofList
          (fill (lookupIn environment known) (text.toList.length + 1) text.toList)
      (name, filled) :: resolveFrom environment ((name, filled) :: known) others

/-- `resolve environment assignments` fills in the values of assignments. -/
def resolve (environment : List (String × String)) (assignments : List Assignment) :
    List Assignment :=
  resolveFrom environment [] assignments

end SceneLint.EnvironmentFile
