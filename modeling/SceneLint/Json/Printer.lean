import SceneLint.Decimal.Numeral
import SceneLint.Decimal.Shortest
import SceneLint.Json.Basic
import SceneLint.Text.Quoted

/-!
# Writing JSON

`render` writes a value over several lines, two blanks to a level, and `renderLine` on one line.
Both write ASCII only: other characters become escapes of their UTF-16 units. Empty lists and
objects stay on their line. Infinities and the undefined number have their own words. `formatted`
is the text printed for any value; it has none for a value with a numeral that is too long, or with
lists and objects that lie too deep in each other.
-/

namespace SceneLint.Json

open SceneLint.Text (hexPadded)

/-- `unitEscape n` is the escape of one UTF-16 unit. -/
def unitEscape (n : Nat) : List Char :=
  '\\' :: 'u' :: hexPadded 4 n

/-- `escapeChar c` is `c` as it stands in a string. -/
def escapeChar (c : Char) : List Char :=
  if c = '"' then ['\\', '"']
  else if c = '\\' then ['\\', '\\']
  else if c = '\n' then ['\\', 'n']
  else if c = '\r' then ['\\', 'r']
  else if c = '\t' then ['\\', 't']
  else if c.toNat = 0x08 then ['\\', 'b']
  else if c.toNat = 0x0C then ['\\', 'f']
  else if 0x20 ≤ c.toNat && c.toNat < 0x7F then [c]
  else if c.toNat < 0x10000 then unitEscape c.toNat
  else
    let n := c.toNat - 0x10000
    unitEscape (0xD800 + n / 0x400) ++ unitEscape (0xDC00 + n % 0x400)

/-- `stringLiteral s` is the text `s` as a JSON string. -/
def stringLiteral (s : String) : List Char :=
  '"' :: s.toList.flatMap escapeChar ++ ['"']

/-- `intLiteral n` is the decimal numeral of a whole number. -/
def intLiteral (n : Int) : List Char :=
  if n < 0 then '-' :: Nat.toDigits 10 n.natAbs else Nat.toDigits 10 n.natAbs

/-- `floatLiteral x` is the shortest decimal that reads back as `x`, or the word for it. -/
def floatLiteral : Binary64 → List Char
  | .nan => "NaN".toList
  | .infinite false => "Infinity".toList
  | .infinite true => "-Infinity".toList
  | x => x.text.toList

/-- A `Layout` says what stands between the parts of a list or object at a given depth. -/
structure Layout where
  opening : Nat → List Char
  between : Nat → List Char
  closing : Nat → List Char

/-- `Layout.newline depth` starts a line at a depth, two blanks to a level. -/
def Layout.newline (depth : Nat) : List Char :=
  '\n' :: List.replicate (2 * depth) ' '

/-- `Layout.indented` puts every part on a line of its own. -/
def Layout.indented : Layout :=
  ⟨fun depth => newline (depth + 1), fun depth => ',' :: newline (depth + 1), newline⟩

/-- `Layout.oneLine` keeps everything on one line. -/
def Layout.oneLine : Layout :=
  ⟨fun _ => [], fun _ => [',', ' '], fun _ => []⟩

mutual
/-- `write l depth v` writes `v` inside `depth` lists and objects. -/
def write (l : Layout) (depth : Nat) : Json → List Char
  | .null => "null".toList
  | .bool b => if b then "true".toList else "false".toList
  | .int n => intLiteral n
  | .float x => floatLiteral x
  | .text s => stringLiteral s
  | .list [] => ['[', ']']
  | .list (item :: items) =>
      '[' :: l.opening depth ++ write l (depth + 1) item ++ writeItems l depth items ++
        l.closing depth ++ [']']
  | .object [] => ['\x7b', '\x7d']
  | .object ((name, value) :: fields) =>
      '\x7b' :: l.opening depth ++ stringLiteral name ++ [':', ' '] ++
        write l (depth + 1) value ++ writeFields l depth fields ++ l.closing depth ++ ['\x7d']

/-- `writeItems l depth items` writes the items after the first one. -/
def writeItems (l : Layout) (depth : Nat) : List Json → List Char
  | [] => []
  | item :: items => l.between depth ++ write l (depth + 1) item ++ writeItems l depth items

/-- `writeFields l depth fields` writes the fields after the first one. -/
def writeFields (l : Layout) (depth : Nat) : List (String × Json) → List Char
  | [] => []
  | (name, value) :: fields =>
      l.between depth ++ stringLiteral name ++ [':', ' '] ++ write l (depth + 1) value ++
        writeFields l depth fields
end

/-- `render v` writes a value over several lines. -/
def render (v : Json) : String :=
  String.ofList (write .indented 0 v)

/-- `renderLine v` writes a value on one line. -/
def renderLine (v : Json) : String :=
  String.ofList (write .oneLine 0 v)

/-- `isContainer v` says that `v` is a list or an object. -/
def isContainer : Json → Bool
  | .list _ => true
  | .object _ => true
  | _ => false

/-- `wrapped v` is `v` itself when it is a list or an object, and the object with `v` as its only
value otherwise, so that a document always has a container at its top. -/
def wrapped (v : Json) : Json :=
  if v.isContainer then v else .object [("value", v)]

/-- `document v` is the text printed for `v`. -/
def document (v : Json) : String :=
  v.wrapped.render

mutual
/-- `fits limit v` says that no whole number in `v` has more than `limit` digits. -/
def fits (limit : Nat) : Json → Bool
  | .int n => n.natAbs < Nat.pow 10 limit
  | .list items => fitItems limit items
  | .object fields => fitFields limit fields
  | _ => true

/-- `fitItems limit items` says that the items of a list fit. -/
def fitItems (limit : Nat) : List Json → Bool
  | [] => true
  | item :: items => fits limit item && fitItems limit items

/-- `fitFields limit fields` says that the values of fields fit. -/
def fitFields (limit : Nat) : List (String × Json) → Bool
  | [] => true
  | (_, value) :: fields => fits limit value && fitFields limit fields
end

/-- A `WriteFault` is why a value has no text: a whole number in it has too many digits, or its
lists and objects lie too deep in each other. -/
inductive WriteFault where
  | longNumeral
  | tooDeep
deriving DecidableEq

mutual
/-- `fault? limit room v` is what first keeps `v` from being written, if whole numbers may have at
most `limit` digits and at most `room` lists and objects may lie in each other. -/
def fault? (limit room : Nat) : Json → Option WriteFault
  | .int n => if n.natAbs < Nat.pow 10 limit then none else some .longNumeral
  | .list items =>
      match room with
      | 0 => some .tooDeep
      | room + 1 => itemsFault? limit room items
  | .object fields =>
      match room with
      | 0 => some .tooDeep
      | room + 1 => fieldsFault? limit room fields
  | _ => none

/-- `itemsFault? limit room items` is what first keeps the items of a list from being written. -/
def itemsFault? (limit room : Nat) : List Json → Option WriteFault
  | [] => none
  | item :: items => fault? limit room item <|> itemsFault? limit room items

/-- `fieldsFault? limit room fields` is what first keeps fields from being written. -/
def fieldsFault? (limit room : Nat) : List (String × Json) → Option WriteFault
  | [] => none
  | (_, value) :: fields => fault? limit room value <|> fieldsFault? limit room fields
end

/-- `formatted room v` is the text printed for `v`, of which at most `room` lists and objects may
lie in each other. -/
def formatted (room : Nat) (v : Json) : Except WriteFault String :=
  match v.wrapped.fault? LongNumeral.digitLimit room with
  | none => .ok v.document
  | some fault => .error fault

end SceneLint.Json
