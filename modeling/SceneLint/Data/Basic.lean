import SceneLint.Data.Calendar
import SceneLint.Decimal.Shortest
import SceneLint.Json.Basic
import SceneLint.Text.Quoted

/-!
# Configuration values

`Data` is the value of a configuration file, of an override or of an error detail: what the three
file formats can write between them. Mappings keep their order, and their keys are values too. The
members of a set stand in the order in which the host goes through them.
`literal` writes a value with its texts in quotes, `display` writes a text as itself.
-/

namespace SceneLint

/-- A `Data` is a configuration value. -/
inductive Data where
  | null
  | bool (b : Bool)
  | int (n : Int)
  | float (x : Binary64)
  | text (s : String)
  | bytes (octets : List UInt8)
  | date (d : Date)
  | clock (t : Clock)
  | moment (m : Moment)
  | list (items : List Data)
  | pair (first second : Data)
  | set (members : List Data)
  | map (entries : List (Data × Data))

namespace Data

/-- `typeName v` is the name of the kind of value that `v` is. -/
def typeName : Data → String
  | .null => "NoneType"
  | .bool _ => "bool"
  | .int _ => "int"
  | .float _ => "float"
  | .text _ => "str"
  | .bytes _ => "bytes"
  | .date _ => "date"
  | .clock _ => "time"
  | .moment _ => "datetime"
  | .list _ => "list"
  | .pair _ _ => "tuple"
  | .set _ => "set"
  | .map _ => "dict"

/-- `isFalsy v` says that `v` is empty, zero, false or nothing. -/
def isFalsy : Data → Bool
  | .null => true
  | .bool b => !b
  | .int n => n == 0
  | .float x => x.isZero
  | .text s => s.isEmpty
  | .bytes octets => octets.isEmpty
  | .list items => items.isEmpty
  | .set members => members.isEmpty
  | .map entries => entries.isEmpty
  | _ => false

mutual
/-- `literal v` writes `v` with every text in it quoted. -/
def literal : Data → String
  | .null => "None"
  | .bool b => if b then "True" else "False"
  | .int n => toString n
  | .float x => x.text
  | .text s => Text.quoted s
  | .bytes octets => Text.quotedOctets octets
  | .date d => d.call
  | .clock t => t.call
  | .moment m => m.call
  | .list [] => "[]"
  | .list (item :: items) => "[" ++ literal item ++ literalItems items ++ "]"
  | .pair first second => "(" ++ literal first ++ ", " ++ literal second ++ ")"
  | .set [] => "set()"
  | .set (member :: members) => "\x7b" ++ literal member ++ literalItems members ++ "\x7d"
  | .map [] => "\x7b\x7d"
  | .map ((key, value) :: entries) =>
      "\x7b" ++ literal key ++ ": " ++ literal value ++ literalEntries entries ++ "\x7d"

/-- `literalItems items` writes the items after the first one. -/
def literalItems : List Data → String
  | [] => ""
  | item :: items => ", " ++ literal item ++ literalItems items

/-- `literalEntries entries` writes the entries after the first one. -/
def literalEntries : List (Data × Data) → String
  | [] => ""
  | (key, value) :: entries =>
      ", " ++ literal key ++ ": " ++ literal value ++ literalEntries entries
end

/-- `display v` writes a text, date or time as itself and any other value as a literal. -/
def display : Data → String
  | .text s => s
  | .date d => d.text
  | .clock t => t.text
  | .moment m => m.text
  | v => v.literal

/-- `number? v` is the whole number that a truth value, number or fraction equals. -/
def number? : Data → Option Int
  | .bool b => some (if b then 1 else 0)
  | .int n => some n
  | .float x => x.integer?
  | _ => none

/-- `sameKey a b` says that two values are one key of a mapping. Numbers are compared by value, so
a truth value is the same key as zero or one. -/
def sameKey (a b : Data) : Bool :=
  match a.number?, b.number? with
  | some m, some n => m == n
  | none, none =>
      match a, b with
      | .null, .null => true
      | .float x, .float y => x == y && x != .nan
      | .text s, .text t => s == t
      | .bytes s, .bytes t => s == t
      | .date d, .date e => d == e
      | .clock s, .clock t => s == t
      | .moment m, .moment n => m == n
      | _, _ => false
  | _, _ => false

/-- `put key value entries` gives a key a value; a known key keeps its place. -/
def put (key value : Data) : List (Data × Data) → List (Data × Data)
  | [] => [(key, value)]
  | (k, v) :: entries =>
      if sameKey k key then (k, value) :: entries else (k, v) :: put key value entries

/-- `collect entries` keeps one entry per key, in the place of the first and with the value of the
last. -/
def collect (entries : List (Data × Data)) : List (Data × Data) :=
  entries.foldl (fun acc entry => put entry.1 entry.2 acc) []

/-- `isKey v` says that `v` may be a key of a mapping. A pair is never written as one. -/
def isKey : Data → Bool
  | .list _ => false
  | .pair _ _ => false
  | .set _ => false
  | .map _ => false
  | _ => true

mutual
/-- `ofJson v` is a JSON value as a configuration value. -/
def ofJson : Json → Data
  | .null => .null
  | .bool b => .bool b
  | .int n => .int n
  | .float x => .float x
  | .text s => .text s
  | .list items => .list (ofJsonItems items)
  | .object fields => .map (ofJsonFields fields)

/-- `ofJsonItems items` converts the items of a list. -/
def ofJsonItems : List Json → List Data
  | [] => []
  | item :: items => ofJson item :: ofJsonItems items

/-- `ofJsonFields fields` converts the fields of an object. -/
def ofJsonFields : List (String × Json) → List (Data × Data)
  | [] => []
  | (name, value) :: fields => (.text name, ofJson value) :: ofJsonFields fields
end

mutual
/-- `toJson v` is a configuration value as JSON: what JSON cannot write becomes a text, and so do
keys. -/
def toJson : Data → Json
  | .null => .null
  | .bool b => .bool b
  | .int n => .int n
  | .float x => .float x
  | .text s => .text s
  | .bytes octets => .text (Text.quotedOctets octets)
  | .date d => .text d.text
  | .clock t => .text t.text
  | .moment m => .text m.text
  | .list items => .list (toJsonItems items)
  | .pair first second => .list [toJson first, toJson second]
  | .set members => .text (literal (.set members))
  | .map entries => .object (toJsonFields entries)

/-- `toJsonItems items` converts the items of a list. -/
def toJsonItems : List Data → List Json
  | [] => []
  | item :: items => toJson item :: toJsonItems items

/-- `toJsonFields entries` converts the entries of a mapping. -/
def toJsonFields : List (Data × Data) → List (String × Json)
  | [] => []
  | (key, value) :: entries => (key.display, toJson value) :: toJsonFields entries
end

/-- `ofTexts texts` is a list of texts. -/
def ofTexts (texts : List String) : Data :=
  .list (texts.map .text)

/-- `ofText? text` is a text or nothing. -/
def ofText? : Option String → Data
  | none => .null
  | some s => .text s

end Data

end SceneLint
