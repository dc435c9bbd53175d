import SceneLint.Decimal.Numeral
import SceneLint.Json.Basic

/-!
# Reading JSON

`parse` reads one JSON document and says what it expected, and where, when it cannot. Beyond the
standard it reads `NaN`, `Infinity` and `-Infinity`. A fault is kept as the number of characters
left at the place it concerns; `ParseError.message` turns that into a line, a column and an offset.
A name that occurs twice in an object keeps its first place and its last value.

A whole number may have only so many digits, and only so many lists and objects may lie in each
other: `parseUpTo` takes both limits. `parseWith` limits the digits only, and `parse` takes the
usual limit for them.
-/

namespace SceneLint.Json

/-- A `Fault` says what the reader did not find, or refused. -/
inductive Fault where
  | expectedValue
  | expectedName
  | expectedColon
  | expectedComma
  | unterminatedString
  | controlCharacter
  | escapeCharacter
  | unicodeEscape
  | extraData
  | byteOrderMark
  | longNumeral (e : LongNumeral)
  | tooDeep
deriving DecidableEq

/-- `Fault.text` is the wording of a fault. -/
def Fault.text : Fault → String
  | .expectedValue => "Expecting value"
  | .expectedName => "Expecting property name enclosed in double quotes"
  | .expectedColon => "Expecting ':' delimiter"
  | .expectedComma => "Expecting ',' delimiter"
  | .unterminatedString => "Unterminated string starting at"
  | .controlCharacter => "Invalid control character at"
  | .escapeCharacter => "Invalid \\escape"
  | .unicodeEscape => "Invalid \\uXXXX escape"
  | .extraData => "Extra data"
  | .byteOrderMark => "Unexpected UTF-8 BOM (decode using utf-8-sig)"
  | .longNumeral e => e.message
  | .tooDeep => "Nested too deep"

/-- A `Stop` is a fault and the number of characters left where it lies. -/
structure Stop where
  fault : Fault
  left : Nat

/-- A `ParseError` is a fault at an offset, with the line and column of that offset. -/
structure ParseError where
  fault : Fault
  offset : Nat
  line : Nat
  column : Nat

/-- `ParseError.message` says what was wrong and where. -/
def ParseError.message (e : ParseError) : String :=
  e.fault.text ++ ": line " ++ toString e.line ++ " column " ++ toString e.column ++ " (char " ++
    toString e.offset ++ ")"

/-- `locate cs stop` finds the place of a fault in the whole text. -/
def locate (cs : List Char) (stop : Stop) : ParseError :=
  let offset := cs.length - stop.left
  let before := cs.take offset
  let line := before.count '\n' + 1
  let column := (before.reverse.takeWhile (· != '\n')).length + 1
  ⟨stop.fault, offset, line, column⟩

/-- A `Result` is a value and the text behind it, or a fault. -/
abbrev Result (α : Type) := Except Stop (α × List Char)

/-- `isSpace c` says that `c` may stand between the parts of a document. -/
def isSpace (c : Char) : Bool :=
  c == ' ' || c == '\t' || c == '\n' || c == '\r'

/-- `skip cs` drops the space in front. -/
def skip (cs : List Char) : List Char :=
  cs.dropWhile isSpace

/-- `hexValue? c` is the value of a digit in base sixteen. -/
def hexValue? (c : Char) : Option Nat :=
  if '0' ≤ c && c ≤ '9' then some (c.toNat - 0x30)
  else if 'a' ≤ c && c ≤ 'f' then some (c.toNat - 0x57)
  else if 'A' ≤ c && c ≤ 'F' then some (c.toNat - 0x37)
  else none

/-- `hexValue4? a b c d` is the value of four digits in base sixteen. -/
def hexValue4? (a b c d : Char) : Option Nat :=
  match hexValue? a, hexValue? b, hexValue? c, hexValue? d with
  | some a, some b, some c, some d => some (((a * 16 + b) * 16 + c) * 16 + d)
  | _, _, _, _ => none

/-- `isHighUnit n` says that `n` is the first unit of a pair. -/
def isHighUnit (n : Nat) : Bool :=
  0xD800 ≤ n && n < 0xDC00

/-- `isLowUnit n` says that `n` is the second unit of a pair. -/
def isLowUnit (n : Nat) : Bool :=
  0xDC00 ≤ n && n < 0xE000

/-- `unitChar n` is the character of a unit; a unit of a broken pair has the replacement
character. -/
def unitChar (n : Nat) : Char :=
  if isHighUnit n || isLowUnit n then Char.ofNat 0xFFFD else Char.ofNat n

/-- `pairChar high low` is the character of a pair of units. -/
def pairChar (high low : Nat) : Char :=
  Char.ofNat (0x10000 + (high - 0xD800) * 0x400 + (low - 0xDC00))

/-- `plainEscape? c` is the character that a backslash and `c` stand for. -/
def plainEscape? (c : Char) : Option Char :=
  match c with
  | '"' => some '"'
  | '\\' => some '\\'
  | '/' => some '/'
  | 'b' => some (Char.ofNat 0x08)
  | 'f' => some (Char.ofNat 0x0C)
  | 'n' => some '\n'
  | 'r' => some '\r'
  | 't' => some '\t'
  | _ => none

/-- `readString opening cs` reads the rest of a string whose opening quote has `opening`
characters left from it on. -/
def readString (opening : Nat) : List Char → Result (List Char)
  | [] => .error ⟨.unterminatedString, opening⟩
  | '"' :: rest => .ok ([], rest)
  | '\\' :: rest =>
      match rest with
      | [] => .error ⟨.unterminatedString, opening⟩
      | 'u' :: a :: b :: c :: d :: e :: rest' =>
          match hexValue4? a b c d with
          | none => .error ⟨.unicodeEscape, rest.length⟩
          | some unit =>
              let single :=
                match readString opening (e :: rest') with
                | .error stop => .error stop
                | .ok (cs, behind) => .ok (unitChar unit :: cs, behind)
              if isHighUnit unit then
                match e, rest' with
                | '\\', 'u' :: a' :: b' :: c' :: d' :: e' :: rest'' =>
                    match hexValue4? a' b' c' d' with
                    | none => .error ⟨.unicodeEscape, rest'.length⟩
                    | some unit' =>
                        if isLowUnit unit' then
                          match readString opening (e' :: rest'') with
                          | .error stop => .error stop
                          | .ok (cs, behind) => .ok (pairChar unit unit' :: cs, behind)
                        else single
                | _, _ => single
              else single
      | c :: rest' =>
          if c = 'u' then .error ⟨.unicodeEscape, rest.length⟩
          else
            match plainEscape? c with
            | none => .error ⟨.escapeCharacter, rest.length + 1⟩
            | some plain =>
                match readString opening rest' with
                | .error stop => .error stop
                | .ok (cs, behind) => .ok (plain :: cs, behind)
  | c :: rest =>
      if c.toNat < 0x20 then .error ⟨.controlCharacter, rest.length + 1⟩
      else
        match readString opening rest with
        | .error stop => .error stop
        | .ok (cs, behind) => .ok (c :: cs, behind)

/-- `isDigit c` says that `c` is a decimal digit. -/
def isDigit (c : Char) : Bool :=
  '0' ≤ c && c ≤ '9'

/-- `digitsValue ds` is the value of a decimal numeral. -/
def digitsValue (ds : List Char) : Nat :=
  ds.foldl (fun n d => n * 10 + (d.toNat - 0x30)) 0

/-- `readFraction cs` reads a point and the digits behind it, or nothing. -/
def readFraction : List Char → List Char × List Char
  | '.' :: c :: rest =>
      if isDigit c then (c :: rest.takeWhile isDigit, rest.dropWhile isDigit)
      else ([], '.' :: c :: rest)
  | cs => ([], cs)

/-- `readExponent cs` reads an exponent, or nothing. -/
def readExponent (cs : List Char) : Option Int × List Char :=
  match cs with
  | e :: rest =>
      if e = 'e' || e = 'E' then
        let (negative, unsigned) :=
          match rest with
          | '-' :: ds => (true, ds)
          | '+' :: ds => (false, ds)
          | ds => (false, ds)
        let ds := unsigned.takeWhile isDigit
        if ds.isEmpty then (none, cs)
        else
          let n := (digitsValue ds : Int)
          (some (if negative then -n else n), unsigned.dropWhile isDigit)
      else (none, cs)
  | [] => (none, cs)

/-- `wholeNumber limit negative ds` is the whole number with the digits `ds`, of which there may be
at most `limit`. -/
def wholeNumber (limit : Nat) (negative : Bool) (ds : List Char) : Except Fault Json :=
  if limit < ds.length then .error (.longNumeral ⟨some ds.length⟩)
  else
    let n := (digitsValue ds : Int)
    .ok (.int (if negative then -n else n))

/-- `readWhole cs` reads the digits before a point; a zero at their start stands alone. -/
def readWhole : List Char → Option (List Char × List Char)
  | '0' :: rest => some (['0'], rest)
  | c :: rest =>
      if isDigit c then some (c :: rest.takeWhile isDigit, rest.dropWhile isDigit) else none
  | [] => none

/-- `readNumber limit negative cs` reads a number behind its sign. -/
def readNumber (limit : Nat) (negative : Bool) (cs : List Char) : Option (Result Json) :=
  match readWhole cs with
  | none => none
  | some (whole, rest) =>
      let (fraction, rest) := readFraction rest
      let (exponent?, rest) := readExponent rest
      if fraction.isEmpty && exponent?.isNone then
        match wholeNumber limit negative whole with
        | .ok v => some (.ok (v, rest))
        | .error fault => some (.error ⟨fault, rest.length⟩)
      else
        let power := exponent?.getD 0 - (fraction.length : Int)
        let x := Binary64.ofDecimal negative (digitsValue (whole ++ fraction)) power
        some (.ok (.float x, rest))

/-- `readSigned limit cs` reads a number with its sign. -/
def readSigned (limit : Nat) : List Char → Option (Result Json)
  | '-' :: rest => readNumber limit true rest
  | cs => readNumber limit false cs

/-- `words` lists the values that are written as words. -/
def words : List (List Char × Json) :=
  [("null".toList, .null), ("true".toList, .bool true), ("false".toList, .bool false),
   ("NaN".toList, .float .nan), ("Infinity".toList, .float (.infinite false)),
   ("-Infinity".toList, .float (.infinite true))]

/-- `readWord cs` reads a value that is written as a word. -/
def readWord (cs : List Char) : Option (Json × List Char) :=
  words.findSome? fun (word, value) =>
    if word.isPrefixOf cs then some (value, cs.drop word.length) else none

/-- `readAtom limit cs` reads a word or a number. -/
def readAtom (limit : Nat) (cs : List Char) : Result Json :=
  match readWord cs with
  | some result => .ok result
  | none =>
      match readSigned limit cs with
      | some result => result
      | none => .error ⟨.expectedValue, cs.length⟩

mutual
/-- `readValue limit room fuel cs` reads one value, of which at most `room` lists and objects may
lie in each other; `fuel` bounds the nesting and the number of parts. -/
def readValue (limit room : Nat) : Nat → List Char → Result Json
  | 0, cs => .error ⟨.expectedValue, cs.length⟩
  | fuel + 1, cs =>
      match cs with
      | '"' :: rest =>
          match readString cs.length rest with
          | .error stop => .error stop
          | .ok (s, rest) => .ok (.text (String.ofList s), rest)
      | '[' :: rest =>
          match room with
          | 0 => .error ⟨.tooDeep, cs.length⟩
          | room + 1 =>
              let rest := skip rest
              match rest with
              | ']' :: behind => .ok (.list [], behind)
              | _ =>
                  match readItems limit room fuel rest with
                  | .error stop => .error stop
                  | .ok (items, rest) => .ok (.list items, rest)
      | '\x7b' :: rest =>
          match room with
          | 0 => .error ⟨.tooDeep, cs.length⟩
          | room + 1 =>
              let rest := skip rest
              match rest with
              | '\x7d' :: behind => .ok (.object [], behind)
              | _ =>
                  match readFields limit room fuel rest with
                  | .error stop => .error stop
                  | .ok (fields, rest) => .ok (.object (collectFields fields), rest)
      | _ => readAtom limit cs

/-- `readItems limit room fuel cs` reads the items of a list up to its closing bracket. -/
def readItems (limit room : Nat) : Nat → List Char → Result (List Json)
  | 0, cs => .error ⟨.expectedValue, cs.length⟩
  | fuel + 1, cs =>
      match readValue limit room fuel cs with
      | .error stop => .error stop
      | .ok (item, rest) =>
          let rest := skip rest
          match rest with
          | ']' :: behind => .ok ([item], behind)
          | ',' :: rest =>
              match readItems limit room fuel (skip rest) with
              | .error stop => .error stop
              | .ok (items, behind) => .ok (item :: items, behind)
          | _ => .error ⟨.expectedComma, rest.length⟩

/-- `readFields limit room fuel cs` reads the fields of an object up to its closing brace. -/
def readFields (limit room : Nat) : Nat → List Char → Result (List (String × Json))
  | 0, cs => .error ⟨.expectedName, cs.length⟩
  | fuel + 1, cs =>
      match cs with
      | '"' :: rest =>
          match readString cs.length rest with
          | .error stop => .error stop
          | .ok (name, rest) =>
              let rest := skip rest
              match rest with
              | ':' :: rest =>
                  match readValue limit room fuel (skip rest) with
                  | .error stop => .error stop
                  | .ok (value, rest) =>
                      let rest := skip rest
                      match rest with
                      | '\x7d' :: behind => .ok ([(String.ofList name, value)], behind)
                      | ',' :: rest =>
                          match readFields limit room fuel (skip rest) with
                          | .error stop => .error stop
                          | .ok (fields, behind) =>
                              .ok ((String.ofList name, value) :: fields, behind)
                      | _ => .error ⟨.expectedComma, rest.length⟩
              | _ => .error ⟨.expectedColon, rest.length⟩
      | _ => .error ⟨.expectedName, cs.length⟩
end

/-- `readDocument limit room cs` reads a text that holds one value and nothing else. -/
def readDocument (limit room : Nat) (cs : List Char) : Except Stop Json :=
  match cs with
  | c :: _ =>
      if c.toNat = 0xFEFF then .error ⟨.byteOrderMark, cs.length⟩
      else
        match readValue limit room (2 * cs.length + 2) (skip cs) with
        | .error stop => .error stop
        | .ok (value, rest) =>
            let rest := skip rest
            if rest.isEmpty then .ok value else .error ⟨.extraData, rest.length⟩
  | [] => .error ⟨.expectedValue, 0⟩

/-- `parseUpTo limit room s` reads the JSON document `s`, whose whole numbers may have at most
`limit` digits, and in which at most `room` lists and objects may lie in each other. -/
def parseUpTo (limit room : Nat) (s : String) : Except ParseError Json :=
  match readDocument limit room s.toList with
  | .ok value => .ok value
  | .error stop => .error (locate s.toList stop)

/-- `parseWith limit s` reads the JSON document `s`, whose whole numbers may have at most `limit`
digits; a text cannot nest deeper than it is long. -/
def parseWith (limit : Nat) (s : String) : Except ParseError Json :=
  parseUpTo limit s.length s

/-- `parse s` reads the JSON document `s`. -/
def parse (s : String) : Except ParseError Json :=
  parseWith LongNumeral.digitLimit s

end SceneLint.Json
