import SceneLint.Data.Basic
import SceneLint.Json.Reader
import SceneLint.Text.Search

/-!
# TOML strings, numbers and dates

Readers for the values of a TOML document that hold no other values. Each takes the text at the
value and gives the value with the text behind it. Strings come in four forms; numbers may have
single underscores between digits; dates and times follow the standard to the second, with up to
six digits of a fraction counting.
-/

namespace SceneLint.Toml

open SceneLint.Json (hexValue? isDigit digitsValue)

/-- A `Fault` says which part of a document is not well formed. -/
inductive Fault where
  | character
  | string
  | value
  | key
  | statement
  | table
  | longNumeral (e : LongNumeral)
deriving DecidableEq

/-- A `Result` is a value and the text behind it. -/
abbrev Result (α : Type) := Except Fault (α × List Char)

/-- `isSpace c` says that `c` may stand between the parts of a line. -/
def isSpace (c : Char) : Bool :=
  c == ' ' || c == '\t'

/-- `skipSpace cs` drops blanks and tabs. -/
def skipSpace (cs : List Char) : List Char :=
  cs.dropWhile isSpace

/-- `isControl c` says that `c` may not occur as itself on a line. -/
def isControl (c : Char) : Bool :=
  (c.toNat < 0x20 || c.toNat == 0x7F) && c != '\t'

/-- `isControlAcross c` says that `c` may not occur as itself in a string of several lines. -/
def isControlAcross (c : Char) : Bool :=
  isControl c && c != '\n'

/-- `readLiteral cs` reads the rest of a string between single quotes. -/
def readLiteral : List Char → Result (List Char)
  | [] => .error .string
  | c :: cs =>
      if c = '\'' then .ok ([], cs)
      else if isControl c then .error .character
      else
        match readLiteral cs with
        | .error e => .error e
        | .ok (s, rest) => .ok (c :: s, rest)

/-- `readLiteralAcross cs` reads a string of several lines up to three single quotes. -/
def readLiteralAcross : List Char → Result (List Char)
  | [] => .error .string
  | '\'' :: '\'' :: '\'' :: rest => .ok ([], rest)
  | c :: cs =>
      if isControlAcross c then .error .character
      else
        match readLiteralAcross cs with
        | .error e => .error e
        | .ok (s, rest) => .ok (c :: s, rest)

/-- `readHexChar count cs` reads a character by its number in base sixteen. -/
def readHexChar (count : Nat) (cs : List Char) : Result Char :=
  let ds := cs.take count
  if ds.length < count then .error .string
  else
    match ds.mapM hexValue? with
    | none => .error .string
    | some values =>
        let n := values.foldl (fun n d => n * 16 + d) 0
        if n < 0xD800 || (0xE000 ≤ n && n < 0x110000) then .ok (Char.ofNat n, cs.drop count)
        else .error .string

/-- `readEscape cs` reads what follows a backslash. -/
def readEscape : List Char → Result Char
  | 'b' :: rest => .ok (Char.ofNat 0x08, rest)
  | 't' :: rest => .ok ('\t', rest)
  | 'n' :: rest => .ok ('\n', rest)
  | 'f' :: rest => .ok (Char.ofNat 0x0C, rest)
  | 'r' :: rest => .ok ('\r', rest)
  | '"' :: rest => .ok ('"', rest)
  | '\\' :: rest => .ok ('\\', rest)
  | 'u' :: rest => readHexChar 4 rest
  | 'U' :: rest => readHexChar 8 rest
  | _ => .error .string

/-- `readContinuation? cs` skips the line break and the space behind a backslash at the end of a
line, or is `none` when the backslash does not end its line. -/
def readContinuation? (cs : List Char) : Option (Except Fault (List Char)) :=
  let rest := skipSpace cs
  let skipped := fun (cs : List Char) => cs.dropWhile fun c => isSpace c || c == '\n'
  match cs with
  | '\n' :: cs => some (.ok (skipped cs))
  | c :: _ =>
      if isSpace c then
        match rest with
        | [] => some (.ok [])
        | '\n' :: cs => some (.ok (skipped cs))
        | _ => some (.error .string)
      else none
  | [] => none

/-- `readBasic across fuel cs` reads the rest of a string between double quotes; `across` says
that it may span lines and ends at three quotes. -/
def readBasic (across : Bool) : Nat → List Char → Result (List Char)
  | 0, _ => .error .string
  | _ + 1, [] => .error .string
  | fuel + 1, c :: cs =>
      let keep := fun (c : Char) (cs : List Char) =>
        match readBasic across fuel cs with
        | .error e => .error e
        | .ok (s, rest) => Except.ok (c :: s, rest)
      if c = '"' then
        if across then
          match ['"', '"'].isPrefixOf? cs with
          | some rest => .ok ([], rest)
          | none => keep c cs
        else .ok ([], cs)
      else if c = '\\' then
        match (if across then readContinuation? cs else none) with
        | some (.error e) => .error e
        | some (.ok rest) => readBasic across fuel rest
        | none =>
            match readEscape cs with
            | .error e => .error e
            | .ok (e, rest) => keep e rest
      else if (if across then isControlAcross c else isControl c) then .error .character
      else keep c cs

/-- `readFinalQuotes quote s cs` gives a string of several lines the one or two quotes that stand
before its closing three. -/
def readFinalQuotes (quote : Char) (s cs : List Char) : List Char × List Char :=
  match cs with
  | a :: b :: rest =>
      if a = quote then
        if b = quote then (s ++ [quote, quote], rest) else (s ++ [quote], b :: rest)
      else (s, cs)
  | [a] => if a = quote then (s ++ [quote], []) else (s, cs)
  | [] => (s, cs)

/-- `dropBreak cs` drops the line break right behind the opening of a string. -/
def dropBreak : List Char → List Char
  | '\n' :: rest => rest
  | cs => cs

/-- `readString? cs` reads a string of any form, or is `none` where no string starts. -/
def readString? (cs : List Char) : Option (Result (List Char)) :=
  match cs with
  | '"' :: '"' :: '"' :: rest =>
      match readBasic true (rest.length + 1) (dropBreak rest) with
      | .error e => some (.error e)
      | .ok (s, rest) => some (.ok (readFinalQuotes '"' s rest))
  | '"' :: rest => some (readBasic false (rest.length + 1) rest)
  | '\'' :: '\'' :: '\'' :: rest =>
      match readLiteralAcross (dropBreak rest) with
      | .error e => some (.error e)
      | .ok (s, rest) => some (.ok (readFinalQuotes '\'' s rest))
  | '\'' :: rest => some (readLiteral rest)
  | _ => none

/-- `readRun digit cs` reads digits with single underscores between them, as digits only. -/
def readRun (digit : Char → Bool) : List Char → List Char × List Char
  | [] => ([], [])
  | [c] => if digit c then ([c], []) else ([], [c])
  | c :: d :: rest =>
      if digit c then
        if d = '_' then
          match rest with
          | e :: _ =>
              if digit e then
                let (run, behind) := readRun digit rest
                (c :: run, behind)
              else ([c], d :: rest)
          | [] => ([c], [d])
        else
          let (run, behind) := readRun digit (d :: rest)
          (c :: run, behind)
      else ([], c :: d :: rest)

/-- `isHex c` says that `c` is a digit in base sixteen. -/
def isHex (c : Char) : Bool :=
  (hexValue? c).isSome

/-- `valueIn base ds` is the value of a numeral. -/
def valueIn (base : Nat) (ds : List Char) : Nat :=
  ds.foldl (fun n d => n * base + (hexValue? d).getD 0) 0

/-- `readBased? cs` reads a whole number in base sixteen, two or eight. -/
def readBased? (cs : List Char) : Option (Data × List Char) :=
  let based := fun (base : Nat) (digit : Char → Bool) (rest : List Char) =>
    let (run, behind) := readRun digit rest
    if run.isEmpty then none else some (Data.int (valueIn base run : Int), behind)
  match cs with
  | '0' :: 'x' :: rest => based 16 isHex rest
  | '0' :: 'b' :: rest => based 2 (fun c => c == '0' || c == '1') rest
  | '0' :: 'o' :: rest => based 8 (fun c => '0' ≤ c && c ≤ '7') rest
  | _ => none

/-- `readSign cs` reads a sign, if there is one. -/
def readSign : List Char → Bool × List Char
  | '-' :: rest => (true, rest)
  | '+' :: rest => (false, rest)
  | cs => (false, cs)

/-- `readFractionRun cs` reads a point and the digits behind it, or nothing. -/
def readFractionRun : List Char → List Char × List Char
  | '.' :: rest =>
      let (run, behind) := readRun isDigit rest
      if run.isEmpty then ([], '.' :: rest) else (run, behind)
  | cs => ([], cs)

/-- `readExponentRun cs` reads an exponent, or nothing. -/
def readExponentRun (cs : List Char) : Option Int × List Char :=
  match cs with
  | e :: rest =>
      if e = 'e' || e = 'E' then
        let (negative, unsigned) := readSign rest
        let (run, behind) := readRun isDigit unsigned
        if run.isEmpty then (none, cs)
        else (some (Binary64.signed negative (digitsValue run)), behind)
      else (none, cs)
  | [] => (none, [])

/-- `readDecimal? cs` reads a whole number or a number with a fraction or exponent. -/
def readDecimal? (cs : List Char) : Option (Result Data) :=
  let (negative, unsigned) := readSign cs
  let whole? : Option (List Char × List Char) :=
    match unsigned with
    | '0' :: rest => some (['0'], rest)
    | c :: _ => if isDigit c then some (readRun isDigit unsigned) else none
    | [] => none
  match whole? with
  | none => none
  | some (whole, rest) =>
      let (fraction, rest) := readFractionRun rest
      let (exponent?, rest) := readExponentRun rest
      if fraction.isEmpty && exponent?.isNone then
        if LongNumeral.digitLimit < whole.length then
          some (.error (.longNumeral ⟨some whole.length⟩))
        else some (.ok (.int (Binary64.signed negative (digitsValue whole)), rest))
      else
        let power := exponent?.getD 0 - (fraction.length : Int)
        let x := Binary64.ofDecimal negative (digitsValue (whole ++ fraction)) power
        some (.ok (.float x, rest))

/-- `specialNumbers` lists the numbers that are written as words. -/
def specialNumbers : List (List Char × Binary64) :=
  [("inf".toList, .infinite false), ("nan".toList, .nan), ("-inf".toList, .infinite true),
   ("+inf".toList, .infinite false), ("-nan".toList, .nan), ("+nan".toList, .nan)]

/-- `readDigits? count cs` reads exactly `count` digits. -/
def readDigits? (count : Nat) (cs : List Char) : Option (Nat × List Char) :=
  let ds := cs.take count
  if ds.length = count && ds.all isDigit then some (digitsValue ds, cs.drop count) else none

/-- `expect? c cs` drops a leading `c`. -/
def expect? (c : Char) : List Char → Option (List Char)
  | d :: rest => if d = c then some rest else none
  | [] => none

/-- `readMicros cs` reads a fraction of a second, of which six digits count. -/
def readMicros : List Char → Nat × List Char
  | '.' :: rest =>
      let ds := rest.takeWhile isDigit
      if ds.isEmpty then (0, '.' :: rest)
      else
        let six := ds.take 6
        (digitsValue (six ++ List.replicate (6 - six.length) '0'), rest.drop ds.length)
  | cs => (0, cs)

/-- `readClock? cs` reads a time of day to the second. -/
def readClock? (cs : List Char) : Option (Clock × List Char) := do
  let (hour, rest) ← readDigits? 2 cs
  let rest ← expect? ':' rest
  let (minute, rest) ← readDigits? 2 rest
  let rest ← expect? ':' rest
  let (second, rest) ← readDigits? 2 rest
  if hour ≤ 23 && minute ≤ 59 && second ≤ 59 then
    let (micros, rest) := readMicros rest
    some (⟨hour, minute, second, micros⟩, rest)
  else none

/-- `readOffset cs` reads the offset of a moment from universal time, or nothing. -/
def readOffset (cs : List Char) : Option Int × List Char :=
  let signed? : Option (Option Int × List Char) := do
    let (sign, rest) ←
      match cs with
      | '+' :: rest => some ((1 : Int), rest)
      | '-' :: rest => some (-1, rest)
      | _ => none
    let (hour, rest) ← readDigits? 2 rest
    let rest ← expect? ':' rest
    let (minute, rest) ← readDigits? 2 rest
    if hour ≤ 23 && minute ≤ 59 then some (some (sign * (hour * 3600 + minute * 60 : Nat)), rest)
    else none
  match cs with
  | 'Z' :: rest => (some 0, rest)
  | 'z' :: rest => (some 0, rest)
  | _ => signed?.getD (none, cs)

/-- `readDate? cs` reads a date whose month and day are in range for some month. -/
def readDate? (cs : List Char) : Option (Date × List Char) := do
  let (year, rest) ← readDigits? 4 cs
  let rest ← expect? '-' rest
  let (month, rest) ← readDigits? 2 rest
  let rest ← expect? '-' rest
  let (day, rest) ← readDigits? 2 rest
  if 1 ≤ month && month ≤ 12 && 1 ≤ day && day ≤ 31 then some (⟨year, month, day⟩, rest) else none

/-- `readMoment? cs` reads a date, with a time and an offset if they follow. -/
def readMoment? (cs : List Char) : Option (Result Data) :=
  match readDate? cs with
  | none => none
  | some (date, rest) =>
      let clock? :=
        match rest with
        | c :: behind => if c = 'T' || c = 't' || c = ' ' then readClock? behind else none
        | [] => none
      if date.check.isSome then some (.error .value)
      else
        match clock? with
        | none => some (.ok (.date date, rest))
        | some (clock, rest) =>
            let (offset, rest) := readOffset rest
            some (.ok (.moment ⟨date, clock, offset⟩, rest))

/-- `readScalar cs` reads a value that holds no other value. -/
def readScalar (cs : List Char) : Result Data :=
  match readString? cs with
  | some (.error e) => .error e
  | some (.ok (s, rest)) => .ok (.text (String.ofList s), rest)
  | none =>
      match "true".toList.isPrefixOf? cs, "false".toList.isPrefixOf? cs with
      | some rest, _ => .ok (.bool true, rest)
      | none, some rest => .ok (.bool false, rest)
      | none, none =>
          match readMoment? cs with
          | some result => result
          | none =>
              match readClock? cs with
              | some (clock, rest) => .ok (.clock clock, rest)
              | none =>
                  let number? := ((readBased? cs).map .ok).orElse fun _ => readDecimal? cs
                  match number? with
                  | some result => result
                  | none =>
                      let special? := specialNumbers.findSome? fun (word, x) =>
                        (word.isPrefixOf? cs).map fun rest => (Data.float x, rest)
                      match special? with
                      | some result => .ok result
                      | none => .error .value

end SceneLint.Toml
