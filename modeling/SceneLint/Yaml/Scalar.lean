import SceneLint.Data.Basic
import SceneLint.Json.Reader
import SceneLint.Text.Base64
import SceneLint.Yaml.Cursor

/-!
# The meaning of YAML scalars

A plain scalar is read by its form: truth values, whole numbers in four bases and in base sixty,
numbers with a point, dates, nothing, or a text. `Kind.ofPlain` decides the kind by the form alone,
and `Kind.value` gives the value; a scalar with an explicit kind may fail to have one.
-/

namespace SceneLint.Yaml

open SceneLint.Json (isDigit digitsValue hexValue?)

/-- A `Kind` is what a scalar stands for. -/
inductive Kind where
  | null
  | bool
  | int
  | float
  | moment
  | text
  | bytes
  | merge
  | default
deriving DecidableEq

/-- `isDigitRun cs` says that `cs` is a digit followed by digits and underscores. -/
def isDigitRun (cs : List Char) : Bool :=
  match cs with
  | c :: rest => isDigit c && rest.all fun d => isDigit d || d == '_'
  | [] => false

/-- `isLoose digit cs` says that `cs` is not empty and made of digits and underscores. -/
def isLoose (digit : Char → Bool) (cs : List Char) : Bool :=
  !cs.isEmpty && cs.all fun c => digit c || c == '_'

/-- `unsigned cs` drops a sign. -/
def unsigned : List Char → List Char
  | '-' :: cs => cs
  | '+' :: cs => cs
  | cs => cs

/-- `pieces sep cs` cuts `cs` at every `sep`. -/
def pieces (sep : Char) : List Char → List (List Char)
  | [] => [[]]
  | c :: cs =>
      match pieces sep cs with
      | [] => [[c]]
      | piece :: rest => if c = sep then [] :: piece :: rest else (c :: piece) :: rest

/-- `isSixtieth cs` says that `cs` is a number below sixty. -/
def isSixtieth : List Char → Bool
  | [d] => isDigit d
  | [c, d] => '0' ≤ c && c ≤ '5' && isDigit d
  | _ => false

/-- `isWhole cs` says that `cs` has the form of a whole number. -/
def isWhole (cs : List Char) : Bool :=
  let cs := unsigned cs
  let octal (c : Char) : Bool := '0' ≤ c && c ≤ '7'
  match cs with
  | '0' :: 'b' :: ds => isLoose (fun c => c == '0' || c == '1') ds
  | '0' :: 'x' :: ds => isLoose (fun c => (hexValue? c).isSome) ds
  | ['0'] => true
  | '0' :: ds => isLoose octal ds
  | _ =>
      match pieces ':' cs with
      | first :: others => isDigitRun first && others.all isSixtieth
      | [] => false

/-- `isExponent cs` says that `cs` is empty or an exponent with its sign. -/
def isExponent (cs : List Char) : Bool :=
  match cs with
  | [] => true
  | e :: sign :: ds =>
      (e == 'e' || e == 'E') && (sign == '-' || sign == '+') && !ds.isEmpty && ds.all isDigit
  | _ => false

/-- `isLooseDigit c` says that `c` is a digit or an underscore. -/
def isLooseDigit (c : Char) : Bool :=
  isDigit c || c == '_'

/-- `isPointed cs` says that `cs` has the form of a number with a point. -/
def isPointed (cs : List Char) : Bool :=
  let body := unsigned cs
  let word (s : String) : Bool := body == s.toList
  let before := body.takeWhile (· != '.')
  let behind := body.drop (before.length + 1)
  let fraction := behind.takeWhile isLooseDigit
  let tail := behind.drop fraction.length
  if word ".inf" || word ".Inf" || word ".INF" then true
  else if cs == ".nan".toList || cs == ".NaN".toList || cs == ".NAN".toList then true
  else if before.length = body.length then false
  else
    match pieces ':' before with
    | [[]] => cs.head? == some '.' && isDigitRun fraction && isExponent tail
    | [whole] => isDigitRun whole && isExponent tail
    | whole :: others => isDigitRun whole && others.all isSixtieth && tail.isEmpty
    | [] => false

/-- A `Stamp` is a date as written, with the time behind it if there is one. -/
structure Stamp where
  date : Date
  clock : Option (Clock × Option Int)
  strict : Bool

/-- `shortNumber cs` reads one or two digits. -/
def shortNumber (cs : List Char) : Option (Nat × Nat × List Char) :=
  let ds := (cs.take 2).takeWhile isDigit
  if ds.isEmpty then none else some (digitsValue ds, ds.length, cs.drop ds.length)

/-- `pairNumber cs` reads exactly two digits. -/
def pairNumber (cs : List Char) : Option (Nat × List Char) :=
  match shortNumber cs with
  | some (n, 2, rest) => some (n, rest)
  | _ => none

/-- `readChar x cs` drops a leading `x`. -/
def readChar (x : Char) : List Char → Option (List Char)
  | c :: rest => if c = x then some rest else none
  | [] => none

/-- `readZone cs` reads a zone up to the end of the scalar. -/
def readZone (cs : List Char) : Option (Option Int) :=
  let cs := cs.dropWhile fun c => c == ' ' || c == '\t'
  let offset (sign : Int) (cs : List Char) : Option (Option Int) :=
    match shortNumber cs with
    | some (hour, _, []) => some (some (sign * ((hour * 3600 : Nat) : Int)))
    | some (hour, _, ':' :: rest) =>
        match pairNumber rest with
        | some (minute, []) => some (some (sign * ((hour * 3600 + minute * 60 : Nat) : Int)))
        | _ => none
    | _ => none
  match cs with
  | [] => some none
  | ['Z'] => some (some 0)
  | '+' :: rest => offset 1 rest
  | '-' :: rest => offset (-1) rest
  | _ => none

/-- `readTime cs` reads the time of a date up to the end of the scalar. -/
def readTime (cs : List Char) : Option (Clock × Option Int) := do
  let (hour, _, rest) ← shortNumber cs
  let rest ← readChar ':' rest
  let (minute, rest) ← pairNumber rest
  let rest ← readChar ':' rest
  let (second, rest) ← pairNumber rest
  let (micros, rest) :=
    match rest with
    | '.' :: rest =>
        let ds := rest.takeWhile isDigit
        let six := ds.take 6
        (digitsValue (six ++ List.replicate (6 - six.length) '0'), rest.drop ds.length)
    | _ => (0, rest)
  let blank := rest.all fun c => c == ' ' || c == '\t'
  if blank && !rest.isEmpty then none
  else
    let zone ← readZone rest
    some (⟨hour, minute, second, micros⟩, zone)

/-- `readStamp cs` reads a scalar that has the form of a date. -/
def readStamp (cs : List Char) : Option Stamp := do
  let ys := cs.take 4
  if ys.length < 4 || !ys.all isDigit then none
  else
    let rest ← readChar '-' (cs.drop 4)
    let (month, monthWidth, rest) ← shortNumber rest
    let rest ← readChar '-' rest
    let (day, dayWidth, rest) ← shortNumber rest
    let date : Date := ⟨digitsValue ys, month, day⟩
    match rest with
    | [] => some ⟨date, none, monthWidth == 2 && dayWidth == 2⟩
    | c :: behind =>
        let spaced := rest.dropWhile fun c => c == ' ' || c == '\t'
        let time? := if c = 'T' || c = 't' then readTime behind
          else if spaced.length < rest.length then readTime spaced else none
        time?.map fun time => ⟨date, some time, true⟩

/-- `truths` lists the words for truth values. -/
def truths : List (String × Bool) :=
  [("yes", true), ("no", false), ("true", true), ("false", false), ("on", true), ("off", false)]

/-- `caseForms s` lists a word in lower case, capitalised and in upper case. -/
def caseForms (s : String) : List String :=
  [s, String.ofList (s.toList.take 1 |>.map Char.toUpper) ++ String.ofList (s.toList.drop 1),
   String.ofList (s.toList.map Char.toUpper)]

/-- `Kind.ofPlain s` is the kind of a plain scalar. -/
def Kind.ofPlain (s : String) : Kind :=
  let cs := s.toList
  if truths.any fun (word, _) => (caseForms word).contains s then .bool
  else if isPointed cs then .float
  else if isWhole cs then .int
  else if s = "<<" then .merge
  else if s = "" || s = "~" || (caseForms "null").contains s then .null
  else if (readStamp cs).any (·.strict) then .moment
  else if s = "=" then .default
  else .text

/-- `wholeIn base digit cs` reads a whole number, or says that the text is none. A decimal numeral
may have only so many digits. -/
def wholeIn (base : Nat) (digit : Char → Bool) (cs : List Char) : Except Fault Nat :=
  if cs.isEmpty || !cs.all digit then
    .error (.value ("invalid literal for int() with base " ++ toString base ++ ": " ++
      Text.quoted (String.ofList cs)))
  else if base = 10 && LongNumeral.digitLimit < cs.length then
    .error (.value (LongNumeral.mk (some cs.length)).message)
  else .ok (cs.foldl (fun n d => n * base + (hexValue? d).getD 0) 0)

/-- `sixties parts` is the value of a number in base sixty. -/
def sixties (parts : List Nat) : Nat :=
  parts.foldl (fun n part => n * 60 + part) 0

/-- `wholeValue s` is the value of a whole number as written. -/
def wholeValue (s : String) : Except Fault Int := do
  let cs := s.toList.filter (· != '_')
  let negative := cs.head? == some '-'
  let body := unsigned cs
  let n ← (
    match body with
    | ['0'] => .ok 0
    | '0' :: 'b' :: ds => wholeIn 2 (fun c => c == '0' || c == '1') ds
    | '0' :: 'x' :: ds => wholeIn 16 (fun c => (hexValue? c).isSome) ds
    | '0' :: _ => wholeIn 8 (fun c => '0' ≤ c && c ≤ '7') body
    | _ =>
        if body.contains ':' then do
          let parts ← (pieces ':' body).mapM (wholeIn 10 isDigit)
          .ok (sixties parts)
        else wholeIn 10 isDigit body : Except Fault Nat)
  .ok (Binary64.signed negative n)

/-- `decimalValue cs` is the value of digits with a point and an exponent. -/
def decimalValue (cs : List Char) : Except Fault Binary64 :=
  let whole := cs.takeWhile isDigit
  let rest := cs.drop whole.length
  let (fraction, rest) :=
    match rest with
    | '.' :: rest => (rest.takeWhile isDigit, rest.dropWhile isDigit)
    | _ => ([], rest)
  let (exponent?, rest) := Json.readExponent rest
  if (whole.isEmpty && fraction.isEmpty) || !rest.isEmpty then
    .error (.value ("could not convert string to float: " ++ Text.quoted (String.ofList cs)))
  else
    let power := exponent?.getD 0 - (fraction.length : Int)
    .ok (Binary64.ofDecimal false (digitsValue (whole ++ fraction)) power)

/-- `sixtiesFloat parts` is the value of a number in base sixty with a point, summed from its last
part on. -/
def sixtiesFloat (parts : List Binary64) : Binary64 :=
  let step := fun (state : Binary64 × Nat) (part : Binary64) =>
    (state.1.add (part.scaleBy state.2), state.2 * 60)
  (parts.reverse.foldl step (Binary64.zero false, 1)).1

/-- `pointedValue s` is the value of a number with a point as written. -/
def pointedValue (s : String) : Except Fault Binary64 := do
  let cs := (s.toList.filter (· != '_')).map Char.toLower
  let negative := cs.head? == some '-'
  let body := unsigned cs
  let size ← (
    if body == ".inf".toList then .ok (.infinite false)
    else if body == ".nan".toList then .ok .nan
    else if body.contains ':' then do
      let parts ← (pieces ':' body).mapM decimalValue
      .ok (sixtiesFloat parts)
    else decimalValue body : Except Fault Binary64)
  .ok (if negative then size.negate else size)

/-- `momentValue s` is the date, or the moment, of a scalar. -/
def momentValue (s : String) : Except Fault Data :=
  let refuse (fault : CalendarFault) : Except Fault Data := .error (.value fault.text)
  match readStamp s.toList with
  | none => .error .tag
  | some stamp =>
      match stamp.clock with
      | none =>
          match stamp.date.check with
          | some fault => refuse fault
          | none => .ok (.date stamp.date)
      | some (clock, offset) =>
          let outside := offset.filter fun seconds => 86400 ≤ seconds.natAbs
          match outside, stamp.date.check, clock.check with
          | some seconds, _, _ => refuse (.offset seconds)
          | none, some fault, _ => refuse fault
          | none, none, some fault => refuse fault
          | none, none, none => .ok (.moment ⟨stamp.date, clock, offset⟩)

/-- `bytesValue s` is the octets that a scalar writes in base 64. -/
def bytesValue (s : String) : Except Fault Data :=
  if s.toList.any fun c => 0x80 ≤ c.toNat then .error .tag
  else
    match Text.Base64.decode s.toList with
    | some octets => .ok (.bytes octets)
    | none => .error .tag

/-- `Kind.value kind s` is the value of the scalar `s` of a kind. -/
def Kind.value (kind : Kind) (s : String) : Except Fault Data :=
  match kind with
  | .null => .ok .null
  | .bool =>
      match truths.find? fun (word, _) => word = String.ofList (s.toList.map Char.toLower) with
      | some (_, b) => .ok (.bool b)
      | none => .error .tag
  | .int => if s.isEmpty then .error .tag else (wholeValue s).map .int
  | .float => if s.isEmpty then .error .tag else (pointedValue s).map .float
  | .moment => momentValue s
  | .text => .ok (.text s)
  | .bytes => bytesValue s
  | .merge => .error .tag
  | .default => .error .tag

end SceneLint.Yaml
