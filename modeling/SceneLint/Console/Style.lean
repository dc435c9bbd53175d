import SceneLint.Console.ColorTable
import SceneLint.Text.Blank
import SceneLint.Text.Case
import SceneLint.Text.Search

/-!
# Names of styles

A style is named by words: attributes, a colour, a background behind `on`, a link. Two names that
say the same in another order or spelling are one style, so `normalName` writes every name in one
way: attributes in a fixed order, then colours, then the link. A name that says nothing known is
only trimmed and put in lower case.
-/

namespace SceneLint.Console

/-- `wordsOf cs` is the stretches of a text between blanks. -/
def wordsOf (cs : List Char) : List (List Char) :=
  (List.splitOn ' ' (cs.map fun c => if Text.isBlank c then ' ' else c)).filter (!·.isEmpty)

/-- `attributeNames` is the attributes in the order in which a style lists them. -/
def attributeNames : List String :=
  ["bold", "dim", "italic", "underline", "blink", "blink2", "reverse", "conceal", "strike",
    "underline2", "frame", "encircle", "overline"]

/-- `attributeShorts` is the short forms of attributes. -/
def attributeShorts : List (String × String) :=
  [("d", "dim"), ("b", "bold"), ("i", "italic"), ("u", "underline"), ("r", "reverse"),
    ("c", "conceal"), ("s", "strike"), ("uu", "underline2"), ("o", "overline")]

/-- `attribute? word` is the attribute that a word names. -/
def attribute? (word : String) : Option String :=
  if attributeNames.contains word then some word else attributeShorts.lookup word

/-- `isHex c` says that `c` is a hexadecimal digit in lower case. -/
def isHex (c : Char) : Bool :=
  c.isDigit || ('a' ≤ c && c ≤ 'f')

/-- `isByte cs` says that `cs` is a decimal numeral of at most 255. -/
def isByte (cs : List Char) : Bool :=
  !cs.isEmpty && cs.all Char.isDigit &&
    cs.foldl (fun n c => 10 * n + (c.toNat - 48)) 0 ≤ 255

/-- `inBrackets? lead cs` is what stands between `lead` and a closing bracket at the end. -/
def inBrackets? (lead : String) (cs : List Char) : Option (List Char) :=
  match List.isPrefixOf? lead.toList cs with
  | none => none
  | some rest => if rest.getLast? = some ')' then some rest.dropLast else none

/-- `isColor word` says that a word in lower case names a colour. -/
def isColor (word : String) : Bool :=
  let cs := word.toList
  word == "default" || colorNames.contains word ||
    (match cs with
      | '#' :: digits => digits.length == 6 && digits.all isHex
      | _ => false) ||
    (match inBrackets? "color(" cs with
      | some number => number.length ≤ 3 && isByte number
      | none => false) ||
    (match inBrackets? "rgb(" cs with
      | some numbers =>
          let parts := numbers.splitOn ','
          parts.length == 3 && parts.all isByte
      | none => false)

/-- A `Style` is what the words of a name say. -/
structure Style where
  attributes : List (String × Bool)
  color : Option String
  background : Option String
  link : Option String

namespace Style

/-- `plain` says nothing. -/
def plain : Style := ⟨[], none, none, none⟩

/-- `setAttribute name value s` turns an attribute on or off. -/
def setAttribute (name : String) (value : Bool) (s : Style) : Style :=
  { s with attributes := (name, value) :: s.attributes }

/-- `readWords s words` adds what words say to a style, unless one of them says nothing known. -/
def readWords : Style → List String → Option Style
  | s, [] => some s
  | s, [word] =>
      let lower := Text.lower word
      if lower = "on" || lower = "not" || lower = "link" then none
      else
        match attribute? lower with
        | some name => some (s.setAttribute name true)
        | none => if isColor lower then some { s with color := some lower } else none
  | s, word :: next :: words =>
      let lower := Text.lower word
      if lower = "on" then
        if isColor (Text.lower next) then
          readWords { s with background := some (Text.lower next) } words
        else none
      else if lower = "not" then
        match attribute? next with
        | some name => readWords (s.setAttribute name false) words
        | none => none
      else if lower = "link" then readWords { s with link := some next } words
      else
        match attribute? lower with
        | some name => readWords (s.setAttribute name true) (next :: words)
        | none =>
            if isColor lower then readWords { s with color := some lower } (next :: words)
            else none

/-- `words s` is what a style says, in a fixed order. -/
def words (s : Style) : List String :=
  let attributes := attributeNames.filterMap fun name =>
    (s.attributes.lookup name).map fun on => if on then name else "not " ++ name
  attributes ++ s.color.toList ++ (s.background.map ("on " ++ ·)).toList ++
    (s.link.map ("link " ++ ·)).toList

end Style

/-- `normalName name` is the one way in which the name of a style is written. -/
def normalName (name : List Char) : String :=
  let written := (wordsOf name).map String.ofList
  if written = ["none"] || written.isEmpty then "none"
  else
    match Style.readWords .plain written with
    | some style => " ".intercalate style.words
    | none => Text.lower (String.ofList (Text.trim name))

end SceneLint.Console
