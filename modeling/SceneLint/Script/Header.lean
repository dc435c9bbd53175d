import SceneLint.Text.Blank
import SceneLint.Text.Search

/-!
# Header lines

A line of a script may declare a class name, a base, or both:

    class_name Player
    class_name Player extends Node
    extends Node

`Header.ofLine` reads one line; blanks at its ends do not count, and a line that is no header
declares nothing. A header with a word too many is a fault.
-/

namespace SceneLint

/-- A `Header` is what one line, or a whole script, declares. -/
structure Header where
  className : Option String
  base : Option String
deriving DecidableEq

/-- A `HeaderFault` is why a header line cannot be read. -/
inductive HeaderFault where
  | wordAfterClassName
  | wordAfterBase
deriving DecidableEq

/-- `HeaderFault.message` is the wording of a fault in a header line. -/
def HeaderFault.message : HeaderFault → String
  | .wordAfterClassName => "there was another word after the class_name but no extends"
  | .wordAfterBase => "there was another word after the extends"

namespace Header

/-- `empty` declares nothing. -/
def empty : Header := ⟨none, none⟩

/-- `ofClassWords words` reads what stands behind the keyword for a class name. -/
def ofClassWords (words : List Char) : Except HeaderFault Header :=
  match Text.cut? [' '] words with
  | none => .ok ⟨some (String.ofList words), none⟩
  | some (name, rest) =>
      match "extends ".toList.isPrefixOf? rest with
      | some base => .ok ⟨some (String.ofList name), some (String.ofList (Text.trim base))⟩
      | none => .error .wordAfterClassName

/-- `ofBaseWords words` reads what stands behind the keyword for a base. -/
def ofBaseWords (words : List Char) : Except HeaderFault Header :=
  if words.contains ' ' then .error .wordAfterBase
  else .ok ⟨none, some (String.ofList words)⟩

/-- `ofTrimmed text` reads a line without blanks at its ends. -/
def ofTrimmed (text : List Char) : Except HeaderFault Header :=
  match "class_name ".toList.isPrefixOf? text with
  | some rest => ofClassWords (Text.trim rest)
  | none =>
      match "extends".toList.isPrefixOf? text with
      | some rest => ofBaseWords (Text.trim rest)
      | none => .ok empty

/-- `ofLine line` is what a line declares. -/
def ofLine (line : List Char) : Except HeaderFault Header :=
  ofTrimmed (Text.trim line)

/-- `orElse h seen` adds the declarations of `h` to those already seen. -/
def orElse (h seen : Header) : Header :=
  ⟨h.className <|> seen.className, h.base <|> seen.base⟩

end Header

end SceneLint
