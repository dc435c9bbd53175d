import SceneLint.Text.Search

/-!
# Variable declarations

`segments` cuts a script's text at every keyword that opens a variable declaration: the word `var`
and a space, at the start of the text or behind a space, a tab or a line feed. What stands before
the first keyword is a segment too. A segment is `isUntyped` when it assigns a value before it
names a type.
-/

namespace SceneLint.Script

/-- `keyword` opens a variable declaration. -/
def keyword : List Char := ['v', 'a', 'r', ' ']

/-- `opensAfter c` says that a keyword may stand behind the character `c`. -/
def opensAfter (c : Char) : Bool :=
  c == ' ' || c == '\t' || c == '\n'

/-- `pushFront c pieces` puts a character in front of the first piece. -/
def pushFront (c : Char) : List (List Char) → List (List Char)
  | [] => [[c]]
  | piece :: pieces => (c :: piece) :: pieces

/-- `segmentsFrom opens cs` cuts a text of which `opens` says whether a keyword may stand at its
start. -/
def segmentsFrom : Bool → List Char → List (List Char)
  | _, [] => [[]]
  | true, 'v' :: 'a' :: 'r' :: ' ' :: cs => [] :: segmentsFrom true cs
  | _, c :: cs => pushFront c (segmentsFrom (opensAfter c) cs)

/-- `segments cs` is the text between the keywords of declarations. -/
def segments (cs : List Char) : List (List Char) :=
  segmentsFrom true cs

/-- `isUntyped segment` says that a segment assigns before it names a type. -/
def isUntyped : List Char → Bool
  | [] => false
  | c :: cs => if c = ':' then false else if c = '=' then true else isUntyped cs

end SceneLint.Script
