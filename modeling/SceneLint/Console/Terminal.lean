import SceneLint.Console.Markup

/-!
# Terminals

A `Terminal` is what becomes of markup beyond its tags. It may refuse a text, because of a colour
that cannot be read, say; and what is printed, it lays out: emoji codes become signs, control
characters vanish, tabs are expanded, and long lines are wrapped. All that is known of a terminal is
that it takes the styles in which the program itself writes.
-/

namespace SceneLint.Console

/-- `styleNames` is the styles in which the program itself writes. -/
def styleNames : List String :=
  ["bold", "bold cyan", "dim", "green", "red", "yellow"]

/-- `tagsOf ts` is the bodies of the tags among tokens. -/
def tagsOf (ts : List Token) : List (List Char) :=
  ts.filterMap fun
    | .tag _ body => some body
    | .char _ => none

/-- `isOwnTag body` says that a tag opens or closes one of the styles of the program. -/
def isOwnTag (body : List Char) : Bool :=
  styleNames.any fun name => body == name.toList || body == '/' :: name.toList

/-- A `Refusal` is why a terminal does not take a text, and the kind under which it says so. -/
structure Refusal where
  kind : String
  message : String
deriving DecidableEq

/-- A `Terminal` is what becomes of markup beyond its tags. `refusal? markup` is why it does not
take a text; `written taken markup text` is how it writes the `text` that `markup` prints, where
`taken` columns of every line are taken. -/
structure Terminal where
  refusal? : String → Option Refusal
  written : Nat → String → String → String
  takes_own : ∀ markup, (∀ body ∈ tagsOf (tokens (.text 0) 0 markup.toList), isOwnTag body = true) →
    refusal? markup = none

/-- A `PrintFault` is why a text is not printed: the fault of a tag in it, or a refusal. -/
inductive PrintFault where
  | tag (fault : MarkupFault)
  | refused (refusal : Refusal)
deriving DecidableEq

namespace PrintFault

/-- `kindName f` names the kind of a fault. -/
def kindName : PrintFault → String
  | .tag _ => "MarkupError"
  | .refused refusal => refusal.kind

/-- `message f` is the wording of a fault. -/
def message : PrintFault → String
  | .tag fault => fault.message
  | .refused refusal => refusal.message

end PrintFault

namespace Terminal

/-- `plain` is a terminal that takes every text and writes it as it is. -/
def plain : Terminal where
  refusal? _ := none
  written _ _ text := text
  takes_own _ _ := rfl

/-- `print t taken markup` is what a reader sees of a text behind `taken` columns. -/
def print (t : Terminal) (taken : Nat) (markup : String) : Except PrintFault String :=
  match t.refusal? markup with
  | some refusal => .error (.refused refusal)
  | none =>
      match printed markup with
      | .ok text => .ok (t.written taken markup text)
      | .error fault => .error (.tag fault)

end Terminal

end SceneLint.Console
