import SceneLint.Console.Style

/-!
# Markup

Text for a terminal may hold tags in square brackets that switch styles on and off. `printed`
is what a reader sees: tags vanish, and a backslash before a tag makes it plain text. `escape`
puts in the backslashes that keep a text from being read as tags. A tag starts with a lower-case
letter or one of `#`, `/` and `@`, and ends at the first closing bracket before any other opening
one.
-/

namespace SceneLint.Console

/-- A `MarkupFault` is a closing tag that closes nothing. -/
inductive MarkupFault where
  | unmatched (body : String) (position : Nat)
  | nothingOpen (position : Nat)
deriving DecidableEq

/-- `MarkupFault.message` names the tag and where it stands. -/
def MarkupFault.message : MarkupFault → String
  | .unmatched body position =>
      "closing tag '[" ++ body ++ "]' at position " ++ toString position ++
        " doesn't match any open tag"
  | .nothingOpen position =>
      "closing tag '[/]' at position " ++ toString position ++ " has nothing to close"

/-- `startsTag c` says that `c` may follow the opening bracket of a tag. -/
def startsTag (c : Char) : Bool :=
  ('a' ≤ c && c ≤ 'z') || c == '#' || c == '/' || c == '@'

/-- `closes cs` says that a closing bracket comes before any opening one. -/
def closes : List Char → Bool
  | [] => false
  | c :: cs => if c = ']' then true else if c = '[' then false else closes cs

/-- `opensTag cs` says that `cs` continues an opening bracket to a whole tag. -/
def opensTag : List Char → Bool
  | [] => false
  | c :: cs => startsTag c && closes cs

/-- `slashes n` is `n` backslashes. -/
def slashes (n : Nat) : List Char :=
  List.replicate n '\\'

/-- `escapeTags n cs` doubles the backslashes before every tag of `cs` and adds one; `n` is how
many backslashes stand before `cs`. -/
def escapeTags : Nat → List Char → List Char
  | _, [] => []
  | n, c :: cs =>
      if c = '[' && opensTag cs then slashes (n + 1) ++ '[' :: escapeTags 0 cs
      else c :: escapeTags (if c = '\\' then n + 1 else 0) cs

/-- `guardEnd cs` doubles a single backslash at the end. -/
def guardEnd (cs : List Char) : List Char :=
  match cs.reverse with
  | ['\\'] => ['\\', '\\']
  | '\\' :: c :: _ => if c = '\\' then cs else cs ++ ['\\']
  | _ => cs

/-- `escape s` is markup that prints nearly as `s` reads: no part of it is a tag. -/
def escape (s : String) : String :=
  String.ofList (guardEnd (escapeTags 0 s.toList))

/-- A `Token` is a character to print, or a tag with its place in the markup. -/
inductive Token where
  | char (c : Char)
  | tag (position : Nat) (body : List Char)
deriving DecidableEq

/-- A `Mode` is where in markup a reader stands: in text behind some backslashes, in a tag that is
shown as text, or in a tag of which the body so far is kept in reverse. -/
inductive Mode where
  | text (slashes : Nat)
  | shown
  | tag (position : Nat) (body : List Char)

/-- `printSlashes n` prints `n` backslashes. -/
def printSlashes (n : Nat) : List Token :=
  (slashes n).map .char

/-- `tokens mode position cs` cuts markup into tokens. -/
def tokens : Mode → Nat → List Char → List Token
  | .text n, _, [] => printSlashes n
  | .shown, _, [] => []
  | .tag position body, _, [] => [.tag position body.reverse]
  | .text n, place, c :: cs =>
      if c = '\\' then tokens (.text (n + 1)) (place + 1) cs
      else if c = '[' then
        if opensTag cs then
          if n % 2 = 1 then
            printSlashes (n / 2) ++ .char '[' :: tokens .shown (place + 1) cs
          else printSlashes (n / 2) ++ tokens (.tag place []) (place + 1) cs
        else printSlashes (n - 1) ++ .char '[' :: tokens (.text 0) (place + 1) cs
      else printSlashes n ++ .char c :: tokens (.text 0) (place + 1) cs
  | .shown, place, c :: cs =>
      .char c :: tokens (if c = ']' then .text 0 else .shown) (place + 1) cs
  | .tag position body, place, c :: cs =>
      if c = ']' then .tag position body.reverse :: tokens (.text 0) (place + 1) cs
      else tokens (.tag position (c :: body)) (place + 1) cs

/-- `closeTag name stack` takes the latest style of a name off the open ones. -/
def closeTag (name : String) : List String → Option (List String)
  | [] => none
  | top :: stack => if top = name then some stack else (closeTag name stack).map (top :: ·)

/-- `applyTag position body stack` opens or closes a style. -/
def applyTag (position : Nat) (body : List Char) (stack : List String) :
    Except MarkupFault (List String) :=
  match body.takeWhile (· != '=') with
  | '/' :: name =>
      if (Text.trim name).isEmpty then
        match stack with
        | [] => .error (.nothingOpen position)
        | _ :: stack => .ok stack
      else
        match closeTag (normalName (Text.trim name)) stack with
        | some stack => .ok stack
        | none => .error (.unmatched (String.ofList body) position)
  | name => .ok (normalName name :: stack)

/-- `shown stack tokens` is the characters that are printed, given the styles that are open. -/
def shown : List String → List Token → Except MarkupFault (List Char)
  | _, [] => .ok []
  | stack, .char c :: tokens => (shown stack tokens).map (c :: ·)
  | stack, .tag position body :: tokens =>
      match applyTag position body stack with
      | .ok stack => shown stack tokens
      | .error fault => .error fault

/-- `printed markup` is what a reader sees of markup. -/
def printed (markup : String) : Except MarkupFault String :=
  (shown [] (tokens (.text 0) 0 markup.toList)).map String.ofList

end SceneLint.Console
