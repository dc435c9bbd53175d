import SceneLint.Data.Basic
import SceneLint.Settings.Basic
import SceneLint.Text.Search

/-!
# Faults of settings

A `FieldError` says which field, or which item of a list, has a value that does not fit, and why.
`report` writes a list of them for a reader, each with the value at fault; a long value is cut in
the middle.
-/

namespace SceneLint

/-- A `FieldFault` is why a value does not fit a field. -/
inductive FieldFault where
  | notText
  | notUnicode
  | empty
  | notList
  | notBool
  | unclearBool
  | mismatch (pattern : String)
  | refused (reason : String)
  | notPath
deriving DecidableEq

namespace FieldFault

/-- `code f` is the code of a fault. -/
def code : FieldFault → String
  | .notText => "string_type"
  | .notUnicode => "string_unicode"
  | .empty => "string_too_short"
  | .notList => "list_type"
  | .notBool => "bool_type"
  | .unclearBool => "bool_parsing"
  | .mismatch _ => "string_pattern_mismatch"
  | .refused _ => "value_error"
  | .notPath => "path_type"

/-- `message f` is the wording of a fault. -/
def message : FieldFault → String
  | .notText => "Input should be a valid string"
  | .notUnicode => "Input should be a valid string, unable to parse raw data as a unicode string"
  | .empty => "String should have at least 1 character"
  | .notList => "Input should be a valid list"
  | .notBool => "Input should be a valid boolean"
  | .unclearBool => "Input should be a valid boolean, unable to interpret input"
  | .mismatch pattern => "String should match pattern '" ++ pattern ++ "'"
  | .refused reason => "Value error, " ++ reason
  | .notPath => "Input is not a valid path for <class 'pathlib.Path'>"

/-- `helpPage f` is where a reader finds more about a fault. -/
def helpPage (f : FieldFault) : Option String :=
  if f = .notPath then none
  else some ("https://errors.pydantic.dev/2.14/v/" ++ f.code)

end FieldFault

/-- A `FieldError` is a value that does not fit a field. -/
structure FieldError where
  setting : Setting
  index : Option Nat
  fault : FieldFault
  input : Data

namespace FieldError

/-- `place e` is the field at fault, with the number of the item if it is a list. -/
def place (e : FieldError) : String :=
  match e.index with
  | none => e.setting.key
  | some index => e.setting.key ++ "." ++ toString index

/-- `takeOctets budget cs` is the longest start of a text within a number of octets. -/
def takeOctets : Nat → List Char → List Char
  | _, [] => []
  | budget, c :: cs =>
      if c.utf8Size ≤ budget then c :: takeOctets (budget - c.utf8Size) cs else []

/-- `abridged s` is a text of at most fifty octets, or the start and end of a longer one. -/
def abridged (s : String) : String :=
  if s.utf8ByteSize ≤ 50 then s
  else
    String.ofList (takeOctets 25 s.toList ++ "...".toList ++
      (takeOctets 24 s.toList.reverse).reverse)

/-- `block e` is what a reader is told of one error. -/
def block (e : FieldError) : String :=
  let help := match e.fault.helpPage with
    | some page => "\n    For further information visit " ++ page
    | none => ""
  e.place ++ "\n  " ++ e.fault.message ++ " [type=" ++ e.fault.code ++ ", input_value=" ++
    abridged e.input.literal ++ ", input_type=" ++ e.input.typeName ++ "]" ++ help

/-- `report errors` is what a reader is told of the errors of some settings. -/
def report (errors : List FieldError) : String :=
  let heading := toString errors.length ++ " validation error" ++
    (if errors.length = 1 then "" else "s") ++ " for GodotCheckSettings"
  "\n".intercalate (heading :: errors.map block)

end FieldError

end SceneLint
