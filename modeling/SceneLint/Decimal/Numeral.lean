/-!
# Long numerals

A whole number is read from a decimal numeral, and written as one, only while the numeral has at
most `digitLimit` digits. A `LongNumeral` is a numeral that has more.
-/

namespace SceneLint

/-- A `LongNumeral` is a numeral with too many digits; how many is known only where it is read. -/
structure LongNumeral where
  digits : Option Nat
deriving DecidableEq

namespace LongNumeral

/-- `digitLimit` is how many digits a numeral may have. -/
def digitLimit : Nat := 4300

/-- `message e` is the wording of a numeral that is too long. -/
def message (e : LongNumeral) : String :=
  let count := match e.digits with
    | some digits => ": value has " ++ toString digits ++ " digits"
    | none => ""
  "Exceeds the limit (" ++ toString digitLimit ++ " digits) for integer string conversion" ++
    count ++ "; use sys.set_int_max_str_digits() to increase the limit"

end LongNumeral

end SceneLint
