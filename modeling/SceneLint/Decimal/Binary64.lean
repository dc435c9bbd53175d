/-!
# Double-precision numbers

`Binary64` is a double-precision number as a sign, a whole mantissa and a power of two, so that
reading and writing decimals is exact arithmetic on whole numbers. `ofRatio` rounds a quotient of
whole numbers to the nearest such number, a half to the even mantissa.
-/

namespace SceneLint

/-- A `Binary64` is not a number, an infinity, or `mantissa * 2 ^ exponent` with a sign. -/
inductive Binary64 where
  | nan
  | infinite (negative : Bool)
  | finite (negative : Bool) (mantissa : Nat) (exponent : Int)
deriving DecidableEq

namespace Binary64

/-- `leastExponent` is the exponent of the smallest positive number. -/
def leastExponent : Int := -1074

/-- `greatestExponent` is the exponent of the largest finite number. -/
def greatestExponent : Int := 971

/-- `zero negative` is zero with a sign. -/
def zero (negative : Bool) : Binary64 := .finite negative 0 leastExponent

/-- `scaled n d e` is the quotient `n / (d * 2 ^ e)` as numerator and denominator. -/
def scaled (n d : Nat) (e : Int) : Nat × Nat :=
  if 0 ≤ e then (n, d * Nat.pow 2 e.toNat) else (n * Nat.pow 2 (-e).toNat, d)

/-- `roundHalfEven n d` is the whole number nearest to `n / d`, a half going to the even one. -/
def roundHalfEven (n d : Nat) : Nat :=
  let q := n / d
  let twice := 2 * (n % d)
  if twice < d then q
  else if d < twice then q + 1
  else if q % 2 = 0 then q else q + 1

/-- `ofRatio negative n d` is the number nearest to `n / d`. -/
def ofRatio (negative : Bool) (n d : Nat) : Binary64 :=
  if n = 0 || d = 0 then zero negative
  else
    let rough : Int := (n.log2 : Int) - (d.log2 : Int) - 53
    let (a, b) := scaled n d rough
    let tight := if Nat.pow 2 53 ≤ a / b then rough + 1 else rough
    let e := max tight leastExponent
    let (a, b) := scaled n d e
    let m := roundHalfEven a b
    let (m, e) := if m = Nat.pow 2 53 then (Nat.pow 2 52, e + 1) else (m, e)
    if greatestExponent < e then .infinite negative else .finite negative m e

/-- `ofDecimal negative digits power` is the number nearest to `digits * 10 ^ power`. -/
def ofDecimal (negative : Bool) (digits : Nat) (power : Int) : Binary64 :=
  if digits = 0 then zero negative
  else
    let size : Int := ((digits.log2 / 3 : Nat) : Int) + power
    if 1000 < power && 400 < size then .infinite negative
    else if power < -2000 && size < -400 then zero negative
    else if 0 ≤ power then ofRatio negative (digits * Nat.pow 10 power.toNat) 1
    else ofRatio negative digits (Nat.pow 10 (-power).toNat)

/-- `ratio? x` is the sign of a finite number and its size as a quotient. -/
def ratio? : Binary64 → Option (Bool × Nat × Nat)
  | .finite negative m e =>
      if 0 ≤ e then some (negative, m * Nat.pow 2 e.toNat, 1)
      else some (negative, m, Nat.pow 2 (-e).toNat)
  | _ => none

/-- `signed negative n` is the whole number of size `n` and the given sign. -/
def signed (negative : Bool) (n : Nat) : Int :=
  if negative then -(n : Int) else n

/-- `integer? x` is the whole number that `x` is, when it is one. -/
def integer? (x : Binary64) : Option Int :=
  match x.ratio? with
  | some (negative, n, d) => if n % d = 0 then some (signed negative (n / d)) else none
  | none => none

/-- `isZero x` says that `x` is zero of either sign. -/
def isZero : Binary64 → Bool
  | .finite _ m _ => m == 0
  | _ => false

/-- `negate x` has the other sign. -/
def negate : Binary64 → Binary64
  | .nan => .nan
  | .infinite negative => .infinite (!negative)
  | .finite negative m e => .finite (!negative) m e

/-- `add x y` is the rounded sum of two finite numbers; other operands give the first one back. -/
def add (x y : Binary64) : Binary64 :=
  match x.ratio?, y.ratio? with
  | some (sx, nx, dx), some (sy, ny, dy) =>
      let sum := signed sx (nx * dy) + signed sy (ny * dx)
      if sum = 0 then zero (sx && sy) else ofRatio (sum < 0) sum.natAbs (dx * dy)
  | _, _ => x

/-- `scaleBy x k` is the rounded product with a whole number. -/
def scaleBy (x : Binary64) (k : Nat) : Binary64 :=
  match x.ratio? with
  | some (negative, n, d) => ofRatio negative (n * k) d
  | none => x

end Binary64

end SceneLint
