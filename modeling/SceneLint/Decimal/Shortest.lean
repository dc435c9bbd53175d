import SceneLint.Decimal.Binary64

/-!
# The shortest decimal that reads back

`shortest` gives the fewest decimal digits that round to a given positive number, and of those the
nearest to it. For each count of digits the number's two neighbours on that decimal grid are
tested against the interval of reals that round to the number; the first grid with a hit wins.
`Binary64.text` lays the digits out: positionally for decimal exponents from -4 to 15, with an
exponent of at least two digits otherwise.
-/

namespace SceneLint.Decimal

/-- `digits n` is the decimal numeral of `n`. -/
def digits (n : Nat) : List Char :=
  Nat.toDigits 10 n

/-- `firstReach n d k fuel` is the least number of tens, counted from `k`, that bring `n` up to
`d`. -/
def firstReach (n d : Nat) : Nat → Nat → Nat
  | k, 0 => k
  | k, fuel + 1 => if d ≤ n * Nat.pow 10 k then k else firstReach n d (k + 1) fuel

/-- `magnitude n d` is the decimal exponent of the leading digit of `n / d`. -/
def magnitude (n d : Nat) : Int :=
  if d ≤ n then ((digits (n / d)).length : Int) - 1
  else -(firstReach n d 1 400 : Int)

/-- An `Interval` holds a value and the ends of the interval that rounds to it, over one
denominator; `closed` says that the ends belong to it. -/
structure Interval where
  value : Nat
  low : Nat
  high : Nat
  denominator : Nat
  closed : Bool

/-- `Interval.around m e` is the interval of reals that round to `m * 2 ^ e`. -/
def Interval.around (m : Nat) (e : Int) : Interval :=
  let below := if m = Nat.pow 2 52 && Binary64.leastExponent < e then 1 else 2
  let shift := e - 2
  let up := if 0 ≤ shift then Nat.pow 2 shift.toNat else 1
  let down := if 0 ≤ shift then 1 else Nat.pow 2 (-shift).toNat
  ⟨4 * m * up, (4 * m - below) * up, (4 * m + 2) * up, down, m % 2 == 0⟩

/-- `Interval.scale i u` measures the interval in units of `10 ^ u`. -/
def Interval.scale (i : Interval) (u : Int) : Interval :=
  if 0 ≤ u then { i with denominator := i.denominator * Nat.pow 10 u.toNat }
  else
    let f := Nat.pow 10 (-u).toNat
    { i with value := i.value * f, low := i.low * f, high := i.high * f }

/-- `Interval.holds i c` says that `c` units lie in the interval. -/
def Interval.holds (i : Interval) (c : Nat) : Bool :=
  let x := c * i.denominator
  if i.closed then i.low ≤ x && x ≤ i.high else i.low < x && x < i.high

/-- `Interval.pick? i` is the neighbour of the value on the grid of whole units that lies in the
interval, the nearer one if both do. -/
def Interval.pick? (i : Interval) : Option Nat :=
  let c := i.value / i.denominator
  let fromBelow := i.value - c * i.denominator
  let fromAbove := (c + 1) * i.denominator - i.value
  match i.holds c, i.holds (c + 1) with
  | true, true =>
      if fromBelow < fromAbove then some c
      else if fromAbove < fromBelow then some (c + 1)
      else some (if c % 2 = 0 then c else c + 1)
  | true, false => some c
  | false, true => some (c + 1)
  | false, false => none

/-- `search i top count fuel` tries grids of `count` and more digits, `top` being the exponent of
the leading digit; it gives whole units and their exponent. -/
def search (i : Interval) (top : Int) : Nat → Nat → Nat × Int
  | _, 0 => (0, 0)
  | count, fuel + 1 =>
      let u := top - (count : Int) + 1
      match (i.scale u).pick? with
      | some c => if c = 0 then search i top (count + 1) fuel else (c, u)
      | none => search i top (count + 1) fuel

/-- `dropZeros c u fuel` moves the final zeros of `c * 10 ^ u` into the exponent. -/
def dropZeros : Nat → Int → Nat → Nat × Int
  | c, u, 0 => (c, u)
  | c, u, fuel + 1 => if c ≠ 0 && c % 10 = 0 then dropZeros (c / 10) (u + 1) fuel else (c, u)

/-- `shortest m e` is the shortest decimal `c * 10 ^ u` that rounds to `m * 2 ^ e`. -/
def shortest (m : Nat) (e : Int) : Nat × Int :=
  let i := Interval.around m e
  let top := magnitude i.value i.denominator
  let (c, u) := search i top 1 20
  dropZeros c u 20

/-- `exponentText x` writes an exponent with its sign and at least two digits. -/
def exponentText (x : Int) : List Char :=
  let ds := digits x.natAbs
  (if x < 0 then '-' else '+') :: (if ds.length < 2 then '0' :: ds else ds)

/-- `layout c u` writes `c * 10 ^ u` with a point, or with an exponent when the leading digit is
worth less than `10 ^ -4` or at least `10 ^ 16`. -/
def layout (c : Nat) (u : Int) : List Char :=
  let ds := digits c
  let top := (ds.length : Int) - 1 + u
  if top < -4 || 16 ≤ top then
    let fraction := ds.drop 1
    ds.take 1 ++ (if fraction.isEmpty then [] else '.' :: fraction) ++ 'e' :: exponentText top
  else if 0 ≤ u then ds ++ List.replicate u.toNat '0' ++ ['.', '0']
  else if 0 ≤ top then
    ds.take (top.toNat + 1) ++ '.' :: ds.drop (top.toNat + 1)
  else '0' :: '.' :: List.replicate ((-top).toNat - 1) '0' ++ ds

end SceneLint.Decimal

namespace SceneLint

/-- `Binary64.text x` is the shortest decimal text that reads back as `x`. -/
def Binary64.text : Binary64 → String
  | .nan => "nan"
  | .infinite negative => if negative then "-inf" else "inf"
  | .finite negative m e =>
      let body :=
        if m = 0 then ['0', '.', '0']
        else
          let (c, u) := Decimal.shortest m e
          Decimal.layout c u
      String.ofList (if negative then '-' :: body else body)

end SceneLint
