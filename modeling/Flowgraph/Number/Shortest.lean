import Flowgraph.Number.Binary

/-!
# The fewest decimal digits that read back

Every decimal inside the interval of a binary number, the set of reals that round to it, reads
back as that number.  `Binary.shortest` takes the coarsest decimal grid that has a point in the
interval, and of two points on that grid the one nearer to the number.  If a point of a grid lies
in the interval then so does one of the number's two neighbours on that grid, so only the two
neighbours are tried.
-/

namespace Flowgraph

/-- A decimal number `digits * 10 ^ exponent`. -/
structure Decimal where
  digits : Nat
  exponent : Int
  deriving DecidableEq, Repr

namespace Decimal

/-- `num / den < 10 ^ p`, for an exponent of either sign. -/
def below (num den : Nat) (p : Int) : Bool :=
  match p with
  | .ofNat n => num < den * Nat.pow 10 n
  | .negSucc n => num * Nat.pow 10 (n + 1) < den

/-- The first of `p, p + 1, …` below whose power of ten the ratio lies, looking at `tries` of
them. -/
def firstBelow (num den : Nat) (p : Int) : (tries : Nat) → Int
  | 0 => p
  | tries + 1 => if below num den p then p else firstBelow num den (p + 1) tries

/-- **The point position** of a positive ratio: the least `p` with `num / den < 10 ^ p`, which is
the number of digits before the decimal point when it is positive.  The logarithm of two of the
ratio is known up to one, so the search starts just below the answer. -/
def pointPosition (num den : Nat) : Int :=
  let twos : Int := (num.log2 : Int) - (den.log2 : Int)
  firstBelow num den (twos * 30103 / 100000 - 1) 4

/-- The ratio divided by `10 ^ p`, as numerator and denominator. -/
def scaleDown (num den : Nat) (p : Int) : Nat × Nat :=
  match p with
  | .ofNat n => (num, den * Nat.pow 10 n)
  | .negSucc n => (num * Nat.pow 10 (n + 1), den)

/-- Trailing zeros move from the digits into the exponent. -/
def trimmed (digits : Nat) (exponent : Int) : (steps : Nat) → Decimal
  | 0 => ⟨digits, exponent⟩
  | steps + 1 =>
    if digits != 0 && digits % 10 == 0 then trimmed (digits / 10) (exponent + 1) steps
    else ⟨digits, exponent⟩

end Decimal

/-- **The reals that round to a number**, in quarters of a unit: the ends and whether they belong
to it.  The lower half of the interval is half as wide below a power of two. -/
structure Interval where
  low : Nat
  high : Nat
  closed : Bool

namespace Interval

/-- The interval around a magnitude. -/
def around (f : Format) (units : Nat) : Interval :=
  let s := f.surplus units
  let significand := units / Nat.pow 2 s
  let atPower := significand == Nat.pow 2 (f.precision - 1) && s != 0
  { low := 4 * units - (if atPower then Nat.pow 2 s else Nat.pow 2 (s + 1))
    high := 4 * units + Nat.pow 2 (s + 1)
    closed := significand % 2 == 0 }

/-- The point `num / den`, in quarters of a unit, rounds to the number. -/
def contains (i : Interval) (num den : Nat) : Bool :=
  if i.closed then i.low * den ≤ num && num ≤ i.high * den
  else i.low * den < num && num < i.high * den

end Interval

namespace Binary

variable {f : Format}

/-- The neighbour on the grid of `10 ^ k` that reads back, if there is one: the nearer of two, the
even one when they are equally near. -/
def neighbour? (quarters one : Nat) (i : Interval) (k : Int) : Option Nat :=
  let (num, den) := Decimal.scaleDown quarters one k
  let d := num / den
  let hit (n : Nat) : Bool :=
    match k with
    | .ofNat e => i.contains (n * Nat.pow 10 e * one) 1
    | .negSucc e => i.contains (n * one) (Nat.pow 10 (e + 1))
  match hit d, hit (d + 1) with
  | true, true => some (Format.nearestEven num den)
  | true, false => some d
  | false, true => some (d + 1)
  | false, false => none

/-- The first grid from `10 ^ k` downwards that has a neighbour which reads back. -/
def shortestFrom (quarters one : Nat) (i : Interval) (k : Int) : (grids : Nat) → Decimal
  | 0 => ⟨Format.nearestEven (Decimal.scaleDown quarters one k).1
      (Decimal.scaleDown quarters one k).2, k⟩
  | grids + 1 =>
    match neighbour? quarters one i k with
    | some d => Decimal.trimmed d k (Nat.log2 d + 1)
    | none => shortestFrom quarters one i (k - 1) grids

/-- **The shortest decimal** that reads back as the magnitude of a number.  Seventeen digits are
enough for every format in use, so the search never runs out of grids. -/
def shortest (x : Binary f) : Decimal :=
  if x.units = 0 then ⟨0, 0⟩
  else
    let quarters := 4 * x.units
    let one := 4 * Nat.pow 2 f.scale
    let p := Decimal.pointPosition quarters one
    -- a point on a grid is `n * 10 ^ k`, that is `n * 10 ^ k * one` quarters of a unit
    shortestFrom quarters one (Interval.around f x.units) (p - 1) 20

end Binary

end Flowgraph
