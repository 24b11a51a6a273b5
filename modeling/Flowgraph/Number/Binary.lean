/-!
# Binary floating-point numbers

A finite number of a binary format is a sign and a whole number of *units*, where a unit is the
smallest positive number of the format.  Counting in units makes every finite number an exact
natural number, so comparing, scaling and rounding are arithmetic on `Nat` and nothing is lost
before the one rounding at the end.

* `Format.round` is rounding to nearest, ties to even, of any ratio of natural numbers;
* `Binary.ofRatio?` is the nearest number of the format to a ratio, absent when it is too large;
* `Extended` adds the infinities and the value that is not a number.
-/

namespace Flowgraph

/-- **A binary format.**  It keeps `precision` binary digits, a unit is `2 ^ -scale`, and
`greatest` is the largest magnitude, counted in units. -/
structure Format where
  precision : Nat
  scale : Nat
  greatest : Nat
  deriving DecidableEq, Repr

namespace Format

/-- The interchange format of 64 bits. -/
def double : Format := ⟨53, 1074, (Nat.pow 2 53 - 1) * Nat.pow 2 2045⟩

/-- The interchange format of 32 bits. -/
def single : Format := ⟨24, 149, (Nat.pow 2 24 - 1) * Nat.pow 2 253⟩

/-- The nearest natural number to `num / den`, a tie going to the even neighbour. -/
def nearestEven (num den : Nat) : Nat :=
  let q := num / den
  let r := num % den
  if den < 2 * r || (2 * r == den && q % 2 == 1) then q + 1 else q

/-- The number of low binary digits that a magnitude of `n` units has to drop. -/
def surplus (f : Format) (n : Nat) : Nat :=
  n.log2 + 1 - f.precision

/-- **Rounding to nearest.**  The magnitude, in units, of the number of the format nearest to
`num / den` units, as if the format had no greatest number. -/
def round (f : Format) (num den : Nat) : Nat :=
  let s := f.surplus (num / den)
  nearestEven num (den * Nat.pow 2 s) * Nat.pow 2 s

end Format

/-- **A finite number of a format**: a sign and a magnitude in units.  Zero has either sign. -/
structure Binary (f : Format) where
  negative : Bool
  units : Nat
  deriving DecidableEq, Repr

namespace Binary

variable {f : Format}

/-- The number zero, without a sign. -/
def zero : Binary f := ⟨false, 0⟩

/-- The number of the format nearest to `num / den`, or nothing when it would lie beyond the
greatest number. -/
def ofRatio? (negative : Bool) (num den : Nat) : Option (Binary f) :=
  let n := f.round (num * Nat.pow 2 f.scale) den
  if n ≤ f.greatest then some ⟨negative, n⟩ else none

/-- The number nearest to an integer, the greatest number standing in for one out of range. -/
def ofInt (i : Int) : Binary f :=
  (ofRatio? (i < 0) i.natAbs 1).getD ⟨i < 0, f.greatest⟩

/-- The number nearest to `digits * 10 ^ exponent`. -/
def ofDecimal? (negative : Bool) (digits : Nat) (exponent : Int) : Option (Binary f) :=
  if digits = 0 then some ⟨negative, 0⟩
  else
    match exponent with
    | .ofNat e =>
      -- beyond this many digits the magnitude is past every format in use
      if 2 * f.scale < e then none else ofRatio? negative (digits * Nat.pow 10 e) 1
    | .negSucc e =>
      -- the quotient is below half a unit once the divisor outweighs the digits by that much
      if 2 * f.scale + (Nat.log2 digits + 1) < e then some ⟨negative, 0⟩
      else ofRatio? negative digits (Nat.pow 10 (e + 1))

/-- The product, rounded. -/
def mul? (x y : Binary f) : Option (Binary f) :=
  ofRatio? (x.negative != y.negative) (x.units * y.units) (Nat.pow 2 (2 * f.scale))

/-- The quotient by a divisor of at least one, rounded. -/
def div (x y : Binary f) : Binary f :=
  ⟨x.negative != y.negative, f.round (x.units * Nat.pow 2 f.scale) y.units⟩

/-- The nearest number of another format. -/
def convert? {g : Format} (x : Binary f) : Option (Binary g) :=
  ofRatio? x.negative x.units (Nat.pow 2 f.scale)

/-- The magnitude is zero. -/
def isZero (x : Binary f) : Bool := x.units == 0

/-- The number is a whole number. -/
def isWhole (x : Binary f) : Bool := x.units % Nat.pow 2 f.scale == 0

/-- The number is above zero. -/
def isPositive (x : Binary f) : Bool := !x.negative && x.units != 0

end Binary

/-- A number of a format, or one of the values that stand outside the numbers. -/
inductive Extended (f : Format) where
  | finite (x : Binary f)
  | infinite (negative : Bool)
  | nan
  deriving DecidableEq, Repr

/-- The nearest number of another format, infinite when it is too large for it. -/
def Binary.convert {f g : Format} (x : Binary f) : Extended g :=
  match x.convert? with
  | some y => .finite y
  | none => .infinite x.negative

/-- The nearest value of another format. -/
def Extended.convert {f g : Format} : Extended f → Extended g
  | .finite x => x.convert
  | .infinite negative => .infinite negative
  | .nan => .nan

/-- A finite number of 64 bits. -/
abbrev Double := Binary Format.double

end Flowgraph
