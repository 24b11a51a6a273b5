import Flowgraph.Number.Shortest

/-!
# Writing numbers

`Layout` says how the digits of a number are laid out: within which bounds the decimal point is
written in its place, and whether a whole number still shows one.  Two layouts are in use, `data`
in JSON text and `plain` in messages.
-/

namespace Flowgraph

/-- **A layout.**  The point is written in its place when its position is above `least` and at
most `most`, an absent bound meaning always; outside the bounds the number has an exponent. -/
structure Layout where
  least : Option Int
  most : Option Int
  wholePoint : Bool

namespace Layout

/-- Numbers in data keep a point, and have an exponent below `10 ^ -5` and from `10 ^ 16` on. -/
def data : Layout := ⟨some (-5), some 16, true⟩

/-- Numbers in messages never have an exponent, and a whole number shows no point. -/
def plain : Layout := ⟨none, none, false⟩

/-- Numbers in settings never have an exponent, and a whole number keeps a point. -/
def pointed : Layout := ⟨none, none, true⟩

/-- The point position `p` is written in its place. -/
def isPositional (l : Layout) (p : Int) : Bool :=
  l.least.all (· < p) && l.most.all (p ≤ ·)

/-- `n` zeros. -/
def zeros (n : Nat) : String := String.ofList (List.replicate n '0')

/-- The text of an unsigned decimal. -/
def render (l : Layout) (d : Decimal) : String :=
  let digits := toString d.digits
  if d.digits = 0 then (if l.wholePoint then "0.0" else "0")
  else
    let n := digits.length
    let p := d.exponent + n
    if l.isPositional p then
      if p ≤ 0 then "0." ++ zeros (-p).toNat ++ digits
      else if n ≤ p.toNat then
        digits ++ zeros (p.toNat - n) ++ (if l.wholePoint then ".0" else "")
      else
        (digits.take p.toNat).toString ++ "." ++ (digits.drop p.toNat).toString
    else
      let fraction := (digits.drop 1).toString
      let power := p - 1
      (digits.take 1).toString ++ (if fraction.isEmpty then "" else "." ++ fraction)
        ++ "e" ++ (if power < 0 then "-" else "+") ++ toString power.natAbs

/-- The text of a finite number. -/
def write {f : Format} (l : Layout) (x : Binary f) : String :=
  (if x.negative then "-" else "") ++ l.render x.shortest

/-- The text of a number that may be infinite or no number. -/
def writeExtended {f : Format} (l : Layout) : Extended f → String
  | .finite x => l.write x
  | .infinite negative => if negative then "-inf" else "inf"
  | .nan => "NaN"

end Layout

end Flowgraph
