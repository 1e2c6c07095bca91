
set_option autoImplicit false

namespace BareBones.Binary64

def roundDiv (dividend divisor : Nat) : Nat :=
  let quotient := dividend / divisor
  let twice := 2 * (dividend % divisor)
  if divisor < twice || (twice == divisor && quotient % 2 == 1) then quotient + 1 else quotient

def inUnits (place : Int) (dividend divisor : Nat) : Nat × Nat :=
  if 0 ≤ place then (dividend, divisor * Nat.pow 2 place.toNat)
  else (dividend * Nat.pow 2 (-place).toNat, divisor)

-- The place of the last digit that the nearest binary fraction to a quotient may have: counted in units of
-- it, the quotient has 53 binary digits, unless the place cannot be that low.
def lastPlace (dividend divisor : Nat) : Int :=
  let place := (Nat.log2 dividend : Int) - Nat.log2 divisor - 52
  let (scaled, unit) := inUnits place dividend divisor
  max (if scaled / unit < Nat.pow 2 52 then place - 1 else place) (-1074)

def ofUnits (place : Int) (count : Nat) : Rat :=
  if 0 ≤ place then mkRat (Int.ofNat (count * Nat.pow 2 place.toNat)) 1
  else mkRat (Int.ofNat count) (Nat.pow 2 (-place).toNat)

def nearest? (x : Rat) : Option Rat :=
  let place := lastPlace x.num.natAbs x.den
  let (scaled, unit) := inUnits place x.num.natAbs x.den
  let magnitude := ofUnits place (roundDiv scaled unit)
  if mkRat (Int.ofNat (Nat.pow 2 1024)) 1 ≤ magnitude then none
  else some (if x.num < 0 then -magnitude else magnitude)

end BareBones.Binary64
