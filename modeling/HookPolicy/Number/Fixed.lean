import HookPolicy.Number.Decimal

/-!
# Decimal text with a given number of digits

Magnitudes of binary numbers, written with a fixed number of places, with an exponent, or in
whichever of the two forms is shorter. A tie goes to the even digit.
-/

namespace HookPolicy.Decimal

open Binary64

/-- The magnitude `num / 2^1074`, counted in units of `10^place` and rounded. -/
def countAt (num : Nat) (place : Int) : Nat :=
  if place ≥ 0 then divideRounding num (Nat.pow 2 1074 * Nat.pow 10 place.toNat)
  else divideRounding (num * Nat.pow 10 (-place).toNat) (Nat.pow 2 1074)

def leftZeros (width : Nat) (ds : List Char) : List Char := zeros (width - ds.length) ++ ds

/-- Puts a point before the last digits; `point` keeps it even if no digit follows. -/
def pointed (places : Nat) (point : Bool) (ds : List Char) : List Char :=
  let ds := leftZeros (places + 1) ds
  let whole := ds.take (ds.length - places)
  if places == 0 then whole ++ (if point then ['.'] else [])
  else whole ++ '.' :: ds.drop (ds.length - places)

def fixed (num places : Nat) (point : Bool) : List Char :=
  pointed places point (digits (countAt num (-places)))

/-- The digits of a magnitude and the exponent of the first of them. -/
def leading (num places : Nat) : List Char × Int :=
  if num == 0 then (zeros (places + 1), 0)
  else
    let e := pointOf num - 1
    let ds := digits (countAt num (e - places))
    if ds.length > places + 1 then (ds.take (places + 1), e + 1) else (ds, e)

def exponentChars (e : Int) : List Char :=
  'e' :: (if e < 0 then '-' else '+') :: leftZeros 2 (digits e.natAbs)

def scientific (num places : Nat) (point : Bool) : List Char :=
  let (ds, e) := leading num places
  pointed places point ds ++ exponentChars e

/-- Drops the zeros at the end of the places, and a point without places. -/
def dropPlaces (ds : List Char) : List Char :=
  if ds.contains '.' then
    let back := ds.reverse.dropWhile (· == '0')
    (match back with
      | '.' :: rest => rest
      | back => back).reverse
  else ds

def general (num count : Nat) (point : Bool) : List Char :=
  let count := if count == 0 then 1 else count
  let (ds, e) := leading num (count - 1)
  let keep (cs : List Char) : List Char := if point then cs else dropPlaces cs
  if -4 ≤ e && e < count then keep (fixed num (count - 1 - e).toNat point)
  else keep (pointed (count - 1) point ds) ++ exponentChars e

end HookPolicy.Decimal
