import HookPolicy.Number.Binary64

/-!
# Decimal text of binary numbers

The text of a number has the fewest digits that read back to it, and of those the nearest. A
decimal exponent from -4 to 15 is written positionally, any other with `e`.
-/

namespace HookPolicy.Decimal

open Binary64

def digits (n : Nat) : List Char := (Nat.toDigits 10 n)

def natText (n : Nat) : String := String.ofList (digits n)

def intChars (n : Int) : List Char :=
  if n < 0 then '-' :: digits n.natAbs else digits n.natAbs

/-- The number `mantissa * 10^exponent`, rounded. `width` bounds the digits of the mantissa. -/
def toBinary (negative : Bool) (mantissa width : Nat) (exponent : Int) : Binary64 :=
  if mantissa == 0 then Binary64.zero negative
  else if exponent + width > 400 then
    if exponent ≥ 310 then .infinite negative
    else if exponent ≥ 0 then ofRatio negative (mantissa * Nat.pow 10 exponent.toNat) 1
    else ofRatio negative mantissa (Nat.pow 10 (-exponent).toNat)
  else if exponent + width < -400 then Binary64.zero negative
  else if exponent ≥ 0 then ofRatio negative (mantissa * Nat.pow 10 exponent.toNat) 1
  else ofRatio negative mantissa (Nat.pow 10 (-exponent).toNat)

/-- How many digits stand before the point of a positive `num / 2^1074`; zero or less when the
first digit comes after it. -/
def pointOf (num : Nat) : Int :=
  let whole := num / Nat.pow 2 1074
  if whole > 0 then (digits whole).length
  else
    let scaled := num * Nat.pow 10 400 / Nat.pow 2 1074
    Int.ofNat (digits scaled).length - 400

/-- The two neighbours of the number on the grid of `10^place`, the nearer one first. -/
def neighbours (num : Nat) (place : Int) : List Nat :=
  let (n, d) := if place ≥ 0 then (num, Nat.pow 2 1074 * Nat.pow 10 place.toNat)
    else (num * Nat.pow 10 (-place).toNat, Nat.pow 2 1074)
  let q := n / d
  if 2 * (n % d) < d then [q, q + 1]
  else if 2 * (n % d) == d && q % 2 == 0 then [q, q + 1]
  else [q + 1, q]

def readsBack (code : Fin (2047 * Nat.pow 2 52)) (mantissa : Nat) (place : Int) : Bool :=
  decide (toBinary false mantissa 18 place = .finite false code)

def shortestFrom (code : Fin (2047 * Nat.pow 2 52)) (point : Int) : Nat → Nat → Option (Nat × Int)
  | _, 0 => none
  | count, fuel + 1 =>
    let place := point - count
    match (neighbours (units code) place).find? (readsBack code · place) with
    | some m => some (m, place)
    | none => shortestFrom code point (count + 1) fuel

/-- The mantissa and exponent with the fewest digits that read back. Seventeen digits always
suffice; the full expansion stands behind them. -/
def shortest (code : Fin (2047 * Nat.pow 2 52)) : Nat × Int :=
  match shortestFrom code (pointOf (units code)) 1 17 with
  | some found => found
  | none => (units code * Nat.pow 5 1074, -1074)

def dropZeros (mantissa : Nat) (exponent : Int) : Nat → Nat × Int
  | 0 => (mantissa, exponent)
  | fuel + 1 =>
    if mantissa % 10 == 0 && mantissa > 0 then dropZeros (mantissa / 10) (exponent + 1) fuel
    else (mantissa, exponent)

def zeros (n : Nat) : List Char := List.replicate n '0'

/-- Lays out digits whose point stands after the first `point` of them. -/
def layout (ds : List Char) (point : Int) : List Char :=
  if -4 < point && point ≤ 16 then
    if point ≤ 0 then '0' :: '.' :: (zeros (-point).toNat ++ ds)
    else if ds.length ≤ point.toNat then ds ++ zeros (point.toNat - ds.length) ++ ['.', '0']
    else ds.take point.toNat ++ '.' :: ds.drop point.toNat
  else
    let e := point - 1
    let head := match ds with
      | d :: [] => [d]
      | d :: more => d :: '.' :: more
      | [] => []
    let size := digits e.natAbs
    head ++ ['e', if e < 0 then '-' else '+'] ++ (if size.length < 2 then '0' :: size else size)

def magnitude (code : Fin (2047 * Nat.pow 2 52)) : List Char :=
  if code.val == 0 then ['0', '.', '0']
  else
    let (m, e) := shortest code
    let (m, e) := dropZeros m e 400
    let ds := digits m
    layout ds (e + ds.length)

def floatChars : Binary64 → List Char
  | .finite negative code => (if negative then ['-'] else []) ++ magnitude code
  | .infinite negative => if negative then ['-', 'i', 'n', 'f'] else ['i', 'n', 'f']
  | .nan => ['n', 'a', 'n']

end HookPolicy.Decimal
