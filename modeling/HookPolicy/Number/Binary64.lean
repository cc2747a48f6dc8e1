/-!
# Binary numbers of 64 bits

A finite number is a sign and a code. The code `e * 2^52 + f` stands for `f * 2^(-1074)` when
`e = 0` and for `(2^52 + f) * 2^(e - 1075)` otherwise, so a larger code is a larger number.
`ofRatio` rounds a quotient to the nearest code, and a tie to the even one.
-/

namespace HookPolicy

inductive Binary64
  | finite (negative : Bool) (code : Fin (2047 * Nat.pow 2 52))
  | infinite (negative : Bool)
  | nan
  deriving DecidableEq

namespace Binary64

/-- The power of two that one unit of the code's significand counts, plus 1074. -/
def scale (code : Nat) : Nat := code / Nat.pow 2 52 - 1

def significand (code : Nat) : Nat :=
  if code < Nat.pow 2 52 then code else Nat.pow 2 52 + code % Nat.pow 2 52

/-- The number as `n / 2^1074`. -/
def units (code : Nat) : Nat := significand code * Nat.pow 2 (scale code)

/-- The nearest whole number to a quotient; a tie goes to the even one. -/
def divideRounding (num den : Nat) : Nat :=
  let q := num / den
  let r := num % den
  if 2 * r < den then q
  else if den < 2 * r then q + 1
  else if q % 2 == 0 then q else q + 1

/-- The largest scale at which the quotient in units of `2^(-1074)` still has a full significand. -/
def scaleOf (num den : Nat) : Nat :=
  let bits := (num * Nat.pow 2 1074 / den).log2
  if bits ≤ 52 then 0 else bits - 52

/-- The code nearest to a quotient, beyond the last code when the quotient is too large. -/
def codeOf (num den : Nat) : Nat :=
  let s := scaleOf num den
  s * Nat.pow 2 52 + divideRounding (num * Nat.pow 2 1074) (den * Nat.pow 2 s)

def ofRatio (negative : Bool) (num den : Nat) : Binary64 :=
  let code := codeOf num den
  if h : code < 2047 * Nat.pow 2 52 then .finite negative ⟨code, h⟩ else .infinite negative

def zero (negative : Bool) : Binary64 := .finite negative ⟨0, by decide⟩

def isNegative : Binary64 → Bool
  | .finite s _ => s
  | .infinite s => s
  | .nan => false

def isFinite : Binary64 → Bool
  | .finite _ _ => true
  | _ => false

def isZero : Binary64 → Bool
  | .finite _ c => c.val == 0
  | _ => false

/-- The whole part, cut toward zero, of a finite number. -/
def truncate? : Binary64 → Option Int
  | .finite s c =>
    let n : Int := Int.ofNat (units c / Nat.pow 2 1074)
    some (if s then -n else n)
  | _ => none

def isWhole : Binary64 → Bool
  | .finite _ c => units c % Nat.pow 2 1074 == 0
  | _ => false

/-- The part behind the point, without its sign. -/
def fraction : Binary64 → Binary64
  | .finite _ c => ofRatio false (units c % Nat.pow 2 1074) (Nat.pow 2 1074)
  | x => x

/-- The product of the magnitude with a whole number, rounded. -/
def scaleBy (k : Nat) : Binary64 → Binary64
  | .finite s c => ofRatio s (units c * k) (Nat.pow 2 1074)
  | x => x

/-- The magnitude rounded to a whole number; a tie goes to the even one. -/
def roundEven : Binary64 → Nat
  | .finite _ c => divideRounding (units c) (Nat.pow 2 1074)
  | _ => 0

/-- The magnitude rounded to a whole number; a tie goes up. -/
def roundUp : Binary64 → Nat
  | .finite _ c => (2 * units c + Nat.pow 2 1074) / Nat.pow 2 1075
  | _ => 0

end Binary64

end HookPolicy
