import HookPolicy.Number.Decimal
import Mathlib

/-!
# Rounding of quotients

A code is that of its own quotient, equal quotients have one code, and decimal numbers that are the
same number are the same binary number.
-/

namespace HookPolicy

namespace Binary64

variable {num den k code : Nat}

theorem natPow_pos (s : Nat) : 0 < Nat.pow 2 s := Nat.pow_pos (by decide)

/-! ## Quotients -/

theorem divideRounding_mul_right (hk : 0 < k) (num den : Nat) :
    divideRounding (num * k) (den * k) = divideRounding num den := by
  have hlow : 2 * (num % den * k) < den * k ↔ 2 * (num % den) < den := by
    rw [← mul_assoc, Nat.mul_lt_mul_right hk]
  have hhigh : den * k < 2 * (num % den * k) ↔ den < 2 * (num % den) := by
    rw [← mul_assoc, Nat.mul_lt_mul_right hk]
  unfold divideRounding
  simp only [Nat.mul_div_mul_right _ _ hk, Nat.mul_mod_mul_right, hlow, hhigh]

theorem divideRounding_mul_self (hden : 0 < den) (n : Nat) : divideRounding (n * den) den = n := by
  unfold divideRounding
  simp only [Nat.mul_div_cancel _ hden, Nat.mul_mod_left, mul_zero, if_pos hden]

theorem le_divideRounding (num den : Nat) : num / den ≤ divideRounding num den := by
  simp only [divideRounding]
  split_ifs <;> omega

theorem divideRounding_eq_zero (h : 2 * num < den) : divideRounding num den = 0 := by
  simp only [divideRounding]
  rw [Nat.mod_eq_of_lt (by omega), if_pos h]
  exact Nat.div_eq_of_lt (by omega)

/-- The code of a quotient, `one` units to the number one. -/
def codeAt (one num den : Nat) : Nat :=
  let bits := (num * one / den).log2
  let s := if bits ≤ 52 then 0 else bits - 52
  s * Nat.pow 2 52 + divideRounding (num * one) (den * Nat.pow 2 s)

theorem codeOf_eq (num den : Nat) : codeOf num den = codeAt (Nat.pow 2 1074) num den := rfl

theorem codeAt_mul_right (hk : 0 < k) (one num den : Nat) :
    codeAt one (num * k) (den * k) = codeAt one num den := by
  have hquotient : num * k * one / (den * k) = num * one / den := by
    rw [mul_right_comm, Nat.mul_div_mul_right _ _ hk]
  unfold codeAt
  rw [hquotient]
  dsimp only
  rw [mul_right_comm num, mul_right_comm den, divideRounding_mul_right hk]

theorem codeOf_mul_right (hk : 0 < k) (num den : Nat) :
    codeOf (num * k) (den * k) = codeOf num den := by
  rw [codeOf_eq, codeOf_eq, codeAt_mul_right hk]

theorem ofRatio_mul_right (hk : 0 < k) (negative : Bool) (num den : Nat) :
    ofRatio negative (num * k) (den * k) = ofRatio negative num den := by
  simp only [ofRatio, codeOf_mul_right hk]

/-! ## Codes -/

theorem units_of_lt (h : code < Nat.pow 2 52) : units code = code := by
  have hscale : scale code = 0 := by
    rw [scale, Nat.div_eq_of_lt h]
  rw [units, hscale, significand, if_pos h]
  exact mul_one code

theorem units_of_le (h : Nat.pow 2 52 ≤ code) :
    units code = (Nat.pow 2 52 + code % Nat.pow 2 52) * Nat.pow 2 (code / Nat.pow 2 52 - 1) := by
  rw [units, scale, significand, if_neg (Nat.not_lt.2 h)]

theorem log2_units_of_le (h : Nat.pow 2 52 ≤ code) :
    (units code).log2 = 52 + (code / Nat.pow 2 52 - 1) := by
  have hmod : code % Nat.pow 2 52 < Nat.pow 2 52 := Nat.mod_lt _ (by decide)
  rw [units_of_le h, Nat.log2_eq_iff (Nat.mul_pos (by omega) (natPow_pos _)).ne']
  constructor
  · rw [pow_add]
    exact Nat.mul_le_mul_right _ (Nat.le_add_right _ _)
  · have hlt : Nat.pow 2 52 + code % Nat.pow 2 52 < 2 ^ 53 := by
      have : (2 : Nat) ^ 53 = Nat.pow 2 52 + Nat.pow 2 52 := by decide
      omega
    rw [Nat.add_right_comm, pow_add]
    exact Nat.mul_lt_mul_of_pos_right hlt (natPow_pos _)

theorem codeAt_units {one : Nat} (hone : 0 < one) (code : Nat) :
    codeAt one (units code) one = code := by
  unfold codeAt
  rw [Nat.mul_div_cancel _ hone]
  dsimp only
  by_cases hcode : code < Nat.pow 2 52
  · -- a code this small counts the units themselves
    have hlog : code.log2 ≤ 52 := by
      rcases Nat.eq_zero_or_pos code with rfl | hpos
      · decide
      · exact ((Nat.log2_lt hpos.ne').2 hcode).le
    rw [units_of_lt hcode, if_pos hlog, show Nat.pow 2 0 = 1 from rfl, mul_one,
      divideRounding_mul_self hone, zero_mul, zero_add]
  · -- any other keeps its scale, which is what the leading bit of the units tells
    have hle : Nat.pow 2 52 ≤ code := Nat.le_of_not_lt hcode
    have hdiv : 1 ≤ code / Nat.pow 2 52 := Nat.div_pos hle (by decide)
    have hscale : (if 52 + (code / Nat.pow 2 52 - 1) ≤ 52 then 0
        else 52 + (code / Nat.pow 2 52 - 1) - 52) = code / Nat.pow 2 52 - 1 := by
      split <;> omega
    have hden : 0 < Nat.pow 2 (code / Nat.pow 2 52 - 1) * one :=
      Nat.mul_pos (natPow_pos _) hone
    rw [log2_units_of_le hle, hscale, units_of_le hle, mul_assoc, mul_comm one,
      divideRounding_mul_self hden, ← Nat.add_assoc, Nat.sub_one_mul]
    have hsplit := Nat.div_add_mod' code (Nat.pow 2 52)
    have hfull : Nat.pow 2 52 ≤ code / Nat.pow 2 52 * Nat.pow 2 52 :=
      Nat.le_mul_of_pos_left _ hdiv
    omega

/-- A code is that of its own quotient. -/
theorem ofRatio_units (negative : Bool) (code : Fin (2047 * Nat.pow 2 52)) :
    ofRatio negative (units code) (Nat.pow 2 1074) = .finite negative code := by
  have hcode := codeAt_units (natPow_pos 1074) code
  unfold ofRatio
  rw [codeOf_eq, hcode]
  exact dif_pos code.isLt

theorem ofRatio_eq_finite_iff {negative : Bool} {code : Fin (2047 * Nat.pow 2 52)} :
    ofRatio negative num den = .finite negative code ↔ codeOf num den = code.val := by
  unfold ofRatio
  dsimp only
  by_cases hcode : codeOf num den < 2047 * Nat.pow 2 52
  · rw [dif_pos hcode, Binary64.finite.injEq]
    exact ⟨fun h => congrArg Fin.val h.2, fun h => ⟨rfl, Fin.ext h⟩⟩
  · rw [dif_neg hcode]
    exact ⟨nofun, fun h => absurd (h ▸ code.isLt) hcode⟩

/-! ## Out of range -/

theorem codeAt_eq_zero {one : Nat} (h : 2 * (num * one) < den) : codeAt one num den = 0 := by
  unfold codeAt
  dsimp only
  rw [Nat.div_eq_of_lt (by omega), show (0 : Nat).log2 = 0 from rfl, if_pos (by decide),
    show Nat.pow 2 0 = 1 from rfl, mul_one, divideRounding_eq_zero h]

theorem ofRatio_eq_zero (h : 2 * (num * Nat.pow 2 1074) < den) (negative : Bool) :
    ofRatio negative num den = zero negative := by
  unfold ofRatio
  rw [codeOf_eq, codeAt_eq_zero h]
  rfl

theorem le_codeAt_one {one s : Nat} (hs : 0 < s) (h : 52 + s ≤ (num * one).log2) :
    (s + 1) * Nat.pow 2 52 ≤ codeAt one num 1 := by
  unfold codeAt
  dsimp only
  rw [Nat.div_one, one_mul, if_neg (by omega)]
  generalize num * one = top at h
  have hne : top ≠ 0 := by
    rintro rfl
    exact absurd h (by rw [show (0 : Nat).log2 = 0 from rfl]; omega)
  have hquotient : Nat.pow 2 52 ≤ top / Nat.pow 2 (top.log2 - 52) := by
    have hlog : 2 ^ top.log2 ≤ top := Nat.log2_self_le hne
    rw [Nat.le_div_iff_mul_le (natPow_pos _)]
    change 2 ^ 52 * 2 ^ (top.log2 - 52) ≤ top
    rwa [← pow_add, Nat.add_sub_cancel' (by omega)]
  have hround := le_divideRounding top (Nat.pow 2 (top.log2 - 52))
  have hscale : s * Nat.pow 2 52 ≤ (top.log2 - 52) * Nat.pow 2 52 :=
    Nat.mul_le_mul_right _ (by omega)
  rw [Nat.add_one_mul]
  exact Nat.add_le_add hscale (hquotient.trans hround)

theorem le_log2_mul_natPow (h : 2 ^ k ≤ num) (s : Nat) :
    k + s ≤ (num * Nat.pow 2 s).log2 := by
  have hnum : 0 < num := lt_of_lt_of_le (Nat.two_pow_pos k) h
  rw [Nat.le_log2 (Nat.mul_pos hnum (natPow_pos s)).ne', pow_add]
  exact Nat.mul_le_mul_right _ h

theorem ofRatio_one_eq_infinite (h : 2 ^ 1024 ≤ num) (negative : Bool) :
    ofRatio negative num 1 = .infinite negative := by
  have hlog := le_log2_mul_natPow h 1074
  have hcode := le_codeAt_one (s := 2046) (by decide) (le_of_eq_of_le (by decide) hlog)
  unfold ofRatio
  rw [codeOf_eq]
  exact dif_neg (Nat.not_lt.2 hcode)

end Binary64

end HookPolicy
