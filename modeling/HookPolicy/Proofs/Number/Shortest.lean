import HookPolicy.Proofs.Number.Digits
import HookPolicy.Proofs.Number.Rounding

/-!
# Shortest decimal texts

The decimal number that is written for a binary number is read back as it, and so is the same number
with zeros put behind its digits or taken away.
-/

namespace HookPolicy.Decimal

open Binary64

variable {negative : Bool} {mantissa width : Nat} {exponent : Int}

/-- The binary number nearest to `mantissa * 10^exponent`. -/
def ofTen (negative : Bool) (mantissa : Nat) (exponent : Int) : Binary64 :=
  if exponent ≥ 0 then ofRatio negative (mantissa * Nat.pow 10 exponent.toNat) 1
  else ofRatio negative mantissa (Nat.pow 10 (-exponent).toNat)

theorem ofTen_of_nonneg (n : Nat) (negative : Bool) (mantissa : Nat) :
    ofTen negative mantissa n = ofRatio negative (mantissa * 10 ^ n) 1 := by
  rw [ofTen, if_pos (Int.natCast_nonneg n)]
  rfl

theorem ofTen_neg (n : Nat) (negative : Bool) (mantissa : Nat) :
    ofTen negative mantissa (-(n : Int)) = ofRatio negative mantissa (10 ^ n) := by
  cases n with
  | zero =>
    rw [Nat.cast_zero, neg_zero]
    exact (ofTen_of_nonneg 0 negative mantissa).trans (by rw [pow_zero, mul_one])
  | succ n =>
    rw [ofTen, if_neg (by omega), neg_neg]
    rfl

theorem ofTen_mul_ten (negative : Bool) (mantissa : Nat) (exponent : Int) :
    ofTen negative (mantissa * 10) exponent = ofTen negative mantissa (exponent + 1) := by
  obtain ⟨n, rfl | rfl⟩ := Int.eq_nat_or_neg exponent
  · have hsucc : (n : Int) + 1 = (n + 1 : Nat) := by omega
    rw [hsucc, ofTen_of_nonneg, ofTen_of_nonneg, pow_succ', mul_assoc]
  · cases n with
    | zero =>
      have hone : -((0 : Nat) : Int) + 1 = (1 : Nat) := by omega
      rw [ofTen_neg, hone, ofTen_of_nonneg, pow_zero, pow_one]
    | succ n =>
      have hpred : -((n + 1 : Nat) : Int) + 1 = -(n : Int) := by omega
      rw [hpred, ofTen_neg, ofTen_neg, pow_succ, ofRatio_mul_right (by decide)]

theorem ofTen_mul_pow (negative : Bool) (mantissa k : Nat) (exponent : Int) :
    ofTen negative (mantissa * 10 ^ k) exponent = ofTen negative mantissa (exponent + k) := by
  induction k generalizing exponent with
  | zero => simp
  | succ k ih =>
    rw [pow_succ, ← mul_assoc, ofTen_mul_ten, ih]
    congr 1
    push_cast
    ring

/-! ## Numbers out of range -/

theorem ofTen_zero (negative : Bool) (exponent : Int) :
    ofTen negative 0 exponent = zero negative := by
  have hsmall : ∀ den, 0 < den → ofRatio negative 0 den = zero negative := fun den hden =>
    ofRatio_eq_zero (by rwa [zero_mul]) negative
  unfold ofTen
  split
  · rw [zero_mul, hsmall 1 (by decide)]
  · exact hsmall _ (Nat.pow_pos (by decide))

theorem two_pow_le_ten_pow : 2 ^ 1024 ≤ 10 ^ 310 ∧ 2 * Nat.pow 2 1074 ≤ 10 ^ 401 := by
  decide +kernel

theorem ofTen_eq_infinite (hmantissa : 0 < mantissa) (h : 310 ≤ exponent) (negative : Bool) :
    ofTen negative mantissa exponent = .infinite negative := by
  obtain ⟨n, rfl⟩ := Int.eq_ofNat_of_zero_le (show 0 ≤ exponent by omega)
  rw [ofTen_of_nonneg]
  apply ofRatio_one_eq_infinite
  calc 2 ^ 1024 ≤ 10 ^ 310 := two_pow_le_ten_pow.1
    _ ≤ 10 ^ n := Nat.pow_le_pow_right (by decide) (by omega)
    _ ≤ mantissa * 10 ^ n := Nat.le_mul_of_pos_left _ hmantissa

theorem ofTen_eq_zero (hmantissa : mantissa < 10 ^ width) (h : exponent + width < -400)
    (negative : Bool) : ofTen negative mantissa exponent = zero negative := by
  obtain ⟨n, rfl⟩ : ∃ n : Nat, exponent = -n := ⟨(-exponent).toNat, by omega⟩
  rw [ofTen_neg]
  apply ofRatio_eq_zero
  calc 2 * (mantissa * Nat.pow 2 1074) = mantissa * (2 * Nat.pow 2 1074) := Nat.mul_left_comm _ _ _
    _ ≤ mantissa * 10 ^ 401 := Nat.mul_le_mul_left _ two_pow_le_ten_pow.2
    _ < 10 ^ width * 10 ^ 401 := Nat.mul_lt_mul_of_pos_right hmantissa (Nat.pow_pos (by decide))
    _ = 10 ^ (width + 401) := (pow_add _ _ _).symm
    _ ≤ 10 ^ n := Nat.pow_le_pow_right (by decide) (by omega)

/-- The shortcuts for numbers that are far too large or too small give what rounding gives. -/
theorem toBinary_eq_ofTen (h : mantissa < 10 ^ width) (negative : Bool) (exponent : Int) :
    toBinary negative mantissa width exponent = ofTen negative mantissa exponent := by
  unfold toBinary
  split
  · rename_i hzero
    rw [beq_iff_eq.1 hzero, ofTen_zero]
  · rename_i hne
    have hpos : 0 < mantissa := Nat.pos_of_ne_zero (by simpa using hne)
    split
    · split
      · rename_i hlarge
        rw [ofTen_eq_infinite hpos hlarge]
      · rfl
    · split
      · rename_i hsmall
        rw [ofTen_eq_zero h hsmall]
      · rfl

/-! ## Signs -/

theorem ofTen_negative {code : Fin (2047 * Nat.pow 2 52)}
    (h : ofTen false mantissa exponent = .finite false code) (negative : Bool) :
    ofTen negative mantissa exponent = .finite negative code := by
  unfold ofTen at h ⊢
  split at h <;> rename_i hexponent
  · rw [if_pos hexponent, ofRatio_eq_finite_iff]
    exact ofRatio_eq_finite_iff.1 h
  · rw [if_neg hexponent, ofRatio_eq_finite_iff]
    exact ofRatio_eq_finite_iff.1 h

theorem pos_of_ofTen {code : Fin (2047 * Nat.pow 2 52)} (hcode : code.val ≠ 0)
    (h : ofTen negative mantissa exponent = .finite negative code) : 0 < mantissa := by
  rw [Nat.pos_iff_ne_zero]
  rintro rfl
  rw [ofTen_zero] at h
  cases h
  exact hcode rfl

/-! ## What is written -/

variable {code : Fin (2047 * Nat.pow 2 52)} {place : Int}

/-- A decimal number that reads back as a code other than zero is that code's number. -/
theorem ofTen_of_readsBack (hcode : code.val ≠ 0) (h : readsBack code mantissa place = true) :
    ofTen false mantissa place = .finite false code := by
  have hread : toBinary false mantissa 18 place = .finite false code := of_decide_eq_true h
  have hzero : zero false ≠ .finite false code := by
    intro heq
    cases heq
    exact hcode rfl
  unfold toBinary at hread
  split at hread
  · exact absurd hread hzero
  · split at hread
    · split at hread
      · cases hread
      · exact hread
    · split at hread
      · exact absurd hread hzero
      · exact hread

theorem ofTen_of_shortestFrom (hcode : code.val ≠ 0) {point : Int} {count fuel : Nat}
    (h : shortestFrom code point count fuel = some (mantissa, place)) :
    ofTen false mantissa place = .finite false code := by
  induction fuel generalizing count with
  | zero => cases h
  | succ fuel ih =>
    rw [shortestFrom] at h
    split at h
    · rename_i hfind
      cases h
      have hread := List.find?_some hfind
      exact ofTen_of_readsBack hcode hread
    · exact ih h

theorem ofTen_mul_five (negative : Bool) (n k : Nat) :
    ofTen negative (n * Nat.pow 5 k) (-(k : Int)) = ofRatio negative n (Nat.pow 2 k) := by
  have hpow : 10 ^ k = Nat.pow 2 k * Nat.pow 5 k := Nat.mul_pow 2 5 k
  have hpos : 0 < Nat.pow 5 k := Nat.pow_pos (by decide)
  rw [ofTen_neg, hpow, ofRatio_mul_right hpos]

theorem ofTen_shortest (hcode : code.val ≠ 0) :
    ofTen false (shortest code).1 (shortest code).2 = .finite false code := by
  unfold shortest
  split
  · rename_i found hfound
    exact ofTen_of_shortestFrom hcode hfound
  · exact (ofTen_mul_five false (units code) 1074).trans (ofRatio_units false code)

theorem ofTen_dropZeros (negative : Bool) (mantissa : Nat) (exponent : Int) (fuel : Nat) :
    ofTen negative (dropZeros mantissa exponent fuel).1 (dropZeros mantissa exponent fuel).2 =
      ofTen negative mantissa exponent := by
  induction fuel generalizing mantissa exponent with
  | zero => rfl
  | succ fuel ih =>
    rw [dropZeros]
    split
    · rename_i hzero
      rw [Bool.and_eq_true, beq_iff_eq] at hzero
      rw [ih, ← ofTen_mul_ten, Nat.div_mul_cancel (Nat.dvd_of_mod_eq_zero hzero.1)]
    · rfl

/-- What is written of a binary number other than zero are the digits of a decimal number that is
rounded to it. -/
theorem exists_magnitude_eq (hcode : code.val ≠ 0) :
    ∃ m e, magnitude code = layout (digits m) (e + (digits m).length) ∧ 0 < m ∧
      ∀ negative, ofTen negative m e = .finite negative code := by
  have hshort := ofTen_shortest hcode
  rw [← ofTen_dropZeros false _ _ 400] at hshort
  refine ⟨_, _, ?_, pos_of_ofTen hcode hshort, ofTen_negative hshort⟩
  rw [magnitude, if_neg (by simpa using hcode)]

end HookPolicy.Decimal
