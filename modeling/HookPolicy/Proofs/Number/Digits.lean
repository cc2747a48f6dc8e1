import HookPolicy.Number.IntText
import HookPolicy.Number.Decimal
import Mathlib

/-!
# Decimal digits

The digits of a number are ASCII digits that count to the number, none of them a zero in front, and
as many as the size of the number needs. A whole number is read back from its text.
-/

namespace HookPolicy

namespace Text

variable {c : Char}

theorem isAsciiDigit_iff : isAsciiDigit c = true ↔ 48 ≤ c.toNat ∧ c.toNat ≤ 57 := by
  simp [isAsciiDigit, Char.le_def, UInt32.le_iff_toNat_le]

theorem digitValue?_of_isAsciiDigit (h : isAsciiDigit c = true) :
    digitValue? c = some (c.toNat - 48) := by
  have hsmall : c.toNat < 128 := by
    have := isAsciiDigit_iff.1 h
    omega
  rw [digitValue?, if_pos hsmall, if_pos h]

theorem isDigit_of_isAsciiDigit (h : isAsciiDigit c = true) : isDigit c = true := by
  rw [isDigit, digitValue?_of_isAsciiDigit h]
  rfl

theorem numberOf_append (base : Nat) (value? : Char → Option Nat) (cs ds : List Char) :
    numberOf base value? (cs ++ ds) =
      numberOf base value? cs * base ^ ds.length + numberOf base value? ds := by
  have hstart : ∀ (ds : List Char) (n : Nat),
      ds.foldl (fun n c => n * base + (value? c).getD 0) n =
        n * base ^ ds.length + numberOf base value? ds := by
    intro ds
    induction ds with
    | nil => simp [numberOf]
    | cons d ds ih =>
      intro n
      rw [numberOf, List.foldl_cons, List.foldl_cons, ih, ih, List.length_cons]
      ring
  rw [numberOf, List.foldl_append, hstart]
  rfl

end Text

namespace Decimal

open Text

/-- The number that decimal digits count to. -/
abbrev count (ds : List Char) : Nat := numberOf 10 digitValue? ds

def AllDigits (ds : List Char) : Prop := ∀ c ∈ ds, isAsciiDigit c = true

theorem AllDigits.append {cs ds : List Char} (hcs : AllDigits cs) (hds : AllDigits ds) :
    AllDigits (cs ++ ds) := by
  intro c hc
  rcases List.mem_append.1 hc with h | h
  · exact hcs c h
  · exact hds c h

theorem AllDigits.of_append_left {cs ds : List Char} (h : AllDigits (cs ++ ds)) : AllDigits cs :=
  fun c hc => h c (List.mem_append_left ds hc)

theorem AllDigits.of_append_right {cs ds : List Char} (h : AllDigits (cs ++ ds)) : AllDigits ds :=
  fun c hc => h c (List.mem_append_right cs hc)

theorem allDigits_digits (n : Nat) : AllDigits (digits n) := by
  intro c hc
  have h := Nat.isDigit_of_mem_toDigits (by decide) (by decide) hc
  simpa [Char.isDigit, isAsciiDigit, Char.le_def] using h

theorem digits_ne_nil (n : Nat) : digits n ≠ [] := Nat.toDigits_ne_nil

theorem length_digits_le_iff {n k : Nat} (h : 0 < k) : (digits n).length ≤ k ↔ n < 10 ^ k :=
  Nat.length_toDigits_le_iff (by decide) h

theorem digits_of_lt {n : Nat} (h : n < 10) : digits n = [n.digitChar] :=
  Nat.toDigits_of_lt_base h

theorem digits_of_le {n : Nat} (h : 10 ≤ n) : digits n = digits (n / 10) ++ [(n % 10).digitChar] :=
  Nat.toDigits_of_base_le (by decide) h

theorem count_digits (n : Nat) : count (digits n) = n := by
  have hsame : ∀ (ds : List Char) (k : Nat), AllDigits ds →
      ds.foldl (fun n c => n * 10 + (digitValue? c).getD 0) k = Nat.ofDigitChars 10 ds k := by
    intro ds
    induction ds with
    | nil => exact fun _ _ => rfl
    | cons d ds ih =>
      intro k hds
      have hd := digitValue?_of_isAsciiDigit (hds d List.mem_cons_self)
      rw [List.foldl_cons, ih _ fun c hc => hds c (List.mem_cons_of_mem d hc), hd, mul_comm]
      rfl
  change List.foldl _ 0 (digits n) = n
  rw [hsame _ _ (allDigits_digits n)]
  exact Nat.ofDigitChars_toDigits (by decide) (by decide)

theorem head_digits_ne_zero {n : Nat} (h : 0 < n) : (digits n).head? ≠ some '0' := by
  induction n using Nat.strong_induction_on with
  | _ n ih =>
    by_cases hn : n < 10
    · rw [digits_of_lt hn]
      interval_cases n <;> decide
    · have hle : 10 ≤ n := Nat.le_of_not_lt hn
      rw [digits_of_le hle, List.head?_append_of_ne_nil _ (digits_ne_nil _)]
      exact ih (n / 10) (by omega) (by omega)

theorem count_append (cs ds : List Char) :
    count (cs ++ ds) = count cs * 10 ^ ds.length + count ds :=
  numberOf_append 10 digitValue? cs ds

theorem count_zeros (k : Nat) : count (zeros k) = 0 := by
  induction k with
  | zero => rfl
  | succ k ih =>
    have hstep : zeros (k + 1) = zeros k ++ ['0'] := List.replicate_succ'
    rw [hstep, count_append, ih]
    decide

theorem allDigits_zeros (k : Nat) : AllDigits (zeros k) := by
  intro c hc
  rw [List.eq_of_mem_replicate hc]
  decide

theorem count_lt {ds : List Char} (h : AllDigits ds) : count ds < 10 ^ ds.length := by
  induction ds using List.reverseRecOn with
  | nil => decide
  | append_singleton ds d ih =>
    have hd := h.of_append_right d (List.mem_singleton_self d)
    have hlast : count [d] = d.toNat - 48 := by
      simp [count, numberOf, digitValue?_of_isAsciiDigit hd]
    have := isAsciiDigit_iff.1 hd
    have := ih h.of_append_left
    rw [count_append, hlast, List.length_append, List.length_singleton, pow_add]
    omega

theorem AllDigits.take {ds : List Char} (h : AllDigits ds) (k : Nat) : AllDigits (ds.take k) :=
  fun c hc => h c (List.mem_of_mem_take hc)

theorem allDigits_span (cs : List Char) : AllDigits (cs.span isAsciiDigit).1 := by
  intro c hc
  rw [List.span_eq_takeWhile_dropWhile] at hc
  exact List.mem_takeWhile_imp hc

theorem span_digits {ds rest : List Char} (h : AllDigits ds)
    (hrest : ∀ c ∈ rest.head?, isAsciiDigit c = false) :
    (ds ++ rest).span isAsciiDigit = (ds, rest) := by
  rw [List.span_eq_takeWhile_dropWhile, List.takeWhile_append_of_pos h,
    List.dropWhile_append_of_pos h]
  cases rest with
  | nil => simp
  | cons c rest => simp [hrest c rfl]

/-! ## Whole numbers -/

theorem filter_digits {ds : List Char} (h : AllDigits ds) : ds.filter (· != '_') = ds := by
  rw [List.filter_eq_self]
  intro c hc
  have hdigit := isAsciiDigit_iff.1 (h c hc)
  rw [bne_iff_ne]
  rintro rfl
  revert hdigit
  decide

theorem digitsFill_of_allDigits {ds : List Char} (h : AllDigits ds) (hne : ds ≠ []) (b : Bool) :
    digitsFill isDigit b ds = true := by
  induction ds generalizing b with
  | nil => exact absurd rfl hne
  | cons d ds ih =>
    have hd := h d List.mem_cons_self
    have hline : (d == '_') = false := by
      rw [beq_eq_false_iff_ne]
      rintro rfl
      revert hd
      decide
    rw [digitsFill, hline, if_neg Bool.false_ne_true, isDigit_of_isAsciiDigit hd, Bool.true_and]
    cases ds with
    | nil => rfl
    | cons e ds => exact ih (fun c hc => h c (List.mem_cons_of_mem d hc)) nofun true

theorem isBlank_of_isAsciiDigit {c : Char} (h : isAsciiDigit c = true) : isBlank c = false := by
  have := isAsciiDigit_iff.1 h
  simp only [isBlank, Bool.or_eq_false_iff, Bool.and_eq_false_iff, beq_eq_false_iff_ne,
    decide_eq_false_iff_not]
  omega

theorem trimBy_of_ends {p : Char → Bool} {cs : List Char} (hhead : ∀ c ∈ cs.head?, p c = false)
    (hlast : ∀ c ∈ cs.getLast?, p c = false) : trimBy p cs = cs := by
  have hfront : cs.dropWhile p = cs := by
    cases cs with
    | nil => rfl
    | cons c cs => rw [List.dropWhile_cons_of_neg (by simp [hhead c rfl])]
  have hback : cs.reverse.dropWhile p = cs.reverse := by
    cases hcs : cs.reverse with
    | nil => rfl
    | cons c back =>
      have hc : c ∈ cs.getLast? := by
        rw [← List.head?_reverse, hcs]
        rfl
      rw [List.dropWhile_cons_of_neg (by simp [hlast c hc])]
  rw [trimBy, hfront, hback, List.reverse_reverse]

theorem trim_digits {ds : List Char} (h : AllDigits ds) : trim ds = ds :=
  trimBy_of_ends (fun c hc => isBlank_of_isAsciiDigit (h c (List.mem_of_mem_head? hc)))
    fun c hc => isBlank_of_isAsciiDigit (h c (List.mem_of_mem_getLast? hc))

theorem trim_negative {ds : List Char} (h : AllDigits ds) (hne : ds ≠ []) :
    trim ('-' :: ds) = '-' :: ds := by
  apply trimBy_of_ends
  · intro c hc
    cases hc
    decide
  · intro c hc
    rw [List.getLast?_cons_of_ne_nil hne] at hc
    exact isBlank_of_isAsciiDigit (h c (List.mem_of_mem_getLast? hc))

theorem splitSign_digits {ds : List Char} (h : AllDigits ds) : splitSign ds = (false, ds) := by
  unfold splitSign
  split
  · exact absurd (h '-' List.mem_cons_self) (by decide)
  · exact absurd (h '+' List.mem_cons_self) (by decide)
  · rfl

/-- A whole number is read back from its text, if it has no more digits than are read. -/
theorem readInt_intChars {n : Int} (h : n.natAbs < 10 ^ intDigitLimit) :
    readInt (intChars n) = some n := by
  have hdigits := allDigits_digits n.natAbs
  have hne := digits_ne_nil n.natAbs
  have hfill := digitsFill_of_allDigits hdigits hne false
  have hlength : (digits n.natAbs).length ≤ intDigitLimit :=
    (length_digits_le_iff (by decide)).2 h
  have hsplit : splitSign (trim (intChars n)) = (decide (n < 0), digits n.natAbs) := by
    unfold intChars
    split
    · rename_i hneg
      rw [trim_negative hdigits hne, decide_eq_true hneg]
      rfl
    · rename_i hpos
      rw [trim_digits hdigits, splitSign_digits hdigits, decide_eq_false hpos]
  unfold readInt
  rw [hsplit]
  dsimp only
  rw [filter_digits hdigits, hfill, decide_eq_true hlength, Bool.and_self, if_pos rfl,
    show numberOf 10 digitValue? (digits n.natAbs) = n.natAbs from count_digits _, signed]
  by_cases hneg : n < 0
  · rw [decide_eq_true hneg, if_pos rfl]
    congr 1
    omega
  · rw [decide_eq_false hneg, if_neg Bool.false_ne_true]
    congr 1
    omega

end Decimal

end HookPolicy
