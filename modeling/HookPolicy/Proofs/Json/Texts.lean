import HookPolicy.Json.Reader
import HookPolicy.Json.Writer
import Mathlib

/-!
# Reading texts back

A text between double quotes is read back, whatever its characters are: each is written as itself,
by an escape of its own, by its 16-bit unit or by the two units of a pair.
-/

namespace HookPolicy.Json

open Text (hexDigits hexValue?)

variable {c : Char} {rest : List Char}

/-! ## Units -/

theorem hexValue?_digitChar : ∀ d < 16, hexValue? d.digitChar = some d := by
  decide

theorem hexDigits_four (n : Nat) :
    hexDigits 4 n = [(n / 4096 % 16).digitChar, (n / 256 % 16).digitChar, (n / 16 % 16).digitChar,
      (n % 16).digitChar] := by
  have hlast : hexDigits 4 n = [(n / 4096 % 16).digitChar, (n / 256 % 16).digitChar,
      (n / 16 % 16).digitChar, (n / 1 % 16).digitChar] := rfl
  rw [hlast, Nat.div_one]

theorem unit?_hexDigits {n : Nat} (h : n < 65536) :
    unit? (n / 4096 % 16).digitChar (n / 256 % 16).digitChar (n / 16 % 16).digitChar
      (n % 16).digitChar = some n := by
  have hvalue : ∀ k, hexValue? (k % 16).digitChar = some (k % 16) := fun k =>
    hexValue?_digitChar _ (Nat.mod_lt _ (by decide))
  rw [unit?, hvalue, hvalue, hvalue, hvalue]
  dsimp only
  congr 1
  omega

theorem escapePiece_unit {n : Nat} (h : n < 65536) (hhalf : isHighHalf n = false)
    (hrest : rest ≠ []) :
    escapePiece ('u' :: (hexDigits 4 n ++ rest)) = .char (unitChar n) 6 := by
  obtain ⟨next, more, rfl⟩ := List.exists_cons_of_ne_nil hrest
  rw [hexDigits_four]
  simp only [List.cons_append, List.nil_append, escapePiece, unit?_hexDigits h, hhalf]
  rfl

theorem escapePiece_pair {high low : Nat} (hhigh : isHighHalf high = true)
    (hlow : isLowHalf low = true) (hrest : rest ≠ []) :
    escapePiece ('u' :: (hexDigits 4 high ++ ('\\' :: 'u' :: (hexDigits 4 low ++ rest)))) =
      .char (pairChar high low) 12 := by
  have hhigh' : high < 65536 := by
    simp only [isHighHalf, Bool.and_eq_true, decide_eq_true_eq] at hhigh
    omega
  have hlow' : low < 65536 := by
    simp only [isLowHalf, Bool.and_eq_true, decide_eq_true_eq] at hlow
    omega
  obtain ⟨next, more, rfl⟩ := List.exists_cons_of_ne_nil hrest
  rw [hexDigits_four, hexDigits_four]
  simp only [List.cons_append, List.nil_append, escapePiece, unit?_hexDigits hhigh',
    unit?_hexDigits hlow', hhigh, hlow]
  rfl

theorem not_half (c : Char) : ¬ (0xD800 ≤ c.toNat ∧ c.toNat ≤ 0xDFFF) := by
  rcases c.valid with h | h
  · intro hc
    have : c.toNat < 0xD800 := h
    omega
  · intro hc
    have : 0xDFFF < c.toNat := h.1
    omega

theorem toNat_lt (c : Char) : c.toNat < 0x110000 := by
  rcases c.valid with h | h
  · have : c.toNat < 0xD800 := h
    omega
  · exact h.2

theorem unitChar_toNat (c : Char) : unitChar c.toNat = c := by
  have hhalf : (decide (0xD800 ≤ c.toNat) && decide (c.toNat ≤ 0xDFFF)) = false := by
    simpa using not_half c
  rw [unitChar, hhalf]
  exact Char.ofNat_toNat c

theorem pairChar_toNat (h : 0x10000 ≤ c.toNat) :
    pairChar (0xD800 + (c.toNat - 0x10000) / 0x400) (0xDC00 + (c.toNat - 0x10000) % 0x400) = c := by
  have hsum : 0x10000 + (0xD800 + (c.toNat - 0x10000) / 0x400 - 0xD800) * 0x400 +
      (0xDC00 + (c.toNat - 0x10000) % 0x400 - 0xDC00) = c.toNat := by omega
  rw [pairChar, hsum, Char.ofNat_toNat]

/-! ## Characters -/

theorem nextPiece_backslash (cs : List Char) : nextPiece '\\' cs = escapePiece cs := rfl

/-- Every character is read back from what is written for it. -/
theorem exists_escapeChar_eq (c : Char) (hrest : rest ≠ []) :
    ∃ b w, escapeChar c = b :: w ∧ nextPiece b (w ++ rest) = .char c (w.length + 1) := by
  unfold escapeChar
  split_ifs with hquote hback hnewline hreturn htab h8 h12 hplain hunit
  · rw [beq_iff_eq.1 hquote]
    exact ⟨_, _, rfl, rfl⟩
  · rw [beq_iff_eq.1 hback]
    exact ⟨_, _, rfl, rfl⟩
  · rw [beq_iff_eq.1 hnewline]
    exact ⟨_, _, rfl, rfl⟩
  · rw [beq_iff_eq.1 hreturn]
    exact ⟨_, _, rfl, rfl⟩
  · rw [beq_iff_eq.1 htab]
    exact ⟨_, _, rfl, rfl⟩
  · have hc : c = '\x08' := by
      rw [← Char.ofNat_toNat c, beq_iff_eq.1 h8]
    rw [hc]
    exact ⟨_, _, rfl, rfl⟩
  · have hc : c = '\x0c' := by
      rw [← Char.ofNat_toNat c, beq_iff_eq.1 h12]
    rw [hc]
    exact ⟨_, _, rfl, rfl⟩
  · refine ⟨_, _, rfl, ?_⟩
    have hvisible : ¬ c.toNat ≤ 0x1F := by
      rw [Bool.and_eq_true, decide_eq_true_eq, decide_eq_true_eq] at hplain
      omega
    rw [nextPiece, if_neg hquote, if_neg hback, if_neg hvisible]
    rfl
  · refine ⟨_, _, rfl, ?_⟩
    have hhalf : isHighHalf c.toNat = false := by
      have := not_half c
      simp only [isHighHalf, Bool.and_eq_false_iff, decide_eq_false_iff_not]
      omega
    rw [nextPiece_backslash, List.cons_append, escapePiece_unit hunit hhalf hrest, unitChar_toNat,
      hexDigits_four]
    rfl
  · refine ⟨'\\', 'u' :: (hexDigits 4 (0xD800 + (c.toNat - 0x10000) / 0x400) ++
      '\\' :: 'u' :: hexDigits 4 (0xDC00 + (c.toNat - 0x10000) % 0x400)), rfl, ?_⟩
    have hlarge : 0x10000 ≤ c.toNat := Nat.le_of_not_lt hunit
    have hlt := toNat_lt c
    have hhigh : isHighHalf (0xD800 + (c.toNat - 0x10000) / 0x400) = true := by
      simp only [isHighHalf, Bool.and_eq_true, decide_eq_true_eq]
      omega
    have hlow : isLowHalf (0xDC00 + (c.toNat - 0x10000) % 0x400) = true := by
      simp only [isLowHalf, Bool.and_eq_true, decide_eq_true_eq]
      omega
    rw [nextPiece_backslash, List.cons_append, List.append_assoc, List.cons_append,
      List.cons_append, escapePiece_pair hhigh hlow hrest, pairChar_toNat hlarge, hexDigits_four,
      hexDigits_four]
    rfl

/-! ## Bodies -/

theorem readBody_skip (start offset : Nat) (out w rest : List Char) :
    readBody start offset w.length out (w ++ rest) =
      readBody start (offset + w.length) 0 out rest := by
  induction w generalizing offset with
  | nil => rfl
  | cons c w ih =>
    rw [List.cons_append, List.length_cons, readBody, ih]
    congr 1
    omega

theorem readBody_char {b d : Char} {w : List Char}
    (h : nextPiece b (w ++ rest) = .char d (w.length + 1)) (start offset : Nat) (out : List Char) :
    readBody start offset 0 out (b :: (w ++ rest)) =
      readBody start (offset + 1 + w.length) 0 (d :: out) rest := by
  rw [readBody, h]
  exact readBody_skip start (offset + 1) (d :: out) w rest

theorem exists_readBody_eq (start offset : Nat) (out cs rest : List Char) :
    ∃ offset', readBody start offset 0 out (cs.flatMap escapeChar ++ '"' :: rest) =
      .ok (String.ofList (out.reverse ++ cs), ⟨rest, offset'⟩) := by
  induction cs generalizing offset out with
  | nil => exact ⟨_, by rw [List.append_nil]; rfl⟩
  | cons c cs ih =>
    have hrest : cs.flatMap escapeChar ++ '"' :: rest ≠ [] := by simp
    obtain ⟨b, w, hescape, hpiece⟩ := exists_escapeChar_eq c hrest
    obtain ⟨offset', hread⟩ := ih (offset + 1 + w.length) (c :: out)
    refine ⟨offset', ?_⟩
    rw [List.flatMap_cons, hescape, List.append_assoc, List.cons_append, readBody_char hpiece,
      hread, List.reverse_cons, List.append_assoc]
    rfl

end HookPolicy.Json
