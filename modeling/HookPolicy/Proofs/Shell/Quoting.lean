import HookPolicy.Shell.Quote
import HookPolicy.Shell.Words

/-!
# What the shell makes of a quoted text

Wherever a word may begin or go on, a quoted text adds only literal characters to it and leaves the
shell outside all quotes. The one place where a quoted text can still be taken for something else is
behind the operator that begins a here-document.
-/

namespace HookPolicy.Shell

/-- The characters that a part of a word stands for, if it has no other meaning. -/
def Bit.literal? : Bit → Option (List Char)
  | .plain c => if isSpecial c then none else some [c]
  | .quoted c => some [c]
  | .quote => some []
  | .expand _ _ => none

/-- The text that a word stands for, if no part of it has a meaning of its own. -/
def literalText? : List Bit → Option (List Char)
  | [] => some []
  | b :: bits =>
    match b.literal?, literalText? bits with
    | some cs, some rest => some (cs ++ rest)
    | _, _ => none

def protectedBits (c : Char) : List Bit :=
  if c == '\x27' then [.quoted c, .quote] else [.quoted c]

/-- The parts that a quoted text adds to a word. -/
def valueBits (v : List Char) : List Bit :=
  if v.isEmpty then [.quote]
  else if v.any isSpecial then .quote :: v.flatMap protectedBits
  else v.map .plain

theorem literalText?_append {a b : List Bit} {v w : List Char} (ha : literalText? a = some v)
    (hb : literalText? b = some w) : literalText? (a ++ b) = some (v ++ w) := by
  induction a generalizing v with
  | nil =>
    cases ha
    exact hb
  | cons x a ih =>
    rw [literalText?] at ha
    split at ha
    · rename_i cs rest hx hrest
      cases ha
      rw [List.cons_append, literalText?, hx, ih hrest, List.append_assoc]
    · exact absurd ha (by simp)

theorem literalText?_protectedBits (v : List Char) :
    literalText? (v.flatMap protectedBits) = some v := by
  induction v with
  | nil => rfl
  | cons c v ih =>
    have hc : literalText? (protectedBits c) = some [c] := by
      unfold protectedBits
      split <;> rfl
    exact literalText?_append hc ih

theorem literalText?_plain {v : List Char} (hv : v.any isSpecial = false) :
    literalText? (v.map .plain) = some v := by
  induction v with
  | nil => rfl
  | cons c v ih =>
    rw [List.any_cons, Bool.or_eq_false_iff] at hv
    rw [List.map_cons, literalText?, ih hv.2, Bit.literal?, hv.1]
    rfl

theorem literalText?_valueBits (v : List Char) : literalText? (valueBits v) = some v := by
  unfold valueBits
  split
  · rename_i hv
    rw [List.isEmpty_iff.1 hv]
    rfl
  · split
    · rw [literalText?, literalText?_protectedBits]
      rfl
    · rename_i hv
      exact literalText?_plain (Bool.eq_false_iff.2 hv)

theorem moveBare_of_not_special {c : Char} (hc : isSpecial c = false) (fresh : Bool) :
    moveBare fresh c = ⟨[.add (.plain c)], .bare⟩ := by
  simp [isSpecial] at hc
  simp [moveBare, isBlankChar, startsOperator, hc]

namespace Lexer

theorem steps_cons (s : Lexer) (c : Char) (cs : List Char) :
    s.steps (c :: cs) = (s.step c).steps cs := rfl

theorem steps_plain {v : List Char} (hv : v.any isSpecial = false) (bits : List Bit)
    (tokens : List Token) :
    Lexer.steps ⟨.bare, some bits, tokens⟩ v
      = ⟨.bare, some ((v.map Bit.plain).reverse ++ bits), tokens⟩ := by
  induction v generalizing bits with
  | nil => rfl
  | cons c v ih =>
    rw [List.any_cons, Bool.or_eq_false_iff] at hv
    have hstep : Lexer.step ⟨.bare, some bits, tokens⟩ c
        = ⟨.bare, some (.plain c :: bits), tokens⟩ := by
      simp only [step, move, moveBare_of_not_special hv.1]
      rfl
    rw [steps_cons, hstep, ih hv.2]
    simp

theorem steps_quoteEscape (c : Char) (bits : List Bit) (tokens : List Token) :
    Lexer.steps ⟨.single, some bits, tokens⟩ (quoteEscape c)
      = ⟨.single, some ((protectedBits c).reverse ++ bits), tokens⟩ := by
  by_cases hc : c = '\x27'
  · subst hc
    rfl
  · simp [quoteEscape, protectedBits, hc, steps, step, move, actAll, act]

theorem steps_protected (v : List Char) (bits : List Bit) (tokens : List Token) :
    Lexer.steps ⟨.single, some bits, tokens⟩ (v.flatMap quoteEscape ++ ['\x27'])
      = ⟨.bare, some ((v.flatMap protectedBits).reverse ++ bits), tokens⟩ := by
  induction v generalizing bits with
  | nil => rfl
  | cons c v ih =>
    rw [List.flatMap_cons, List.append_assoc, steps_append, steps_quoteEscape, ih]
    simp

/-- A quoted text goes on with the word in hand, or begins one. -/
theorem steps_quoteChars (v : List Char) (bits : Option (List Bit)) (tokens : List Token) :
    Lexer.steps ⟨.bare, bits, tokens⟩ (quoteChars v)
      = ⟨.bare, some ((valueBits v).reverse ++ bits.getD []), tokens⟩ := by
  unfold quoteChars valueBits
  split
  · cases bits <;> rfl
  · rename_i hne
    split
    · have hopen : Lexer.step ⟨.bare, bits, tokens⟩ '\x27'
          = ⟨.single, some (.quote :: bits.getD []), tokens⟩ := by
        cases bits <;> rfl
      rw [steps_cons, hopen, steps_protected]
      simp
    · rename_i hv
      have hv := Bool.eq_false_iff.2 hv
      cases v with
      | nil => exact absurd rfl hne
      | cons c v =>
        rw [List.any_cons, Bool.or_eq_false_iff] at hv
        have hstep : Lexer.step ⟨.bare, bits, tokens⟩ c
            = ⟨.bare, some (.plain c :: bits.getD []), tokens⟩ := by
          simp only [step, move, moveBare_of_not_special hv.1]
          rfl
        rw [steps_cons, hstep, steps_plain hv.2]
        simp

/-- A quoted text begins with a character that means nothing else where a word begins. -/
theorem quoteChars_eq_cons (v : List Char) :
    ∃ c cs, quoteChars v = c :: cs ∧ (c = '\x27' ∨ isSpecial c = false) := by
  unfold quoteChars
  split
  · exact ⟨_, _, rfl, .inl rfl⟩
  · rename_i hne
    split
    · exact ⟨_, _, rfl, .inl rfl⟩
    · rename_i hv
      cases v with
      | nil => exact absurd rfl hne
      | cons c v =>
        have hv := Bool.eq_false_iff.2 hv
        rw [List.any_cons, Bool.or_eq_false_iff] at hv
        exact ⟨c, v, rfl, .inr hv.1⟩

/-- Among the characters that begin a quoted text, only a dash can make an operator longer. -/
theorem not_longOperators {op : List Char} (hop : op ≠ ['<', '<']) {c : Char}
    (hc : c = '\x27' ∨ isSpecial c = false) : longOperators.contains (op ++ [c]) = false := by
  have hall : (longOperators.all fun w => w.dropLast == ['<', '<'] ||
      w.getLast?.any fun d => d != '\x27' && isSpecial d) = true := rfl
  rw [Bool.eq_false_iff]
  intro hin
  have hlast := List.all_eq_true.1 hall _ (List.contains_iff_mem.1 hin)
  rw [List.dropLast_concat, List.getLast?_concat, Bool.or_eq_true] at hlast
  rcases hlast with h | h
  · exact hop (eq_of_beq h)
  · rw [Option.any_some, Bool.and_eq_true, bne_iff_ne] at h
    rcases hc with rfl | hc
    · exact h.1 rfl
    · rw [hc] at h
      exact absurd h.2 (by simp)

/-- A quoted text begins a word behind any operator but that of a here-document. -/
theorem steps_quoteChars_behind {op : List Char} (hop : op ≠ ['<', '<']) (v : List Char)
    (bits : Option (List Bit)) (tokens : List Token) :
    Lexer.steps ⟨.unfinished (.operator op), bits, tokens⟩ (quoteChars v)
      = ⟨.bare, some ((valueBits v).reverse ++ bits.getD []), .operator op :: tokens⟩ := by
  rw [← steps_quoteChars]
  obtain ⟨c, cs, hv, hc⟩ := quoteChars_eq_cons v
  have hends : Unfinished.next? (.operator op) c = none := by
    rw [Unfinished.next?, not_longOperators hop hc]
    rfl
  have hjoin : c ≠ '\\' := by
    rintro rfl
    exact absurd hc (by decide)
  have hfresh : moveBare true c = moveBare bits.isNone c := by
    rcases hc with rfl | hc
    · cases bits <;> rfl
    · rw [moveBare_of_not_special hc, moveBare_of_not_special hc]
  have hstep : Lexer.step ⟨.unfinished (.operator op), bits, tokens⟩ c
      = Lexer.step ⟨.bare, bits, .operator op :: tokens⟩ c := by
    simp [step, move, hends, Unfinished.moveBehind, hjoin, Unfinished.quoted, Unfinished.isOperator,
      Unfinished.act, hfresh, actAll, act]
  rw [hv, steps_cons, hstep, ← steps_cons]

end Lexer

end HookPolicy.Shell
