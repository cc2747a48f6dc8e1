import HookPolicy.Text.Pieces
import Mathlib.Data.List.Infix

/-! # Texts inside texts -/

namespace HookPolicy.Text

variable {part cs rest : List Char}

theorem rest?_eq_some_iff : rest? part cs = some rest ↔ cs = part ++ rest := by
  induction part generalizing cs with
  | nil => exact Option.some_inj
  | cons a part ih =>
    cases cs with
    | nil => simp [rest?]
    | cons c cs =>
      rw [rest?, List.cons_append, List.cons.injEq, ← ih]
      split
      · rename_i h
        simp [eq_of_beq h]
      · rename_i h
        simp [show ¬ c = a from fun heq => h (beq_iff_eq.2 heq.symm)]

theorem startsWith_iff : startsWith part cs = true ↔ part <+: cs := by
  rw [startsWith, Option.isSome_iff_exists]
  exact exists_congr fun rest => rest?_eq_some_iff.trans eq_comm

theorem occursIn_iff : occursIn part cs = true ↔ part <:+: cs := by
  induction cs with
  | nil => rw [occursIn, startsWith_iff, List.prefix_nil, List.infix_nil]
  | cons c cs ih => rw [occursIn, Bool.or_eq_true, startsWith_iff, ih, List.infix_cons_iff]

end HookPolicy.Text
