import HookPolicy.Rule.Eval
import Mathlib

/-!
# How a rule fails

A rule fails on a context when its text cannot be read, or when its evaluation comes to a comparison
that stands too deep or to a pattern that is beyond the matcher. `Expr.Fails` follows the evaluation
with its short cuts. The lint sees the first kind of failure and not the second.
-/

namespace HookPolicy.Rule

namespace Expr

/-- The evaluation comes to something that it cannot decide. -/
inductive Fails (context : Json) : Nat → Expr → EvalError → Prop
  | tooDeep (e : Expr) : Fails context 0 e .tooDeep
  | pattern {n : Nat} {path text value : String} {op : Operator} {fault : Pattern.Fault} :
      op = .matches ∨ op = .notMatches → resolve context path = .string text →
      Pattern.compile value.toList = .error fault → fault ≠ .malformed →
      Fails context (n + 1) (.compare path op value) (.pattern fault)
  | conjFirst {n : Nat} {a b : Expr} {err : EvalError} :
      Fails context n a err → Fails context (n + 1) (.conj a b) err
  | conjSecond {n : Nat} {a b : Expr} {err : EvalError} :
      eval context n a = .ok true → Fails context n b err → Fails context (n + 1) (.conj a b) err
  | disjFirst {n : Nat} {a b : Expr} {err : EvalError} :
      Fails context n a err → Fails context (n + 1) (.disj a b) err
  | disjSecond {n : Nat} {a b : Expr} {err : EvalError} :
      eval context n a = .ok false → Fails context n b err → Fails context (n + 1) (.disj a b) err
  | negate {n : Nat} {a : Expr} {err : EvalError} :
      Fails context n a err → Fails context (n + 1) (.negate a) err

/-- How many levels an evaluation without short cuts goes down. -/
def height : Expr → Nat
  | compare _ _ _ => 1
  | conj a b => max a.height b.height + 1
  | disj a b => max a.height b.height + 1
  | negate a => a.height + 1

/-- The patterns that an evaluation may look for. -/
def patterns : Expr → List String
  | compare _ op value => if op = .matches ∨ op = .notMatches then [value] else []
  | conj a b => a.patterns ++ b.patterns
  | disj a b => a.patterns ++ b.patterns
  | negate a => a.patterns

end Expr

/-- A pattern that can be looked for, be it as a text when it is malformed. -/
def Searchable (pattern : String) : Prop :=
  ∀ fault, Pattern.compile pattern.toList = .error fault → fault = .malformed

theorem patternHolds_eq_error_iff {value : String} {v : Json} {err : EvalError} :
    patternHolds value v = .error err ↔ ∃ text fault, v = .string text ∧
      Pattern.compile value.toList = .error fault ∧ fault ≠ .malformed ∧ err = .pattern fault := by
  constructor
  · intro h
    unfold patternHolds at h
    split at h
    · split at h
      · cases h
      · cases h
      · rename_i text _ fault hne hfault
        cases h
        exact ⟨text, fault, rfl, hfault, hne, rfl⟩
    · cases h
  · rintro ⟨text, fault, rfl, hfault, hne, rfl⟩
    rw [patternHolds, hfault]
    cases fault <;> first | rfl | exact absurd rfl hne

theorem compareWith_eq_error_iff {op : Operator} {v : Json} {value : String} {err : EvalError} :
    compareWith op v value = .error err ↔
      (op = .matches ∨ op = .notMatches) ∧ patternHolds value v = .error err := by
  cases op <;> simp [compareWith]
  cases patternHolds value v <;> simp [Except.map]

theorem Expr.eval_eq_error_iff {context : Json} {n : Nat} {e : Expr} {err : EvalError} :
    e.eval context n = .error err ↔ e.Fails context n err := by
  constructor
  · intro h
    -- the budget goes down with the expression, so the cases of the evaluation are those of `Fails`
    induction n generalizing e with
    | zero =>
      cases h
      exact .tooDeep e
    | succ n ih =>
      cases e with
      | compare path op value =>
        obtain ⟨hop, hpattern⟩ := compareWith_eq_error_iff.1 h
        obtain ⟨text, fault, hv, hfault, hne, rfl⟩ := patternHolds_eq_error_iff.1 hpattern
        exact .pattern hop hv hfault hne
      | conj a b =>
        rw [eval] at h
        split at h
        · rename_i ha
          exact .conjSecond ha (ih h)
        · exact .conjFirst (ih h)
      | disj a b =>
        rw [eval] at h
        split at h
        · rename_i ha
          exact .disjSecond ha (ih h)
        · exact .disjFirst (ih h)
      | negate a =>
        rw [eval] at h
        cases ha : a.eval context n with
        | ok b =>
          rw [ha] at h
          cases h
        | error err' =>
          rw [ha] at h
          cases h
          exact .negate (ih ha)
  · intro h
    induction h with
    | tooDeep e => rfl
    | pattern hop hv hfault hne =>
      exact compareWith_eq_error_iff.2 ⟨hop, patternHolds_eq_error_iff.2 ⟨_, _, hv, hfault, hne, rfl⟩⟩
    | conjFirst _ ih => rw [eval, ih]
    | conjSecond ha _ ih => rw [eval, ha, ih]
    | disjFirst _ ih => rw [eval, ih]
    | disjSecond ha _ ih => rw [eval, ha, ih]
    | negate _ ih => rw [eval, ih]; rfl

theorem Expr.Fails.exceeds {context : Json} {n : Nat} {e : Expr} {err : EvalError}
    (h : e.Fails context n err) : n < e.height ∨ ∃ p ∈ e.patterns, ¬ Searchable p := by
  induction h with
  | tooDeep e => exact .inl (by cases e <;> simp [height])
  | @pattern n path text value op fault hop hv hfault hne =>
    exact .inr ⟨value, by simp [patterns, hop], fun hall => hne (hall fault hfault)⟩
  | conjFirst _ ih | conjSecond _ _ ih | disjFirst _ ih | disjSecond _ _ ih =>
    simp only [height, patterns, List.mem_append]
    grind
  | negate _ ih => simpa only [height, patterns, Nat.add_lt_add_iff_right] using ih

/-- An evaluation that stays within its budget and meets only patterns that can be looked for gives
an answer. -/
theorem Expr.exists_eval_eq_ok {e : Expr} {n : Nat} (hheight : e.height ≤ n)
    (hpatterns : ∀ p ∈ e.patterns, Searchable p) (context : Json) :
    ∃ b, e.eval context n = .ok b := by
  cases heval : e.eval context n with
  | ok b => exact ⟨b, rfl⟩
  | error err =>
    rcases (eval_eq_error_iff.1 heval).exceeds with hlt | ⟨p, hp, hnot⟩
    · omega
    · exact absurd (hpatterns p hp) hnot

theorem outcome_eq_parse_error_iff {text : String} {context : Json} {e : ParseError} :
    outcome text context = .error (.parse e) ↔ defect? text = some e := by
  unfold outcome defect?
  split
  · simp
  · cases compile text with
    | error e' => simp
    | ok a => cases heval : a.eval context evalLimit <;> simp [heval]

theorem outcome_eq_eval_error_iff {text : String} {context : Json} {err : EvalError} :
    outcome text context = .error (.eval err) ↔
      isBlankRule text = false ∧ ∃ e, compile text = .ok e ∧ e.Fails context evalLimit err := by
  unfold outcome
  split
  · rename_i hblank
    simp [hblank]
  · rename_i hblank
    cases hcompile : compile text with
    | error e => simp
    | ok a =>
      cases heval : a.eval context evalLimit with
      | ok b => simp [hblank, ← Expr.eval_eq_error_iff, heval]
      | error err' => simp [hblank, ← Expr.eval_eq_error_iff, heval]

/-- The lint finds a defect exactly where a rule fails on its text, which it then does on every
context. A rule without a defect fails on a context exactly where its evaluation comes to a
comparison that stands too deep or to a pattern that cannot be looked for; one that is shallow and
has no such pattern never fails. -/
theorem defect_iff_fails_on_text (text : String) :
    (∀ e context, defect? text = some e ↔ outcome text context = .error (.parse e)) ∧
    (defect? text = none → ∀ context f, outcome text context = .error f ↔
      ∃ err, f = .eval err ∧ isBlankRule text = false ∧
        ∃ e, compile text = .ok e ∧ e.Fails context evalLimit err) ∧
    (defect? text = none →
      (∀ e, compile text = .ok e →
        e.height ≤ evalLimit ∧ ∀ p ∈ e.patterns, Searchable p) →
      ∀ context, ∃ b, outcome text context = .ok b) := by
  refine ⟨fun e context => outcome_eq_parse_error_iff.symm, ?_, ?_⟩
  · intro hnone context f
    cases f with
    | parse e => simp [outcome_eq_parse_error_iff, hnone]
    | eval err => simp [outcome_eq_eval_error_iff]
  · intro hnone hbounds context
    cases hout : outcome text context with
    | ok b => exact ⟨b, rfl⟩
    | error f =>
      cases f with
      | parse e => simp [outcome_eq_parse_error_iff, hnone] at hout
      | eval err =>
        obtain ⟨-, e, hcompile, hfails⟩ := outcome_eq_eval_error_iff.1 hout
        obtain ⟨hheight, hpatterns⟩ := hbounds e hcompile
        obtain ⟨b, hb⟩ := Expr.exists_eval_eq_ok hheight hpatterns context
        rw [Expr.eval_eq_error_iff.2 hfails] at hb
        cases hb

/-- A count that is too large for the matcher, looked for or not looked for. -/
def overfullRule : String :=
  "tool matches 'a\x7b4294967295\x7d' || !(tool matches 'a\x7b4294967295\x7d')"

def overfullComparison : Expr := .compare "tool" .matches "a\x7b4294967295\x7d"

theorem compile_overfullRule :
    compile overfullRule = .ok (.disj overfullComparison (.negate overfullComparison)) := by
  decide +kernel

/-- The lint finds nothing wrong with a rule that fails on a context. If it did not fail, it would
hold, being a comparison or its negation. -/
theorem overfullRule_fails_without_defect : defect? overfullRule = none ∧
    outcome overfullRule (.object [("tool", .string "a")])
      = .error (.eval (.pattern .countTooLarge)) := by
  have hwritten : isBlankRule overfullRule = false := by decide
  have hfault : Pattern.compile "a\x7b4294967295\x7d".toList = .error .countTooLarge := by
    decide +kernel
  constructor
  · rw [defect?, hwritten, compile_overfullRule]
    rfl
  · refine outcome_eq_eval_error_iff.2 ⟨hwritten, _, compile_overfullRule, .disjFirst ?_⟩
    have hvalue : resolve (.object [("tool", .string "a")]) "tool" = .string "a" := by cbv
    exact .pattern (.inl rfl) hvalue hfault (by decide)

end HookPolicy.Rule
