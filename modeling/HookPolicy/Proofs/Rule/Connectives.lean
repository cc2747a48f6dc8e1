import HookPolicy.Proofs.Rule.Failure
import HookPolicy.Proofs.Rule.Printing
import HookPolicy.Proofs.Rule.Seams

/-!
# Rules joined as texts

Two texts that are rules by themselves can be put in parentheses and joined by a connective. The
lexer reads each as it reads it alone, the parser gives the trees joined, and the short cuts of the
evaluation agree with logic, so the joined text holds as the connective says (`holds_connectives`).
-/

namespace HookPolicy.Rule

variable {context : Json}

/-! ## Budgets -/

/-- One level more makes no difference to an evaluation that is not cut off. -/
theorem Expr.eval_succ {n : Nat} {e : Expr} (h : e.eval context n ≠ .error .tooDeep) :
    e.eval context (n + 1) = e.eval context n := by
  induction n generalizing e with
  | zero => exact absurd rfl h
  | succ n ih =>
    cases e with
    | compare path op value => rfl
    | conj a b =>
      have ha : a.eval context n ≠ .error .tooDeep := fun hcut => h (by rw [eval, hcut])
      rw [eval, eval, ih ha]
      cases hfirst : a.eval context n with
      | error err => rfl
      | ok p =>
        cases p with
        | false => rfl
        | true => exact ih fun hcut => h (by rw [eval, hfirst]; exact hcut)
    | disj a b =>
      have ha : a.eval context n ≠ .error .tooDeep := fun hcut => h (by rw [eval, hcut])
      rw [eval, eval, ih ha]
      cases hfirst : a.eval context n with
      | error err => rfl
      | ok p =>
        cases p with
        | true => rfl
        | false => exact ih fun hcut => h (by rw [eval, hfirst]; exact hcut)
    | negate a =>
      have ha : a.eval context n ≠ .error .tooDeep := fun hcut => h (by rw [eval, hcut]; rfl)
      rw [eval, eval, ih ha]

variable {n : Nat} {a b : Expr} {p q : Bool}

/-- With a level less an evaluation gives the same answer or is cut off. -/
theorem Expr.eval_pred (ha : a.eval context (n + 1) = .ok p) :
    a.eval context n = .error .tooDeep ∨ a.eval context n = .ok p := by
  by_cases hcut : a.eval context n = .error .tooDeep
  · exact .inl hcut
  · exact .inr ((eval_succ hcut).symm.trans ha)

theorem Expr.eval_conj (ha : a.eval context (n + 1) = .ok p) (hb : b.eval context (n + 1) = .ok q)
    (hdeep : (conj a b).eval context (n + 1) ≠ .error .tooDeep) :
    (conj a b).eval context (n + 1) = .ok (p && q) := by
  rw [eval] at hdeep ⊢
  rcases eval_pred ha with hcut | hfirst
  · exact absurd (by rw [hcut]) hdeep
  · rw [hfirst] at hdeep ⊢
    cases p with
    | false => rfl
    | true =>
      rcases eval_pred hb with hcut | hsecond
      · exact absurd hcut hdeep
      · exact hsecond

theorem Expr.eval_disj (ha : a.eval context (n + 1) = .ok p) (hb : b.eval context (n + 1) = .ok q)
    (hdeep : (disj a b).eval context (n + 1) ≠ .error .tooDeep) :
    (disj a b).eval context (n + 1) = .ok (p || q) := by
  rw [eval] at hdeep ⊢
  rcases eval_pred ha with hcut | hfirst
  · exact absurd (by rw [hcut]) hdeep
  · rw [hfirst] at hdeep ⊢
    cases p with
    | true => rfl
    | false =>
      rcases eval_pred hb with hcut | hsecond
      · exact absurd hcut hdeep
      · exact hsecond

theorem Expr.eval_negate (ha : a.eval context (n + 1) = .ok p)
    (hdeep : (negate a).eval context (n + 1) ≠ .error .tooDeep) :
    (negate a).eval context (n + 1) = .ok (!p) := by
  rw [eval] at hdeep ⊢
  rcases eval_pred ha with hcut | hsame
  · exact absurd (by rw [hcut]; rfl) hdeep
  · rw [hsame]
    rfl

/-! ## Rules by themselves -/

/-- The text of a rule in which the lint finds nothing, that is not blank, and that does not end
inside a literal. -/
structure Standalone (text : String) : Prop where
  written : isBlankRule text = false
  valid : defect? text = none
  closed : endsOpen text.toList = false

/-- The rule does not fail on the context. -/
def Decided (text : String) (context : Json) : Prop := ∃ p, outcome text context = .ok p

/-- Neither the parser nor the evaluation meets its bound on the depth. -/
structure WithinBounds (text : String) (context : Json) : Prop where
  nesting : nesting (tokenize text) ≤ nestingLimit
  evaluation : outcome text context ≠ .error (.eval .tooDeep)

def grouped (text : String) : List Char := '(' :: (text.toList ++ [')'])

variable {text : String} {e : Expr} {ts : List Token}

/-- A rule in parentheses is an operand, with the tree that the rule has alone. -/
theorem Standalone.exists_operand (h : Standalone text) :
    ∃ e ts, compile text = .ok e ∧ Scans (grouped text) ts ∧ Derives .unary ts e := by
  obtain ⟨ts, hfinish, htokens, hscans⟩ := exists_scans_group h.closed
  have hvalid := h.valid
  rw [defect?, h.written] at hvalid
  cases hcompile : compile text with
  | error err =>
    rw [hcompile] at hvalid
    cases hvalid
  | ok e =>
    have hparse := hcompile
    rw [compile, htokens] at hparse
    exact ⟨e, _, rfl, hscans, .primary (.group (parseWithin_sound hfinish hparse))⟩

theorem compile_of_scans (hscans : Scans text.toList ts) (hderives : Derives .disjunction ts e)
    (hnest : nesting (tokenize text) ≤ nestingLimit) : compile text = .ok e := by
  have htokens : tokenize text = ts ++ [.finish] := by
    rw [← hscans.tokenize_eq, String.ofList_toList]
  rw [htokens] at hnest
  rw [compile, htokens]
  exact hderives.parseWithin_eq (Nat.le_trans (Enclosing.start.deepest_left_le ts _) hnest)

theorem outcome_of_compile (hwritten : isBlankRule text = false) (hcompile : compile text = .ok e) :
    outcome text context = (e.eval context evalLimit).mapError .eval := by
  simp only [outcome, hwritten, hcompile, Bool.false_eq_true, if_false]
  cases e.eval context evalLimit <;> rfl

theorem holds_of_outcome {r : Bool} (h : outcome text context = .ok r) :
    holds text context = r := by
  rw [holds, h]

/-! ## Joined texts -/

def both (left right : String) : String := "(" ++ left ++ ") && (" ++ right ++ ")"

def either (left right : String) : String := "(" ++ left ++ ") || (" ++ right ++ ")"

def opposite (text : String) : String := "!(" ++ text ++ ")"

theorem both_toList (left right : String) :
    (both left right).toList = grouped left ++ ([' ', '&', '&', ' '] ++ grouped right) := by
  simp [both, grouped, String.toList_append]

theorem either_toList (left right : String) :
    (either left right).toList = grouped left ++ ([' ', '|', '|', ' '] ++ grouped right) := by
  simp [either, grouped, String.toList_append]

theorem opposite_toList (text : String) : (opposite text).toList = '!' :: grouped text := by
  simp [opposite, grouped, String.toList_append]

theorem scans_between {mark : List Char} {connective : Token} (hmark : Scans mark [connective]) :
    Scans ([' '] ++ mark ++ [' ']) [connective] :=
  (scans_space.append hmark).append scans_space

/-- What the text of a joined rule is read as, and what its tree gives, settles the rule. -/
theorem settled {r : Bool} (hwritten : isBlankRule text = false)
    (hscans : Scans text.toList ts) (hderives : Derives .disjunction ts e)
    (hwithin : WithinBounds text context)
    (heval : e.eval context evalLimit ≠ .error .tooDeep → e.eval context evalLimit = .ok r) :
    Decided text context ∧ holds text context = r := by
  have hcompile := compile_of_scans hscans hderives hwithin.nesting
  have houtcome : outcome text context = _ := outcome_of_compile hwritten hcompile
  have hdeep : e.eval context evalLimit ≠ .error .tooDeep := by
    intro hcut
    exact hwithin.evaluation (by rw [houtcome, hcut]; rfl)
  rw [heval hdeep] at houtcome
  exact ⟨⟨r, houtcome⟩, holds_of_outcome houtcome⟩

/-- What a decided rule answers is what its tree gives. -/
theorem Standalone.eval_eq (h : Standalone text) (hcompile : compile text = .ok e)
    (hdecided : Decided text context) : e.eval context evalLimit = .ok (holds text context) := by
  obtain ⟨r, hr⟩ := hdecided
  rw [holds_of_outcome hr]
  rw [outcome_of_compile h.written hcompile] at hr
  cases heval : e.eval context evalLimit with
  | ok r' =>
    rw [heval] at hr
    cases hr
    rfl
  | error err =>
    rw [heval] at hr
    cases hr

/-- Two rules that are put in parentheses and joined hold as the connective says, and a rule behind
a `!` holds where it does not hold alone, wherever the rules do not fail and the joined text stays
within the bounds on the depth. -/
theorem holds_connectives {left right : String} (hl : Standalone left) (hr : Standalone right)
    (hleft : Decided left context) (hright : Decided right context) :
    (WithinBounds (both left right) context → Decided (both left right) context ∧
      holds (both left right) context = (holds left context && holds right context)) ∧
    (WithinBounds (either left right) context → Decided (either left right) context ∧
      holds (either left right) context = (holds left context || holds right context)) ∧
    (WithinBounds (opposite left) context → Decided (opposite left) context ∧
      holds (opposite left) context = !holds left context) := by
  obtain ⟨a, ts, hcompile, hscans, hderives⟩ := hl.exists_operand
  obtain ⟨b, us, hcompile', hscans', hderives'⟩ := hr.exists_operand
  have ha := hl.eval_eq hcompile hleft
  have hb := hr.eval_eq hcompile' hright
  refine ⟨fun hwithin => ?_, fun hwithin => ?_, fun hwithin => ?_⟩
  · have htext : Scans (both left right).toList (ts ++ .conj :: us) := by
      rw [both_toList]
      exact hscans.append ((scans_between scans_conj).append hscans')
    have htree : Derives .disjunction (ts ++ .conj :: us) (.conj a b) :=
      (hderives.to_conjunction.conj hderives').to_disjunction
    exact settled (by rw [isBlankRule, both_toList]; rfl) htext htree hwithin
      (Expr.eval_conj ha hb)
  · have htext : Scans (either left right).toList (ts ++ .disj :: us) := by
      rw [either_toList]
      exact hscans.append ((scans_between scans_disj).append hscans')
    have htree : Derives .disjunction (ts ++ .disj :: us) (.disj a b) :=
      hderives.to_conjunction.to_disjunction.disj hderives'.to_conjunction
    exact settled (by rw [isBlankRule, either_toList]; rfl) htext htree hwithin
      (Expr.eval_disj ha hb)
  · have htext : Scans (opposite left).toList (.negate :: ts) := by
      rw [opposite_toList]
      exact hscans.negate (negatable_lparen.append _)
    have htree : Derives .disjunction (.negate :: ts) (.negate a) :=
      hderives.negate.to_conjunction.to_disjunction
    exact settled (by rw [isBlankRule, opposite_toList]; rfl) htext htree hwithin
      (Expr.eval_negate ha)

/-- A literal here holds the text of a seam, and the connective at the end stands alone, so the
lexer passes over it. -/
def seamRule : String := "command contains ') && (' &"

/-- A literal with the other quotation mark in it, and a path behind an operator. -/
def quotingRule : String := "index == \"it's\" || !matchesX in x.y"

def seamContext : Json := .object [("command", .string "ls ) && ( ls"), ("index", .int 5)]

theorem holds_connectives_at_seams :
    (Standalone seamRule ∧ Standalone quotingRule ∧
      Decided seamRule seamContext ∧ Decided quotingRule seamContext) ∧
    (WithinBounds (both seamRule quotingRule) seamContext ∧
      holds (both seamRule quotingRule) seamContext =
        (holds seamRule seamContext && holds quotingRule seamContext)) ∧
    (WithinBounds (either seamRule quotingRule) seamContext ∧
      holds (either seamRule quotingRule) seamContext =
        (holds seamRule seamContext || holds quotingRule seamContext)) ∧
    (WithinBounds (opposite seamRule) seamContext ∧
      holds (opposite seamRule) seamContext = !holds seamRule seamContext) := by
  have hseam : Standalone seamRule := ⟨by decide, by decide +kernel, by decide +kernel⟩
  have hquoting : Standalone quotingRule := ⟨by decide, by decide +kernel, by decide +kernel⟩
  have hleft : Decided seamRule seamContext := ⟨true, by decide +kernel⟩
  have hright : Decided quotingRule seamContext := ⟨true, by decide +kernel⟩
  have hboth : WithinBounds (both seamRule quotingRule) seamContext :=
    ⟨by decide +kernel, by decide +kernel⟩
  have heither : WithinBounds (either seamRule quotingRule) seamContext :=
    ⟨by decide +kernel, by decide +kernel⟩
  have hopposite : WithinBounds (opposite seamRule) seamContext :=
    ⟨by decide +kernel, by decide +kernel⟩
  obtain ⟨hconj, hdisj, hneg⟩ := holds_connectives hseam hquoting hleft hright
  exact ⟨⟨hseam, hquoting, hleft, hright⟩, ⟨hboth, (hconj hboth).2⟩, ⟨heither, (hdisj heither).2⟩,
    ⟨hopposite, (hneg hopposite).2⟩⟩

end HookPolicy.Rule
