import HookPolicy.Proofs.Rule.Connectives
import HookPolicy.Proofs.Text.Finding

/-!
# Rules that look for patterns

`matches` and `!matches` hold of a text as the pattern is found in it or not, and a malformed pattern
is looked for as it stands. Patterns that are well-formed and beyond the matcher are the exception:
on a text neither operator holds (`pattern_operators`).
-/

namespace HookPolicy.Rule

variable {context : Json} {path : String} {op : Operator} {value pattern text : String}

/-! ## Comparisons as rules -/

/-- A text that states a rule is not blank. -/
theorem not_blank_of_compile {e : Expr} (h : compile text = .ok e) : isBlankRule text = false := by
  cases hblank : isBlankRule text with
  | false => rfl
  | true =>
    have htokens : tokenize text = [.finish] := by
      rw [← String.ofList_toList (s := text)]
      exact (scans_blanks hblank).tokenize_eq
    rw [compile, htokens] at h
    cases h

theorem compile_comparison (hpath : isPlainPath path = true) (op : Operator) (value : String)
    (s : Style) :
    compile ((Expr.compare path op value).render s) = .ok (.compare path op value) := by
  have hplain : (Expr.compare path op value).Plain := hpath
  obtain ⟨ts, hscans, hderives, hdeepens⟩ := (hplain.reads s 0).tokens
  refine compile_of_scans ?_ hderives ?_
  · rw [Expr.render, String.toList_ofList]
    exact hscans
  · -- a comparison nests nothing but the parentheses that a style may put around it
    have hwrap := Bool.toNat_le (s.wrap [] || (Expr.compare path op value).strength < 0)
    rw [Expr.render, hscans.tokenize_eq, hdeepens.nesting_eq, Expr.depthAt, nestingLimit]
    omega

/-- A comparison that is a whole rule holds as its operator says of the value that its path leads
to. -/
theorem holds_comparison_iff (hpath : isPlainPath path = true) (s : Style) :
    holds ((Expr.compare path op value).render s) context = true ↔
      compareWith op (resolve context path) value = .ok true := by
  have hcompile := compile_comparison hpath op value s
  have heval : (Expr.compare path op value).eval context evalLimit
      = compareWith op (resolve context path) value := rfl
  have houtcome : outcome ((Expr.compare path op value).render s) context = _ :=
    outcome_of_compile (not_blank_of_compile hcompile) hcompile
  rw [heval] at houtcome
  rw [holds, houtcome]
  cases compareWith op (resolve context path) value <;> simp [Except.mapError]

/-! ## The pattern operators -/

/-- The pattern is found in the text. A malformed one is found where it stands as it is. -/
def Finds (pattern text : String) : Prop :=
  (∃ node, Pattern.compile pattern.toList = .ok node ∧ node.foundIn text.toList = true) ∨
    (Pattern.compile pattern.toList = .error .malformed ∧ pattern.toList <:+: text.toList)

theorem Finds.searchable (h : Finds pattern text) : Searchable pattern := by
  intro fault hfault
  rcases h with ⟨node, hnode, -⟩ | ⟨hmalformed, -⟩
  · rw [hfault] at hnode
    cases hnode
  · rw [hfault] at hmalformed
    exact Except.error.inj hmalformed

theorem patternHolds_text (pattern text : String) :
    (patternHolds pattern (.string text) = .ok true ↔ Finds pattern text) ∧
    (patternHolds pattern (.string text) = .ok false ↔
      ¬ Finds pattern text ∧ Searchable pattern) := by
  rw [patternHolds, Finds, Searchable, ← Text.occursIn_iff]
  cases hcompile : Pattern.compile pattern.toList with
  | ok node => simp
  | error fault => cases fault <;> simp

theorem patternHolds_eq_true_iff {v : Json} : patternHolds pattern v = .ok true ↔
    ∃ text, v = .string text ∧ Finds pattern text := by
  cases v with
  | string text => simp [(patternHolds_text pattern text).1]
  | _ => simp [patternHolds]

theorem patternHolds_eq_false_iff {v : Json} : patternHolds pattern v = .ok false ↔
    ∀ text, v = .string text → ¬ Finds pattern text ∧ Searchable pattern := by
  cases v with
  | string text => simp [(patternHolds_text pattern text).2]
  | _ => simp [patternHolds]

theorem compareWith_notMatches_iff {v : Json} :
    compareWith .notMatches v pattern = .ok true ↔ patternHolds pattern v = .ok false := by
  rw [compareWith]
  cases patternHolds pattern v <;> simp [Except.map]

/-- A path matches a pattern when it leads to a text in which the pattern is found. The negated
operator is the negation, unless the path leads to a text and the pattern is beyond the matcher;
then neither of them holds. -/
theorem pattern_operators (hpath : isPlainPath path = true) (pattern : String) (s s' : Style)
    (context : Json) :
    let found := holds ((Expr.compare path .matches pattern).render s) context
    let missed := holds ((Expr.compare path .notMatches pattern).render s') context
    (found = true ↔ ∃ text, resolve context path = .string text ∧ Finds pattern text) ∧
    (missed = true ↔ ∀ text, resolve context path = .string text →
      ¬ Finds pattern text ∧ Searchable pattern) ∧
    (missed = (!found) ↔
      ∀ text, resolve context path = .string text → Searchable pattern) ∧
    ((∃ text, resolve context path = .string text ∧ ¬ Searchable pattern) →
      found = false ∧ missed = false) := by
  intro found missed
  have hfound : found = true ↔ ∃ text, resolve context path = .string text ∧ Finds pattern text :=
    (holds_comparison_iff hpath s).trans patternHolds_eq_true_iff
  have hmissed : missed = true ↔ ∀ text, resolve context path = .string text →
      ¬ Finds pattern text ∧ Searchable pattern :=
    (holds_comparison_iff hpath s').trans
      (compareWith_notMatches_iff.trans patternHolds_eq_false_iff)
  have hnot : ∀ text, resolve context path = .string text → ¬ Searchable pattern →
      found = false ∧ missed = false := by
    intro text htext hbeyond
    refine ⟨Bool.eq_false_iff.2 fun hf => ?_, Bool.eq_false_iff.2 fun hm => ?_⟩
    · obtain ⟨text', -, hfinds⟩ := hfound.1 hf
      exact hbeyond hfinds.searchable
    · exact hbeyond (hmissed.1 hm text htext).2
  refine ⟨hfound, hmissed, ⟨fun hneg text htext => ?_, fun hall => ?_⟩, ?_⟩
  · by_contra hbeyond
    obtain ⟨hf, hm⟩ := hnot text htext hbeyond
    rw [hf, hm] at hneg
    cases hneg
  · cases hf : found with
    | true =>
      obtain ⟨text, htext, hfinds⟩ := hfound.1 hf
      exact Bool.eq_false_iff.2 fun hm => (hmissed.1 hm text htext).1 hfinds
    | false =>
      refine hmissed.2 fun text htext => ⟨fun hfinds => ?_, hall text htext⟩
      rw [hfound.2 ⟨text, htext, hfinds⟩] at hf
      cases hf
  · rintro ⟨text, htext, hbeyond⟩
    exact hnot text htext hbeyond

example : (Expr.compare "command" .matches "it's").render (.sparse fun _ => .single) =
    "command matches 'it\\'s'" := by decide

def noteContext : Json := .object [("params", .object [("note", .string "a[b")])]

/-- A malformed pattern is looked for as it stands. -/
theorem pattern_operators_bracket : isPlainPath "params.note" = true ∧
    holds ((Expr.compare "params.note" .matches "[").render (.sparse fun _ => .single)) noteContext
      = true ∧
    holds ((Expr.compare "params.note" .notMatches "[").render (.full fun _ => .double)) noteContext
      = false := by
  have hpath : isPlainPath "params.note" = true := by cbv
  have hvalue : resolve noteContext "params.note" = .string "a[b" := by cbv
  have hmalformed : Pattern.compile "[".toList = .error .malformed := by decide +kernel
  have hfinds : Finds "[" "a[b" := .inr ⟨hmalformed, ⟨['a'], ['b'], rfl⟩⟩
  obtain ⟨hfound, -, hneg, -⟩ := pattern_operators hpath "[" (.sparse fun _ => .single)
    (.full fun _ => .double) noteContext
  have htrue := hfound.2 ⟨_, hvalue, hfinds⟩
  refine ⟨hpath, htrue, ?_⟩
  rw [hneg.2 fun _ _ => hfinds.searchable, htrue]
  rfl

/-- A pattern with a count that is too large for the matcher. -/
def overfullPattern : String := "a\x7b4294967295\x7d"

/-- On a text neither operator holds of such a pattern, also where the pattern itself is the text. -/
theorem overfull_holds_of_neither :
    holds "tool matches 'a\x7b4294967295\x7d'" (.object [("tool", .string "a")]) = false ∧
    holds "tool !matches 'a\x7b4294967295\x7d'" (.object [("tool", .string "a")]) = false ∧
    holds "tool matches 'a\x7b4294967295\x7d'" (.object [("tool", .string overfullPattern)])
      = false := by
  have hpath : isPlainPath "tool" = true := by cbv
  have hfault : Pattern.compile overfullPattern.toList = .error .countTooLarge := by decide +kernel
  have hbeyond : ¬ Searchable overfullPattern := fun h => absurd (h _ hfault) (by decide)
  have hvalue : ∀ text, resolve (.object [("tool", .string text)]) "tool" = .string text := by
    intro text
    cbv
  have hmatches : (Expr.compare "tool" .matches overfullPattern).render (.sparse fun _ => .single)
      = "tool matches 'a\x7b4294967295\x7d'" := by decide
  have hnot : (Expr.compare "tool" .notMatches overfullPattern).render (.sparse fun _ => .single)
      = "tool !matches 'a\x7b4294967295\x7d'" := by decide
  rw [← hmatches, ← hnot]
  refine ⟨?_, ?_, ?_⟩
  all_goals rw [Bool.eq_false_iff, Ne, holds_comparison_iff hpath, hvalue]
  · rw [compareWith, (patternHolds_text _ _).1]
    exact fun h => hbeyond h.searchable
  · rw [compareWith_notMatches_iff, (patternHolds_text _ _).2]
    exact fun h => hbeyond h.2
  · rw [compareWith, (patternHolds_text _ _).1]
    exact fun h => hbeyond h.searchable

end HookPolicy.Rule
