import HookPolicy.Proofs.Rule.Acceptance
import HookPolicy.Proofs.Rule.Scanning

/-!
# Rules as text

`Expr.render` writes a rule. Parentheses stand where the precedence and the grouping to the left
require them, and wherever a style asks for more; a style also chooses the quotation marks. Reading a
rendered rule gives the rule back, whatever the style.
-/

namespace HookPolicy.Rule

/-- Which operand of an expression; a negation has a first one only. -/
inductive Operand
  | first
  | second
  deriving DecidableEq, Repr

/-- What a rendering may choose for the part that a list of operands leads to. -/
structure Style where
  /-- The quotation marks of a literal. -/
  quote : List Operand → Quote
  /-- Whether parentheses stand around a part that needs none. -/
  wrap : List Operand → Bool

namespace Style

/-- No parentheses but the ones that are needed. -/
def sparse (quote : List Operand → Quote) : Style := ⟨quote, fun _ => false⟩

/-- Parentheses around every part. -/
def full (quote : List Operand → Quote) : Style := ⟨quote, fun _ => true⟩

/-- The style of an operand. -/
def inside (s : Style) (o : Operand) : Style := ⟨fun p => s.quote (o :: p), fun p => s.wrap (o :: p)⟩

end Style

namespace Expr

/-- How tightly an expression holds together: `||` least, then `&&`, then all others. -/
def strength : Expr → Nat
  | .disj _ _ => 0
  | .conj _ _ => 1
  | .negate _ => 2
  | .compare _ _ _ => 2

def parens (needed : Bool) (cs : List Char) : List Char :=
  if needed then '(' :: (cs ++ [')']) else cs

/-- The text of an expression where one of at least the given strength may stand. The operand on the
right of a connective must hold together more tightly than it. -/
def renderAt (s : Style) (least : Nat) (e : Expr) : List Char :=
  parens (s.wrap [] || e.strength < least) <|
    match e with
    | .compare path op value =>
      path.toList ++ [' '] ++ (op.text.toList ++ [' ']) ++ literalText (s.quote []) value
    | .conj a b =>
      renderAt (s.inside .first) 1 a ++ [' ', '&', '&', ' '] ++ renderAt (s.inside .second) 2 b
    | .disj a b =>
      renderAt (s.inside .first) 0 a ++ [' ', '|', '|', ' '] ++ renderAt (s.inside .second) 1 b
    | .negate a => '!' :: renderAt (s.inside .first) 2 a

def render (s : Style) (e : Expr) : String := String.ofList (e.renderAt s 0)

/-- How deeply a rendering nests `!` and parentheses. -/
def depthAt (s : Style) (least : Nat) (e : Expr) : Nat :=
  (s.wrap [] || e.strength < least).toNat +
    match e with
    | .compare _ _ _ => 0
    | .conj a b => max (depthAt (s.inside .first) 1 a) (depthAt (s.inside .second) 2 b)
    | .disj a b => max (depthAt (s.inside .first) 0 a) (depthAt (s.inside .second) 1 b)
    | .negate a => depthAt (s.inside .first) 2 a + 1

def depth (s : Style) (e : Expr) : Nat := e.depthAt s 0

/-- All paths of the expression are names with dots between them, the first of which is no operator.
-/
def Plain : Expr → Prop
  | .compare path _ _ => isPlainPath path = true
  | .conj a b => a.Plain ∧ b.Plain
  | .disj a b => a.Plain ∧ b.Plain
  | .negate a => a.Plain

end Expr

/-! ## The tokens of a rendering -/

/-- The line of the grammar for expressions of at least a strength. -/
def levelOf : Nat → Level
  | 0 => .disjunction
  | 1 => .conjunction
  | _ => .unary

theorem Derives.to_conjunction {ts : List Token} {e : Expr} (h : Derives .unary ts e) :
    Derives .conjunction ts e := by
  simpa [chainTokens, chainTree] using Derives.conjunction [] h (by simp)

theorem Derives.to_disjunction {ts : List Token} {e : Expr} (h : Derives .conjunction ts e) :
    Derives .disjunction ts e := by
  simpa [chainTokens, chainTree] using Derives.disjunction [] h (by simp)

/-- An operand behind a chain makes it longer, because chains group to the left. -/
theorem Derives.conj {ts us : List Token} {a b : Expr} (ha : Derives .conjunction ts a)
    (hb : Derives .unary us b) : Derives .conjunction (ts ++ .conj :: us) (.conj a b) := by
  cases ha with
  | conjunction more hfirst hmore =>
    have hall : ∀ p ∈ more ++ [(us, b)], Derives .unary p.1 p.2 :=
      List.forall_mem_append.2 ⟨hmore, List.forall_mem_singleton.2 hb⟩
    simpa [chainTokens, chainTree] using Derives.conjunction (more ++ [(us, b)]) hfirst hall

theorem Derives.disj {ts us : List Token} {a b : Expr} (ha : Derives .disjunction ts a)
    (hb : Derives .conjunction us b) : Derives .disjunction (ts ++ .disj :: us) (.disj a b) := by
  cases ha with
  | disjunction more hfirst hmore =>
    have hall : ∀ p ∈ more ++ [(us, b)], Derives .conjunction p.1 p.2 :=
      List.forall_mem_append.2 ⟨hmore, List.forall_mem_singleton.2 hb⟩
    simpa [chainTokens, chainTree] using Derives.disjunction (more ++ [(us, b)]) hfirst hall

theorem Derives.of_unary {ts : List Token} {e : Expr} (h : Derives .unary ts e) (least : Nat) :
    Derives (levelOf least) ts e := by
  match least with
  | 0 => exact h.to_conjunction.to_disjunction
  | 1 => exact h.to_conjunction
  | _ + 2 => exact h

theorem Derives.to_level {ts : List Token} {e : Expr} {n : Nat} (h : Derives (levelOf n) ts e)
    {least : Nat} (hle : least ≤ n) : Derives (levelOf least) ts e := by
  match n, least, hle with
  | 0, 0, _ => exact h
  | 1, 0, _ => exact h.to_disjunction
  | 1, 1, _ => exact h
  | _ + 2, least, _ => exact Derives.of_unary h least

/-- Tokens that nest so deeply, where an expression of at least the given strength may stand: behind a
`!` there is no connective, so only there may more stand around the next token than around the next
operand. -/
def Deepens (least : Nat) (ts : List Token) (depth : Nat) : Prop :=
  ∀ s : Enclosing, s.base ≤ s.here → (least < 2 → s.base = s.here) → s.deepest ts = s.here + depth

theorem Deepens.mono {least n : Nat} {ts : List Token} {depth : Nat} (h : Deepens n ts depth)
    (hle : least ≤ n) : Deepens least ts depth :=
  fun s hbase hsame => h s hbase fun hn => hsame (Nat.lt_of_le_of_lt hle hn)

theorem Deepens.of_unary {ts : List Token} {depth : Nat} (h : Deepens 2 ts depth) (least : Nat) :
    Deepens least ts depth :=
  fun s hbase _ => h s hbase fun hlt => absurd hlt (Nat.lt_irrefl 2)

theorem deepens_comparison (path : String) (op : Operator) (value : String) :
    Deepens 2 [.path path, .operator op, .literal value] 0 := by
  intro s _ _
  simp [Enclosing.deepest, Enclosing.after]

theorem Deepens.negate {ts : List Token} {depth : Nat} (h : Deepens 2 ts depth) :
    Deepens 2 (.negate :: ts) (depth + 1) := by
  intro s hbase _
  have hinner := h (s.after .negate) (Nat.le_succ_of_le hbase) (fun hlt => absurd hlt (by decide))
  rw [Enclosing.deepest, hinner]
  simp only [Enclosing.after]
  omega

theorem Deepens.parens {ts : List Token} {depth : Nat} (hbalanced : Balanced ts)
    (h : Deepens 0 ts depth) : Deepens 2 ([.lparen] ++ (ts ++ [.rparen])) (depth + 1) := by
  intro s hbase _
  have hinner : (s.after .lparen).deepest ts = s.here + 1 + depth :=
    h (s.after .lparen) (Nat.le_refl _) fun _ => rfl
  have hend := Enclosing.here_afterAll_le_deepest (s.after .lparen) ts
  have houter : ((s.after .lparen).afterAll ts).outer = s.base :: s.outer :=
    (hbalanced (s.after .lparen)).2
  rw [hinner] at hend
  rw [List.singleton_append, Enclosing.deepest, Enclosing.deepest_append, hinner]
  generalize (s.after .lparen).afterAll ts = t at hend houter ⊢
  simp only [Enclosing.deepest, Enclosing.after, houter, List.headD_cons]
  omega

theorem Deepens.join {least left right m n : Nat} {ts us : List Token} {connective : Token}
    (hconnective : ∀ s : Enclosing, s.after connective = { s with here := s.base })
    (hleast : least < 2) (hbalanced : Balanced ts) (hts : Deepens left ts m)
    (hus : Deepens right us n) : Deepens least (ts ++ connective :: us) (max m n) := by
  intro s hbase hsame
  have hfirst := hts s hbase fun _ => hsame hleast
  have hend := Enclosing.here_afterAll_le_deepest s ts
  have hsecond : ((s.afterAll ts).after connective).deepest us = s.base + n := by
    rw [hconnective, hus _ (Nat.le_refl _) fun _ => rfl, (hbalanced s).1]
  rw [hfirst] at hend
  rw [Enclosing.deepest_append, Enclosing.deepest, hsecond, hfirst, hsame hleast]
  omega

/-- What holds of the text of an expression, where one of at least the given strength may stand: it is
read as tokens that derive the expression and nest so deeply, and a `!` may stand before it. -/
structure Reads (least : Nat) (cs : List Char) (e : Expr) (depth : Nat) : Prop where
  tokens : ∃ ts, Scans cs ts ∧ Derives (levelOf least) ts e ∧ Deepens least ts depth
  negatable : Negatable cs

theorem Reads.parens {least : Nat} {cs : List Char} {e : Expr} {depth : Nat} (wrap : Bool)
    (h : Reads e.strength cs e depth) :
    Reads least (Expr.parens (wrap || e.strength < least) cs) e
      ((wrap || e.strength < least).toNat + depth) := by
  obtain ⟨ts, hscans, hderives, hdeepens⟩ := h.tokens
  cases hneeded : wrap || e.strength < least with
  | true =>
    have hgroup : Derives .unary ([.lparen] ++ (ts ++ [.rparen])) e :=
      .primary (.group (hderives.to_level (Nat.zero_le _)))
    have hdeep := (hdeepens.mono (Nat.zero_le _)).parens hderives.balanced
    rw [Bool.toNat_true, Nat.add_comm]
    exact ⟨⟨_, scans_lparen.append (hscans.append scans_rparen), hgroup.of_unary least,
      hdeep.of_unary least⟩, negatable_lparen.append _⟩
  | false =>
    simp only [Bool.or_eq_false_iff, decide_eq_false_iff_not, Nat.not_lt] at hneeded
    rw [Bool.toNat_false, Nat.zero_add]
    exact ⟨⟨ts, hscans, hderives.to_level hneeded.2, hdeepens.mono hneeded.2⟩, h.negatable⟩

theorem Reads.compare {path : String} (hpath : isPlainPath path = true) (op : Operator)
    (q : Quote) (value : String) :
    Reads 2 (path.toList ++ [' '] ++ (op.text.toList ++ [' ']) ++ literalText q value)
      (.compare path op value) 0 where
  tokens := ⟨_, ((scans_path hpath).append (scans_operator op)).append (scans_literal q value),
    .primary (.comparison (.withLiteral path op value)), deepens_comparison path op value⟩
  negatable := ((negatable_path hpath).append _).append _

theorem Reads.negate {cs : List Char} {a : Expr} {depth : Nat} (h : Reads 2 cs a depth) :
    Reads 2 ('!' :: cs) (.negate a) (depth + 1) := by
  obtain ⟨ts, hscans, hderives, hdeepens⟩ := h.tokens
  exact ⟨⟨_, hscans.negate h.negatable, hderives.negate, hdeepens.negate⟩,
    negatable_negate.append cs⟩

/-- Two texts with a connective between them, where the grammar joins what they are read as. -/
theorem Reads.join {least left right : Nat} {connective : Token} {mark cs ds : List Char}
    {a b e : Expr} {m n : Nat} (hmark : Scans mark [connective])
    (hafter : ∀ s : Enclosing, s.after connective = { s with here := s.base }) (hleast : least < 2)
    (hjoin : ∀ ts us, Derives (levelOf left) ts a → Derives (levelOf right) us b →
      Derives (levelOf least) (ts ++ connective :: us) e)
    (ha : Reads left cs a m) (hb : Reads right ds b n) :
    Reads least (cs ++ ([' '] ++ mark ++ [' ']) ++ ds) e (max m n) := by
  obtain ⟨ts, hcs, hts, hm⟩ := ha.tokens
  obtain ⟨us, hds, hus, hn⟩ := hb.tokens
  have hbetween : Scans ([' '] ++ mark ++ [' ']) [connective] :=
    (scans_space.append hmark).append scans_space
  have hscans := hcs.append (hbetween.append hds)
  rw [← List.append_assoc, List.singleton_append] at hscans
  exact ⟨⟨_, hscans, hjoin ts us hts hus, hm.join hafter hleast hts.balanced hn⟩,
    (ha.negatable.append _).append _⟩

theorem Reads.conj {cs ds : List Char} {a b : Expr} {m n : Nat} (ha : Reads 1 cs a m)
    (hb : Reads 2 ds b n) :
    Reads 1 (cs ++ [' ', '&', '&', ' '] ++ ds) (.conj a b) (max m n) := by
  refine ha.join scans_conj (fun _ => rfl) (by decide) ?_ hb
  exact fun _ _ hts hus => hts.conj hus

theorem Reads.disj {cs ds : List Char} {a b : Expr} {m n : Nat} (ha : Reads 0 cs a m)
    (hb : Reads 1 ds b n) :
    Reads 0 (cs ++ [' ', '|', '|', ' '] ++ ds) (.disj a b) (max m n) := by
  refine ha.join scans_disj (fun _ => rfl) (by decide) ?_ hb
  exact fun _ _ hts hus => hts.disj hus

theorem Expr.Plain.reads {e : Expr} (he : e.Plain) (s : Style) (least : Nat) :
    Reads least (e.renderAt s least) e (e.depthAt s least) := by
  induction e generalizing s least with
  | compare path op value =>
    rw [Expr.renderAt, Expr.depthAt]
    apply Reads.parens
    exact Reads.compare he op _ value
  | conj a b iha ihb =>
    rw [Expr.renderAt, Expr.depthAt]
    apply Reads.parens
    exact (iha he.1 (s.inside .first) 1).conj (ihb he.2 (s.inside .second) 2)
  | disj a b iha ihb =>
    rw [Expr.renderAt, Expr.depthAt]
    apply Reads.parens
    exact (iha he.1 (s.inside .first) 0).disj (ihb he.2 (s.inside .second) 1)
  | negate a ih =>
    rw [Expr.renderAt, Expr.depthAt]
    apply Reads.parens
    exact (ih he (s.inside .first) 2).negate

theorem Deepens.nesting_eq {least : Nat} {ts : List Token} {depth : Nat}
    (h : Deepens least ts depth) : nesting (ts ++ [.finish]) = depth := by
  have hall : Enclosing.start.deepest ts = depth := by
    rw [h .start (Nat.le_refl _) fun _ => rfl]
    exact Nat.zero_add depth
  have hend := Enclosing.here_afterAll_le_deepest .start ts
  rw [hall] at hend
  rw [nesting, Enclosing.deepest_append, hall]
  simp only [Enclosing.deepest, Enclosing.after]
  omega

/-- A rendered rule is read back as the rule, in whatever style it is rendered, as long as its `!`
and parentheses are not nested more deeply than the parser goes. -/
theorem compile_render {e : Expr} (he : e.Plain) (s : Style) :
    nesting (tokenize (e.render s)) = e.depth s ∧
    (∀ limit, e.depth s ≤ limit → parseWithin limit (tokenize (e.render s)) = .ok e) ∧
    (e.depth s ≤ nestingLimit → compile (e.render s) = .ok e) := by
  obtain ⟨ts, hscans, hderives, hdeepens⟩ := (he.reads s 0).tokens
  have htokens : tokenize (e.render s) = ts ++ [.finish] := hscans.tokenize_eq
  have hnesting : nesting (ts ++ [.finish]) = e.depth s := hdeepens.nesting_eq
  have hparse : ∀ limit, e.depth s ≤ limit →
      parseWithin limit (tokenize (e.render s)) = .ok e := by
    intro limit hdepth
    rw [← hnesting] at hdepth
    rw [htokens]
    exact hderives.parseWithin_eq (Nat.le_trans (Enclosing.start.deepest_left_le ts _) hdepth)
  exact ⟨htokens ▸ hnesting, hparse, hparse nestingLimit⟩

/-- The rule of `!index == 'it\'s' && (params.in contains "a\\b" || matchesX in 'x')`. -/
def quotedRule : Expr :=
  .conj (.negate (.compare "index" .equal "it's"))
    (.disj (.compare "params.in" .contains "a\\b") (.compare "matchesX" .among "x"))

example : quotedRule.render (.sparse fun _ => .single) =
    "!index == 'it\\'s' && (params.in contains 'a\\\\b' || matchesX in 'x')" := by decide

theorem compile_render_quotedRule : quotedRule.Plain ∧
    quotedRule.depth (.full fun _ => .double) ≤ nestingLimit ∧
    compile (quotedRule.render (.full fun _ => .double)) = .ok quotedRule := by
  have hplain : quotedRule.Plain := by
    refine ⟨?_, ?_, ?_⟩ <;> cbv
  have hdepth : quotedRule.depth (.full fun _ => .double) ≤ nestingLimit := by decide
  exact ⟨hplain, hdepth, (compile_render hplain _).2.2 hdepth⟩

end HookPolicy.Rule
