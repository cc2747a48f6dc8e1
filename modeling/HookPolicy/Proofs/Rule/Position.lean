import Mathlib.Data.List.Basic
import HookPolicy.Rule.Parse

/-!
# Where the parser stops

An answer of the parser does not say how far it has read. `standWithin` is the parser with the tokens
that are ahead of it when it stops; its answers are the same (`standWithin_answer`).

It looks at one token ahead of those it takes, so it stops in the same way whatever stands behind that
token (`oneAhead_within`).
-/

namespace HookPolicy.Rule

/-- What a reader answers, and the tokens ahead of it when it stops. -/
structure Standing where
  answer : Except ParseError Expr
  ahead : List Token

namespace Standing

/-- The answer as the parser gives it: it keeps the tokens ahead only where it goes on. -/
def parsed (s : Standing) : Parsed Expr := s.answer.map fun a => (a, s.ahead)

def andThen (s : Standing) (next : Expr → List Token → Standing) : Standing :=
  match s.answer with
  | .ok a => next a s.ahead
  | .error _ => s

end Standing

/-! ## The parser with its place -/

def refuse (expected : Token.Kind) (tokens : List Token) : Standing :=
  ⟨unexpected expected tokens, tokens⟩

/-- Takes the next token for what is picked of it, or refuses it. -/
def consume {α : Type} (expected : Token.Kind) (pick : Token → Option α)
    (next : α → List Token → Standing) (tokens : List Token) : Standing :=
  match tokens with
  | token :: rest =>
    match pick token with
    | some value => next value rest
    | none => refuse expected (token :: rest)
  | [] => refuse expected []

def pathOf? : Token → Option String
  | .path name => some name
  | _ => none

def operatorOf? : Token → Option Operator
  | .operator op => some op
  | _ => none

/-- What may stand on the right of an operator. -/
def operandOf? : Token → Option String
  | .literal value => some value
  | .path value => some value
  | _ => none

def closing? : Token → Option Unit
  | .rparen => some ()
  | _ => none

def standComparison : List Token → Standing :=
  consume .identifier pathOf? fun name =>
    consume .operator operatorOf? fun op =>
      consume .identifier operandOf? fun value rest => ⟨.ok (.compare name op value), rest⟩

def standMore (connective : Token) (join : Expr → Expr → Expr) (operand : List Token → Standing) :
    Nat → Expr → List Token → Standing
  | 0, left, tokens => ⟨.ok left, tokens⟩
  | n + 1, left, tokens =>
    match tokens with
    | token :: rest =>
      if token = connective then
        (operand rest).andThen fun right rest =>
          standMore connective join operand n (join left right) rest
      else ⟨.ok left, token :: rest⟩
    | [] => ⟨.ok left, []⟩

def standChain (connective : Token) (join : Expr → Expr → Expr) (operand : List Token → Standing)
    (tokens : List Token) : Standing :=
  (operand tokens).andThen fun left rest =>
    standMore connective join operand rest.length left rest

def standDisjunction (operand : List Token → Standing) : List Token → Standing :=
  standChain .disj .disj (standChain .conj .conj operand)

def closeGroup (a : Expr) : List Token → Standing :=
  consume .rparen closing? fun _ rest => ⟨.ok a, rest⟩

def standUnary : Nat → List Token → Standing
  | 0, tokens => ⟨.error .tooDeep, tokens⟩
  | depth + 1, tokens =>
    match tokens with
    | .negate :: rest => (standUnary depth rest).andThen fun a rest => ⟨.ok (.negate a), rest⟩
    | .lparen :: rest => (standDisjunction (standUnary depth) rest).andThen closeGroup
    | _ => standComparison tokens

/-- The parser stays at the mark of the end. -/
def closeRule (a : Expr) (tokens : List Token) : Standing :=
  match tokens with
  | .finish :: _ => ⟨.ok a, tokens⟩
  | _ => refuse .eof tokens

def standWithin (limit : Nat) (tokens : List Token) : Standing :=
  (standDisjunction (standUnary (limit + 1)) tokens).andThen closeRule

/-- How many tokens stand before the one that the parser stops at. -/
def position (limit : Nat) (tokens : List Token) : Nat :=
  tokens.length - (standWithin limit tokens).ahead.length

variable {connective : Token} {join : Expr → Expr → Expr}
variable {reader operand : List Token → Standing} {plain : List Token → Parsed Expr}

/-! ## It gives the same answers -/

/-- The reader answers as the parser's own does. -/
def Agrees (reader : List Token → Standing) (plain : List Token → Parsed Expr) : Prop :=
  ∀ ts, (reader ts).parsed = plain ts

@[simp] theorem Standing.parsed_ok (a : Expr) (ts : List Token) :
    Standing.parsed ⟨.ok a, ts⟩ = .ok (a, ts) := rfl

@[simp] theorem Standing.parsed_error (err : ParseError) (ts : List Token) :
    Standing.parsed ⟨.error err, ts⟩ = .error err := rfl

@[simp] theorem parsed_refuse (expected : Token.Kind) (ts : List Token) :
    (refuse expected ts).parsed = unexpected expected ts := rfl

theorem Standing.parsed_andThen (s : Standing) (next : Expr → List Token → Standing) :
    (s.andThen next).parsed = match s.parsed with
      | .ok (a, rest) => (next a rest).parsed
      | .error err => .error err := by
  obtain ⟨answer, ahead⟩ := s
  cases answer <;> rfl

theorem agrees_comparison : Agrees standComparison parseComparison := by
  intro ts
  cases ts with
  | nil => rfl
  | cons t ts =>
    cases t with
    | path name =>
      cases ts with
      | nil => rfl
      | cons t ts =>
        cases t with
        | operator op =>
          cases ts with
          | nil => rfl
          | cons t ts => cases t <;> rfl
        | _ => rfl
    | _ => rfl

theorem Agrees.standMore (h : Agrees operand plain) (n : Nat) (left : Expr) (ts : List Token) :
    (standMore connective join operand n left ts).parsed
      = parseMore connective join plain n left ts := by
  induction n generalizing left ts with
  | zero => rfl
  | succ n ih =>
    cases ts with
    | nil => rfl
    | cons t ts =>
      rw [Rule.standMore, parseMore]
      split
      · rw [Standing.parsed_andThen, h ts]
        cases plain ts with
        | error err => rfl
        | ok p => exact ih _ _
      · rfl

theorem Agrees.chain (h : Agrees operand plain) :
    Agrees (standChain connective join operand) (parseChain connective join plain) := by
  intro ts
  rw [standChain, parseChain, Standing.parsed_andThen, h ts]
  cases plain ts with
  | error err => rfl
  | ok p => exact h.standMore _ _ _

theorem Agrees.disjunction (h : Agrees operand plain) :
    Agrees (standDisjunction operand) (parseDisjunction plain) :=
  h.chain.chain

theorem agrees_unary (depth : Nat) : Agrees (standUnary depth) (parseUnary depth) := by
  induction depth with
  | zero => exact fun _ => rfl
  | succ depth ih =>
    intro ts
    cases ts with
    | nil => rfl
    | cons t ts =>
      cases t with
      | negate =>
        rw [standUnary, parseUnary, Standing.parsed_andThen, ih ts]
        cases parseUnary depth ts <;> rfl
      | lparen =>
        rw [standUnary, parseUnary, Standing.parsed_andThen, ih.disjunction ts]
        cases parseDisjunction (parseUnary depth) ts with
        | error err => rfl
        | ok p =>
          obtain ⟨a, rest⟩ := p
          cases rest with
          | nil => rfl
          | cons t rest => cases t <;> rfl
      | _ => exact agrees_comparison _

theorem standWithin_answer (limit : Nat) (ts : List Token) :
    (standWithin limit ts).answer = parseWithin limit ts := by
  have h := (agrees_unary (limit + 1)).disjunction ts
  rw [standWithin, parseWithin, ← h]
  obtain ⟨answer, ahead⟩ := standDisjunction (standUnary (limit + 1)) ts
  cases answer with
  | error err => rfl
  | ok a =>
    cases ahead with
    | nil => rfl
    | cons t rest => cases t <;> rfl

/-! ## One token ahead -/

theorem Standing.eq_of_andThen {s : Standing} {next : Expr → List Token → Standing}
    {answer : Except ParseError Expr} {rest : List Token} (h : s.andThen next = ⟨answer, rest⟩) :
    (∃ err, answer = .error err ∧ s = ⟨.error err, rest⟩) ∨
      ∃ a behind, s = ⟨.ok a, behind⟩ ∧ next a behind = ⟨answer, rest⟩ := by
  obtain ⟨given, ahead⟩ := s
  cases given with
  | error err =>
    cases h
    exact .inl ⟨err, rfl, rfl⟩
  | ok a => exact .inr ⟨a, ahead, rfl, h⟩

/-- A reader that looks at one token behind those it takes, and at no other. -/
def OneAhead (reader : List Token → Standing) : Prop :=
  ∀ ⦃ts answer rest⦄, reader ts = ⟨answer, rest⟩ → ∃ us, ts = us ++ rest ∧
    ∀ rest', rest'.head? = rest.head? → reader (us ++ rest') = ⟨answer, rest'⟩

theorem head?_append_eq {us rest rest' : List Token} (h : rest'.head? = rest.head?) :
    (us ++ rest').head? = (us ++ rest).head? := by
  rw [List.head?_append, List.head?_append, h]

/-- The next token is refused, or it is taken and the reading goes on behind it. -/
theorem consume_cases {α : Type} (expected : Token.Kind) (pick : Token → Option α)
    (next : α → List Token → Standing) (ts : List Token) :
    (ts.head?.bind pick = none ∧ consume expected pick next ts = refuse expected ts) ∨
      ∃ t v rest, ts = t :: rest ∧ pick t = some v ∧ consume expected pick next ts = next v rest := by
  cases ts with
  | nil => exact .inl ⟨rfl, rfl⟩
  | cons t rest =>
    rw [consume]
    cases hpick : pick t with
    | none => exact .inl ⟨hpick, rfl⟩
    | some v => exact .inr ⟨t, v, rest, rfl, hpick, rfl⟩

theorem consume_refuse {α : Type} {pick : Token → Option α} {ts : List Token}
    (h : ts.head?.bind pick = none) (expected : Token.Kind) (next : α → List Token → Standing) :
    consume expected pick next ts = refuse expected ts := by
  rcases consume_cases expected pick next ts with ⟨-, hrefuse⟩ | ⟨t, v, rest, rfl, hpick, -⟩
  · exact hrefuse
  · rw [List.head?_cons, Option.bind_some, hpick] at h
    cases h

theorem refuse_eq {expected : Token.Kind} {ts rest : List Token}
    {answer : Except ParseError Expr} (h : refuse expected ts = ⟨answer, rest⟩) :
    ts = rest ∧ ∀ rest', rest'.head? = rest.head? → refuse expected rest' = ⟨answer, rest'⟩ := by
  cases h
  refine ⟨rfl, fun rest' hrest => ?_⟩
  rw [refuse, unexpected, unexpected, hrest]

theorem OneAhead.consume {α : Type} {next : α → List Token → Standing}
    (hn : ∀ v, OneAhead (next v)) (expected : Token.Kind) (pick : Token → Option α) :
    OneAhead (consume expected pick next) := by
  intro ts answer rest h
  rcases consume_cases expected pick next ts with ⟨hpick, heq⟩ | ⟨t, v, ts, rfl, hpick, heq⟩
  · rw [heq] at h
    obtain ⟨rfl, hrefuse⟩ := refuse_eq h
    refine ⟨[], rfl, fun rest' hrest => ?_⟩
    rw [List.nil_append, consume_refuse (hrest ▸ hpick), hrefuse rest' hrest]
  · rw [heq] at h
    obtain ⟨us, rfl, hsame⟩ := hn v h
    refine ⟨t :: us, rfl, fun rest' hrest => ?_⟩
    rw [List.cons_append, Rule.consume, hpick]
    exact hsame rest' hrest

/-- What is made of the tokens taken needs none of those ahead. -/
theorem oneAhead_ok (a : Expr) : OneAhead fun ts => ⟨.ok a, ts⟩ := by
  intro ts answer rest h
  cases h
  exact ⟨[], rfl, fun _ _ => rfl⟩

theorem oneAhead_comparison : OneAhead standComparison :=
  .consume (fun _ => .consume (fun _ => .consume (fun _ => oneAhead_ok _) _ _) _ _) _ _

theorem oneAhead_closeGroup (a : Expr) : OneAhead (closeGroup a) :=
  .consume (fun _ => oneAhead_ok a) _ _

theorem closeRule_refuse {ts : List Token} (h : ts.head? ≠ some .finish) (a : Expr) :
    closeRule a ts = refuse .eof ts := by
  cases ts with
  | nil => rfl
  | cons t rest =>
    cases t with
    | finish => exact absurd rfl h
    | _ => rfl

theorem oneAhead_closeRule (a : Expr) : OneAhead (closeRule a) := by
  intro ts answer rest h
  by_cases hclose : ts.head? = some .finish
  · obtain ⟨ts, rfl⟩ := List.head?_eq_some_iff.1 hclose
    cases h
    refine ⟨[], rfl, fun rest' hrest => ?_⟩
    obtain ⟨behind, rfl⟩ := List.head?_eq_some_iff.1 hrest
    rfl
  · rw [closeRule_refuse hclose] at h
    obtain ⟨rfl, hrefuse⟩ := refuse_eq h
    refine ⟨[], rfl, fun rest' hrest => ?_⟩
    rw [List.nil_append, closeRule_refuse (hrest ▸ hclose), hrefuse rest' hrest]

theorem OneAhead.andThen {next : Expr → List Token → Standing} (hr : OneAhead reader)
    (hn : ∀ a, OneAhead (next a)) : OneAhead fun ts => (reader ts).andThen next := by
  intro ts answer rest h
  rcases Standing.eq_of_andThen h with ⟨err, rfl, hfail⟩ | ⟨a, behind, hread, hnext⟩
  · obtain ⟨us, rfl, hsame⟩ := hr hfail
    refine ⟨us, rfl, fun rest' hrest => ?_⟩
    change (reader (us ++ rest')).andThen next = _
    rw [hsame rest' hrest]
    rfl
  · obtain ⟨us, rfl, hsame⟩ := hr hread
    obtain ⟨vs, rfl, hsame'⟩ := hn a hnext
    refine ⟨us ++ vs, (List.append_assoc _ _ _).symm, fun rest' hrest => ?_⟩
    change (reader (us ++ vs ++ rest')).andThen next = _
    rw [List.append_assoc, hsame _ (head?_append_eq hrest)]
    exact hsame' rest' hrest

theorem standMore_stop {ts : List Token} (h : ts.head? ≠ some connective) (n : Nat) (left : Expr) :
    standMore connective join operand n left ts = ⟨.ok left, ts⟩ := by
  cases n with
  | zero => rfl
  | succ n =>
    cases ts with
    | nil => rfl
    | cons t ts =>
      have ht : t ≠ connective := fun heq => h (congrArg some heq)
      exact if_neg ht

theorem OneAhead.standMore (ho : OneAhead operand) {n : Nat} {left : Expr} {ts rest : List Token}
    {answer : Except ParseError Expr} (hn : ts.length ≤ n)
    (h : standMore connective join operand n left ts = ⟨answer, rest⟩) :
    ∃ us, ts = us ++ rest ∧ ∀ m rest', (us ++ rest').length ≤ m → rest'.head? = rest.head? →
      standMore connective join operand m left (us ++ rest') = ⟨answer, rest'⟩ := by
  -- both runs have turns enough for their tokens, so neither ends for want of them
  induction n generalizing left ts with
  | zero =>
    obtain rfl := List.length_eq_zero_iff.1 (Nat.le_zero.1 hn)
    cases h
    refine ⟨[], rfl, fun m rest' _ hrest => ?_⟩
    exact standMore_stop (by simp [hrest]) m left
  | succ n ih =>
    by_cases hc : ts.head? = some connective
    · obtain ⟨ts, rfl⟩ := List.head?_eq_some_iff.1 hc
      rw [Rule.standMore, if_pos rfl] at h
      rcases Standing.eq_of_andThen h with ⟨err, rfl, hfail⟩ | ⟨right, behind, hread, hmore⟩
      · obtain ⟨us, rfl, hsame⟩ := ho hfail
        refine ⟨connective :: us, rfl, fun m rest' hm hrest => ?_⟩
        obtain ⟨m, rfl⟩ := Nat.exists_eq_succ_of_ne_zero (Nat.ne_zero_of_lt hm)
        rw [List.cons_append, Rule.standMore, if_pos rfl, hsame rest' hrest]
        rfl
      · obtain ⟨us, rfl, hsame⟩ := ho hread
        simp only [List.length_cons, List.length_append] at hn
        obtain ⟨vs, rfl, hsame'⟩ := ih (by omega) hmore
        refine ⟨connective :: (us ++ vs), by simp, fun m rest' hm hrest => ?_⟩
        obtain ⟨m, rfl⟩ := Nat.exists_eq_succ_of_ne_zero (Nat.ne_zero_of_lt hm)
        simp only [List.cons_append, List.length_cons, List.append_assoc, List.length_append] at hm
        rw [List.cons_append, List.append_assoc, Rule.standMore, if_pos rfl,
          hsame _ (head?_append_eq hrest)]
        exact hsame' m rest' (by rw [List.length_append]; omega) hrest
    · rw [standMore_stop hc] at h
      cases h
      exact ⟨[], rfl, fun m rest' _ hrest => standMore_stop (by simpa [hrest] using hc) m _⟩

theorem OneAhead.chain (ho : OneAhead operand) : OneAhead (standChain connective join operand) := by
  refine ho.andThen fun left ts answer rest h => ?_
  obtain ⟨us, hts, hsame⟩ := ho.standMore (Nat.le_refl _) h
  exact ⟨us, hts, fun rest' hrest => hsame _ rest' (Nat.le_refl _) hrest⟩

theorem OneAhead.disjunction (ho : OneAhead operand) : OneAhead (standDisjunction operand) :=
  ho.chain.chain

theorem standUnary_comparison {ts : List Token} (hnegate : ts.head? ≠ some .negate)
    (hgroup : ts.head? ≠ some .lparen) (depth : Nat) :
    standUnary (depth + 1) ts = standComparison ts := by
  cases ts with
  | nil => rfl
  | cons t rest =>
    cases t with
    | negate => exact absurd rfl hnegate
    | lparen => exact absurd rfl hgroup
    | _ => rfl

theorem OneAhead.cons {behind : List Token → Standing} (hb : OneAhead behind) {t : Token}
    {ts rest : List Token} {answer : Except ParseError Expr}
    (hsame : ∀ ts, reader (t :: ts) = behind ts) (h : behind ts = ⟨answer, rest⟩) :
    ∃ us, t :: ts = us ++ rest ∧
      ∀ rest', rest'.head? = rest.head? → reader (us ++ rest') = ⟨answer, rest'⟩ := by
  obtain ⟨us, rfl, hread⟩ := hb h
  exact ⟨t :: us, rfl, fun rest' hrest => (hsame _).trans (hread rest' hrest)⟩

theorem oneAhead_unary (depth : Nat) : OneAhead (standUnary depth) := by
  induction depth with
  | zero =>
    intro ts answer rest h
    cases h
    exact ⟨[], rfl, fun _ _ => rfl⟩
  | succ depth ih =>
    intro ts answer rest h
    by_cases hnegate : ts.head? = some .negate
    · obtain ⟨ts, rfl⟩ := List.head?_eq_some_iff.1 hnegate
      exact (ih.andThen fun a => oneAhead_ok (.negate a)).cons (fun _ => rfl) h
    · by_cases hgroup : ts.head? = some .lparen
      · obtain ⟨ts, rfl⟩ := List.head?_eq_some_iff.1 hgroup
        exact (ih.disjunction.andThen oneAhead_closeGroup).cons (fun _ => rfl) h
      · rw [standUnary_comparison hnegate hgroup] at h
        obtain ⟨us, rfl, hsame⟩ := oneAhead_comparison h
        refine ⟨us, rfl, fun rest' hrest => ?_⟩
        rw [← head?_append_eq hrest] at hnegate hgroup
        rw [standUnary_comparison hnegate hgroup, hsame rest' hrest]

theorem oneAhead_within (limit : Nat) : OneAhead (standWithin limit) :=
  (oneAhead_unary (limit + 1)).disjunction.andThen oneAhead_closeRule

end HookPolicy.Rule
