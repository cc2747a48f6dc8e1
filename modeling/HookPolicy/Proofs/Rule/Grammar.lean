import HookPolicy.Rule.Parse

/-!
# The grammar of rules

    disjunction  :=  conjunction ('||' conjunction)*
    conjunction  :=  unary ('&&' unary)*
    unary        :=  '!' unary  |  primary
    primary      :=  '(' disjunction ')'  |  comparison
    comparison   :=  path operator (literal | path)

`Derives` says which tokens derive from which line of it and with which tree; both chains group to
the left. `nesting` counts the `!` and parentheses around a token, whether or not the tokens derive
from anything.
-/

namespace HookPolicy.Rule

/-- The lines of the grammar. -/
inductive Level
  | disjunction
  | conjunction
  | unary
  | primary
  | comparison
  deriving DecidableEq, Repr

/-- The tokens of the operands after the first, each behind its connective. -/
def chainTokens (connective : Token) (more : List (List Token × Expr)) : List Token :=
  more.flatMap fun p => connective :: p.1

def chainTree (join : Expr → Expr → Expr) (first : Expr) (more : List (List Token × Expr)) : Expr :=
  more.foldl (fun left p => join left p.2) first

inductive Derives : Level → List Token → Expr → Prop
  | disjunction {ts : List Token} {a : Expr} (more : List (List Token × Expr)) :
      Derives .conjunction ts a → (∀ p ∈ more, Derives .conjunction p.1 p.2) →
      Derives .disjunction (ts ++ chainTokens .disj more) (chainTree .disj a more)
  | conjunction {ts : List Token} {a : Expr} (more : List (List Token × Expr)) :
      Derives .unary ts a → (∀ p ∈ more, Derives .unary p.1 p.2) →
      Derives .conjunction (ts ++ chainTokens .conj more) (chainTree .conj a more)
  | negate {ts : List Token} {a : Expr} :
      Derives .unary ts a → Derives .unary (.negate :: ts) (.negate a)
  | primary {ts : List Token} {a : Expr} : Derives .primary ts a → Derives .unary ts a
  | group {ts : List Token} {a : Expr} :
      Derives .disjunction ts a → Derives .primary (.lparen :: (ts ++ [.rparen])) a
  | comparison {ts : List Token} {a : Expr} : Derives .comparison ts a → Derives .primary ts a
  | withLiteral (path : String) (op : Operator) (value : String) :
      Derives .comparison [.path path, .operator op, .literal value] (.compare path op value)
  | withPath (path : String) (op : Operator) (value : String) :
      Derives .comparison [.path path, .operator op, .path value] (.compare path op value)

/-- What stands around the next token: the number of `!` and parentheses, how many of them are left
once the operand in hand is over, and the same for each open parenthesis, the innermost first. -/
structure Enclosing where
  here : Nat
  base : Nat
  outer : List Nat
  deriving DecidableEq, Repr

namespace Enclosing

def start : Enclosing := ⟨0, 0, []⟩

/-- A `!` stands around all up to the next connective or to the end of the parentheses it is in. -/
def after (s : Enclosing) : Token → Enclosing
  | .negate => { s with here := s.here + 1 }
  | .lparen => ⟨s.here + 1, s.here + 1, s.base :: s.outer⟩
  | .rparen => ⟨s.outer.headD 0, s.outer.headD 0, s.outer.tail⟩
  | .conj | .disj => { s with here := s.base }
  | _ => s

def afterAll (s : Enclosing) (ts : List Token) : Enclosing := ts.foldl after s

@[simp] theorem afterAll_nil (s : Enclosing) : s.afterAll [] = s := rfl

@[simp] theorem afterAll_cons (s : Enclosing) (t : Token) (ts : List Token) :
    s.afterAll (t :: ts) = (s.after t).afterAll ts := rfl

@[simp] theorem afterAll_append (s : Enclosing) (ts us : List Token) :
    s.afterAll (ts ++ us) = (s.afterAll ts).afterAll us :=
  List.foldl_append

/-- The largest number of `!` and parentheses around any of the tokens. -/
def deepest (s : Enclosing) : List Token → Nat
  | [] => s.here
  | t :: ts => max s.here ((s.after t).deepest ts)

theorem here_le_deepest (s : Enclosing) (ts : List Token) : s.here ≤ s.deepest ts := by
  cases ts with
  | nil => exact Nat.le_refl _
  | cons t ts => exact Nat.le_max_left _ _

theorem deepest_after_le (s : Enclosing) (t : Token) (ts : List Token) :
    (s.after t).deepest ts ≤ s.deepest (t :: ts) :=
  Nat.le_max_right _ _

theorem deepest_append (s : Enclosing) (ts us : List Token) :
    s.deepest (ts ++ us) = max (s.deepest ts) ((s.afterAll ts).deepest us) := by
  induction ts generalizing s with
  | nil => exact (Nat.max_eq_right (here_le_deepest s us)).symm
  | cons t ts ih => rw [List.cons_append, deepest, ih, deepest, afterAll_cons, Nat.max_assoc]

theorem deepest_left_le (s : Enclosing) (ts us : List Token) :
    s.deepest ts ≤ s.deepest (ts ++ us) := by
  rw [deepest_append]
  exact Nat.le_max_left _ _

theorem deepest_right_le (s : Enclosing) (ts us : List Token) :
    (s.afterAll ts).deepest us ≤ s.deepest (ts ++ us) := by
  rw [deepest_append]
  exact Nat.le_max_right _ _

theorem here_afterAll_le_deepest (s : Enclosing) (ts : List Token) :
    (s.afterAll ts).here ≤ s.deepest ts := by
  have h := deepest_right_le s ts []
  rw [List.append_nil] at h
  exact h

end Enclosing

/-- How deeply `!` and parentheses are nested. -/
def nesting (ts : List Token) : Nat := Enclosing.start.deepest ts

/-- What stands around the whole of a stretch is the same at both its ends. -/
def Balanced (us : List Token) : Prop :=
  ∀ s : Enclosing, (s.afterAll us).base = s.base ∧ (s.afterAll us).outer = s.outer

theorem Balanced.append {us vs : List Token} (hu : Balanced us) (hv : Balanced vs) :
    Balanced (us ++ vs) := by
  intro s
  rw [Enclosing.afterAll_append, (hv _).1, (hv _).2]
  exact hu s

theorem balanced_chainTokens {connective : Token} (hc : Balanced [connective])
    {more : List (List Token × Expr)} (hmore : ∀ p ∈ more, Balanced p.1) :
    Balanced (chainTokens connective more) := by
  induction more with
  | nil => exact fun s => ⟨rfl, rfl⟩
  | cons p more ih =>
    have hp : Balanced (connective :: p.1) := hc.append (hmore p List.mem_cons_self)
    exact hp.append (ih fun q hq => hmore q (List.mem_cons_of_mem p hq))

theorem Derives.balanced {level : Level} {us : List Token} {e : Expr} (h : Derives level us e) :
    Balanced us := by
  induction h with
  | disjunction more _ _ hfirst hmore =>
    exact hfirst.append (balanced_chainTokens (fun s => ⟨rfl, rfl⟩) hmore)
  | conjunction more _ _ hfirst hmore =>
    exact hfirst.append (balanced_chainTokens (fun s => ⟨rfl, rfl⟩) hmore)
  | negate _ ih => exact fun s => ih (s.after .negate)
  | primary _ ih => exact ih
  | group _ ih =>
    intro s
    rw [Enclosing.afterAll_cons, Enclosing.afterAll_append, Enclosing.afterAll_cons,
      Enclosing.afterAll_nil]
    simp [Enclosing.after, (ih _).2]
  | comparison _ ih => exact ih
  | withLiteral path op value => exact fun s => ⟨rfl, rfl⟩
  | withPath path op value => exact fun s => ⟨rfl, rfl⟩

theorem finish_notMem_chain {connective : Token} (hc : .finish ≠ connective) {us : List Token}
    {more : List (List Token × Expr)} (hus : Token.finish ∉ us)
    (hmore : ∀ p ∈ more, Token.finish ∉ p.1) : Token.finish ∉ us ++ chainTokens connective more := by
  simp only [chainTokens, List.mem_append, List.mem_flatMap, List.mem_cons, not_or]
  refine ⟨hus, ?_⟩
  rintro ⟨p, hp, hcon | hin⟩
  · exact hc hcon
  · exact hmore p hp hin

theorem Derives.no_finish {level : Level} {us : List Token} {e : Expr} (h : Derives level us e) :
    Token.finish ∉ us := by
  induction h with
  | disjunction more _ _ hfirst hmore => exact finish_notMem_chain (by simp) hfirst hmore
  | conjunction more _ _ hfirst hmore => exact finish_notMem_chain (by simp) hfirst hmore
  | negate _ ih => simpa using ih
  | primary _ ih => exact ih
  | group _ ih => simpa using ih
  | comparison _ ih => exact ih
  | withLiteral path op value => simp
  | withPath path op value => simp

end HookPolicy.Rule
