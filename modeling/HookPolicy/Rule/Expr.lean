import HookPolicy.Rule.Token

/-! The shape of a rule: comparisons joined by conjunction, disjunction and negation. -/

namespace HookPolicy.Rule

inductive Expr
  | compare (path : String) (op : Operator) (value : String)
  | conj (a b : Expr)
  | disj (a b : Expr)
  | negate (a : Expr)
  deriving DecidableEq, Repr

end HookPolicy.Rule
