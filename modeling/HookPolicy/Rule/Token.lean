/-!
# Tokens of a rule

A rule compares dotted paths with texts and joins the comparisons by `&&`, `||` and `!`.
-/

namespace HookPolicy.Rule

inductive Operator
  | equal
  | notEqual
  | notMatches
  | matches
  | startsWith
  | endsWith
  | contains
  | among
  deriving DecidableEq, Repr

def Operator.text : Operator → String
  | .equal => "=="
  | .notEqual => "!="
  | .notMatches => "!matches"
  | .matches => "matches"
  | .startsWith => "startsWith"
  | .endsWith => "endsWith"
  | .contains => "contains"
  | .among => "in"

inductive Token
  | path (name : String)
  | literal (value : String)
  | operator (op : Operator)
  | conj
  | disj
  | negate
  | lparen
  | rparen
  | finish
  deriving DecidableEq, Repr

inductive Token.Kind
  | identifier
  | string
  | operator
  | logical
  | lparen
  | rparen
  | eof
  deriving DecidableEq, Repr

def Token.Kind.name : Token.Kind → String
  | .identifier => "IDENTIFIER"
  | .string => "STRING"
  | .operator => "OPERATOR"
  | .logical => "LOGICAL"
  | .lparen => "LPAREN"
  | .rparen => "RPAREN"
  | .eof => "EOF"

def Token.kind : Token → Token.Kind
  | .path _ => .identifier
  | .literal _ => .string
  | .operator _ => .operator
  | .conj | .disj | .negate => .logical
  | .lparen => .lparen
  | .rparen => .rparen
  | .finish => .eof

/-- What the token stands for in the text; the end stands for nothing. -/
def Token.value? : Token → Option String
  | .path name => some name
  | .literal value => some value
  | .operator op => some op.text
  | .conj => some "&&"
  | .disj => some "||"
  | .negate => some "!"
  | .lparen => some "("
  | .rparen => some ")"
  | .finish => none

end HookPolicy.Rule
