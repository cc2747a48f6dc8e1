import HookPolicy.Rule.Expr
import HookPolicy.Rule.Lexer

/-!
# From tokens to rules

Lowest first, the precedence is `||`, `&&`, `!`; both connectives group to the left. The whole list
of tokens has to be used, and the nesting of `!` and parentheses is bounded.
-/

namespace HookPolicy.Rule

inductive ParseError
  | unexpected (expected actual : Token.Kind)
  | tooDeep
  deriving DecidableEq, Repr

def ParseError.message : ParseError → String
  | .unexpected expected actual => s!"Expected {expected.name}, got {actual.name}"
  | .tooDeep => "Expression is nested too deeply"

/-- How many `!` and open parentheses may enclose a comparison. -/
def nestingLimit : Nat := 240

abbrev Parsed (α : Type) := Except ParseError (α × List Token)

def unexpected {α : Type} (expected : Token.Kind) (tokens : List Token) : Except ParseError α :=
  .error (.unexpected expected ((tokens.head?.getD .finish).kind))

def parseComparison (tokens : List Token) : Parsed Expr :=
  match tokens with
  | .path name :: rest =>
    match rest with
    | .operator op :: rest =>
      match rest with
      | .literal value :: rest => .ok (.compare name op value, rest)
      | .path value :: rest => .ok (.compare name op value, rest)
      | _ => unexpected .identifier rest
    | _ => unexpected .operator rest
  | _ => unexpected .identifier tokens

/-- Joins operands from the left for as long as the connective follows. -/
def parseMore (connective : Token) (join : Expr → Expr → Expr)
    (operand : List Token → Parsed Expr) : Nat → Expr → List Token → Parsed Expr
  | 0, left, tokens => .ok (left, tokens)
  | n + 1, left, tokens =>
    match tokens with
    | token :: rest =>
      if token = connective then
        match operand rest with
        | .ok (right, rest) => parseMore connective join operand n (join left right) rest
        | .error e => .error e
      else .ok (left, token :: rest)
    | [] => .ok (left, [])

def parseChain (connective : Token) (join : Expr → Expr → Expr)
    (operand : List Token → Parsed Expr) (tokens : List Token) : Parsed Expr :=
  match operand tokens with
  | .ok (left, rest) => parseMore connective join operand rest.length left rest
  | .error e => .error e

def parseDisjunction (operand : List Token → Parsed Expr) : List Token → Parsed Expr :=
  parseChain .disj .disj (parseChain .conj .conj operand)

def parseUnary : Nat → List Token → Parsed Expr
  | 0, _ => .error .tooDeep
  | depth + 1, tokens =>
    match tokens with
    | .negate :: rest =>
      match parseUnary depth rest with
      | .ok (a, rest) => .ok (.negate a, rest)
      | .error e => .error e
    | .lparen :: rest =>
      match parseDisjunction (parseUnary depth) rest with
      | .ok (a, .rparen :: rest) => .ok (a, rest)
      | .ok (_, rest) => unexpected .rparen rest
      | .error e => .error e
    | _ => parseComparison tokens

/-- Reads a whole rule up to the mark of its end, with at most `limit` enclosing `!` and parentheses.
-/
def parseWithin (limit : Nat) (tokens : List Token) : Except ParseError Expr :=
  match parseDisjunction (parseUnary (limit + 1)) tokens with
  | .ok (a, .finish :: _) => .ok a
  | .ok (_, rest) => unexpected .eof rest
  | .error e => .error e

def parse (tokens : List Token) : Except ParseError Expr := parseWithin nestingLimit tokens

/-- The rule that a text states. -/
def compile (text : String) : Except ParseError Expr := parse (tokenize text)

end HookPolicy.Rule
