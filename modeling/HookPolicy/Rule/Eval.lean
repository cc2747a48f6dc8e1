import HookPolicy.Rule.Parse
import HookPolicy.Json.Writer
import HookPolicy.Pattern.Parse
import HookPolicy.Pattern.Search

/-!
# Rules on contexts

A path leads through the fields of the context, and what is not there is null. `outcome` says
whether a context satisfies a rule or why that cannot be decided; `holds` takes an undecided rule as
not satisfied, so a broken rule never fires.
-/

namespace HookPolicy.Rule

inductive EvalError
  | tooDeep
  | pattern (fault : Pattern.Fault)
  deriving DecidableEq, Repr

def EvalError.message : EvalError → String
  | .tooDeep => "maximum recursion depth exceeded"
  | .pattern fault => fault.message

/-- How many connectives may stand above a comparison when a rule is evaluated. -/
def evalLimit : Nat := 900

def segments (path : String) : List String :=
  (Text.splitAt '.' path.toList).map String.ofList

/-- The value that a path leads to, or null. -/
def resolve (context : Json) (path : String) : Json :=
  (segments path).foldl Json.field context

/-- The text by which a value is looked up in a list: truth values in lower case. -/
def memberText : Json → String
  | .bool true => "true"
  | .bool false => "false"
  | v => v.display

/-- The members of a list text: its pieces between commas, without blanks around them. -/
def members (list : String) : List String :=
  (Text.splitAt ',' list.toList).map fun piece => String.ofList (Text.trim piece)

/-- A malformed pattern is looked for as it stands. -/
def patternHolds (pattern : String) (v : Json) : Except EvalError Bool :=
  match v with
  | .string s =>
    match Pattern.compile pattern.toList with
    | .ok node => .ok (node.foundIn s.toList)
    | .error .malformed => .ok (Text.occursIn pattern.toList s.toList)
    | .error fault => .error (.pattern fault)
  | _ => .ok false

def onText (f : List Char → Bool) : Json → Bool
  | .string s => f s.toList
  | _ => false

def equals (v : Json) (s : String) : Bool :=
  match v with
  | .string t => t == s
  | _ => false

def compareWith (op : Operator) (left : Json) (right : String) : Except EvalError Bool :=
  match op with
  | .equal => .ok (equals left right)
  | .notEqual => .ok (!equals left right)
  | .matches => patternHolds right left
  | .notMatches => (patternHolds right left).map (!·)
  | .startsWith => .ok (onText (Text.startsWith right.toList) left)
  | .endsWith => .ok (onText (Text.endsWith right.toList) left)
  | .contains => .ok (onText (Text.occursIn right.toList) left)
  | .among => .ok (!left.isNull && (members right).contains (memberText left))

/-- Evaluates with short cuts, at most `budget` levels deep. -/
def Expr.eval (context : Json) : Nat → Expr → Except EvalError Bool
  | 0, _ => .error .tooDeep
  | _ + 1, .compare path op value => compareWith op (resolve context path) value
  | budget + 1, .conj a b =>
    match eval context budget a with
    | .ok true => eval context budget b
    | other => other
  | budget + 1, .disj a b =>
    match eval context budget a with
    | .ok false => eval context budget b
    | other => other
  | budget + 1, .negate a => (eval context budget a).map (!·)

inductive Failure
  | parse (e : ParseError)
  | eval (e : EvalError)
  deriving DecidableEq, Repr

def Failure.message : Failure → String
  | .parse e => e.message
  | .eval e => e.message

def isBlankRule (text : String) : Bool := text.toList.all Text.isBlank

/-- Whether the context satisfies the rule; a blank rule is always satisfied. -/
def outcome (text : String) (context : Json) : Except Failure Bool :=
  if isBlankRule text then .ok true
  else match compile text with
    | .error e => .error (.parse e)
    | .ok e =>
      match e.eval context evalLimit with
      | .ok b => .ok b
      | .error e => .error (.eval e)

def holds (text : String) (context : Json) : Bool :=
  match outcome text context with
  | .ok b => b
  | .error _ => false

/-- What is wrong with the text of a rule, without a context. -/
def defect? (text : String) : Option ParseError :=
  if isBlankRule text then none
  else match compile text with
    | .ok _ => none
    | .error e => some e

end HookPolicy.Rule
