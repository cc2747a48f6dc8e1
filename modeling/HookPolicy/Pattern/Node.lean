import HookPolicy.Pattern.Charset

/-!
# The shape of a pattern

Groups are numbered from one. Each repetition takes as much as it can, as little as it can, or as
much as it can without giving anything back.
-/

namespace HookPolicy.Pattern

inductive Anchor
  | textStart
  | lineStart
  | textEnd
  | lineEnd
  | lastLineEnd
  | wordEdge (negated : Bool) (wide : Bool)
  deriving DecidableEq, Repr

inductive Greed
  | greedy
  | lazy
  | possessive
  deriving DecidableEq, Repr

/-- The least and the greatest number of characters that something takes. -/
structure Width where
  lo : Nat
  hi : Nat
  deriving DecidableEq, Repr

inductive Node
  | empty
  | one (mode : Mode) (test : CharTest)
  | anchor (a : Anchor)
  | seq (a b : Node)
  | alt (a b : Node)
  | loop (body : Node) (min : Nat) (max : Option Nat) (greed : Greed)
  | group (index : Nat) (body : Node)
  | same (index : Nat) (mode : Mode) (width : Width)
  | look (ahead negated : Bool) (body : Node)
  | atomic (body : Node)
  | given (index : Nat) (yes no : Node)
  deriving DecidableEq, Repr

/-- The code point of a test that takes exactly one character. -/
def exactChar? (mode : Mode) : CharTest → Option Nat
  | .literal x false => if mode.ignoreCase && mode.cased x then none else some x
  | _ => none

/-- What can be said of the first character before anything is tried: the test that it must pass. -/
def firstTest? (mode : Mode) (test : CharTest) : Option CharTest :=
  match test with
  | .literal _ _ => (exactChar? mode test).map fun _ => test
  | .set _ _ folds => if folds then none else some test
  | .any _ => none

/-- Whether the node can be passed over because the next character rules it out. -/
def Node.refuses (node : Node) (next : Option Char) : Bool :=
  match node with
  | .one mode test =>
    match firstTest? mode test with
    | some test =>
      match next with
      | some c => !test.holds mode c
      | none => true
    | none => false
  | .seq a _ => a.refuses next
  | _ => false

/-- Widths are counted up to this number. -/
def widthLimit : Nat := Nat.pow 2 64

def Width.capped (w : Width) : Width := ⟨min w.lo widthLimit, min w.hi widthLimit⟩

def Node.width : Node → Width
  | .empty => ⟨0, 0⟩
  | .one _ _ => ⟨1, 1⟩
  | .anchor _ => ⟨0, 0⟩
  | .seq a b => Width.capped ⟨a.width.lo + b.width.lo, a.width.hi + b.width.hi⟩
  | .alt a b => ⟨min a.width.lo b.width.lo, max a.width.hi b.width.hi⟩
  | .loop body least most _ =>
    let w := body.width
    let hi := match most with
      | some k => w.hi * k
      | none => if w.hi == 0 then 0 else widthLimit
    Width.capped ⟨w.lo * least, hi⟩
  | .group _ body => body.width
  | .same _ _ w => w
  | .look _ _ _ => ⟨0, 0⟩
  | .atomic body => body.width
  | .given _ yes no => ⟨min yes.width.lo no.width.lo, max yes.width.hi no.width.hi⟩

/-- Looking back needs a body of one width. -/
def Node.looksBackFixed : Node → Bool
  | .seq a b => a.looksBackFixed && b.looksBackFixed
  | .alt a b => a.looksBackFixed && b.looksBackFixed
  | .loop body _ _ _ => body.looksBackFixed
  | .group _ body => body.looksBackFixed
  | .look ahead _ body => (ahead || body.width.lo == body.width.hi) && body.looksBackFixed
  | .atomic body => body.looksBackFixed
  | .given _ yes no => yes.looksBackFixed && no.looksBackFixed
  | _ => true

def Node.hasLoop : Node → Bool
  | .seq a b => a.hasLoop || b.hasLoop
  | .alt a b => a.hasLoop || b.hasLoop
  | .loop _ _ _ _ => true
  | .group _ body => body.hasLoop
  | .look _ _ body => body.hasLoop
  | .atomic body => body.hasLoop
  | .given _ yes no => yes.hasLoop || no.hasLoop
  | _ => false

/-- The items of a sequence, one after the other. -/
def Node.ofList (nodes : List Node) : Node :=
  match nodes with
  | [] => .empty
  | [a] => a
  | a :: more => .seq a (Node.ofList more)

def Node.startsExactly? : Node → Option Nat
  | .one mode test => exactChar? mode test
  | .seq a _ => a.startsExactly?
  | _ => none

end HookPolicy.Pattern
