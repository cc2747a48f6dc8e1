import HookPolicy.Pattern.Node

/-!
# Finding a pattern in a text

`run node state next` takes what the node takes from the state and goes on with `next`; when that
fails, the node tries its next choice. The first success wins, so an earlier choice is preferred to
a later one. A failure tells from where the last attempt set out, because a possessive repetition
whose next turn fails goes on from there.
-/

namespace HookPolicy.Pattern

/-- A place in a text: what stands before it, reversed, what stands after it, and its index. -/
structure Place where
  before : List Char
  after : List Char
  index : Nat

def Place.next? (p : Place) : Option (Char × Place) :=
  match p.after with
  | c :: rest => some (c, ⟨c :: p.before, rest, p.index + 1⟩)
  | [] => none

def Place.back (p : Place) : Nat → Option Place
  | 0 => some p
  | n + 1 =>
    match p.before with
    | c :: before => Place.back ⟨before, c :: p.after, p.index - 1⟩ n
    | [] => none

/-- Where matching stands, from where the last attempt set out, and where each group began and
ended last. -/
structure State where
  place : Place
  base : Place
  marks : List (Nat × Place)

inductive Result
  | found (s : State)
  | stuck (base : Place)

def Result.isFound : Result → Bool
  | .found _ => true
  | .stuck _ => false

namespace State

def mark (s : State) (key : Nat) : State :=
  { s with marks := (key, s.place) :: s.marks.filter (·.1 != key) }

def captured? (s : State) (group : Nat) : Option (List Char) :=
  match s.marks.lookup (2 * group), s.marks.lookup (2 * group + 1) with
  | some a, some b => if b.index < a.index then none else some (a.after.take (b.index - a.index))
  | _, _ => none

/-- Sets out from a place. -/
def from' (s : State) (p : Place) : State := { s with place := p, base := p }

end State

abbrev Next := State → Result

/-- The end of a nested attempt. -/
def finish : Next := fun s => .found { s with base := s.place }

def Anchor.holds (p : Place) : Anchor → Bool
  | .textStart => p.before.isEmpty
  | .lineStart => p.before.isEmpty || p.before.head? == some '\n'
  | .textEnd => p.after.isEmpty
  | .lineEnd => p.after.isEmpty || p.after.head? == some '\n'
  | .lastLineEnd => p.after.isEmpty || p.after == ['\n']
  | .wordEdge negated wide =>
    if p.before.isEmpty && p.after.isEmpty then false
    else
      let word (c : Option Char) : Bool := match c with
        | some c => categoryHolds wide .word c.toNat
        | none => false
      (word p.before.head? != word p.after.head?) != negated

/-- Takes up to `limit` characters that pass the test; gives how many it took. -/
def takeWhileTest (test : Char → Bool) (count : Nat) (p : Place) : Nat → Nat × Place
  | 0 => (count, p)
  | limit + 1 =>
    match p.next? with
    | some (c, q) => if test c then takeWhileTest test (count + 1) q limit else (count, p)
    | none => (count, p)

/-- Gives characters back one at a time, down to the least number, until the rest fits. When the
rest starts with a known character, only places before that character are tried. -/
def giveBack (tail : Option Nat) (s : State) (next : Next) (least : Nat) : Nat → Place → Result
  | taken, p =>
    let hopeless := match tail with
      | some x => p.after.head?.map Char.toNat != some x
      | none => false
    let tried := if hopeless then Result.stuck s.base else next (s.from' p)
    match tried with
    | .found t => .found t
    | .stuck base =>
      match taken with
      | 0 => .stuck base
      | taken + 1 =>
        if taken + 1 ≤ least then .stuck base
        else match p.back 1 with
          | some q => giveBack tail { s with base := base } next least taken q
          | none => .stuck base

/-- Takes characters one at a time until the rest fits. -/
def takeMore (test : Char → Bool) (s : State) (next : Next) : Nat → Place → Result
  | 0, p => next (s.from' p)
  | more + 1, p =>
    match next (s.from' p) with
    | .found t => .found t
    | .stuck _ =>
      match p.next? with
      | some (c, q) => if test c then takeMore test s next more q else .stuck p
      | none => .stuck p

/-- A repetition of one test. `folds` says that the test looks through case, so that counting moves
the base. -/
def runChars (test : Char → Bool) (folds : Bool) (tail : Option Nat) (least : Nat)
    (most : Option Nat) (greed : Greed) (s : State) (next : Next) : Result :=
  let room := s.place.after.length
  let limit := match most with
    | some k => min k room
    | none => room
  if room < least then .stuck s.base
  else
    let (taken, p) := takeWhileTest test 0 s.place (if greed = .lazy then least else limit)
    let counted := if folds then p else s.place
    if taken < least then .stuck counted
    else match greed with
      | .greedy => giveBack tail { s with base := counted } next least taken p
      | .possessive => next (s.from' p)
      | .lazy =>
        match most with
        | some k =>
          if k < taken then .stuck counted else takeMore test s next (limit - taken) p
        | none => takeMore test s next (limit - taken) p

def mayRepeat (most : Option Nat) (count : Nat) (last : Option Nat) (p : Place) : Bool :=
  (match most with
    | some k => decide (count < k)
    | none => true) && last != some p.index

/-- `last` is where the previous turn beyond the least number began: a turn that took nothing is not
tried again. -/
def runGreedy (step : State → Next → Result) (least : Nat) (most : Option Nat) :
    Nat → Nat → Option Nat → State → Next → Result
  | 0, _, _, s, _ => .stuck s.place
  | fuel + 1, count, last, s, next =>
    let here := s.from' s.place
    if count < least then
      match step here fun t => runGreedy step least most fuel (count + 1) last t next with
      | .found t => .found t
      | .stuck _ => .stuck s.place
    else
      let more := if mayRepeat most count last s.place then
          step here fun t =>
            runGreedy step least most fuel (count + 1) (some s.place.index) t next
        else .stuck s.place
      match more with
      | .found t => .found t
      | .stuck _ =>
        match next here with
        | .found t => .found t
        | .stuck _ => .stuck s.place

def runLazy (step : State → Next → Result) (least : Nat) (most : Option Nat) :
    Nat → Nat → Option Nat → State → Next → Result
  | 0, _, _, s, _ => .stuck s.place
  | fuel + 1, count, last, s, next =>
    let here := s.from' s.place
    if count < least then
      match step here fun t => runLazy step least most fuel (count + 1) last t next with
      | .found t => .found t
      | .stuck _ => .stuck s.place
    else
      match next here with
      | .found t => .found t
      | .stuck _ =>
        if mayRepeat most count last s.place then
          match step here fun t =>
              runLazy step least most fuel (count + 1) (some s.place.index) t next with
          | .found t => .found t
          | .stuck _ => .stuck s.place
        else .stuck s.place

/-- Turns are final. Gives the state after the last one, or none when there are too few. -/
def runPossessive (step : State → Next → Result) (least : Nat) (most : Option Nat) :
    Nat → Nat → Option Nat → State → Option State
  | 0, _, _, _ => none
  | fuel + 1, count, last, s =>
    if count < least then
      match step s finish with
      | .found t => runPossessive step least most fuel (count + 1) last t
      | .stuck _ => none
    else if mayRepeat most count last s.place then
      match step s finish with
      | .found t => runPossessive step least most fuel (count + 1) (some s.place.index) t
      | .stuck base => some (s.from' base)
    else some s

def takeSame (m : Mode) : List Char → Place → Option Place
  | [], p => some p
  | c :: rest, p =>
    match p.next? with
    | some (d, q) =>
      let agree := if m.ignoreCase then m.lower c.toNat == m.lower d.toNat else c == d
      if agree then takeSame m rest q else none
    | none => none

def CharTest.folds : Mode → CharTest → Bool
  | _, .set _ _ folds => folds
  | m, .literal x _ => m.ignoreCase && m.cased x && !(m.kin (m.lower x)).isEmpty
  | _, .any _ => false

/-- `tail` is the character that the rest is known to start with. -/
def run : Node → Option Nat → State → Next → Result
  | .empty, _, s, next => next s
  | .one mode test, _, s, next =>
    match s.place.next? with
    | some (c, p) => if test.holds mode c then next { s with place := p } else .stuck s.base
    | none => .stuck s.base
  | .anchor a, _, s, next => if a.holds s.place then next s else .stuck s.base
  | .seq a b, tail, s, next => run a b.startsExactly? s fun t => run b tail t next
  | .alt a b, _, s, next =>
    let tried := if a.refuses s.place.after.head? then Result.stuck s.base
      else run a none (s.from' s.place) next
    match tried with
    | .found t => .found t
    | .stuck base =>
      match b with
      | .alt _ _ => run b none { s with base := base } next
      | _ =>
        if b.refuses s.place.after.head? then .stuck base else run b none (s.from' s.place) next
  | .loop body least most greed, tail, s, next =>
    match body with
    | .one mode test =>
      runChars (test.holds mode) (test.folds mode) tail least most greed s next
    | _ =>
      let fuel := least + s.place.after.length + 2
      match greed with
      | .greedy => runGreedy (run body none) least most fuel 0 none s next
      | .lazy => runLazy (run body none) least most fuel 0 none s next
      | .possessive =>
        match runPossessive (run body none) least most fuel 0 none (s.from' s.place) with
        | some t => next t
        | none => .stuck s.place
  | .group i body, _, s, next =>
    run body none (s.mark (2 * i)) fun t => next (t.mark (2 * i + 1))
  | .same i mode _, _, s, next =>
    match s.captured? i with
    | some text =>
      match takeSame mode text s.place with
      | some p => next { s with place := p }
      | none => .stuck s.base
    | none => .stuck s.base
  | .look ahead negated body, _, s, next =>
    match (if ahead then some s.place else s.place.back body.width.lo) with
    | none => if negated then next s else .stuck s.base
    | some p =>
      match run body none (s.from' p) finish with
      | .found t => if negated then .stuck t.base else next { t with place := s.place }
      | .stuck base => if negated then next { s with base := base } else .stuck base
  | .atomic body, _, s, next =>
    match run body none (s.from' s.place) finish with
    | .found t => next t
    | .stuck _ => .stuck s.place
  | .given i yes no, tail, s, next =>
    if (s.captured? i).isSome then run yes none s next else run no tail s next

/-- Whether the pattern fits somewhere from the place on. -/
def foundFrom (node : Node) (least : Nat) (before : List Char) (index room : Nat) :
    List Char → Bool
  | [] => least == 0 && (run node none (State.mk ⟨before, [], index⟩ ⟨before, [], index⟩ []) finish).isFound
  | c :: rest =>
    if room < least then false
    else
      let p : Place := ⟨before, c :: rest, index⟩
      (run node none ⟨p, p, []⟩ finish).isFound ||
        foundFrom node least (c :: before) (index + 1) (room - 1) rest

def Node.foundIn (node : Node) (text : List Char) : Bool :=
  foundFrom node node.width.lo [] 0 text.length text

end HookPolicy.Pattern
