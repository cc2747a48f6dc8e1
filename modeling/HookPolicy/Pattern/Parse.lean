import HookPolicy.Pattern.CharNames
import HookPolicy.Pattern.Node
import HookPolicy.Text.Pieces

/-!
# Reading a pattern

`Pattern.compile` reads the text of a pattern. A pattern that breaks the notation is malformed; some
patterns are well-formed and still beyond what the matcher takes, and each such limit has a fault of
its own.
-/

namespace HookPolicy.Pattern

inductive Fault
  | malformed
  | countTooLarge
  | tooManyDigits (count : Nat)
  | clashingFlags
  | tooDeep
  deriving DecidableEq, Repr

def Fault.message : Fault → String
  | .malformed => "malformed pattern"
  | .countTooLarge => "the repetition number is too large"
  | .tooManyDigits count =>
    s!"Exceeds the limit (4300 digits) for integer string conversion: value has {count} digits; use sys.set_int_max_str_digits() to increase the limit"
  | .clashingFlags => "ASCII and UNICODE flags are incompatible"
  | .tooDeep => "maximum recursion depth exceeded"

/-- A character, a character behind a backslash, or a backslash at the end. -/
inductive Symbol
  | plain (c : Char)
  | escaped (c : Char)
  | dangling
  deriving DecidableEq, Repr

def Symbol.chars : Symbol → List Char
  | .plain c => [c]
  | .escaped c => ['\\', c]
  | .dangling => ['\\']

def symbols (out : List Symbol) : List Char → List Symbol
  | [] => out.reverse
  | ['\\'] => (.dangling :: out).reverse
  | '\\' :: c :: rest => symbols (.escaped c :: out) rest
  | c :: rest => symbols (.plain c :: out) rest

structure Flags where
  ignoreCase : Bool := false
  multiline : Bool := false
  dotAll : Bool := false
  verbose : Bool := false
  ascii : Bool := false
  wide : Bool := false
  template : Bool := false
  deriving DecidableEq, Repr

namespace Flags

def mode (f : Flags) : Mode := ⟨f.ignoreCase, !f.ascii⟩

def union (a b : Flags) : Flags :=
  ⟨a.ignoreCase || b.ignoreCase, a.multiline || b.multiline, a.dotAll || b.dotAll,
   a.verbose || b.verbose, a.ascii || b.ascii, a.wide || b.wide, a.template || b.template⟩

/-- The flags inside a group that adds some and takes some away. -/
def inside (f add del : Flags) : Flags :=
  let f := if add.ascii || add.wide then { f with ascii := false, wide := false } else f
  let g := f.union add
  ⟨g.ignoreCase && !del.ignoreCase, g.multiline && !del.multiline, g.dotAll && !del.dotAll,
   g.verbose && !del.verbose, g.ascii, g.wide, g.template⟩

def meets (a b : Flags) : Bool :=
  (a.ignoreCase && b.ignoreCase) || (a.multiline && b.multiline) || (a.dotAll && b.dotAll) ||
    (a.verbose && b.verbose)

def isEmpty (f : Flags) : Bool := f == {}

def ofChar? : Char → Option Flags
  | 'i' => some { ignoreCase := true }
  | 'm' => some { multiline := true }
  | 's' => some { dotAll := true }
  | 'x' => some { verbose := true }
  | 'a' => some { ascii := true }
  | 'u' => some { wide := true }
  | 't' => some { template := true }
  | _ => none

end Flags

/-- What has been read so far. A group has a width once it is closed. -/
structure Scan where
  rest : List Symbol
  flags : Flags
  groups : Nat
  names : List (List Char × Nat)
  widths : List (Nat × Width)
  behind : Option Nat
  conditions : List Nat

abbrev Reader := StateT Scan (Except Fault)

def malformed {α : Type} : Reader α := throw .malformed

def peek : Reader (Option Symbol) := return (← get).rest.head?

/-- Takes the next symbol; a backslash at the end is noticed as soon as it comes next. -/
def take : Reader (Option Symbol) := do
  let s ← get
  match s.rest with
  | [] => return none
  | a :: rest =>
    if rest.head? == some .dangling then malformed
    else
      set { s with rest := rest }
      return some a

def takeIf (c : Char) : Reader Bool := do
  if (← peek) == some (.plain c) then
    let _ ← take
    return true
  else return false

/-- Takes up to `n` plain characters of a class. -/
def takeChars (p : Char → Bool) : Nat → Reader (List Char)
  | 0 => return []
  | n + 1 => do
    match ← peek with
    | some (.plain c) =>
      if p c then
        let _ ← take
        return c :: (← takeChars p n)
      else return []
    | _ => return []

/-- Takes a name up to its end mark; the name may not be empty. -/
def takeName (stop : Char) (name : List Char) : Nat → Reader (List Char)
  | 0 => malformed
  | n + 1 => do
    match ← take with
    | none => malformed
    | some a =>
      if a == .plain stop then
        if name.isEmpty then malformed else return name
      else takeName stop (name ++ a.chars) n

def remaining : Reader Nat := return (← get).rest.length

def isGroupName (cs : List Char) : Bool :=
  match cs with
  | [] => false
  | c :: rest => Text.isWord c && !Text.isDigit c && rest.all Text.isWord

def octalOf (cs : List Char) : Nat := Text.numberOf 8 Text.hexValue? cs

def hexOf (cs : List Char) : Nat := Text.numberOf 16 Text.hexValue? cs

def decimal (cs : List Char) : Nat := Text.numberOf 10 Text.digitValue? cs

/-- What an escape stands for: one character, a class, a place or the text of a group. -/
inductive Meaning
  | char (n : Nat)
  | category (c : Category) (negated : Bool)
  | anchor (a : Anchor)
  | group (i : Nat)

def categoryOf? : Char → Option (Category × Bool)
  | 'd' => some (.digit, false)
  | 'D' => some (.digit, true)
  | 's' => some (.space, false)
  | 'S' => some (.space, true)
  | 'w' => some (.word, false)
  | 'W' => some (.word, true)
  | _ => none

def controlOf? : Char → Option Nat
  | 'a' => some 7
  | 'b' => some 8
  | 'f' => some 12
  | 'n' => some 10
  | 'r' => some 13
  | 't' => some 9
  | 'v' => some 11
  | '\\' => some 92
  | _ => none

def hexEscape (count : Nat) : Reader Meaning := do
  let ds ← takeChars Text.isHexDigit count
  if ds.length != count then malformed
  else if hexOf ds > 0x10FFFF then malformed
  else return .char (hexOf ds)

def nameEscape : Reader Meaning := do
  if !(← takeIf '{') then malformed
  else
    let name ← takeName '}' [] ((← remaining) + 1)
    let wanted := String.ofList (Text.upper name)
    match charNames.find? (·.1 == wanted) with
    | some (_, n) => return .char n
    | none => malformed

/-- The escapes that mean the same inside a set and outside. -/
def commonEscape (c : Char) : Reader Meaning :=
  if c == 'x' then hexEscape 2
  else if c == 'u' then hexEscape 4
  else if c == 'U' then hexEscape 8
  else if c == 'N' then nameEscape
  else if Text.isAsciiLetter c then malformed
  else return .char c.toNat

def setEscape (c : Char) : Reader Meaning := do
  match controlOf? c, categoryOf? c with
  | some n, _ => return .char n
  | none, some (k, negated) => return .category k negated
  | none, none =>
    if Text.isOctalDigit c then
      let ds ← takeChars Text.isOctalDigit 2
      let n := octalOf (c :: ds)
      if n > 0o377 then malformed else return .char n
    else if Text.isAsciiDigit c then malformed
    else commonEscape c

def checkBehind (i : Nat) : Reader Unit := do
  let s ← get
  match s.behind with
  | some bound => if (s.widths.lookup i).isNone || i ≥ bound then malformed
  | none => return ()

def groupEscape (i : Nat) : Reader Meaning := do
  let s ← get
  if i < s.groups && (s.widths.lookup i).isSome then
    checkBehind i
    return .group i
  else malformed

def digitEscape (c : Char) : Reader Meaning := do
  if c == '0' then
    let ds ← takeChars Text.isOctalDigit 2
    return .char (octalOf (c :: ds))
  else
    match ← takeChars Text.isAsciiDigit 1 with
    | [d] =>
      if Text.isOctalDigit c && Text.isOctalDigit d then
        match ← takeChars Text.isOctalDigit 1 with
        | [e] =>
          let n := octalOf [c, d, e]
          if n > 0o377 then malformed else return .char n
        | _ => groupEscape (decimal [c, d])
      else groupEscape (decimal [c, d])
    | _ => groupEscape (decimal [c])

def escape (wide : Bool) (c : Char) : Reader Meaning := do
  match c with
  | 'A' => return .anchor .textStart
  | 'Z' => return .anchor .textEnd
  | 'b' => return .anchor (.wordEdge false wide)
  | 'B' => return .anchor (.wordEdge true wide)
  | _ =>
    match categoryOf? c, controlOf? c with
    | some (k, negated), _ => return .category k negated
    | none, some n => return .char n
    | none, none => if Text.isAsciiDigit c then digitEscape c else commonEscape c

def Meaning.item : Meaning → Item
  | .char n => .literal n
  | .category c negated => .category c negated
  | _ => .literal 0

def setMember (a : Symbol) : Reader Meaning :=
  match a with
  | .escaped c => setEscape c
  | .plain c => return .char c.toNat
  | .dangling => malformed

/-- Reads the members of a set up to its closing bracket; a bracket that comes first is a member. -/
def readSet (items : List Item) : Nat → Reader (List Item)
  | 0 => malformed
  | n + 1 => do
    match ← take with
    | none => malformed
    | some a =>
      if a == .plain ']' && !items.isEmpty then return items
      else
        let low ← setMember a
        if ← takeIf '-' then
          match ← take with
          | none => malformed
          | some b =>
            if b == .plain ']' then return .literal 45 :: low.item :: items
            else
              match low, ← setMember b with
              | .char lo, .char hi =>
                if hi < lo then malformed else readSet (.range lo hi :: items) n
              | _, _ => malformed
        else readSet (low.item :: items) n

def setNode (m : Mode) (items : List Item) (negated : Bool) : Node :=
  match items.eraseDups with
  | [.literal x] => .one m (.literal x negated)
  | items => .one m (setOf m items negated)

/-- An item of a sequence, or the items of a plain group. A place or a repetition that stands open
cannot be repeated. -/
structure Part where
  nodes : List Node
  repeatable : Bool

def Part.one (node : Node) : Part := ⟨[node], true⟩

/-- Repetition counts must stay below this number. -/
def countLimit : Nat := 4294967295

def digitLimit : Nat := 4300

def countOf (ds : List Char) : Reader Nat := do
  if ds.length > digitLimit then throw (.tooManyDigits ds.length)
  else if decimal ds ≥ countLimit then throw .countTooLarge
  else return decimal ds

/-- Reads the counts behind an opening brace; none when the braces stand for themselves. -/
def readCounts : Reader (Option (Nat × Option Nat)) := do
  let start ← get
  if start.rest.head? == some (.plain '}') then return none
  else
    let lo ← takeChars Text.isAsciiDigit start.rest.length
    let hi ← if ← takeIf ',' then takeChars Text.isAsciiDigit start.rest.length else pure lo
    if ← takeIf '}' then
      let least ← if lo.isEmpty then pure 0 else countOf lo
      if hi.isEmpty then return some (least, none)
      else
        let most ← countOf hi
        if most < least then malformed else return some (least, some most)
    else
      set start
      return none

def takeGreed : Reader Greed := do
  if ← takeIf '?' then return .lazy
  if ← takeIf '+' then return .possessive
  return .greedy

def repeatPart (counts : Nat × Option Nat) (parts : List Part) : Reader (List Part) := do
  match parts with
  | [] => malformed
  | part :: more =>
    if !part.repeatable then malformed
    else
      let greed ← takeGreed
      return ⟨[.loop (Node.ofList part.nodes) counts.1 counts.2 greed], false⟩ :: more

def takeFlag : Reader (Option Char) := do
  match ← take with
  | none => return none
  | some (.plain c) => return some c
  | some _ => malformed

def readAdded (c : Char) (add : Flags) : Nat → Reader (Char × Flags)
  | 0 => malformed
  | n + 1 => do
    match Flags.ofChar? c with
    | none => malformed
    | some flag =>
      let add := add.union flag
      if add.ascii && add.wide then malformed
      else
        match ← takeFlag with
        | none => malformed
        | some d =>
          if d == ')' || d == '-' || d == ':' then return (d, add) else readAdded d add n

def readDropped (c : Char) (del : Flags) : Nat → Reader Flags
  | 0 => malformed
  | n + 1 => do
    match Flags.ofChar? c with
    | none => malformed
    | some flag =>
      if flag.ascii || flag.wide then malformed
      else
        match ← takeFlag with
        | none => malformed
        | some d => if d == ':' then return del.union flag else readDropped d (del.union flag) n

/-- Reads flags up to `)` or `:`; none when they hold for the whole pattern. -/
def readFlags (c : Char) : Reader (Option (Flags × Flags)) := do
  let size := (← remaining) + 1
  let (stop, add) ← if c == '-' then pure ('-', {}) else readAdded c {} size
  if stop == ')' then
    modify fun s => { s with flags := s.flags.union add }
    return none
  else if add.template then malformed
  else
    let del ← if stop == '-' then do
        match ← takeFlag with
        | some d => readDropped d {} size
        | none => malformed
      else pure {}
    if del.template || add.meets del then malformed else return some (add, del)

def openGroup (name : Option (List Char)) : Reader Nat := do
  let s ← get
  match name with
  | some name =>
    if (s.names.lookup name).isSome then malformed
    else
      set { s with groups := s.groups + 1, names := (name, s.groups) :: s.names }
      return s.groups
  | none =>
    set { s with groups := s.groups + 1 }
    return s.groups

def closeGroup (i : Nat) (body : Node) : Reader Unit :=
  modify fun s => { s with widths := (i, body.width) :: s.widths }

/-- The number that a group condition names by digits, with an optional sign and blanks around. -/
def groupNumber? (cs : List Char) : Option Nat :=
  let cs := Text.trim cs
  let ds := match cs with
    | '+' :: r => r
    | _ => cs
  let rec digits (after : Bool) : List Char → Bool
    | [] => after
    | '_' :: r => after && digits false r
    | c :: r => Text.isDigit c && digits true r
  if digits false ds then some (decimal (ds.filter (· != '_'))) else none

def conditionGroup (name : List Char) : Reader Nat := do
  let s ← get
  if isGroupName name then
    match s.names.lookup name with
    | some i => return i
    | none => malformed
  else
    match groupNumber? name with
    | some i =>
      if i == 0 || i ≥ 1073741823 then malformed
      else
        set { s with conditions := i :: s.conditions }
        return i
    | none => malformed

def skipComment : Nat → Reader Unit
  | 0 => malformed
  | n + 1 => do
    match ← take with
    | none => malformed
    | some a => if a == .plain ')' then return () else skipComment n

def skipLine : Nat → Reader Unit
  | 0 => return ()
  | n + 1 => do
    match ← take with
    | none => return ()
    | some a => if a == .plain '\n' then return () else skipLine n

def expectClose : Reader Unit := do
  if ← takeIf ')' then return () else malformed

def isLayout (c : Char) : Bool := c == ' ' || ('\t' ≤ c && c ≤ '\r')

/-- Where the reader stands: how many groups may still be opened, whether it is inside one, the
flags around it, and whether layout is skipped. -/
structure Around where
  depth : Nat
  nested : Bool
  flags : Flags
  verbose : Bool

def meaningNode (mode : Mode) (m : Meaning) : Reader Part := do
  match m with
  | .char n => return .one (.one mode (.literal n false))
  | .category c negated => return .one (.one mode (.set [.category c negated] false false))
  | .anchor a => return ⟨[.anchor a], false⟩
  | .group i => return .one (.same i mode (((← get).widths.lookup i).getD ⟨0, 0⟩))

/-- Single characters and sets side by side become one set. -/
def mergeSets (choices : List (List Node)) : Option Node :=
  let items := choices.map fun
    | [.one m (.literal x false)] => some (m, [Item.literal x])
    | [.one m (.set items false _)] => some (m, items)
    | _ => none
  match items with
  | some (m, _) :: _ =>
    if items.all (fun i => i.any (·.1 == m)) then
      some (.one m (setOf m (items.filterMap id |>.flatMap (·.2)).eraseDups false))
    else none
  | _ => none

def choice : List (List Node) → Node
  | [] => .empty
  | [[.alt a b]] => .seq (.alt a b) .empty
  | [a] => Node.ofList a
  | a :: more => .alt (Node.ofList a) (choice more)

def isPlain : Node → Bool
  | .one _ _ => true
  | .anchor _ => true
  | .same _ _ _ => true
  | _ => false

/-- Takes off what all choices start with. -/
def factorOut (choices : List (List Node)) (shared : List Node) : Nat →
    List Node × List (List Node)
  | 0 => (shared.reverse, choices)
  | fuel + 1 =>
    match choices with
    | (a :: _) :: _ =>
      if isPlain a && choices.all (·.head? == some a) then
        factorOut (choices.map (·.drop 1)) (a :: shared) fuel
      else (shared.reverse, choices)
    | _ => (shared.reverse, choices)

/-- The items that stand for several choices. -/
def combine (choices : List (List Node)) : List Node :=
  match choices with
  | [nodes] => nodes
  | _ =>
    let (shared, choices) := factorOut choices [] ((choices.map List.length).foldl max 0)
    shared ++ [(mergeSets choices).getD (choice choices)]

def Part.ofLook (ahead negated : Bool) (body : List Node) : Part :=
  .one (.look ahead negated (Node.ofList body))

mutual

/-- Reads choices separated by bars. -/
def readChoices (fuel : Nat) (around : Around) (first : Bool) (found : List (List Node)) :
    Reader (List Node) :=
  match fuel with
  | 0 => malformed
  | fuel + 1 => do
    let nodes ← readSequence fuel around first []
    if ← takeIf '|' then
      let global := (← get).flags
      let verbose := if around.nested then around.verbose else global.verbose
      readChoices fuel { around with verbose := verbose } false (nodes :: found)
    else
      return combine (nodes :: found).reverse

/-- Reads items up to a bar, a closing parenthesis or the end. -/
def readSequence (fuel : Nat) (around : Around) (first : Bool) (parts : List Part) :
    Reader (List Node) :=
  match fuel with
  | 0 => malformed
  | fuel + 1 => do
    let ahead ← peek
    match ahead with
    | none | some (.plain '|') | some (.plain ')') => return parts.reverse.flatMap (·.nodes)
    | some a =>
      let _ ← take
      let global := (← get).flags
      let flags := if around.nested then around.flags else global
      let mode := flags.mode
      let go (part : Part) := readSequence fuel around first (part :: parts)
      let goRepeat (counts : Nat × Option Nat) := do
        readSequence fuel around first (← repeatPart counts parts)
      match a with
      | .dangling => malformed
      | .escaped c => go (← meaningNode mode (← escape mode.wide c))
      | .plain c =>
        if around.verbose && isLayout c then readSequence fuel around first parts
        else if around.verbose && c == '#' then
          skipLine ((← remaining) + 1)
          readSequence fuel around first parts
        else match c with
          | '[' =>
            let negated ← takeIf '^'
            let items ← readSet [] ((← remaining) + 1)
            go (.one (setNode mode items.reverse negated))
          | '?' => goRepeat (0, some 1)
          | '*' => goRepeat (0, none)
          | '+' => goRepeat (1, none)
          | '{' =>
            match ← readCounts with
            | some counts => goRepeat counts
            | none => go (.one (.one mode (.literal 123 false)))
          | '.' => go (.one (.one mode (.any flags.dotAll)))
          | '^' => go ⟨[.anchor (if flags.multiline then .lineStart else .textStart)], false⟩
          | '$' => go ⟨[.anchor (if flags.multiline then .lineEnd else .lastLineEnd)], false⟩
          | '(' =>
            let (part, whole) ← readGroup fuel around flags
            match part with
            | some part => go part
            | none =>
              if whole && (!first || !parts.isEmpty) then malformed
              else do
                let global := (← get).flags.verbose
                let verbose := if whole then global else around.verbose
                readSequence fuel { around with verbose := verbose } first parts
          | c => go (.one (.one mode (.literal c.toNat false)))

/-- Reads what follows an opening parenthesis. Comments and flags for the whole pattern leave no
part; the second answer tells the two apart. -/
def readGroup (fuel : Nat) (around : Around) (flags : Flags) : Reader (Option Part × Bool) :=
  match fuel with
  | 0 => malformed
  | fuel + 1 => do
    let inner (flags : Flags) (verbose : Bool) : Reader (List Node) := do
      match around.depth with
      | 0 => throw .tooDeep
      | depth + 1 => readChoices fuel ⟨depth, true, flags, verbose⟩ false []
    let captured (name : Option (List Char)) : Reader (Option Part × Bool) := do
      let i ← openGroup name
      let body ← inner flags around.verbose
      expectClose
      closeGroup i (Node.ofList body)
      return (some (.one (.group i (Node.ofList body))), false)
    if !(← takeIf '?') then captured none
    else match ← take with
      | some (.plain 'P') =>
        if ← takeIf '<' then
          let name ← takeName '>' [] ((← remaining) + 1)
          if isGroupName name then captured (some name) else malformed
        else do
          let backward ← takeIf '='
          let name ← takeName ')' [] ((← remaining) + 1)
          let known := (← get).names.lookup name
          match backward && isGroupName name, known with
          | true, some i =>
            let part ← meaningNode flags.mode (← groupEscape i)
            return (some part, false)
          | _, _ => malformed
      | some (.plain ':') =>
        let body ← inner flags around.verbose
        expectClose
        return (some ⟨body, true⟩, false)
      | some (.plain '#') =>
        skipComment ((← remaining) + 1)
        return (none, false)
      | some (.plain '=') =>
        let body ← inner flags around.verbose
        expectClose
        return (some (.ofLook true false body), false)
      | some (.plain '!') =>
        let body ← inner flags around.verbose
        expectClose
        return (some (.ofLook true true body), false)
      | some (.plain '<') =>
        match ← take with
        | some (.plain d) =>
          if d != '=' && d != '!' then malformed
          else do
            let outer := (← get).behind
            if outer.isNone then modify fun s => { s with behind := some s.groups }
            let body ← inner flags around.verbose
            if outer.isNone then modify fun s => { s with behind := none }
            expectClose
            return (some (.ofLook false (d == '!') body), false)
        | _ => malformed
      | some (.plain '(') =>
        let name ← takeName ')' [] ((← remaining) + 1)
        let i ← conditionGroup name
        checkBehind i
        match around.depth with
        | 0 => throw .tooDeep
        | depth + 1 =>
          let around := ⟨depth, true, flags, around.verbose⟩
          let yes ← readSequence fuel around false []
          let no ← if ← takeIf '|' then readSequence fuel around false [] else pure []
          expectClose
          return (some (.one (.given i (Node.ofList yes) (Node.ofList no))), false)
      | some (.plain '>') =>
        let body ← inner flags around.verbose
        expectClose
        return (some (.one (.atomic (Node.ofList body))), false)
      | some (.plain c) =>
        match ← readFlags c with
        | none => return (none, true)
        | some (add, del) =>
          let verbose := (around.verbose || add.verbose) && !del.verbose
          let body ← inner (flags.inside add del) verbose
          expectClose
          let plain := add.isEmpty && del.isEmpty
          return (some (if plain then ⟨body, true⟩ else .one (Node.ofList body)), false)
      | _ => malformed

end

/-- How deep groups may nest. -/
def depthLimit : Nat := 300

def readAll (size : Nat) : Reader Node := do
  if (← get).rest.head? == some .dangling then malformed
  else
    let node := Node.ofList <| ← readChoices (4 * size + 8) ⟨depthLimit, false, {}, false⟩ true []
    let s ← get
    if !s.rest.isEmpty then malformed
    else if s.conditions.any (· ≥ s.groups) then malformed
    else if s.flags.ascii && s.flags.wide then throw .clashingFlags
    else if !node.looksBackFixed || (s.flags.template && node.hasLoop) then malformed
    else return node

/-- The pattern that a text states. -/
def compile (text : List Char) : Except Fault Node :=
  (readAll text.length).run' ⟨symbols [] text, {}, 1, [], [], none, []⟩

end HookPolicy.Pattern
