import HookPolicy.Text.Pieces

/-!
# How the shell reads a text

The shell takes one character after the other and remembers what it stands in: quotes, a comment, an
operator, an expansion. `read` gives the words and operators of a text. A character of a word either
stands plain, where it may still have a meaning, or is protected by quotes or a backslash.
-/

namespace HookPolicy.Shell

inductive Expansion
  | parameter (name : List Char)
  | braced (text : List Char)
  | command (text : List Char)
  deriving DecidableEq, Repr

/-- A part of a word. An opening quote makes a word even if nothing follows it. -/
inductive Bit
  | plain (c : Char)
  | quoted (c : Char)
  | quote
  | expand (e : Expansion) (quoted : Bool)
  deriving DecidableEq, Repr

/-- A line end counts as an operator. A descriptor is a number in front of a redirection. -/
inductive Token
  | word (bits : List Bit)
  | operator (cs : List Char)
  | descriptor (ds : List Char)
  deriving DecidableEq, Repr

inductive SyntaxFault
  | openQuote
  | openBraces
  | openBackquote
  | badLoopName
  | unexpected (found : String) (expected : Option String)
  deriving DecidableEq, Repr

namespace SyntaxFault

def textEnd : String := "end of file"

def message : SyntaxFault → String
  | openQuote => "Unterminated quoted string"
  | openBraces => "Missing \x27\x7d\x27"
  | openBackquote => "EOF in backquote substitution"
  | badLoopName => "Bad for loop variable"
  | unexpected found expected => found ++ " unexpected" ++
    (match expected with | some w => " (expecting \"" ++ w ++ "\")" | none => "")

end SyntaxFault

/-- Quoting inside brackets. A dollar sign may open further braces. -/
inductive Inner
  | bare
  | dollar
  | escaped
  | single
  | double
  | doubleEscaped
  deriving DecidableEq, Repr

inductive Bracket
  | parens
  | braces
  deriving DecidableEq, Repr

/-- What may go on with the next character. -/
inductive Unfinished
  | operator (cs : List Char)
  | dollar (quoted : Bool)
  | name (quoted : Bool) (cs : List Char)
  deriving DecidableEq, Repr

/-- What the next character stands in. Collected characters come last first. -/
inductive Mode
  | bare
  | escaped
  | single
  | double
  | doubleEscaped
  | comment
  | unfinished (u : Unfinished)
  /-- Behind a backslash that may join two lines. -/
  | joining (u : Unfinished)
  | bracket (b : Bracket) (quoted : Bool) (cs : List Char) (depth : Nat) (inner : Inner)
  | backquoted (quoted : Bool) (cs : List Char) (escaped : Bool)
  deriving DecidableEq, Repr

def isBlankChar (c : Char) : Bool := c == ' ' || c == '\t'

def startsOperator (c : Char) : Bool := ['&', '|', ';', '<', '>', '(', ')', '\n'].contains c

def startsRedirection (c : Char) : Bool := c == '<' || c == '>'

def longOperators : List (List Char) :=
  [['&', '&'], ['|', '|'], [';', ';'], ['<', '<'], ['>', '>'], ['<', '&'], ['>', '&'], ['<', '>'],
   ['>', '|'], ['<', '<', '-']]

def isNameStart (c : Char) : Bool := Text.isAsciiLetter c || c == '_'

def isNameChar (c : Char) : Bool := isNameStart c || Text.isAsciiDigit c

def isSpecialParameter (c : Char) : Bool :=
  ['@', '*', '#', '?', '-', '$', '!'].contains c || Text.isAsciiDigit c

def literal (quoted : Bool) (c : Char) : Bit := if quoted then .quoted c else .plain c

def around (quoted : Bool) : Mode := if quoted then .double else .bare

/-- What a character does to the word in hand and to the tokens. -/
inductive Act
  | add (b : Bit)
  | endWord
  /-- Ends the word before an operator that starts with the character. -/
  | endBefore (c : Char)
  | emit (cs : List Char)
  deriving DecidableEq, Repr

structure Move where
  acts : List Act
  mode : Mode
  deriving DecidableEq, Repr

/-- A move outside all quotes. A word is fresh while nothing of it has been read. -/
def moveBare (fresh : Bool) (c : Char) : Move :=
  if isBlankChar c then ⟨[.endWord], .bare⟩
  else if startsOperator c then ⟨[.endBefore c], .unfinished (.operator [c])⟩
  else if c == '#' && fresh then ⟨[], .comment⟩
  else if c == '\x27' then ⟨[.add .quote], .single⟩
  else if c == '"' then ⟨[.add .quote], .double⟩
  else if c == '\\' then ⟨[], .escaped⟩
  else if c == '$' then ⟨[], .unfinished (.dollar false)⟩
  else if c == '\x60' then ⟨[], .backquoted false [] false⟩
  else ⟨[.add (.plain c)], .bare⟩

def moveDouble (c : Char) : Move :=
  if c == '"' then ⟨[], .bare⟩
  else if c == '\\' then ⟨[], .doubleEscaped⟩
  else if c == '$' then ⟨[], .unfinished (.dollar true)⟩
  else if c == '\x60' then ⟨[], .backquoted true [] false⟩
  else ⟨[.add (.quoted c)], .double⟩

def moveEscaped (c : Char) : Move :=
  if c == '\n' then ⟨[], .bare⟩ else ⟨[.add (.quoted c)], .bare⟩

/-- Between double quotes a backslash protects only the characters that have a meaning there. -/
def moveDoubleEscaped (c : Char) : Move :=
  if c == '\n' then ⟨[], .double⟩
  else if ['$', '\x60', '"', '\\'].contains c then ⟨[.add (.quoted c)], .double⟩
  else ⟨[.add (.quoted '\\'), .add (.quoted c)], .double⟩

namespace Unfinished

def quoted : Unfinished → Bool
  | operator _ => false
  | dollar quoted => quoted
  | name quoted _ => quoted

def act : Unfinished → Act
  | operator cs => .emit cs
  | dollar quoted => .add (literal quoted '$')
  | name quoted cs => .add (.expand (.parameter cs.reverse) quoted)

def next? (u : Unfinished) (c : Char) : Option Move :=
  match u with
  | operator cs =>
    if longOperators.contains (cs ++ [c]) then some ⟨[], .unfinished (operator (cs ++ [c]))⟩
    else none
  | dollar quoted =>
    if isNameStart c then some ⟨[], .unfinished (name quoted [c])⟩
    else if c == '\x7b' then some ⟨[], .bracket .braces quoted [] 0 .bare⟩
    else if c == '(' then some ⟨[], .bracket .parens quoted [] 0 .bare⟩
    else if isSpecialParameter c then
      some ⟨[.add (.expand (.parameter [c]) quoted)], around quoted⟩
    else none
  | name quoted cs =>
    if isNameChar c then some ⟨[], .unfinished (name quoted (c :: cs))⟩ else none

def isOperator : Unfinished → Bool
  | operator _ => true
  | _ => false

def moveBehind (u : Unfinished) (c : Char) : Move :=
  if c == '\\' then ⟨[], .joining u⟩
  else
    let after := if u.quoted then moveDouble c else moveBare u.isOperator c
    ⟨u.act :: after.acts, after.mode⟩

def moveJoining (u : Unfinished) (c : Char) : Move :=
  if c == '\n' then ⟨[], .unfinished u⟩
  else
    let after := if u.quoted then moveDoubleEscaped c else moveEscaped c
    ⟨u.act :: after.acts, after.mode⟩

end Unfinished

/-- Single quotes may be without a meaning inside brackets. -/
def Inner.step (singles : Bool) (inner : Inner) (c : Char) : Inner :=
  match inner with
  | .bare | .dollar =>
    if c == '\\' then .escaped
    else if c == '\x27' && singles then .single
    else if c == '"' then .double
    else if c == '$' then .dollar
    else .bare
  | .escaped => .bare
  | .single => if c == '\x27' then .bare else .single
  | .double => if c == '\\' then .doubleEscaped else if c == '"' then .bare else .double
  | .doubleEscaped => .double

namespace Bracket

def opens (b : Bracket) (inner : Inner) (c : Char) : Bool :=
  match b with
  | parens => c == '(' && (inner == .bare || inner == .dollar)
  | braces => c == '\x7b' && inner == .dollar

def closes (b : Bracket) (inner : Inner) (c : Char) : Bool :=
  (inner == .bare || inner == .dollar) &&
    c == match b with
      | parens => ')'
      | braces => '\x7d'

def expansion (b : Bracket) (text : List Char) : Expansion :=
  match b with
  | parens => .command text
  | braces => .braced text

/-- Between double quotes, single quotes count in a command but not in braces. -/
def singles (b : Bracket) (quoted : Bool) : Bool := b == parens || !quoted

def move (b : Bracket) (quoted : Bool) (cs : List Char) (depth : Nat) (inner : Inner) (c : Char) :
    Move :=
  let next := inner.step (b.singles quoted) c
  if b.opens inner c then ⟨[], .bracket b quoted (c :: cs) (depth + 1) next⟩
  else if b.closes inner c then
    match depth with
    | 0 => ⟨[.add (.expand (b.expansion cs.reverse) quoted)], around quoted⟩
    | depth + 1 => ⟨[], .bracket b quoted (c :: cs) depth next⟩
  else ⟨[], .bracket b quoted (c :: cs) depth next⟩

end Bracket

def moveBackquoted (quoted : Bool) (cs : List Char) (escaped : Bool) (c : Char) : Move :=
  if escaped then
    let kept := if ['$', '\x60', '\\'].contains c then c :: cs else c :: '\\' :: cs
    ⟨[], .backquoted quoted kept false⟩
  else if c == '\x60' then ⟨[.add (.expand (.command cs.reverse) quoted)], around quoted⟩
  else if c == '\\' then ⟨[], .backquoted quoted cs true⟩
  else ⟨[], .backquoted quoted (c :: cs) false⟩

def move (mode : Mode) (fresh : Bool) (c : Char) : Move :=
  match mode with
  | .bare => moveBare fresh c
  | .escaped => moveEscaped c
  | .single => if c == '\x27' then ⟨[], .bare⟩ else ⟨[.add (.quoted c)], .single⟩
  | .double => moveDouble c
  | .doubleEscaped => moveDoubleEscaped c
  | .comment => if c == '\n' then moveBare fresh c else ⟨[], .comment⟩
  | .unfinished u => (u.next? c).getD (u.moveBehind c)
  | .joining u => u.moveJoining c
  | .bracket b quoted cs depth inner => b.move quoted cs depth inner c
  | .backquoted quoted cs escaped => moveBackquoted quoted cs escaped c

/-- What the end of the text does. Quotes and expansions must be closed. -/
def finalActs (mode : Mode) : Except SyntaxFault (List Act) :=
  match mode with
  | .bare | .comment => .ok [.endWord]
  | .escaped => .ok [.add (.quoted '\\'), .endWord]
  | .unfinished u => if u.quoted then .error .openQuote else .ok [u.act, .endWord]
  | .joining u =>
    if u.quoted then .error .openQuote else .ok [u.act, .add (.quoted '\\'), .endWord]
  | .single | .double | .doubleEscaped => .error .openQuote
  | .bracket .braces false _ _ _ => .error .openBraces
  | .bracket .braces true _ _ _ => .error .openQuote
  | .bracket .parens _ _ _ _ => .error (.unexpected SyntaxFault.textEnd (some ")"))
  | .backquoted .. => .error .openBackquote

/-- What has been read so far, last first. There is a word in hand once its first part is read. -/
structure Lexer where
  mode : Mode := .bare
  bits : Option (List Bit) := none
  tokens : List Token := []
  deriving DecidableEq, Repr

namespace Lexer

def endAs (s : Lexer) (t : Token) : Lexer := { s with bits := none, tokens := t :: s.tokens }

def endWord (s : Lexer) : Lexer :=
  match s.bits with
  | some bits => s.endAs (.word bits.reverse)
  | none => s

def plainDigit? : Bit → Option Char
  | .plain c => if Text.isAsciiDigit c then some c else none
  | _ => none

/-- Ends the word in hand before an operator. Before a redirection a number is a descriptor. -/
def endBefore (s : Lexer) (c : Char) : Lexer :=
  match s.bits with
  | some bits =>
    match bits.reverse.mapM plainDigit? with
    | some ds => if startsRedirection c then s.endAs (.descriptor ds) else s.endWord
    | none => s.endWord
  | none => s

def act (s : Lexer) : Act → Lexer
  | .add b => { s with bits := some (b :: s.bits.getD []) }
  | .endWord => s.endWord
  | .endBefore c => s.endBefore c
  | .emit cs => { s with tokens := .operator cs :: s.tokens }

def actAll (s : Lexer) (acts : List Act) : Lexer := acts.foldl act s

def step (s : Lexer) (c : Char) : Lexer :=
  let m := move s.mode s.bits.isNone c
  { s with mode := m.mode }.actAll m.acts

def steps (s : Lexer) (cs : List Char) : Lexer := cs.foldl step s

def finish (s : Lexer) : Except SyntaxFault (List Token) :=
  (finalActs s.mode).map fun acts => (s.actAll acts).tokens.reverse

theorem steps_append (s : Lexer) (a b : List Char) : s.steps (a ++ b) = (s.steps a).steps b :=
  List.foldl_append

end Lexer

def read (cs : List Char) : Except SyntaxFault (List Token) := (({} : Lexer).steps cs).finish

end HookPolicy.Shell
