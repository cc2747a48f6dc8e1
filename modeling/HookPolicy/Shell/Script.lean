import HookPolicy.Shell.Words

/-!
# Shell scripts

What the words and operators of a text mean together: simple commands with redirections, pipelines,
lists, groups, and the choices and loops that reserved words form.
-/

namespace HookPolicy.Shell

abbrev Word := List Bit

inductive Direction
  | input
  | output
  | append
  | sameAs
  deriving DecidableEq, Repr

structure Redirect where
  descriptor : Nat
  direction : Direction
  target : Word
  deriving DecidableEq, Repr

inductive Script
  | nothing
  | simple (words : List Word) (redirects : List Redirect)
  | negate (s : Script)
  | pipe (first second : Script)
  | both (first second : Script)
  | either (first second : Script)
  | sequence (first second : Script)
  | background (s : Script)
  | subshell (s : Script) (redirects : List Redirect)
  | group (s : Script) (redirects : List Redirect)
  | choose (condition yes no : Script)
  | loop (untilHolds : Bool) (condition body : Script)
  | each (name : List Char) (words : List Word) (body : Script)
  deriving Repr

/-- The text of a word in which every character stands plain. -/
def plainText? (bits : Word) : Option (List Char) :=
  bits.mapM fun b => match b with
    | .plain c => some c
    | _ => none

def isReserved (w : String) (t : Token) : Bool :=
  match t with
  | .word bits => plainText? bits == some w.toList
  | _ => false

def isOperator (op : String) (t : Token) : Bool := t == .operator op.toList

/-- Reserved words that end a list. -/
def closingWords : List String :=
  ["then", "else", "elif", "fi", "do", "done", "esac", "\x7d"]

/-- Whether a list ends before the token. -/
def closes (t : Token) : Bool :=
  isOperator ")" t || isOperator ";;" t || closingWords.any (isReserved · t)

def directionOf? (op : List Char) : Option (Direction × Nat) :=
  [(['<'], .input, 0), (['>'], .output, 1), (['>', '|'], .output, 1), (['>', '>'], .append, 1),
   (['>', '&'], .sameAs, 1), (['<', '&'], .sameAs, 0)].lookup op

/-- How a token is called in a fault. -/
def described (t : Token) : String :=
  match t with
  | .operator ['\n'] => "newline"
  | .operator cs =>
    if (directionOf? cs).isSome then "redirection" else "\"" ++ String.ofList cs ++ "\""
  | .descriptor _ => "redirection"
  | .word _ =>
    match (closingWords ++ ["if", "while", "until", "for", "case", "in", "!", "\x7b"]).find?
        (isReserved · t) with
    | some w => "\"" ++ w ++ "\""
    | none => "word"

def unexpected (ts : List Token) (expected : Option String) : SyntaxFault :=
  .unexpected ((ts.head?.map described).getD SyntaxFault.textEnd) expected

def skipLines : List Token → List Token
  | .operator ['\n'] :: rest => skipLines rest
  | ts => ts

def expect (w : String) (ts : List Token) : Except SyntaxFault (List Token) :=
  match ts with
  | t :: rest =>
    if isReserved w t || isOperator w t then .ok rest else .error (unexpected ts (some w))
  | [] => .error (unexpected [] (some w))

/-- Reads one redirection, if the tokens start with one. -/
def readRedirect (ts : List Token) : Except SyntaxFault (Option (Redirect × List Token)) :=
  let (number, behind) := match ts with
    | .descriptor ds :: rest => (some (Text.numberOf 10 Text.digitValue? ds), rest)
    | ts => (none, ts)
  match behind with
  | .operator op :: rest => match directionOf? op with
    | none => .ok none
    | some (direction, usual) => match rest with
      | .word target :: rest => .ok (some (⟨number.getD usual, direction, target⟩, rest))
      | rest => .error (unexpected rest none)
  | _ => .ok none

/-- Reads words, where they are allowed, and redirections up to the next operator. -/
def readParts (withWords : Bool) :
    Nat → List Token → Except SyntaxFault ((List Word × List Redirect) × List Token)
  | 0, ts => .ok (([], []), ts)
  | fuel + 1, ts => do
    match ← readRedirect ts with
    | some (r, rest) =>
      let ((words, redirects), rest) ← readParts withWords fuel rest
      return ((words, r :: redirects), rest)
    | none => match withWords, ts with
      | true, .word bits :: rest =>
        let ((words, redirects), rest) ← readParts withWords fuel rest
        return ((bits :: words, redirects), rest)
      | _, ts => return (([], []), ts)

/-- Redirections after a compound command. -/
def readRedirects (ts : List Token) : Except SyntaxFault (List Redirect × List Token) := do
  let ((_, redirects), ts) ← readParts false ts.length ts
  return (redirects, ts)

/-- A single name before a parenthesis would have to be that of a function. -/
def readSimple (ts : List Token) : Except SyntaxFault (Script × List Token) :=
  match readParts true ts.length ts with
  | .error e => .error e
  | .ok (([], []), _) => .error (unexpected ts none)
  | .ok (([name], []), .operator ['('] :: rest) =>
    .error (if name.contains (.plain '=') then unexpected (.operator ['('] :: rest) none
      else unexpected rest (some ")"))
  | .ok ((words, redirects), rest) => .ok (.simple words redirects, rest)

def readWords : List Token → List Word × List Token
  | .word bits :: rest =>
    let (words, ts) := readWords rest
    (bits :: words, ts)
  | ts => ([], ts)

/-- The words that a loop goes through; without any, those are the arguments. -/
def readChoices (ts : List Token) : Except SyntaxFault (List Word × List Token) :=
  match skipLines ts with
  | t :: rest =>
    if isReserved "in" t then match readWords rest with
      | (words, .operator [';'] :: rest) => .ok (words, skipLines rest)
      | (words, .operator ['\n'] :: rest) => .ok (words, skipLines rest)
      | (_, rest) => .error (unexpected rest none)
    else
      .ok ([[.expand (.parameter ['@']) false]], skipLines (if isOperator ";" t then rest else ts))
  | [] => .error (unexpected [] (some "do"))

def loopName? (t : Token) : Option (List Char) :=
  match t with
  | .word bits => match plainText? bits with
    | some (c :: cs) => if isNameStart c && cs.all isNameChar then some (c :: cs) else none
    | _ => none
  | _ => none

mutual

/-- A list ends before a closing token or with the text. Only a list that has begun may end. -/
def readList (fuel : Nat) (begun : Bool) (ts : List Token) :
    Except SyntaxFault (Script × List Token) :=
  match fuel with
  | 0 => .error (unexpected ts none)
  | fuel + 1 =>
    match skipLines ts with
    | [] => .ok (.nothing, [])
    | t :: rest =>
      if begun && closes t then .ok (.nothing, t :: rest)
      else do
        let (first, ts) ← readChain fuel (t :: rest)
        match ts with
        | .operator ['&'] :: rest =>
          let (more, ts) ← readList fuel true rest
          return (.sequence (.background first) more, ts)
        | .operator [';'] :: rest | .operator ['\n'] :: rest =>
          let (more, ts) ← readList fuel true rest
          return (.sequence first more, ts)
        | ts => return (first, ts)

def readChain (fuel : Nat) (ts : List Token) : Except SyntaxFault (Script × List Token) :=
  match fuel with
  | 0 => .error (unexpected ts none)
  | fuel + 1 => do
    let (first, ts) ← readPipeline fuel ts
    readChainRest fuel first ts

def readChainRest (fuel : Nat) (left : Script) (ts : List Token) :
    Except SyntaxFault (Script × List Token) :=
  match fuel with
  | 0 => .error (unexpected ts none)
  | fuel + 1 => match ts with
    | .operator ['&', '&'] :: rest => do
      let (right, ts) ← readPipeline fuel (skipLines rest)
      readChainRest fuel (.both left right) ts
    | .operator ['|', '|'] :: rest => do
      let (right, ts) ← readPipeline fuel (skipLines rest)
      readChainRest fuel (.either left right) ts
    | ts => .ok (left, ts)

def readPipeline (fuel : Nat) (ts : List Token) : Except SyntaxFault (Script × List Token) :=
  match fuel with
  | 0 => .error (unexpected ts none)
  | fuel + 1 => match ts with
    | t :: rest =>
      if isReserved "!" t then do
        let (s, ts) ← readPipeline fuel rest
        return (.negate s, ts)
      else do
        let (first, ts) ← readCommand fuel (t :: rest)
        readPipes fuel first ts
    | [] => .error (unexpected [] none)

def readPipes (fuel : Nat) (left : Script) (ts : List Token) :
    Except SyntaxFault (Script × List Token) :=
  match fuel with
  | 0 => .error (unexpected ts none)
  | fuel + 1 => match ts with
    | .operator ['|'] :: rest => do
      let (right, ts) ← readCommand fuel (skipLines rest)
      readPipes fuel (.pipe left right) ts
    | ts => .ok (left, ts)

def readCommand (fuel : Nat) (ts : List Token) : Except SyntaxFault (Script × List Token) :=
  match fuel with
  | 0 => .error (unexpected ts none)
  | fuel + 1 => match ts with
    | [] => .error (unexpected [] none)
    | t :: rest =>
      if isOperator "(" t then do
        let (body, ts) ← readList fuel false rest
        let (redirects, ts) ← readRedirects (← expect ")" ts)
        return (.subshell body redirects, ts)
      else if isReserved "\x7b" t then do
        let (body, ts) ← readList fuel false rest
        let (redirects, ts) ← readRedirects (← expect "\x7d" ts)
        return (.group body redirects, ts)
      else if isReserved "if" t then do
        let (choice, ts) ← readChoice fuel rest
        let (redirects, ts) ← readRedirects ts
        return (.group choice redirects, ts)
      else if isReserved "while" t || isReserved "until" t then do
        let (condition, ts) ← readList fuel false rest
        let (body, ts) ← readList fuel false (← expect "do" ts)
        let (redirects, ts) ← readRedirects (← expect "done" ts)
        return (.group (.loop (isReserved "until" t) condition body) redirects, ts)
      else if isReserved "for" t then
        match rest.head?.bind loopName? with
        | none => .error .badLoopName
        | some name => do
          let (words, ts) ← readChoices (rest.drop 1)
          let (body, ts) ← readList fuel false (← expect "do" ts)
          let (redirects, ts) ← readRedirects (← expect "done" ts)
          return (.group (.each name words body) redirects, ts)
      else if closes t || isReserved "in" t then .error (unexpected ts none)
      else readSimple (t :: rest)

/-- A choice after its first word. -/
def readChoice (fuel : Nat) (ts : List Token) : Except SyntaxFault (Script × List Token) :=
  match fuel with
  | 0 => .error (unexpected ts none)
  | fuel + 1 => do
    let (condition, ts) ← readList fuel false ts
    let (yes, ts) ← readList fuel false (← expect "then" ts)
    match ts with
    | t :: rest =>
      if isReserved "elif" t then
        let (no, ts) ← readChoice fuel rest
        return (.choose condition yes no, ts)
      else if isReserved "else" t then
        let (no, ts) ← readList fuel false rest
        return (.choose condition yes no, ← expect "fi" ts)
      else return (.choose condition yes .nothing, ← expect "fi" ts)
    | [] => .error (unexpected [] (some "fi"))

end

/-- The script of a text. -/
def script (cs : List Char) : Except SyntaxFault Script := do
  let ts ← read cs
  match ← readList (8 * ts.length + 8) false ts with
  | (s, []) => return s
  | (_, rest) => .error (unexpected rest none)

end HookPolicy.Shell
