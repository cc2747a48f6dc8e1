import HookPolicy.Number.Decimal
import HookPolicy.Text.Pieces
import HookPolicy.Time.Timestamp
import HookPolicy.Toml.Basic

/-!
# Plain values of settings documents

Texts between quotes, numbers, dates and times. Each reader takes the characters from where the value
starts and gives the value and what follows it.
-/

namespace HookPolicy.Toml

/-- Why a document cannot be read. -/
inductive Fault
  | malformed
  | tooDeep
  | tooManyDigits (count : Nat)
  deriving DecidableEq, Repr

def isControl (c : Char) : Bool := (c.toNat < 0x20 && c != '\t') || c.toNat == 0x7F

/-- Characters that a text may not hold as they stand. -/
def isForbidden (multiline : Bool) (c : Char) : Bool := isControl c && !(multiline && c == '\n')

def skipBlanks (cs : List Char) : List Char := cs.dropWhile fun c => c == ' ' || c == '\t'

def skipLines (cs : List Char) : List Char := cs.dropWhile fun c => c == ' ' || c == '\t' || c == '\n'

/-! Texts -/

/-- A text up to the first quote. -/
def readLiteral (cs : List Char) : Option (List Char × List Char) :=
  match cs.dropWhile (· != '\x27') with
  | '\x27' :: rest =>
    let s := cs.takeWhile (· != '\x27')
    if s.any (isForbidden false) then none else some (s, rest)
  | _ => none

def isOpenTriple (q : Char) (cs : List Char) : Bool := Text.startsWith [q, q, q] cs

/-- A text up to three quotes. -/
def readLongLiteral (out : List Char) : List Char → Option (List Char × List Char)
  | [] => none
  | c :: cs =>
    if isOpenTriple '\x27' (c :: cs) then some (out.reverse, cs.drop 2)
    else if isForbidden true c then none
    else readLongLiteral (c :: out) cs

/-- The character that a number of hexadecimal digits stands for. -/
def readUnit (count : Nat) (cs : List Char) : Option (Char × List Char) :=
  let ds := cs.take count
  if ds.length == count && ds.all Text.isHexDigit then
    let n := Text.numberOf 16 Text.hexValue? ds
    if n < 0xD800 || (0xE000 ≤ n && n < 0x110000) then some (Char.ofNat n, cs.drop count) else none
  else none

def escapes : List (Char × Char) :=
  [('b', '\x08'), ('t', '\t'), ('n', '\n'), ('f', '\x0c'), ('r', '\r'), ('"', '"'), ('\\', '\\')]

/-- What an escape stands for, given what follows the backslash. A backslash at the end of a line
takes the line end and all blanks behind it away. -/
def readEscape (multiline : Bool) (cs : List Char) : Option (List Char × List Char) :=
  match cs with
  | [] => none
  | c :: rest =>
    if multiline && (c == ' ' || c == '\t' || c == '\n') then
      match skipBlanks cs with
      | '\n' :: after => some ([], skipLines after)
      | _ => none
    else if c == 'u' then (readUnit 4 rest).map fun (d, rest) => ([d], rest)
    else if c == 'U' then (readUnit 8 rest).map fun (d, rest) => ([d], rest)
    else (escapes.lookup c).map fun d => ([d], rest)

/-- A text with escapes, up to one quote or up to three. -/
def readBasic (fuel : Nat) (multiline : Bool) (out : List Char) (cs : List Char) :
    Option (List Char × List Char) :=
  match fuel, cs with
  | fuel + 1, c :: rest =>
    if c == '"' then
      if !multiline then some (out.reverse, rest)
      else if isOpenTriple '"' cs then some (out.reverse, rest.drop 2)
      else readBasic fuel multiline (c :: out) rest
    else if c == '\\' then
      match readEscape multiline rest with
      | none => none
      | some (ds, rest) => readBasic fuel multiline (ds.reverse ++ out) rest
    else if isForbidden multiline c then none
    else readBasic fuel multiline (c :: out) rest
  | _, _ => none

def readBasicText (multiline : Bool) (cs : List Char) : Option (List Char × List Char) :=
  readBasic (cs.length + 1) multiline [] cs

/-- At most two quotes that stand before the closing ones belong to the text. -/
def takeQuotes (q : Char) (s : List Char) (cs : List Char) : List Char × List Char :=
  match cs with
  | a :: b :: rest =>
    if a == q && b == q then (s ++ [q, q], rest)
    else if a == q then (s ++ [q], b :: rest) else (s, cs)
  | [a] => if a == q then (s ++ [q], []) else (s, cs)
  | [] => (s, [])

def dropLineEnd : List Char → List Char
  | '\n' :: rest => rest
  | cs => cs

def readText (cs : List Char) : Option (List Char × List Char) :=
  match cs with
  | '"' :: rest =>
    if isOpenTriple '"' cs then
      (readBasicText true (dropLineEnd (rest.drop 2))).map fun (s, rest) => takeQuotes '"' s rest
    else readBasicText false rest
  | '\x27' :: rest =>
    if isOpenTriple '\x27' cs then
      (readLongLiteral [] (dropLineEnd (rest.drop 2))).map fun (s, rest) => takeQuotes '\x27' s rest
    else readLiteral rest
  | _ => none

/-! Dates and times -/

def twoDigits? (cs : List Char) (lo hi : Nat) : Option (Nat × List Char) :=
  match cs with
  | a :: b :: rest =>
    if Text.isAsciiDigit a && Text.isAsciiDigit b then
      let n := (a.toNat - 48) * 10 + (b.toNat - 48)
      if lo ≤ n && n ≤ hi then some (n, rest) else none
    else none
  | _ => none

def expect? (c : Char) : List Char → Option (List Char)
  | d :: rest => if d == c then some rest else none
  | [] => none

/-- What follows a date, with its year, month and day. -/
def readDate (cs : List Char) : Option (Nat × Nat × Nat × List Char) := do
  let (century, cs) ← twoDigits? cs 0 99
  let (year, cs) ← twoDigits? cs 0 99
  let cs ← expect? '-' cs
  let (month, cs) ← twoDigits? cs 1 12
  let cs ← expect? '-' cs
  let (day, cs) ← twoDigits? cs 1 31
  return (century * 100 + year, month, day, cs)

/-- What follows a time of day. -/
def readTime (cs : List Char) : Option (List Char) := do
  let (_, cs) ← twoDigits? cs 0 23
  let cs ← expect? ':' cs
  let (_, cs) ← twoDigits? cs 0 59
  let cs ← expect? ':' cs
  let (_, cs) ← twoDigits? cs 0 59
  match cs with
  | '.' :: d :: rest =>
    if Text.isAsciiDigit d then return rest.dropWhile Text.isAsciiDigit else return cs
  | _ => return cs

def readOffset (cs : List Char) : Option (List Char) := do
  let (_, cs) ← twoDigits? cs 0 23
  let cs ← expect? ':' cs
  let (_, cs) ← twoDigits? cs 0 59
  return cs

/-- What follows a time zone, if there is one. -/
def skipZone (cs : List Char) : List Char :=
  match cs with
  | c :: rest =>
    if c == 'Z' || c == 'z' then rest
    else if c == '+' || c == '-' then (readOffset rest).getD cs
    else cs
  | [] => []

/-- A date, with or without a time of day. -/
def readMoment (cs : List Char) : Option (Option Toml × List Char) :=
  match readDate cs with
  | none => none
  | some (y, m, d, rest) =>
    let clock := match rest with
      | c :: more => if c == 'T' || c == 't' || c == ' ' then readTime more else none
      | [] => none
    let valid := Timestamp.isDate y m d
    match clock with
    | some after => some (if valid then some .dateTime else none, skipZone after)
    | none => some (if valid then some .date else none, rest)

/-! Numbers -/

/-- Digits with single underscores between them, and what follows. -/
def takeDigits (isDigit : Char → Bool) (out : List Char) : List Char → List Char × List Char
  | '_' :: d :: rest =>
    if !out.isEmpty && isDigit d then takeDigits isDigit (d :: out) rest
    else (out.reverse, '_' :: d :: rest)
  | d :: rest => if isDigit d then takeDigits isDigit (d :: out) rest else (out.reverse, d :: rest)
  | [] => (out.reverse, [])

def basedDigit? : Char → Option (Nat × (Char → Bool))
  | 'x' => some (16, Text.isHexDigit)
  | 'b' => some (2, fun c => c == '0' || c == '1')
  | 'o' => some (8, Text.isOctalDigit)
  | _ => none

/-- A number in base two, eight or sixteen. -/
def readBased (cs : List Char) : Option (Toml × List Char) :=
  match cs with
  | '0' :: b :: rest =>
    match basedDigit? b with
    | none => none
    | some (base, isDigit) =>
      match takeDigits isDigit [] rest with
      | ([], _) => none
      | (ds, rest) => some (.int (Text.numberOf base Text.hexValue? ds), rest)
  | _ => none

def takeSign (cs : List Char) : Bool × List Char :=
  match cs with
  | '-' :: rest => (true, rest)
  | '+' :: rest => (false, rest)
  | _ => (false, cs)

/-- The digits before the point: a zero stands alone. -/
def takeWhole (cs : List Char) : List Char × List Char :=
  match cs with
  | '0' :: rest => (['0'], rest)
  | _ => takeDigits Text.isAsciiDigit [] cs

def takePart (cs : List Char) : Option (List Char) × List Char :=
  match cs with
  | '.' :: rest =>
    match takeDigits Text.isAsciiDigit [] rest with
    | ([], _) => (none, cs)
    | (ds, rest) => (some ds, rest)
  | _ => (none, cs)

def takeExponent (cs : List Char) : Option Int × List Char :=
  match cs with
  | e :: rest =>
    if e == 'e' || e == 'E' then
      let (negative, rest) := takeSign rest
      match takeDigits Text.isAsciiDigit [] rest with
      | ([], _) => (none, cs)
      | (ds, rest) =>
        let n : Int := Text.numberOf 10 Text.digitValue? ds
        (some (if negative then -n else n), rest)
    else (none, cs)
  | [] => (none, [])

/-- Whole numbers with more digits are refused. -/
def digitLimit : Nat := 4300

def readDecimal (cs : List Char) : Option (Except Fault Toml × List Char) :=
  let (negative, rest) := takeSign cs
  match takeWhole rest with
  | ([], _) => none
  | (whole, rest) =>
    let (part, rest) := takePart rest
    let (exponent, rest) := takeExponent rest
    let n := Text.numberOf 10 Text.digitValue? (whole ++ part.getD [])
    if part.isNone && exponent.isNone then
      let v : Except Fault Toml :=
        if whole.length > digitLimit then .error (.tooManyDigits whole.length)
        else .ok (.int (if negative then -(n : Int) else n))
      some (v, rest)
    else
      let point := (part.getD []).length
      let x := Decimal.toBinary negative n (whole.length + point) (exponent.getD 0 - point)
      some (.ok (.float x), rest)

def specialNumbers : List (List Char × Binary64) :=
  [(['i', 'n', 'f'], .infinite false), (['n', 'a', 'n'], .nan),
   (['-', 'i', 'n', 'f'], .infinite true), (['+', 'i', 'n', 'f'], .infinite false),
   (['-', 'n', 'a', 'n'], .nan), (['+', 'n', 'a', 'n'], .nan)]

def readSpecial (cs : List Char) : Option (Toml × List Char) :=
  specialNumbers.findSome? fun (w, x) => (Text.rest? w cs).map fun rest => (.float x, rest)

def orMalformed {α : Type} : Option α → Except Fault α
  | some a => .ok a
  | none => .error .malformed

/-- A value that is neither a list nor a table. -/
def readPlain (cs : List Char) : Except Fault (Toml × List Char) :=
  match cs with
  | '"' :: _ => orMalformed ((readText cs).map fun (s, rest) => (.string (String.ofList s), rest))
  | '\x27' :: _ => orMalformed ((readText cs).map fun (s, rest) => (.string (String.ofList s), rest))
  | 't' :: 'r' :: 'u' :: 'e' :: rest => .ok (.bool true, rest)
  | 'f' :: 'a' :: 'l' :: 's' :: 'e' :: rest => .ok (.bool false, rest)
  | _ =>
    match readMoment cs with
    | some (some v, rest) => .ok (v, rest)
    | some (none, _) => .error .malformed
    | none =>
      match readTime cs with
      | some rest => .ok (.time, rest)
      | none =>
        match readBased cs with
        | some found => .ok found
        | none =>
          match readDecimal cs with
          | some (.ok v, rest) => .ok (v, rest)
          | some (.error e, _) => .error e
          | none => orMalformed (readSpecial cs)

end HookPolicy.Toml
