import HookPolicy.Json.Basic
import HookPolicy.Number.Decimal
import HookPolicy.Text.Class
import HookPolicy.Text.Pieces

/-!
# Reading documents

`Json.read` reads one document with blanks around it. It also takes `NaN`, `Infinity` and
`-Infinity`, keeps the last value of a repeated field, and bounds the nesting and the digits of a
whole number. A fault names the place where it was seen.
-/

namespace HookPolicy.Json

inductive Fault
  | byteOrderMark
  | expectedValue
  | expectedName
  | expectedColon
  | expectedComma
  | unterminated
  | controlCharacter
  | badEscape
  | badUnitEscape
  | extraData
  deriving DecidableEq, Repr

def Fault.message : Fault → String
  | .byteOrderMark => "Unexpected UTF-8 BOM (decode using utf-8-sig)"
  | .expectedValue => "Expecting value"
  | .expectedName => "Expecting property name enclosed in double quotes"
  | .expectedColon => "Expecting ':' delimiter"
  | .expectedComma => "Expecting ',' delimiter"
  | .unterminated => "Unterminated string starting at"
  | .controlCharacter => "Invalid control character at"
  | .badEscape => "Invalid \\escape"
  | .badUnitEscape => "Invalid \\uXXXX escape"
  | .extraData => "Extra data"

/-- Why no document could be read. `offset` counts characters from the start. -/
inductive ReadError
  | malformed (fault : Fault) (offset : Nat)
  | tooDeep (inObject : Bool)
  | tooManyDigits (count : Nat)
  deriving DecidableEq, Repr

/-- Deeper nesting is refused. -/
def nestingLimit : Nat := 900

/-- Whole numbers with more digits are refused. -/
def digitLimit : Nat := 4300

/-- What is left to read, and how many characters were read before it. -/
structure Cursor where
  rest : List Char
  offset : Nat

namespace Cursor

def advance (c : Cursor) (n : Nat) (rest : List Char) : Cursor := ⟨rest, c.offset + n⟩

def blankPrefixLength : List Char → Nat → Nat
  | c :: cs, n =>
    if c == ' ' || c == '\t' || c == '\n' || c == '\r' then blankPrefixLength cs (n + 1) else n
  | [], n => n

def skipBlanks (c : Cursor) : Cursor :=
  let n := blankPrefixLength c.rest 0
  ⟨c.rest.drop n, c.offset + n⟩

end Cursor

def fail {α : Type} (fault : Fault) (offset : Nat) : Except ReadError α :=
  .error (.malformed fault offset)

def unit? (a b c d : Char) : Option Nat :=
  match Text.hexValue? a, Text.hexValue? b, Text.hexValue? c, Text.hexValue? d with
  | some a, some b, some c, some d => some (((a * 16 + b) * 16 + c) * 16 + d)
  | _, _, _, _ => none

def simpleEscape? : Char → Option Char
  | '"' => some '"'
  | '\\' => some '\\'
  | '/' => some '/'
  | 'b' => some '\x08'
  | 'f' => some '\x0c'
  | 'n' => some '\n'
  | 'r' => some '\r'
  | 't' => some '\t'
  | _ => none

/-- The character of a 16-bit unit; half of a pair alone becomes the replacement character. -/
def unitChar (n : Nat) : Char :=
  if 0xD800 ≤ n && n ≤ 0xDFFF then '\uFFFD' else Char.ofNat n

def isHighHalf (n : Nat) : Bool := 0xD800 ≤ n && n ≤ 0xDBFF

def isLowHalf (n : Nat) : Bool := 0xDC00 ≤ n && n ≤ 0xDFFF

def pairChar (high low : Nat) : Char := Char.ofNat (0x10000 + (high - 0xD800) * 0x400 + (low - 0xDC00))

/-- One piece of a text's body. -/
inductive Piece
  | char (c : Char) (size : Nat)
  | close
  | fault (f : Fault) (back : Nat)

/-- Reads an escape whose backslash is already taken off. -/
def escapePiece : List Char → Piece
  | [] => .fault .unterminated 0
  | 'u' :: a :: b :: c :: d :: next :: more =>
    match unit? a b c d with
    | none => .fault .badUnitEscape 1
    | some high =>
      if isHighHalf high then
        match next, more with
        | '\\', 'u' :: e :: f :: g :: h :: _ :: _ =>
          match unit? e f g h with
          | none => .fault .badUnitEscape 7
          | some low =>
            if isLowHalf low then .char (pairChar high low) 12 else .char (unitChar high) 6
        | _, _ => .char (unitChar high) 6
      else .char (unitChar high) 6
  | 'u' :: _ => .fault .badUnitEscape 1
  | c :: _ =>
    match simpleEscape? c with
    | some c => .char c 2
    | none => .fault .badEscape 0

def nextPiece (c : Char) (rest : List Char) : Piece :=
  if c == '"' then .close
  else if c == '\\' then escapePiece rest
  else if c.toNat ≤ 0x1F then .fault .controlCharacter 0
  else .char c 1

/-- Reads a text's body up to its closing quote. `start` is where its opening quote stands and
`skip` the number of characters of the last escape that are still to pass over. -/
def readBody (start offset skip : Nat) (out : List Char) :
    List Char → Except ReadError (String × Cursor)
  | [] => fail .unterminated start
  | c :: rest =>
    match skip with
    | skip + 1 => readBody start (offset + 1) skip out rest
    | 0 =>
      match nextPiece c rest with
      | .close => .ok (String.ofList out.reverse, ⟨rest, offset + 1⟩)
      | .char d size => readBody start (offset + 1) (size - 1) (d :: out) rest
      | .fault .unterminated _ => fail .unterminated start
      | .fault f back => fail f (offset + back)

/-- The pieces of a number's text: digits before the point, behind it, and the exponent. -/
structure NumberText where
  negative : Bool
  whole : List Char
  part : Option (List Char)
  exponent : Option (Bool × List Char)
  size : Nat

def NumberText.isWhole (t : NumberText) : Bool := t.part.isNone && t.exponent.isNone

def decimalOf (ds : List Char) : Nat := Text.numberOf 10 Text.digitValue? ds

def NumberText.value (t : NumberText) : Except ReadError Json :=
  if t.isWhole then
    if t.whole.length > digitLimit then .error (.tooManyDigits t.whole.length)
    else
      let n : Int := decimalOf t.whole
      .ok (.int (if t.negative then -n else n))
  else
    let part := t.part.getD []
    let ds := t.whole ++ part
    let e : Int := match t.exponent with
      | some (true, es) => -(decimalOf es : Int)
      | some (false, es) => decimalOf es
      | none => 0
    .ok (.float (Decimal.toBinary t.negative (decimalOf ds) ds.length (e - part.length)))

def takeDigits (cs : List Char) : List Char × List Char := cs.span Text.isAsciiDigit

/-- Reads a point and the digits behind it, if at least one follows. -/
def readPart (cs : List Char) : Option (List Char) × List Char :=
  match cs with
  | '.' :: more =>
    match takeDigits more with
    | ([], _) => (none, cs)
    | (ds, rest) => (some ds, rest)
  | _ => (none, cs)

/-- Reads an exponent, if at least one digit follows its sign. Gives its length as well. -/
def readExponent (cs : List Char) : Option (Bool × List Char) × Nat × List Char :=
  match cs with
  | e :: more =>
    if e == 'e' || e == 'E' then
      let (negative, signs, unsigned) := match more with
        | '-' :: r => (true, 1, r)
        | '+' :: r => (false, 1, r)
        | _ => (false, 0, more)
      match takeDigits unsigned with
      | ([], _) => (none, 0, cs)
      | (ds, rest) => (some (negative, ds), 1 + signs + ds.length, rest)
    else (none, 0, cs)
  | [] => (none, 0, cs)

def readNumberText (cs : List Char) : Option (NumberText × List Char) :=
  let (negative, body) := match cs with
    | '-' :: r => (true, r)
    | _ => (false, cs)
  let whole? := match body with
    | '0' :: r => some (['0'], r)
    | c :: _ => if Text.isAsciiDigit c then some (takeDigits body) else none
    | [] => none
  match whole? with
  | none => none
  | some (whole, r) =>
    let (part, r) := readPart r
    let (exponent, exponentSize, r) := readExponent r
    let partSize := match part with
      | some ds => 1 + ds.length
      | none => 0
    let size := negative.toNat + whole.length + partSize + exponentSize
    some (⟨negative, whole, part, exponent, size⟩, r)

def readNumber (c : Cursor) : Except ReadError (Json × Cursor) :=
  match readNumberText c.rest with
  | none => fail .expectedValue c.offset
  | some (t, rest) =>
    match t.value with
    | .ok v => .ok (v, c.advance t.size rest)
    | .error e => .error e

/-- The words that stand for values. -/
def words : List (List Char × Json) :=
  [(['n', 'u', 'l', 'l'], .null), (['t', 'r', 'u', 'e'], .bool true),
   (['f', 'a', 'l', 's', 'e'], .bool false), (['N', 'a', 'N'], .float .nan),
   (['I', 'n', 'f', 'i', 'n', 'i', 't', 'y'], .float (.infinite false)),
   (['-', 'I', 'n', 'f', 'i', 'n', 'i', 't', 'y'], .float (.infinite true))]

def readWord (c : Cursor) : Option (Json × Cursor) :=
  words.findSome? fun (w, v) => (Text.rest? w c.rest).map fun r => (v, c.advance w.length r)

mutual

/-- Reads a value that starts at the cursor, `depth` levels deep at most. -/
def readValue (fuel depth : Nat) (c : Cursor) : Except ReadError (Json × Cursor) :=
  match fuel with
  | 0 => fail .expectedValue c.offset
  | fuel + 1 =>
    match c.rest with
    | '"' :: rest =>
      match readBody c.offset (c.offset + 1) 0 [] rest with
      | .ok (s, c) => .ok (.string s, c)
      | .error e => .error e
    | '{' :: rest =>
      match depth with
      | 0 => .error (.tooDeep true)
      | depth + 1 =>
        let c := (c.advance 1 rest).skipBlanks
        match c.rest with
        | '}' :: rest => .ok (.object [], c.advance 1 rest)
        | _ => readFields fuel depth [] c
    | '[' :: rest =>
      match depth with
      | 0 => .error (.tooDeep false)
      | depth + 1 =>
        let c := (c.advance 1 rest).skipBlanks
        match c.rest with
        | ']' :: rest => .ok (.array [], c.advance 1 rest)
        | _ => readItems fuel depth [] c
    | _ =>
      match readWord c with
      | some found => .ok found
      | none => readNumber c

def readItems (fuel depth : Nat) (items : List Json) (c : Cursor) :
    Except ReadError (Json × Cursor) :=
  match fuel with
  | 0 => fail .expectedValue c.offset
  | fuel + 1 =>
    match readValue fuel depth c with
    | .error e => .error e
    | .ok (v, c) =>
      let c := c.skipBlanks
      match c.rest with
      | ']' :: rest => .ok (.array (v :: items).reverse, c.advance 1 rest)
      | ',' :: rest => readItems fuel depth (v :: items) (c.advance 1 rest).skipBlanks
      | _ => fail .expectedComma c.offset

def readFields (fuel depth : Nat) (fields : List (String × Json)) (c : Cursor) :
    Except ReadError (Json × Cursor) :=
  match fuel with
  | 0 => fail .expectedValue c.offset
  | fuel + 1 =>
    match c.rest with
    | '"' :: rest =>
      match readBody c.offset (c.offset + 1) 0 [] rest with
      | .error e => .error e
      | .ok (name, c) =>
        let c := c.skipBlanks
        match c.rest with
        | ':' :: rest =>
          match readValue fuel depth (c.advance 1 rest).skipBlanks with
          | .error e => .error e
          | .ok (v, c) =>
            let c := c.skipBlanks
            match c.rest with
            | '}' :: rest => .ok (.object (Fields.ofPairs ((name, v) :: fields).reverse), c.advance 1 rest)
            | ',' :: rest => readFields fuel depth ((name, v) :: fields) (c.advance 1 rest).skipBlanks
            | _ => fail .expectedComma c.offset
        | _ => fail .expectedColon c.offset
    | _ => fail .expectedName c.offset

end

def readChars (cs : List Char) : Except ReadError Json :=
  match cs with
  | '\uFEFF' :: _ => fail .byteOrderMark 0
  | _ =>
    match readValue (2 * cs.length + 2) nestingLimit (Cursor.skipBlanks ⟨cs, 0⟩) with
    | .error e => .error e
    | .ok (v, c) =>
      let c := c.skipBlanks
      if c.rest.isEmpty then .ok v else fail .extraData c.offset

def read (s : String) : Except ReadError Json := readChars s.toList

/-- Line and column, both from one, of a place in a text. -/
def position (cs : List Char) (offset : Nat) : Nat × Nat :=
  let before := cs.take offset
  (before.count '\n' + 1, (before.reverse.takeWhile (· != '\n')).length + 1)

/-- The message for an error met in the given text. -/
def ReadError.message (cs : List Char) : ReadError → String
  | .malformed fault offset =>
    let (line, column) := position cs offset
    s!"{fault.message}: line {line} column {column} (char {offset})"
  | .tooDeep inObject =>
    let kind := if inObject then "object" else "array"
    s!"maximum recursion depth exceeded while decoding a JSON {kind} from a unicode string"
  | .tooManyDigits count =>
    s!"Exceeds the limit (4300 digits) for integer string conversion: value has {count} digits; use sys.set_int_max_str_digits() to increase the limit"

end HookPolicy.Json
