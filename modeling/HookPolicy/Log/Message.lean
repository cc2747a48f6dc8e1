import HookPolicy.Json.Writer
import HookPolicy.Number.Fixed
import HookPolicy.Text.Case
import HookPolicy.Text.Pieces

/-!
# Messages with places

A message has places for its arguments: a percent sign, options, and a letter that says how the
argument is written. A single object as argument also serves places that name a field.
-/

namespace HookPolicy.Log

/-- Why a message cannot be filled. -/
inductive FillFault
  | tooFew
  | tooMany
  | badPlace
  | wrongKind
  | noFields
  | noField (name : String)
  | notNumber
  | tooLarge
  deriving DecidableEq, Repr

structure Place where
  left : Bool
  plus : Bool
  blank : Bool
  alternate : Bool
  zero : Bool
  width : Nat
  precision : Option Nat
  letter : Char
  deriving DecidableEq, Repr

def readCount (cs : List Char) : Nat × List Char :=
  (Text.numberOf 10 Text.digitValue? (cs.takeWhile Text.isAsciiDigit),
    cs.dropWhile Text.isAsciiDigit)

def isFlag (c : Char) : Bool := ['-', '+', ' ', '#', '0'].contains c

/-- The name of a field in brackets, which may hold brackets itself. -/
def readFieldName (depth : Nat) (out : List Char) : List Char → Option (List Char × List Char)
  | [] => none
  | c :: cs =>
    if c == ')' then
      match depth with
      | 0 => some (out.reverse, cs)
      | depth + 1 => readFieldName depth (c :: out) cs
    else readFieldName (if c == '(' then depth + 1 else depth) (c :: out) cs

/-- Reads the options and the letter of a place. -/
def readPlace (cs : List Char) : Option (Place × List Char) :=
  let flags := cs.takeWhile isFlag
  let (width, cs) := readCount (cs.dropWhile isFlag)
  let (precision, cs) := match cs with
    | '.' :: rest =>
      let (n, rest) := readCount rest
      (some n, rest)
    | cs => (none, cs)
  let cs := match cs with
    | c :: rest => if c == 'h' || c == 'l' || c == 'L' then rest else cs
    | [] => []
  match cs with
  | letter :: rest =>
    some (⟨flags.contains '-', flags.contains '+', flags.contains ' ', flags.contains '#',
      flags.contains '0', width, precision, letter⟩, rest)
  | [] => none

def Place.pad (p : Place) (cs : List Char) : List Char :=
  let gap := List.replicate (p.width - cs.length) ' '
  if p.left then cs ++ gap else gap ++ cs

/-- Puts a sign, a mark for the base and digits together. Zeros stand between sign and digits. -/
def Place.padNumber (p : Place) (negative : Bool) (mark ds : List Char) : List Char :=
  let sign := if negative then ['-'] else if p.plus then ['+'] else if p.blank then [' '] else []
  let head := sign ++ mark
  if p.zero && !p.left then
    head ++ Decimal.zeros (p.width - head.length - ds.length) ++ ds
  else p.pad (head ++ ds)

def Place.cut (p : Place) (cs : List Char) : List Char :=
  match p.precision with
  | some n => cs.take n
  | none => cs

def asciiOnly (cs : List Char) : List Char :=
  cs.flatMap fun c =>
    let n := c.toNat
    if n < 0x80 then [c]
    else if n < 0x100 then '\\' :: 'x' :: Text.hexDigits 2 n
    else if n < 0x10000 then '\\' :: 'u' :: Text.hexDigits 4 n
    else '\\' :: 'U' :: Text.hexDigits 8 n

def wholeOf (fractions : Bool) (v : Json) : Except FillFault Int :=
  match v with
  | .bool b => .ok (if b then 1 else 0)
  | .int n => .ok n
  | .float x =>
    if !fractions then .error .wrongKind
    else match x with
      | .nan => .error .notNumber
      | .infinite _ => .error .tooLarge
      | x => .ok (x.truncate?.getD 0)
  | _ => .error .wrongKind

def binaryOf (v : Json) : Except FillFault Binary64 :=
  let ofInt (n : Int) : Except FillFault Binary64 :=
    match Binary64.ofRatio (n < 0) n.natAbs 1 with
    | .infinite _ => .error .tooLarge
    | x => .ok x
  match v with
  | .bool b => ofInt (if b then 1 else 0)
  | .int n => ofInt n
  | .float x => .ok x
  | _ => .error .wrongKind

/-- Digits of a whole number, at least as many as the precision says. -/
def Place.wholeDigits (p : Place) (base n : Nat) : List Char :=
  Decimal.leftZeros (p.precision.getD 0) (Nat.toDigits base n)

def Place.fillWhole (p : Place) (base : Nat) (mark : List Char) (v : Json) :
    Except FillFault (List Char) :=
  match wholeOf (base == 10) v with
  | .error e => .error e
  | .ok n =>
    .ok (p.padNumber (n < 0) (if p.alternate then mark else []) (p.wholeDigits base n.natAbs))

def Place.fillBinary (p : Place) (v : Json) : Except FillFault (List Char) :=
  match binaryOf v with
  | .error e => .error e
  | .ok .nan => .ok (p.padNumber false [] ['n', 'a', 'n'])
  | .ok (.infinite s) => .ok (p.padNumber s [] ['i', 'n', 'f'])
  | .ok (.finite s code) =>
    let num := Binary64.units code
    let count := p.precision.getD 6
    let ds := match p.letter.toLower with
      | 'f' => Decimal.fixed num count p.alternate
      | 'e' => Decimal.scientific num count p.alternate
      | _ => Decimal.general num count p.alternate
    .ok (p.padNumber s [] ds)

def fillChar (v : Json) : Except FillFault (List Char) :=
  match v with
  | .string s =>
    match s.toList with
    | [c] => .ok [c]
    | _ => .error .wrongKind
  | .int n =>
    if 0 ≤ n && n < 0x110000 then .ok [Char.ofNat n.toNat] else .error .tooLarge
  | .bool b => .ok [Char.ofNat (if b then 1 else 0)]
  | _ => .error .wrongKind

def Place.fill (p : Place) (v : Json) : Except FillFault (List Char) :=
  match p.letter with
  | 's' => .ok (p.pad (p.cut v.display.toList))
  | 'r' => .ok (p.pad (p.cut v.inspect.toList))
  | 'a' => .ok (p.pad (p.cut (asciiOnly v.inspect.toList)))
  | 'd' => p.fillWhole 10 [] v
  | 'i' => p.fillWhole 10 [] v
  | 'u' => p.fillWhole 10 [] v
  | 'o' => p.fillWhole 8 ['0', 'o'] v
  | 'x' => p.fillWhole 16 ['0', 'x'] v
  | 'X' => (p.fillWhole 16 ['0', 'x'] v).map (·.map Text.asciiUpper)
  | 'e' => p.fillBinary v
  | 'f' => p.fillBinary v
  | 'g' => p.fillBinary v
  | 'E' => (p.fillBinary v).map (·.map Text.asciiUpper)
  | 'F' => (p.fillBinary v).map (·.map Text.asciiUpper)
  | 'G' => (p.fillBinary v).map (·.map Text.asciiUpper)
  | 'c' => (fillChar v).map p.pad
  | _ => .error .badPlace

/-- The argument that a place asks for by name, and what follows the name. -/
def fieldArgument (fields : Option Fields) (cs : List Char) : Except FillFault (Json × List Char) :=
  match fields, readFieldName 0 [] cs with
  | none, _ => .error .noFields
  | _, none => .error .badPlace
  | some fields, some (name, rest) =>
    match Fields.get? fields (String.ofList name) with
    | some v => .ok (v, rest)
    | none => .error (.noField (String.ofList name))

/-- Fills the place that starts the text. Gives the arguments left over as well. -/
def fillPlace (fields : Option Fields) (args : List Json) (cs : List Char) :
    Except FillFault (List Char × List Json × List Char) :=
  let asked : Except FillFault (List Json × List Char) := match cs with
    | '(' :: rest => (fieldArgument fields rest).map fun (v, rest) => ([v], rest)
    | cs => .ok (args, cs)
  match asked with
  | .error e => .error e
  | .ok (args, cs) =>
    match readPlace cs, args with
    | none, _ => .error .badPlace
    | some _, [] => .error .tooFew
    | some (p, rest), v :: args => (p.fill v).map fun text => (text, args, rest)

def fillFrom (fuel : Nat) (fields : Option Fields) (args : List Json) (out cs : List Char) :
    Except FillFault (List Char) :=
  match fuel, cs with
  | 0, _ => .error .badPlace
  | _ + 1, [] =>
    if args.isEmpty || fields.isSome then .ok out.reverse else .error .tooMany
  | fuel + 1, '%' :: '%' :: rest => fillFrom fuel fields args ('%' :: out) rest
  | fuel + 1, '%' :: rest =>
    match fillPlace fields args rest with
    | .error e => .error e
    | .ok (text, args, rest) => fillFrom fuel fields args (text.reverse ++ out) rest
  | fuel + 1, c :: rest => fillFrom fuel fields args (c :: out) rest

/-- The message with its arguments; without arguments it stands as it is. -/
def fill (message : String) (args : List Json) : Except FillFault String :=
  match args with
  | [] => .ok message
  | args =>
    let fields := match args with
      | [.object (f :: more)] => some (f :: more)
      | _ => none
    let cs := message.toList
    (fillFrom (cs.length + 1) fields args [] cs).map String.ofList

end HookPolicy.Log
