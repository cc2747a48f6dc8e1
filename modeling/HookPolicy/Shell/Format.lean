import HookPolicy.Number.Decimal
import HookPolicy.Text.Pieces
import HookPolicy.Text.Quoted
import HookPolicy.Text.Utf8

/-!
# Printing from the shell

What `echo` and `printf` write: texts in which backslashes stand for control characters and bytes,
and formats with places that are filled again and again until the arguments run out.
-/

namespace HookPolicy.Shell

def controlOf? (c : Char) : Option UInt8 :=
  [('a', 7), ('b', 8), ('t', 9), ('n', 10), ('v', 11), ('f', 12), ('r', 13), ('\\', 92)].lookup c

/-- The byte that octal digits stand for. -/
def octalByte (ds : List Char) : UInt8 := UInt8.ofNat (Text.numberOf 8 Text.digitValue? ds)

/-- The octal digits in front, three at most. -/
def octals (cs : List Char) : List Char := (cs.take 3).takeWhile Text.isOctalDigit

def bytesOf (c : Char) : List UInt8 := Utf8.encode (String.singleton c)

/-- What a backslash and the text after it stand for, and how many characters of the text that
takes. Nothing says that the output ends here. -/
def escape (zeroFirst : Bool) (cs : List Char) : Option (List UInt8 × Nat) :=
  match cs with
  | [] => some ([92], 0)
  | 'c' :: _ => if zeroFirst then none else some ([92, 99], 1)
  | '0' :: rest =>
    if zeroFirst then some ([octalByte (octals rest)], (octals rest).length + 1)
    else some ([octalByte (octals cs)], (octals cs).length)
  | c :: _ =>
    if Text.isOctalDigit c && !zeroFirst then some ([octalByte (octals cs)], (octals cs).length)
    else match controlOf? c with
      | some b => some ([b], 1)
      | none => some (92 :: bytesOf c, 1)

/-- The bytes of a text with backslashes, and whether the output ends in it. -/
def unescape (zeroFirst : Bool) (skip : Nat) : List Char → List UInt8 × Bool
  | [] => ([], false)
  | c :: cs =>
    match skip with
    | skip + 1 => unescape zeroFirst skip cs
    | 0 =>
      if c != '\\' then
        let (more, ends) := unescape zeroFirst 0 cs
        (bytesOf c ++ more, ends)
      else match escape zeroFirst cs with
        | none => ([], true)
        | some (bytes, size) =>
          let (more, ends) := unescape zeroFirst size cs
          (bytes ++ more, ends)

/-- A part of a format: bytes, or a place for an argument. -/
inductive Part
  | bytes (bs : List UInt8)
  | place (flags : List Char) (width : Nat) (precision : Option Nat) (letter : Char)
  deriving DecidableEq, Repr

def countOf (cs : List Char) : Nat := Text.numberOf 10 Text.digitValue? cs

/-- A place after its percent sign, and how many characters it takes. -/
def place? (cs : List Char) : Option (Part × Nat) :=
  let flags := cs.takeWhile ['-', '+', ' ', '0', '#'].contains
  let rest := cs.drop flags.length
  let width := rest.takeWhile Text.isAsciiDigit
  let rest := rest.drop width.length
  let (precision, size, rest) := match rest with
    | '.' :: rest =>
      let ds := rest.takeWhile Text.isAsciiDigit
      (some (countOf ds), ds.length + 1, rest.drop ds.length)
    | rest => (none, 0, rest)
  match rest with
  | letter :: _ =>
    some (.place flags (countOf width) precision letter, flags.length + width.length + size + 1)
  | [] => none

def parts (skip : Nat) : List Char → List Part
  | [] => []
  | c :: cs =>
    match skip with
    | skip + 1 => parts skip cs
    | 0 =>
      if c == '\\' then match escape false cs with
        | some (bytes, size) => .bytes bytes :: parts size cs
        | none => []
      else if c != '%' then .bytes (bytesOf c) :: parts 0 cs
      else match cs with
        | '%' :: _ => .bytes [37] :: parts 1 cs
        | _ => match place? cs with
          | some (p, size) => p :: parts size cs
          | none => [.bytes [37]]

/-- The whole number that an argument reads as, or nothing; an empty one counts as zero. -/
def integer? (s : String) : Option Int :=
  let cs := s.toList.dropWhile Text.isSpace
  let (negative, ds) := match cs with
    | '-' :: ds => (true, ds)
    | '+' :: ds => (false, ds)
    | ds => (false, ds)
  if cs.isEmpty then some 0
  else
    let n := match ds with
      | '0' :: 'x' :: hex => if !hex.isEmpty && hex.all Text.isHexDigit then
          some (Text.numberOf 16 Text.hexValue? hex) else none
      | '0' :: octal => if octal.all Text.isOctalDigit then
          some (Text.numberOf 8 Text.digitValue? octal) else none
      | ds => if !ds.isEmpty && ds.all Text.isAsciiDigit then some (countOf ds) else none
    n.map fun n => if negative then -(n : Int) else n

def padTo (flags : List Char) (width : Nat) (bytes : List UInt8) : List UInt8 :=
  let gap := List.replicate (width - bytes.length) (32 : UInt8)
  if flags.contains '-' then bytes ++ gap else gap ++ bytes

/-- A number with its sign. Zeros fill it up when asked to. -/
def numberBytes (flags : List Char) (width : Nat) (precision : Option Nat) (base : Nat)
    (upper : Bool) (n : Int) : List UInt8 :=
  let ds := Nat.toDigits base n.natAbs
  let ds := if upper then ds.map Char.toUpper else ds
  let ds := List.replicate (precision.getD 1 - ds.length) '0' ++ ds
  let sign := if n < 0 then ['-'] else if flags.contains '+' then ['+']
    else if flags.contains ' ' then [' '] else []
  let fill := if flags.contains '0' && !flags.contains '-' && precision.isNone then
    List.replicate (width - sign.length - ds.length) '0' else []
  padTo flags width ((sign ++ fill ++ ds).flatMap bytesOf)

/-- What was printed, what was wrong, and whether the output ended early. -/
structure Printing where
  out : List UInt8 := []
  faults : List String := []
  ended : Bool := false

/-- Fills one place. -/
def fillPlace (flags : List Char) (width : Nat) (precision : Option Nat) (letter : Char)
    (arg : String) : Printing :=
  let cut (bytes : List UInt8) : List UInt8 := match precision with
    | some n => bytes.take n
    | none => bytes
  let number (base : Nat) (upper : Bool) : Printing := match integer? arg with
    | some n => { out := numberBytes flags width precision base upper n }
    | none => ⟨numberBytes flags width precision base upper 0,
        [arg ++ ": expected numeric value"], false⟩
  match letter with
  | 's' => { out := padTo flags width (cut (Utf8.encode arg)) }
  | 'c' => { out := padTo flags width ((Utf8.encode arg).take 1) }
  | 'b' =>
    let (bytes, ended) := unescape true 0 arg.toList
    { out := padTo flags width (cut bytes), ended }
  | 'd' | 'i' | 'u' => number 10 false
  | 'o' => number 8 false
  | 'x' => number 16 false
  | 'X' => number 16 true
  | c => { faults := ["%" ++ String.singleton c ++ ": invalid directive"], ended := true }

/-- Fills a format once and gives the arguments that are left. -/
def fillOnce (done : Printing) : List Part → List String → Printing × List String
  | [], args => (done, args)
  | .bytes bs :: rest, args => fillOnce { done with out := done.out ++ bs } rest args
  | .place flags width precision letter :: rest, args =>
    let p := fillPlace flags width precision letter (args.head?.getD "")
    let done := ⟨done.out ++ p.out, done.faults ++ p.faults, p.ended⟩
    if p.ended then (done, []) else fillOnce done rest args.tail

def fillAgain (done : Printing) (ps : List Part) (args : List String) : Nat → Printing
  | 0 => done
  | fuel + 1 =>
    let (done, left) := fillOnce done ps args
    if left.isEmpty || left.length == args.length then done else fillAgain done ps left fuel

/-- What `printf` writes. -/
def printf (format : String) (args : List String) : Printing :=
  fillAgain {} (parts 0 format.toList) args (args.length + 1)

/-- The text with its backslashes read or not, and with or without a line end. -/
def echoText (escapes line : Bool) (args : List String) : List UInt8 :=
  let text := " ".intercalate args
  let (bytes, ended) := if escapes then unescape true 0 text.toList
    else (Utf8.encode text, false)
  bytes ++ (if line && !ended then [10] else [])

/-- What `echo` writes when it always reads backslashes. -/
def echo (args : List String) : List UInt8 :=
  match args with
  | "-n" :: rest => echoText true false rest
  | args => echoText true true args

def isEchoOption (s : String) : Bool :=
  match s.toList with
  | '-' :: letters => !letters.isEmpty && letters.all ['n', 'e', 'E'].contains
  | _ => false

/-- What `echo` writes when options say whether it reads backslashes. -/
def echoWithOptions (args : List String) : List UInt8 :=
  let letters := (args.takeWhile isEchoOption).flatMap fun s => s.toList.drop 1
  let escapes := (letters.filter (· != 'n')).getLast? == some 'e'
  echoText escapes (!letters.contains 'n') (args.dropWhile isEchoOption)

end HookPolicy.Shell
