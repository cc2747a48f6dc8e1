import HookPolicy.Json.Basic
import HookPolicy.Number.Decimal
import HookPolicy.Text.Quoted

/-!
# Writing documents

`compact` writes a document on one line, `indented` on several with two blanks a level. Everything
outside visible ASCII is escaped by its 16-bit units. `display` and `inspect` write a value as it
stands in a message: texts bare or between quotes.
-/

namespace HookPolicy.Json

open Text (hexDigits)

def unitEscape (n : Nat) : List Char := '\\' :: 'u' :: hexDigits 4 n

def escapeChar (c : Char) : List Char :=
  if c == '"' then ['\\', '"']
  else if c == '\\' then ['\\', '\\']
  else if c == '\n' then ['\\', 'n']
  else if c == '\r' then ['\\', 'r']
  else if c == '\t' then ['\\', 't']
  else if c.toNat == 8 then ['\\', 'b']
  else if c.toNat == 12 then ['\\', 'f']
  else if 0x20 ≤ c.toNat && c.toNat ≤ 0x7E then [c]
  else if c.toNat < 0x10000 then unitEscape c.toNat
  else
    let n := c.toNat - 0x10000
    unitEscape (0xD800 + n / 0x400) ++ unitEscape (0xDC00 + n % 0x400)

def writeString (s : String) : List Char := '"' :: (s.toList.flatMap escapeChar ++ ['"'])

def writeFloat : Binary64 → List Char
  | .infinite negative => if negative then "-Infinity".toList else "Infinity".toList
  | .nan => "NaN".toList
  | x => Decimal.floatChars x

mutual

def compact : Json → List Char
  | .null => ['n', 'u', 'l', 'l']
  | .bool true => ['t', 'r', 'u', 'e']
  | .bool false => ['f', 'a', 'l', 's', 'e']
  | .int n => Decimal.intChars n
  | .float x => writeFloat x
  | .string s => writeString s
  | .array items => '[' :: (compactItems items ++ [']'])
  | .object fields => '{' :: (compactFields fields ++ ['}'])

def compactItems : List Json → List Char
  | [] => []
  | [v] => compact v
  | v :: more => compact v ++ ',' :: ' ' :: compactItems more

def compactFields : List (String × Json) → List Char
  | [] => []
  | [(name, v)] => writeString name ++ ':' :: ' ' :: compact v
  | (name, v) :: more =>
    writeString name ++ ':' :: ' ' :: (compact v ++ ',' :: ' ' :: compactFields more)

end

def newline (level : Nat) : List Char := '\n' :: List.replicate (2 * level) ' '

mutual

def indentedAt (level : Nat) : Json → List Char
  | .null => ['n', 'u', 'l', 'l']
  | .bool true => ['t', 'r', 'u', 'e']
  | .bool false => ['f', 'a', 'l', 's', 'e']
  | .int n => Decimal.intChars n
  | .float x => writeFloat x
  | .string s => writeString s
  | .array [] => ['[', ']']
  | .array items => '[' :: (newline (level + 1) ++ (indentedItems (level + 1) items ++
      (newline level ++ [']'])))
  | .object [] => ['{', '}']
  | .object fields => '{' :: (newline (level + 1) ++ (indentedFields (level + 1) fields ++
      (newline level ++ ['}'])))

def indentedItems (level : Nat) : List Json → List Char
  | [] => []
  | [v] => indentedAt level v
  | v :: more => indentedAt level v ++ ',' :: (newline level ++ indentedItems level more)

def indentedFields (level : Nat) : List (String × Json) → List Char
  | [] => []
  | [(name, v)] => writeString name ++ ':' :: ' ' :: indentedAt level v
  | (name, v) :: more =>
    writeString name ++ ':' :: ' ' :: (indentedAt level v ++ ',' ::
      (newline level ++ indentedFields level more))

end

def write (v : Json) : String := String.ofList (compact v)

def writeIndented (v : Json) : String := String.ofList (indentedAt 0 v)

mutual

def inspectChars : Json → List Char
  | .null => ['N', 'o', 'n', 'e']
  | .bool true => ['T', 'r', 'u', 'e']
  | .bool false => ['F', 'a', 'l', 's', 'e']
  | .int n => Decimal.intChars n
  | .float x => Decimal.floatChars x
  | .string s => Text.quoted s.toList
  | .array items => '[' :: (inspectItems items ++ [']'])
  | .object fields => '{' :: (inspectFields fields ++ ['}'])

def inspectItems : List Json → List Char
  | [] => []
  | [v] => inspectChars v
  | v :: more => inspectChars v ++ ',' :: ' ' :: inspectItems more

def inspectFields : List (String × Json) → List Char
  | [] => []
  | [(name, v)] => Text.quoted name.toList ++ ':' :: ' ' :: inspectChars v
  | (name, v) :: more =>
    Text.quoted name.toList ++ ':' :: ' ' ::
      (inspectChars v ++ ',' :: ' ' :: inspectFields more)

end

/-- A value as it stands inside another one in a message: texts are quoted. -/
def inspect (v : Json) : String := String.ofList (inspectChars v)

/-- A value as it stands in a message: a text stands for itself. -/
def display : Json → String
  | .string s => s
  | v => inspect v

end HookPolicy.Json
