import HookPolicy.Text.Class

/-!
# Quoted texts

A text between quotes with everything invisible escaped. Single quotes are used unless the text
holds one and no double quote.
-/

namespace HookPolicy.Text

/-- The lowest `width` hexadecimal digits of a number. -/
def hexDigits (width n : Nat) : List Char :=
  match width with
  | 0 => []
  | width + 1 => Nat.digitChar (n / 16 ^ width % 16) :: hexDigits width n

def escapeIn (quote c : Char) : List Char :=
  if c == quote || c == '\\' then ['\\', c]
  else if c == '\n' then ['\\', 'n']
  else if c == '\r' then ['\\', 'r']
  else if c == '\t' then ['\\', 't']
  else if !isHidden c then [c]
  else if c.toNat ≤ 0xFF then '\\' :: 'x' :: hexDigits 2 c.toNat
  else if c.toNat ≤ 0xFFFF then '\\' :: 'u' :: hexDigits 4 c.toNat
  else '\\' :: 'U' :: hexDigits 8 c.toNat

def quoteFor (cs : List Char) : Char :=
  if cs.contains '\x27' && !cs.contains '"' then '"' else '\x27'

def quoted (cs : List Char) : List Char :=
  let q := quoteFor cs
  q :: (cs.flatMap (escapeIn q) ++ [q])

def quote (s : String) : String := String.ofList (quoted s.toList)

/-- Bytes between quotes: everything but visible ASCII is escaped by its value. -/
def quotedBytes (bytes : List UInt8) : List Char :=
  let chars := bytes.map fun b => Char.ofNat b.toNat
  let q := quoteFor chars
  let escape (c : Char) : List Char :=
    if c.toNat < 0x80 then escapeIn q c else '\\' :: 'x' :: hexDigits 2 c.toNat
  'b' :: q :: (chars.flatMap escape ++ [q])

end HookPolicy.Text
