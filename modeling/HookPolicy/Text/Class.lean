import HookPolicy.Text.Spans
import HookPolicy.Text.WordSpans
import HookPolicy.Text.HiddenSpans
import HookPolicy.Text.DigitStarts

/-!
# Classes of characters

Blank characters separate words, word characters build names, decimal digits have a value, and
hidden characters are escaped in quoted text. The ASCII part of each class is written out; the rest
is looked up.
-/

namespace HookPolicy.Text

/-- Characters that separate words, the four information separators included. -/
def isBlank (c : Char) : Bool :=
  let n := c.toNat
  n == 0x20 || (0x09 ≤ n && n ≤ 0x0D) || (0x1C ≤ n && n ≤ 0x1F) || n == 0x85 || n == 0xA0 ||
    n == 0x1680 || (0x2000 ≤ n && n ≤ 0x200A) || n == 0x2028 || n == 0x2029 || n == 0x202F ||
    n == 0x205F || n == 0x3000

/-- Blank characters other than the information separators. -/
def isSpace (c : Char) : Bool := isBlank c && !(0x1C ≤ c.toNat && c.toNat ≤ 0x1F)

def isAsciiDigit (c : Char) : Bool := '0' ≤ c && c ≤ '9'

def isAsciiLetter (c : Char) : Bool := ('a' ≤ c && c ≤ 'z') || ('A' ≤ c && c ≤ 'Z')

def isAsciiAlnum (c : Char) : Bool := isAsciiLetter c || isAsciiDigit c

/-- Letters and numbers of every script. -/
def isAlnum (c : Char) : Bool :=
  if c.toNat < 128 then isAsciiAlnum c else inSpans wordSpans c.toNat

/-- Letters, numbers and the underscore. -/
def isWord (c : Char) : Bool := c == '_' || isAlnum c

/-- Characters without a visible form; the plain space has one. -/
def isHidden (c : Char) : Bool :=
  if c.toNat < 128 then c.toNat < 0x20 || c.toNat == 0x7F else inSpans hiddenSpans c.toNat

def blockOf (starts : List Nat) (n : Nat) : Option Nat :=
  starts.find? fun s => s ≤ n && n < s + 10

/-- The value of a decimal digit of any script. -/
def digitValue? (c : Char) : Option Nat :=
  if c.toNat < 128 then
    if isAsciiDigit c then some (c.toNat - 48) else none
  else (blockOf digitStarts.toList c.toNat).map (c.toNat - ·)

def isDigit (c : Char) : Bool := (digitValue? c).isSome

/-- The value of a hexadecimal digit. -/
def hexValue? (c : Char) : Option Nat :=
  if isAsciiDigit c then some (c.toNat - 48)
  else if 'a' ≤ c && c ≤ 'f' then some (c.toNat - 87)
  else if 'A' ≤ c && c ≤ 'F' then some (c.toNat - 55)
  else none

def isHexDigit (c : Char) : Bool := (hexValue? c).isSome

def isOctalDigit (c : Char) : Bool := '0' ≤ c && c ≤ '7'

end HookPolicy.Text
