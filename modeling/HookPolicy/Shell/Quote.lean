import HookPolicy.Json.Writer
import HookPolicy.Text.Pieces

/-!
# Quoting words for the shell

A text without special characters stands for itself. Any other is put between single quotes, and a
single quote inside is written outside them behind a backslash.
-/

namespace HookPolicy.Shell

/-- Characters that the shell may not read as themselves. -/
def isSpecial (c : Char) : Bool :=
  ['|', '&', ';', '<', '>', '(', ')', '$', '\x60', '\\', '"', '\x27', ' ', '\t', '\n', '*', '?',
    '[', ']', '#', '~', '=', '%', '!', '\x7b', '\x7d'].contains c

def quoteEscape (c : Char) : List Char :=
  if c == '\x27' then ['\x27', '\\', '\x27', '\x27'] else [c]

/-- One word that the shell reads back as the text. -/
def quoteChars (cs : List Char) : List Char :=
  if cs.isEmpty then ['\x27', '\x27']
  else if cs.any isSpecial then '\x27' :: (cs.flatMap quoteEscape ++ ['\x27'])
  else cs

def quote (s : String) : String := String.ofList (quoteChars s.toList)

/-- The word for a value; null leaves no word at all. -/
def quoteValue : Json → List Char
  | .null => []
  | v => quoteChars v.display.toList

/-- The words for several values, separated by blanks. -/
def quoteAll (values : List Json) : List Char :=
  Text.joinWith [' '] (values.map quoteValue)

end HookPolicy.Shell
