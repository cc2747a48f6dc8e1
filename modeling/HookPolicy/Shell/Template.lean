import HookPolicy.Shell.Quote
import HookPolicy.Shell.Shape

/-!
# Command templates

A template holds placeholders: a key between two braces on each side. `defects` names the dangerous
shapes that a template shows. `substitute` replaces all placeholders at once by quoted values, so
that the values are never read as template text.
-/

namespace HookPolicy.Shell

def openBraces : Step := .text ['\x7b', '\x7b']

def closeBraces : Step := .text ['\x7d', '\x7d']

def wordChar : Step := .one Text.isWord

def templateShapes : List (List Step × String) :=
  [([lit "$("], "Command substitution $() is not allowed"),
   ([.text ['\x60']], "Backtick command substitution is not allowed"),
   ([lit "|", line, openBraces], "Pipe before placeholder is dangerous"),
   ([openBraces, line, closeBraces, line, lit "|"], "Pipe after placeholder is dangerous"),
   ([lit ";", blanks, openBraces], "Semicolon before placeholder is dangerous"),
   ([openBraces, line, closeBraces, line, lit ";", blanks, wordChar],
    "Semicolon after placeholder with command is dangerous"),
   ([lit ">", blanks, openBraces], "Redirect to placeholder is dangerous"),
   ([openBraces, line, closeBraces, line, lit ">"], "Redirect after placeholder is dangerous")]

def messagesShown (shapes : List (List Step × String)) (text : String) : List String :=
  (shapes.filter fun s => shows s.1 text.toList).map (·.2)

/-- What is dangerous about a template, in a fixed order. -/
def defects (template : String) : List String := messagesShown templateShapes template

/-- A piece of a template: a character or the key of a placeholder. -/
inductive Piece
  | char (c : Char)
  | slot (key : List Char)
  deriving DecidableEq, Repr

/-- The key of the placeholder that starts the text, and what follows it. A key is not empty and
holds no closing brace. -/
def slot? : List Char → Option (List Char × List Char)
  | '\x7b' :: '\x7b' :: cs =>
    match cs.takeWhile (· != '\x7d'), cs.dropWhile (· != '\x7d') with
    | [], _ => none
    | key, '\x7d' :: '\x7d' :: rest => some (key, rest)
    | _, _ => none
  | _ => none

theorem slot?_length {cs key rest : List Char} (h : slot? cs = some (key, rest)) :
    rest.length < cs.length := by
  unfold slot? at h
  split at h
  · rename_i cs
    have hlen := congrArg List.length (List.takeWhile_append_dropWhile (p := (· != '\x7d')) (l := cs))
    split at h
    · simp at h
    · rename_i hrest _
      simp only [Option.some.injEq, Prod.mk.injEq] at h
      obtain ⟨_, rfl⟩ := h
      simp only [List.length_append, hrest, List.length_cons] at hlen ⊢
      omega
    · simp at h
  · simp at h

/-- The pieces of a template, its placeholders found from the left. -/
def piecesFrom (found : List Piece) (cs : List Char) : List Piece :=
  match cs with
  | [] => found.reverse
  | c :: rest =>
    match _h : slot? (c :: rest) with
    | some (key, after) => piecesFrom (.slot key :: found) after
    | none => piecesFrom (.char c :: found) rest
termination_by cs.length
decreasing_by
  · exact slot?_length _h
  · simp

def pieces (template : String) : List Piece := piecesFrom [] template.toList

def slotText (key : List Char) : List Char := '\x7b' :: '\x7b' :: (key ++ ['\x7d', '\x7d'])

/-- The text of a piece under an assignment of values to keys; a key without a value stands as it
is. -/
def Piece.fill (values : List Char → Option (List Char)) : Piece → List Char
  | .char c => [c]
  | .slot key => (values key).getD (slotText key)

def Piece.missing? (values : List Char → Option (List Char)) : Piece → Option (List Char)
  | .char _ => none
  | .slot key => if (values key).isNone then some (slotText key) else none

/-- The command that a template gives, and what is wrong with it. There is no command when the
template itself is dangerous. -/
structure Substitution where
  command : Option String
  errors : List String
  deriving DecidableEq, Repr

def Substitution.isSafe (s : Substitution) : Bool := s.errors.isEmpty && s.command.isSome

def fillAll (values : List Char → Option (List Char)) (ps : List Piece) : List Char :=
  ps.flatMap (Piece.fill values)

def missingAll (values : List Char → Option (List Char)) (ps : List Piece) : List (List Char) :=
  ps.filterMap (Piece.missing? values)

def substituteUnchecked (template : String) (values : List Char → Option (List Char)) :
    Substitution :=
  let ps := pieces template
  let missing := missingAll values ps
  let errors := if missing.isEmpty then []
    else ["Unsubstituted placeholders: " ++ String.ofList (Text.joinWith [',', ' '] missing)]
  ⟨some (String.ofList (fillAll values ps)), errors⟩

def substitute (template : String) (values : List Char → Option (List Char)) : Substitution :=
  match defects template with
  | [] => substituteUnchecked template values
  | errors => ⟨none, errors⟩

/-- The quoted values of fields. -/
def fieldValues (fields : Fields) (key : List Char) : Option (List Char) :=
  (fields.get? (String.ofList key)).map quoteValue

end HookPolicy.Shell
