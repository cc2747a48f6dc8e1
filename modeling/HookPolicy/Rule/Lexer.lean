import HookPolicy.Rule.Token
import HookPolicy.Text.Class
import HookPolicy.Text.Pieces

/-!
# From text to tokens

`tokenize` skips blanks and characters that start no token. A word operator counts only where no
word character follows it, and operators win over the logical `!`.
-/

namespace HookPolicy.Rule

open Text

def isNameStart (c : Char) : Bool := isAsciiLetter c || c == '_'

def isNameChar (c : Char) : Bool := isAsciiAlnum c || c == '_'

/-- The operators in the order in which they are tried; a word must end where it ends. -/
def operatorForms : List (List Char × Bool × Operator) :=
  [(['=', '='], false, .equal), (['!', '='], false, .notEqual),
   (['!', 'm', 'a', 't', 'c', 'h', 'e', 's'], true, .notMatches),
   (['m', 'a', 't', 'c', 'h', 'e', 's'], true, .matches),
   (['s', 't', 'a', 'r', 't', 's', 'W', 'i', 't', 'h'], true, .startsWith),
   (['e', 'n', 'd', 's', 'W', 'i', 't', 'h'], true, .endsWith),
   (['c', 'o', 'n', 't', 'a', 'i', 'n', 's'], true, .contains),
   (['i', 'n'], true, .among)]

def atWordEnd : List Char → Bool
  | c :: _ => !isWord c
  | [] => true

def readForm (cs : List Char) (form : List Char × Bool × Operator) :
    Option (Operator × List Char) :=
  match rest? form.1 cs with
  | some rest => if form.2.1 && !atWordEnd rest then none else some (form.2.2, rest)
  | none => none

def readOperator (cs : List Char) : Option (Operator × List Char) :=
  operatorForms.findSome? (readForm cs)

/-- Reads on in a dotted path; a dot belongs to it only before the start of a name. -/
def readPath (taken : List Char) : List Char → List Char × List Char
  | [] => (taken.reverse, [])
  | c :: rest =>
    if isNameChar c then readPath (c :: taken) rest
    else match c, rest with
      | '.', d :: rest' =>
        if isNameStart d then readPath (d :: '.' :: taken) rest' else (taken.reverse, c :: rest)
      | _, _ => (taken.reverse, c :: rest)

/-- Reads up to the closing quote, or to the end of the text. A backslash takes the next character
as it is. -/
def readLiteral (quote : Char) (taken : List Char) : List Char → List Char × List Char
  | [] => (taken.reverse, [])
  | [c] => if c == quote then (taken.reverse, []) else ((c :: taken).reverse, [])
  | c :: d :: rest =>
    if c == quote then (taken.reverse, d :: rest)
    else if c == '\\' then readLiteral quote (d :: taken) rest
    else readLiteral quote (c :: taken) (d :: rest)

def readLogical : Char → List Char → Option (Token × List Char)
  | '&', '&' :: rest => some (.conj, rest)
  | '|', '|' :: rest => some (.disj, rest)
  | '!', rest => some (.negate, rest)
  | _, _ => none

/-- The token that starts with character `c`, if any, and the text behind it. -/
def scan (c : Char) (rest : List Char) : Option Token × List Char :=
  if isBlank c then (none, rest)
  else if c == '(' then (some .lparen, rest)
  else if c == ')' then (some .rparen, rest)
  else if c == '\x27' || c == '"' then
    let (value, rest) := readLiteral c [] rest
    (some (.literal (String.ofList value)), rest)
  else match readOperator (c :: rest) with
    | some (op, rest) => (some (.operator op), rest)
    | none =>
      match readLogical c rest with
      | some (token, rest) => (some token, rest)
      | none =>
        if isNameStart c then
          let (name, rest) := readPath [c] rest
          (some (.path (String.ofList name)), rest)
        else (none, rest)

theorem rest?_length {w cs r : List Char} (h : rest? w cs = some r) :
    r.length + w.length = cs.length := by
  induction w generalizing cs with
  | nil => simp [rest?] at h; simp [h]
  | cons a w ih =>
    cases cs with
    | nil => simp [rest?] at h
    | cons c cs =>
      simp only [rest?] at h
      split at h
      · have := ih h; simp; omega
      · simp at h

theorem readPath_length (taken cs : List Char) : (readPath taken cs).2.length ≤ cs.length := by
  fun_induction readPath taken cs <;> simp_all <;> omega

theorem readLiteral_length (q : Char) (taken cs : List Char) :
    (readLiteral q taken cs).2.length ≤ cs.length := by
  fun_induction readLiteral q taken cs <;> simp_all <;> omega

theorem readForm_length {cs r : List Char} {form : List Char × Bool × Operator} {op : Operator}
    (h : readForm cs form = some (op, r)) : r.length + form.1.length = cs.length := by
  unfold readForm at h
  split at h
  · rename_i rest hr
    split at h
    · simp at h
    · simp at h
      have := rest?_length hr
      simp_all
  · simp at h

theorem operatorForms_pos {form : List Char × Bool × Operator} (h : form ∈ operatorForms) :
    0 < form.1.length := by
  simp [operatorForms] at h
  rcases h with h | h | h | h | h | h | h | h <;> simp [h]

theorem readOperator_length {cs r : List Char} {op : Operator}
    (h : readOperator cs = some (op, r)) : r.length < cs.length := by
  obtain ⟨form, hm, hf⟩ := List.exists_of_findSome?_eq_some h
  have h1 := readForm_length hf
  have h2 := operatorForms_pos hm
  omega

theorem readLogical_length {c : Char} {cs r : List Char} {t : Token}
    (h : readLogical c cs = some (t, r)) : r.length ≤ cs.length := by
  unfold readLogical at h
  split at h <;> simp only [Option.some.injEq, Prod.mk.injEq, reduceCtorEq] at h
  all_goals
    obtain ⟨_, rfl⟩ := h
    simp

theorem scan_length (c : Char) (cs : List Char) : (scan c cs).2.length ≤ cs.length := by
  unfold scan
  split
  · simp
  · split
    · simp
    · split
      · simp
      · split
        · exact readLiteral_length c [] cs
        · split
          · rename_i h
            have := readOperator_length h
            simp at this ⊢
            omega
          · split
            · rename_i h
              exact readLogical_length h
            · split
              · exact readPath_length [c] cs
              · simp

def tokensFrom (found : List Token) (cs : List Char) : List Token :=
  match cs with
  | [] => (Token.finish :: found).reverse
  | c :: rest =>
    match _h : scan c rest with
    | (some token, rest') => tokensFrom (token :: found) rest'
    | (none, rest') => tokensFrom found rest'
termination_by cs.length
decreasing_by
  all_goals exact Nat.lt_succ_of_le (by simpa only [_h] using scan_length c rest)

/-- The tokens of a text, closed by `finish`. -/
def tokenize (text : String) : List Token := tokensFrom [] text.toList

end HookPolicy.Rule
