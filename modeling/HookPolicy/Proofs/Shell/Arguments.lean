import HookPolicy.Proofs.Shell.Quoting
import HookPolicy.Shell.Run
import Mathlib.Data.List.Forall2

/-!
# Lists of arguments

Quoted texts with blanks between them are read as one word for each text, and a word stands for its
text alone: it is whole once its quotes are removed, and the shell finds nothing in it to expand, to
match with file names or to assign.
-/

namespace HookPolicy.Shell

/-- What the removal of quotes leaves of a part. An expansion has no text before it is made. -/
def Bit.unquoted? : Bit → Option (List Char)
  | .plain c => some [c]
  | .quoted c => some [c]
  | .quote => some []
  | .expand _ _ => none

def unquoted? (bits : Word) : Option (List Char) := (bits.mapM Bit.unquoted?).map List.flatten

def patternChars : List Char := ['*', '?', '[']

/-- Characters that stand for something else: the home directory, or one word for each choice. -/
def shorthandChars : List Char := ['~', '\x7b']

/-- A word that is read as a text and as nothing else. -/
structure StandsFor (bits : Word) (text : List Char) : Prop where
  unquoted : unquoted? bits = some text
  no_pattern : ∀ c ∈ patternChars, .plain c ∉ bits
  no_shorthand : ∀ c ∈ shorthandChars, .plain c ∉ bits
  no_assignment : assignment? bits = none

theorem literalText?_cons {b : Bit} {bits : Word} {v : List Char}
    (h : literalText? (b :: bits) = some v) :
    ∃ cs rest, b.literal? = some cs ∧ literalText? bits = some rest ∧ v = cs ++ rest := by
  rw [literalText?] at h
  split at h
  · rename_i cs rest hb hrest
    cases h
    exact ⟨cs, rest, hb, hrest, rfl⟩
  · cases h

theorem unquoted?_of_literal {b : Bit} {v : List Char} (h : b.literal? = some v) :
    b.unquoted? = some v := by
  cases b with
  | plain c =>
    rw [Bit.literal?] at h
    split at h
    · cases h
    · exact h
  | quoted c => exact h
  | quote => exact h
  | expand e quoted => cases h

theorem unquoted?_of_literalText {bits : Word} {v : List Char} (h : literalText? bits = some v) :
    unquoted? bits = some v := by
  induction bits generalizing v with
  | nil => exact h
  | cons b bits ih =>
    obtain ⟨cs, rest, hb, hrest, rfl⟩ := literalText?_cons h
    obtain ⟨parts, hparts, hflat⟩ := Option.map_eq_some_iff.1 (ih hrest)
    rw [unquoted?, List.mapM_cons, unquoted?_of_literal hb, hparts, ← hflat]
    rfl

/-- What stands unquoted in a word with no other meaning has none either. -/
theorem isSpecial_of_plain_mem {bits : Word} {v : List Char} (h : literalText? bits = some v)
    {c : Char} (hc : .plain c ∈ bits) : isSpecial c = false := by
  induction bits generalizing v with
  | nil => cases hc
  | cons b bits ih =>
    obtain ⟨cs, rest, hb, hrest, -⟩ := literalText?_cons h
    rcases List.mem_cons.1 hc with rfl | hbehind
    · rw [Bit.literal?] at hb
      split at hb
      · cases hb
      · rename_i hplain
        exact Bool.eq_false_iff.2 hplain
    · exact ih hrest hbehind

theorem plain_equals_mem_of_assignment {bits : Word} {a : List Char × Word}
    (ha : assignment? bits = some a) : .plain '=' ∈ bits := by
  unfold assignment? at ha
  dsimp only at ha
  split at ha
  · rename_i hvalue
    exact List.mem_of_mem_drop (hvalue ▸ List.mem_cons_self)
  · cases ha

theorem standsFor_of_literalText {bits : Word} {v : List Char} (h : literalText? bits = some v) :
    StandsFor bits v where
  unquoted := unquoted?_of_literalText h
  no_pattern c hc hplain := by
    have hspecial : patternChars.all isSpecial = true := rfl
    exact Bool.eq_false_iff.1 (isSpecial_of_plain_mem h hplain) (List.all_eq_true.1 hspecial c hc)
  no_shorthand c hc hplain := by
    have hspecial : shorthandChars.all isSpecial = true := rfl
    exact Bool.eq_false_iff.1 (isSpecial_of_plain_mem h hplain) (List.all_eq_true.1 hspecial c hc)
  no_assignment := by
    have hspecial : isSpecial '=' = true := rfl
    cases ha : assignment? bits with
    | none => rfl
    | some a =>
      have hplain := isSpecial_of_plain_mem h (plain_equals_mem_of_assignment ha)
      rw [hspecial] at hplain
      cases hplain

/-! ## The words of a list -/

/-- A blank ends the word in hand, and the next text begins one. -/
theorem finish_steps_quoted (vs : List (List Char)) (bits : List Bit) (tokens : List Token) :
    (Lexer.steps ⟨.bare, some bits, tokens⟩ (vs.flatMap fun v => ' ' :: quoteChars v)).finish =
      .ok (tokens.reverse ++ .word bits.reverse :: vs.map fun v => .word (valueBits v)) := by
  induction vs generalizing bits tokens with
  | nil =>
    show Except.ok (Token.word bits.reverse :: tokens).reverse = _
    rw [List.reverse_cons]
    rfl
  | cons v vs ih =>
    have hblank : Lexer.step ⟨.bare, some bits, tokens⟩ ' ' =
        ⟨.bare, none, .word bits.reverse :: tokens⟩ := rfl
    rw [List.flatMap_cons, List.cons_append, Lexer.steps_cons, hblank, Lexer.steps_append,
      Lexer.steps_quoteChars, ih]
    simp

theorem read_joined (vs : List (List Char)) :
    read (Text.joinWith [' '] (vs.map quoteChars)) = .ok (vs.map fun v => .word (valueBits v)) := by
  cases vs with
  | nil => rfl
  | cons v vs =>
    rw [read, List.map_cons, Text.joinWith, List.flatMap_map, Lexer.steps_append,
      Lexer.steps_quoteChars]
    refine (finish_steps_quoted vs _ []).trans ?_
    simp

/-- A list of quoted texts is read as a list of words, one for each text, which stand for the texts
and have no other meaning. -/
theorem read_quoteAll (texts : List String) :
    ∃ words : List Word, read (quoteAll (texts.map .string)) = .ok (words.map .word) ∧
      List.Forall₂ StandsFor words (texts.map String.toList) := by
  refine ⟨texts.map fun s => valueBits s.toList, ?_, ?_⟩
  · have hquoted : (texts.map Json.string).map quoteValue =
        (texts.map String.toList).map quoteChars := by
      rw [List.map_map, List.map_map]
      rfl
    rw [quoteAll, hquoted, read_joined, List.map_map, List.map_map]
    rfl
  · rw [List.forall₂_map_left_iff, List.forall₂_map_right_iff]
    exact List.forall₂_same.2 fun s _ => standsFor_of_literalText (literalText?_valueBits s.toList)

/-- Names of options, blanks, quotes and an empty text. -/
example : read (quoteAll [.string "-m", .string "it's * $HOME", .string ""]) =
    .ok [.word ([.plain '-', .plain 'm']),
      .word (.quote :: "it".toList.map .quoted ++ [.quoted '\x27', .quote] ++
        "s * $HOME".toList.map .quoted), .word [.quote]] := by
  cbv

end HookPolicy.Shell
