import HookPolicy.Proofs.Shell.Quoting
import HookPolicy.Shell.Template

/-!
# Templates that the shell reads in one way

A template is read as the shell reads a text, with the places of its values left open. An outline is
what comes out. There is none if a value could change how the shell goes on: between quotes, behind a
backslash or a dollar sign, in a comment or an expansion, behind the operator of a here-document or
in its lines, and in a word that is a number before a redirection for some values only. Where there
is one, every choice of values is read as the outline with the values as literal characters in it.
-/

namespace HookPolicy.Shell

/-- What the shell reads in a word of a template, or the place of a value. -/
inductive WordPart
  | bit (b : Bit)
  | slot (key : List Char)
  deriving DecidableEq, Repr

inductive Cell
  | word (parts : List WordPart)
  | operator (cs : List Char)
  | descriptor (ds : List Char)
  deriving DecidableEq, Repr

namespace WordPart

def digit? : WordPart → Option Char
  | bit b => Lexer.plainDigit? b
  | slot _ => none

/-- Whether the part can be a digit or a number. -/
def isNumeric : WordPart → Bool
  | bit b => (Lexer.plainDigit? b).isSome
  | slot _ => true

def key? : WordPart → Option (List Char)
  | bit _ => none
  | slot key => some key

def fill (values : List Char → List Char) : WordPart → List Bit
  | bit b => [b]
  | slot key => valueBits (values key)

end WordPart

namespace Cell

def keys : Cell → List (List Char)
  | word parts => parts.filterMap WordPart.key?
  | _ => []

def fill (values : List Char → List Char) : Cell → Token
  | word parts => .word (parts.flatMap (WordPart.fill values))
  | operator cs => .operator cs
  | descriptor ds => .descriptor ds

def beginsDocument : Cell → Bool
  | operator cs => cs == ['<', '<'] || cs == ['<', '<', '-']
  | _ => false

end Cell

/-- A reader of a template, like the reader of a text. -/
structure Outliner where
  mode : Mode := .bare
  parts : Option (List WordPart) := none
  cells : List Cell := []
  deriving DecidableEq, Repr

namespace Outliner

def endAs (s : Outliner) (cell : Cell) : Outliner :=
  { s with parts := none, cells := cell :: s.cells }

def endWord (s : Outliner) : Outliner :=
  match s.parts with
  | some parts => s.endAs (.word parts.reverse)
  | none => s

def endBefore (s : Outliner) (c : Char) : Option Outliner :=
  match s.parts with
  | some parts =>
    match parts.reverse.mapM WordPart.digit? with
    | some ds => some (if startsRedirection c then s.endAs (.descriptor ds) else s.endWord)
    | none =>
      if startsRedirection c && parts.reverse.all WordPart.isNumeric then none else some s.endWord
  | none => some s

def act (s : Outliner) : Act → Option Outliner
  | .add b => some { s with parts := some (.bit b :: s.parts.getD []) }
  | .endWord => some s.endWord
  | .endBefore c => s.endBefore c
  | .emit cs => some { s with cells := .operator cs :: s.cells }

def actAll (s : Outliner) : List Act → Option Outliner
  | [] => some s
  | a :: acts => (s.act a).bind fun s => s.actAll acts

def step (s : Outliner) (c : Char) : Option Outliner :=
  let m := move s.mode s.parts.isNone c
  { s with mode := m.mode }.actAll m.acts

/-- Whether a line has ended since a here-document was begun. -/
def inDocument (s : Outliner) : Bool :=
  (s.cells.dropWhile (· != .operator ['\n'])).any Cell.beginsDocument

def addSlot (s : Outliner) (key : List Char) : Option Outliner :=
  if s.inDocument then none
  else some { s with mode := .bare, parts := some (.slot key :: s.parts.getD []) }

/-- Takes the place of a value, which has to be one where a word can begin or go on. -/
def takeSlot (s : Outliner) (key : List Char) : Option Outliner :=
  match s.mode with
  | .bare => s.addSlot key
  | .unfinished (.operator cs) =>
    if cs = ['<', '<'] then none
    else { s with cells := .operator cs :: s.cells }.addSlot key
  | _ => none

def take (s : Outliner) : Piece → Option Outliner
  | .char c => s.step c
  | .slot key => s.takeSlot key

def takeAll (s : Outliner) : List Piece → Option Outliner
  | [] => some s
  | p :: ps => (s.take p).bind fun s => s.takeAll ps

def finish (s : Outliner) : Option (Except SyntaxFault (List Cell)) :=
  match finalActs s.mode with
  | .ok acts => (s.actAll acts).map fun s => .ok s.cells.reverse
  | .error fault => some (.error fault)

/-- What a reader of a text has read where this one has read the template. -/
def fill (values : List Char → List Char) (s : Outliner) : Lexer :=
  ⟨s.mode, s.parts.map fun parts => (parts.reverse.flatMap (WordPart.fill values)).reverse,
    s.cells.map (Cell.fill values)⟩

/-- The places of values met so far, first first. -/
def keys (s : Outliner) : List (List Char) :=
  s.cells.reverse.flatMap Cell.keys ++ (s.parts.getD []).reverse.filterMap WordPart.key?

end Outliner

/-- What the shell reads in a template, if that does not hang on the values. -/
def outline (template : String) : Option (Except SyntaxFault (List Cell)) :=
  (({} : Outliner).takeAll (pieces template)).bind Outliner.finish

def fillCells (values : List Char → List Char) (form : Except SyntaxFault (List Cell)) :
    Except SyntaxFault (List Token) :=
  form.map fun cells => cells.map (Cell.fill values)

def Piece.key? : Piece → Option (List Char)
  | .char _ => none
  | .slot key => some key

/-! ## Numbers before redirections -/

theorem mapM_plainDigit_of_digits {parts : List WordPart} {ds : List Char}
    (h : parts.mapM WordPart.digit? = some ds) (values : List Char → List Char) :
    (parts.flatMap (WordPart.fill values)).mapM Lexer.plainDigit? = some ds := by
  induction parts generalizing ds with
  | nil => exact h
  | cons p parts ih =>
    cases p with
    | bit b =>
      rw [List.mapM_cons] at h
      cases hb : Lexer.plainDigit? b with
      | none => simp [WordPart.digit?, hb] at h
      | some d =>
        cases hrest : parts.mapM WordPart.digit? with
        | none => simp [WordPart.digit?, hb, hrest] at h
        | some rest =>
          have hds : d :: rest = ds := by simpa [WordPart.digit?, hb, hrest] using h
          rw [List.flatMap_cons, WordPart.fill, List.singleton_append, List.mapM_cons, hb,
            ih hrest, ← hds]
          rfl
    | slot key => simp [WordPart.digit?] at h

theorem keys_of_digits {parts : List WordPart} {ds : List Char}
    (h : parts.mapM WordPart.digit? = some ds) : parts.filterMap WordPart.key? = [] := by
  induction parts generalizing ds with
  | nil => rfl
  | cons p parts ih =>
    rw [List.mapM_cons] at h
    cases p with
    | bit b =>
      cases hrest : parts.mapM WordPart.digit? with
      | none =>
        cases hb : Lexer.plainDigit? b <;> simp [WordPart.digit?, hb, hrest] at h
      | some rest => exact ih hrest
    | slot key => simp [WordPart.digit?] at h

theorem mapM_plainDigit_eq_none {bits : List Bit} {b : Bit} (hb : b ∈ bits)
    (hd : Lexer.plainDigit? b = none) : bits.mapM Lexer.plainDigit? = none := by
  induction bits with
  | nil => exact absurd hb List.not_mem_nil
  | cons x bits ih =>
    rw [List.mapM_cons]
    rcases List.mem_cons.1 hb with rfl | hin
    · rw [hd]
      rfl
    · rw [ih hin]
      cases Lexer.plainDigit? x <;> rfl

theorem mapM_plainDigit_of_not_numeric {parts : List WordPart}
    (h : parts.all WordPart.isNumeric = false) (values : List Char → List Char) :
    (parts.flatMap (WordPart.fill values)).mapM Lexer.plainDigit? = none := by
  rw [List.all_eq_false] at h
  obtain ⟨p, hp, hnot⟩ := h
  cases p with
  | bit b =>
    have hd : Lexer.plainDigit? b = none := by simpa [WordPart.isNumeric] using hnot
    exact mapM_plainDigit_eq_none (List.mem_flatMap.2 ⟨_, hp, List.mem_singleton_self b⟩) hd
  | slot key => exact absurd rfl hnot

/-! ## Reading with the values in place -/

namespace Outliner

variable {s s' : Outliner} {values : List Char → List Char}

theorem fill_endAs (s : Outliner) (cell : Cell) :
    (s.fill values).endAs (cell.fill values) = (s.endAs cell).fill values := rfl

theorem fill_endWord (s : Outliner) : (s.fill values).endWord = s.endWord.fill values := by
  unfold Lexer.endWord endWord
  cases hp : s.parts with
  | none => simp [fill, hp]
  | some parts =>
    simp only [fill, hp, Option.map_some, List.reverse_reverse]
    rfl

theorem fill_endBefore {c : Char} (h : s.endBefore c = some s') :
    (s.fill values).endBefore c = s'.fill values := by
  cases hp : s.parts with
  | none =>
    have hbits : (s.fill values).bits = none := by simp [fill, hp]
    rw [endBefore, hp] at h
    obtain rfl := Option.some.inj h
    rw [Lexer.endBefore, hbits]
  | some parts =>
    have hbits : (s.fill values).bits
        = some (parts.reverse.flatMap (WordPart.fill values)).reverse := by simp [fill, hp]
    rw [endBefore, hp] at h
    rw [Lexer.endBefore, hbits]
    simp only [List.reverse_reverse] at h ⊢
    cases hds : parts.reverse.mapM WordPart.digit? with
    | some ds =>
      rw [hds] at h
      obtain rfl := Option.some.inj h
      rw [mapM_plainDigit_of_digits hds values]
      dsimp only
      split
      · exact fill_endAs s (.descriptor ds)
      · exact fill_endWord s
    | none =>
      rw [hds] at h
      dsimp only at h
      split at h
      · exact absurd h (by simp)
      · rename_i hcond
        obtain rfl := Option.some.inj h
        -- the values may make a number of the word only where it is no descriptor
        by_cases hr : startsRedirection c = true
        · have hnot : parts.reverse.all WordPart.isNumeric = false := by
            rw [hr, Bool.true_and] at hcond
            exact Bool.eq_false_iff.2 hcond
          rw [mapM_plainDigit_of_not_numeric hnot values]
          exact fill_endWord s
        · simp only [hr]
          split
          · exact fill_endWord s
          · exact fill_endWord s

theorem fill_act {a : Act} (h : s.act a = some s') :
    (s.fill values).act a = s'.fill values := by
  cases a with
  | add b =>
    obtain rfl := Option.some.inj h
    cases hp : s.parts <;> simp [Lexer.act, fill, hp, WordPart.fill]
  | endWord =>
    obtain rfl := Option.some.inj h
    exact fill_endWord s
  | endBefore c => exact fill_endBefore h
  | emit cs =>
    obtain rfl := Option.some.inj h
    rfl

theorem fill_actAll {acts : List Act} (h : s.actAll acts = some s') :
    (s.fill values).actAll acts = s'.fill values := by
  induction acts generalizing s with
  | nil =>
    obtain rfl := Option.some.inj h
    rfl
  | cons a acts ih =>
    obtain ⟨mid, hact, hrest⟩ := Option.bind_eq_some_iff.1 h
    rw [← ih hrest, ← fill_act hact]
    rfl

theorem fill_step {c : Char} (h : s.step c = some s') :
    (s.fill values).step c = s'.fill values := by
  have hfresh : (s.fill values).bits.isNone = s.parts.isNone := by simp [fill]
  rw [Lexer.step, hfresh]
  exact fill_actAll h

theorem fill_addSlot {key : List Char} (h : s.addSlot key = some s') :
    (⟨.bare, some ((valueBits (values key)).reverse ++ (s.fill values).bits.getD []),
      (s.fill values).tokens⟩ : Lexer) = s'.fill values := by
  unfold addSlot at h
  split at h
  · exact absurd h (by simp)
  · obtain rfl := Option.some.inj h
    cases hp : s.parts <;> simp [fill, hp, WordPart.fill]

theorem fill_takeSlot {key : List Char} (h : s.takeSlot key = some s') :
    (s.fill values).steps (quoteChars (values key)) = s'.fill values := by
  unfold takeSlot at h
  split at h
  · rename_i hmode
    have hs : s.fill values = ⟨.bare, (s.fill values).bits, (s.fill values).tokens⟩ := by
      rw [fill, hmode]
    rw [hs, Lexer.steps_quoteChars]
    exact fill_addSlot h
  · rename_i cs hmode
    split at h
    · exact absurd h (by simp)
    · rename_i hop
      have hs : s.fill values
          = ⟨.unfinished (.operator cs), (s.fill values).bits, (s.fill values).tokens⟩ := by
        rw [fill, hmode]
      rw [hs, Lexer.steps_quoteChars_behind hop]
      exact fill_addSlot h
  · exact absurd h (by simp)

/-- Whatever the values, the shell reads the template as it was read without them. -/
theorem fill_takeAll {ps : List Piece} {quoted : List Char → Option (List Char)}
    (hq : ∀ key, .slot key ∈ ps → quoted key = some (quoteChars (values key)))
    (h : s.takeAll ps = some s') : (s.fill values).steps (fillAll quoted ps) = s'.fill values := by
  induction ps generalizing s with
  | nil =>
    obtain rfl := Option.some.inj h
    rfl
  | cons p ps ih =>
    obtain ⟨mid, htake, hrest⟩ := Option.bind_eq_some_iff.1 h
    have hp : (s.fill values).steps (p.fill quoted) = mid.fill values := by
      cases p with
      | char c => exact fill_step htake
      | slot key =>
        rw [Piece.fill, hq key List.mem_cons_self]
        exact fill_takeSlot htake
    rw [fillAll, List.flatMap_cons, Lexer.steps_append, hp]
    exact ih (fun key hin => hq key (List.mem_cons_of_mem p hin)) hrest

theorem fill_finish {form : Except SyntaxFault (List Cell)} (h : s.finish = some form) :
    (s.fill values).finish = fillCells values form := by
  have hmode : (s.fill values).mode = s.mode := rfl
  rw [Lexer.finish, hmode]
  unfold finish at h
  split at h
  · rename_i acts hacts
    obtain ⟨last, hlast, rfl⟩ := Option.map_eq_some_iff.1 h
    rw [hacts, Except.map, fill_actAll hlast]
    simp [fillCells, fill, Except.map]
  · rename_i fault hacts
    obtain rfl := Option.some.inj h
    rw [hacts]
    rfl

/-! ## The places of the values -/

theorem keys_endWord (s : Outliner) : s.endWord.keys = s.keys := by
  unfold endWord
  split
  · rename_i parts hp
    simp [keys, endAs, hp, Cell.keys]
  · rfl

theorem keys_act {a : Act} (h : s.act a = some s') : s'.keys = s.keys := by
  cases a with
  | add b =>
    obtain rfl := Option.some.inj h
    cases hp : s.parts <;> simp [keys, hp, WordPart.key?]
  | endWord =>
    obtain rfl := Option.some.inj h
    exact keys_endWord s
  | endBefore c =>
    rw [act, endBefore] at h
    split at h
    · rename_i parts hp
      split at h
      · rename_i ds hds
        obtain rfl := Option.some.inj h
        split
        · simp [keys, endAs, hp, Cell.keys, keys_of_digits hds]
        · exact keys_endWord s
      · split at h
        · exact absurd h (by simp)
        · obtain rfl := Option.some.inj h
          exact keys_endWord s
    · obtain rfl := Option.some.inj h
      rfl
  | emit cs =>
    obtain rfl := Option.some.inj h
    simp [keys, Cell.keys]

theorem keys_actAll {acts : List Act} (h : s.actAll acts = some s') : s'.keys = s.keys := by
  induction acts generalizing s with
  | nil =>
    obtain rfl := Option.some.inj h
    rfl
  | cons a acts ih =>
    obtain ⟨mid, hact, hrest⟩ := Option.bind_eq_some_iff.1 h
    rw [ih hrest, keys_act hact]

theorem keys_addSlot {key : List Char} (h : s.addSlot key = some s') :
    s'.keys = s.keys ++ [key] := by
  unfold addSlot at h
  split at h
  · exact absurd h (by simp)
  · obtain rfl := Option.some.inj h
    cases hp : s.parts <;> simp [keys, hp, WordPart.key?]

theorem keys_take {p : Piece} (h : s.take p = some s') : s'.keys = s.keys ++ p.key?.toList := by
  cases p with
  | char c =>
    have hstep := keys_actAll h
    simpa [Piece.key?, keys] using hstep
  | slot key =>
    rw [take, takeSlot] at h
    split at h
    · exact keys_addSlot h
    · split at h
      · exact absurd h (by simp)
      · have hslot := keys_addSlot h
        simpa [keys, Cell.keys, Piece.key?] using hslot
    · exact absurd h (by simp)

theorem keys_takeAll {ps : List Piece} (h : s.takeAll ps = some s') :
    s'.keys = s.keys ++ ps.filterMap Piece.key? := by
  induction ps generalizing s with
  | nil =>
    obtain rfl := Option.some.inj h
    simp
  | cons p ps ih =>
    obtain ⟨mid, htake, hrest⟩ := Option.bind_eq_some_iff.1 h
    rw [ih hrest, keys_take htake, List.append_assoc]
    cases hp : p.key? <;> simp [hp]

theorem parts_of_endWord_last {acts : List Act} (hlast : acts.getLast? = some .endWord)
    (h : s.actAll acts = some s') : s'.parts = none := by
  induction acts generalizing s with
  | nil => exact absurd hlast (by simp)
  | cons a acts ih =>
    obtain ⟨mid, hact, hrest⟩ := Option.bind_eq_some_iff.1 h
    cases acts with
    | nil =>
      obtain rfl := Option.some.inj hrest
      obtain rfl : a = .endWord := by simpa using hlast
      obtain rfl := Option.some.inj hact
      unfold endWord
      split
      · rfl
      · assumption
    | cons b acts => exact ih (by simpa using hlast) hrest

theorem finalActs_getLast {mode : Mode} {acts : List Act} (h : finalActs mode = .ok acts) :
    acts.getLast? = some .endWord := by
  cases mode with
  | bare | escaped | comment =>
    cases h
    rfl
  | single | double | doubleEscaped | backquoted => exact absurd h (by simp [finalActs])
  | unfinished u | joining u =>
    rw [finalActs] at h
    split at h
    · exact absurd h (by simp)
    · cases h
      rfl
  | bracket b quoted => cases b <;> cases quoted <;> exact absurd h (by simp [finalActs])

theorem keys_finish {cells : List Cell} (h : s.finish = some (.ok cells)) :
    cells.flatMap Cell.keys = s.keys := by
  unfold finish at h
  split at h
  · rename_i acts hacts
    obtain ⟨last, hlast, hcells⟩ := Option.map_eq_some_iff.1 h
    have hnone := parts_of_endWord_last (finalActs_getLast hacts) hlast
    rw [← keys_actAll hlast, ← Except.ok.inj hcells, keys, hnone]
    simp
  · exact absurd h (by simp)

end Outliner

end HookPolicy.Shell
