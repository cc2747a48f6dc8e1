import HookPolicy.Proofs.Shell.Outline

/-!
# What an outline refuses

An outline refuses a place for a value, or the end of a word that holds one. Here-documents apart,
it refuses only what breaks: there are values after which the shell goes on in different ways.
-/

namespace HookPolicy.Shell

def Bit.expands : Bit → Bool
  | .expand _ _ => true
  | _ => false

/-- What has a meaning of its own in a token. -/
def Token.skeleton : Token → Token
  | .word bits => .word (bits.filter Bit.expands)
  | t => t

theorem valueBits_not_expands (v : List Char) : (valueBits v).filter Bit.expands = [] := by
  rw [List.filter_eq_nil_iff]
  intro b hb
  have hprotected : ∀ c, b ∈ protectedBits c → ¬ b.expands = true := by
    intro c hin
    unfold protectedBits at hin
    split at hin <;> simp at hin <;> rcases hin with rfl | rfl <;> simp [Bit.expands]
  unfold valueBits at hb
  split at hb
  · simp only [List.mem_singleton] at hb
    simp [hb, Bit.expands]
  · split at hb
    · rcases List.mem_cons.1 hb with rfl | hin
      · simp [Bit.expands]
      · obtain ⟨c, -, hc⟩ := List.mem_flatMap.1 hin
        exact hprotected c hc
    · obtain ⟨c, -, rfl⟩ := List.mem_map.1 hb
      simp [Bit.expands]

theorem skeleton_fill (values values' : List Char → List Char) (cell : Cell) :
    (cell.fill values).skeleton = (cell.fill values').skeleton := by
  cases cell with
  | word parts =>
    simp only [Cell.fill, Token.skeleton, List.filter_flatMap]
    congr 2
    funext p
    cases p with
    | bit b => rfl
    | slot key => simp [WordPart.fill, valueBits_not_expands]
  | operator cs => rfl
  | descriptor ds => rfl

namespace Lexer

theorem act_mode (s : Lexer) (a : Act) : (s.act a).mode = s.mode := by
  cases a with
  | add b => rfl
  | endWord =>
    rw [act, endWord]
    split <;> rfl
  | endBefore c =>
    rw [act, endBefore, endWord]
    repeat' split
    all_goals rfl
  | emit cs => rfl

theorem step_mode (s : Lexer) (c : Char) :
    (s.step c).mode = (move s.mode s.bits.isNone c).mode := by
  have hall : ∀ (acts : List Act) (s : Lexer), (s.actAll acts).mode = s.mode := by
    intro acts
    induction acts with
    | nil => exact fun s => rfl
    | cons a acts ih => exact fun s => (ih (s.act a)).trans (act_mode s a)
  exact hall _ _

/-- Some values change how the shell goes on, or what it has met before. -/
def Breaks (s : Lexer) : Prop :=
  ∃ v w, (s.steps (quoteChars v)).mode ≠ (s.steps (quoteChars w)).mode ∨
    (s.steps (quoteChars v)).tokens ≠ (s.steps (quoteChars w)).tokens

theorem Breaks.of_modes {s : Lexer} (v w : List Char) {m n : Mode}
    (hv : (s.steps (quoteChars v)).mode = m) (hw : (s.steps (quoteChars w)).mode = n)
    (hne : m ≠ n) : s.Breaks :=
  ⟨v, w, .inl (by rw [hv, hw]; exact hne)⟩

variable {bits : Option (List Bit)} {tokens : List Token}

theorem breaks_comment : Breaks ⟨.comment, bits, tokens⟩ := by
  -- a line end ends the comment even between quotes, and the second quote opens
  have hline : (Lexer.steps ⟨.comment, bits, tokens⟩ ['\x27', '\n']).mode
      = .unfinished (.operator ['\n']) := step_mode _ _
  have hquote := step_mode (Lexer.steps ⟨.comment, bits, tokens⟩ ['\x27', '\n']) '\x27'
  rw [hline] at hquote
  exact .of_modes ['x'] ['\n'] (m := .comment) (n := .single) rfl hquote (by simp)

theorem breaks_joining (u : Unfinished) : Breaks ⟨.joining u, bits, tokens⟩ := by
  cases hq : u.quoted with
  | false =>
    have hx : (Lexer.steps ⟨.joining u, bits, tokens⟩ (quoteChars ['x'])).mode = .bare := by
      cases u <;> cases hq <;> rfl
    have hblank : (Lexer.steps ⟨.joining u, bits, tokens⟩ (quoteChars [' '])).mode = .single := by
      cases u <;> cases hq <;> rfl
    exact .of_modes _ _ hx hblank (by simp)
  | true =>
    have hx : (Lexer.steps ⟨.joining u, bits, tokens⟩ (quoteChars ['x'])).mode = .double := by
      cases u <;> cases hq <;> rfl
    have hquote : (Lexer.steps ⟨.joining u, bits, tokens⟩ (quoteChars ['"'])).mode = .single := by
      cases u <;> cases hq <;> rfl
    exact .of_modes _ _ hx hquote (by simp)

theorem breaks_bracket (b : Bracket) (quoted : Bool) (cs : List Char) (depth : Nat)
    (inner : Inner) : Breaks ⟨.bracket b quoted cs depth inner, bits, tokens⟩ := by
  have hplain : ∀ c, c = 'x' ∨ c = 'y' →
      (Lexer.steps ⟨.bracket b quoted cs depth inner, bits, tokens⟩ [c]).mode
        = .bracket b quoted (c :: cs) depth (inner.step (b.singles quoted) c) := by
    rintro c (rfl | rfl) <;> cases b <;> cases inner <;> rfl
  exact .of_modes ['x'] ['y'] (hplain 'x' (.inl rfl)) (hplain 'y' (.inr rfl)) (by simp)

theorem breaks_document : Breaks ⟨.unfinished (.operator ['<', '<']), bits, tokens⟩ := by
  refine ⟨['x'], ['-', 'x'], .inr fun heq => ?_⟩
  exact absurd (List.head_eq_of_cons_eq heq) (by simp)

theorem breaks_word {u : Unfinished} (h : u.isOperator = false) :
    Breaks ⟨.unfinished u, bits, tokens⟩ := by
  have hquote : (Lexer.steps ⟨.unfinished u, bits, tokens⟩ (quoteChars ['%'])).mode
      = around u.quoted := by
    cases u with
    | operator cs => exact absurd h (by simp [Unfinished.isOperator])
    | dollar quoted => cases quoted <;> rfl
    | name quoted cs => cases quoted <;> rfl
  have hname : ∃ cs, (Lexer.steps ⟨.unfinished u, bits, tokens⟩ (quoteChars ['x'])).mode
      = .unfinished (.name u.quoted cs) := by
    cases u with
    | operator cs => exact absurd h (by simp [Unfinished.isOperator])
    | dollar quoted => exact ⟨['x'], rfl⟩
    | name quoted cs => exact ⟨'x' :: cs, rfl⟩
  obtain ⟨cs, hname⟩ := hname
  exact .of_modes _ _ hname hquote (by cases u.quoted <;> simp [around])

theorem breaks_backquoted (quoted : Bool) (cs : List Char) (escaped : Bool) :
    Breaks ⟨.backquoted quoted cs escaped, bits, tokens⟩ := by
  cases escaped with
  | false =>
    exact .of_modes ['x'] ['y'] (m := .backquoted quoted ('x' :: cs) false)
      (n := .backquoted quoted ('y' :: cs) false) rfl rfl (by simp)
  | true =>
    exact .of_modes ['x'] ['y'] (m := .backquoted quoted ('x' :: '\\' :: cs) false)
      (n := .backquoted quoted ('y' :: '\\' :: cs) false) rfl rfl (by simp)

end Lexer

/-- A mode in which a word can begin or go on with any value. -/
def Mode.TakesValue : Mode → Prop
  | .bare => True
  | .unfinished (.operator cs) => cs ≠ ['<', '<']
  | _ => False

theorem Lexer.breaks_of_not_takesValue {s : Lexer} (h : ¬ s.mode.TakesValue) : s.Breaks := by
  obtain ⟨mode, bits, tokens⟩ := s
  cases mode with
  | bare => exact absurd trivial h
  | escaped => exact .of_modes ['x'] [' '] (m := .bare) (n := .single) rfl rfl (by simp)
  | single => exact .of_modes ['x'] ['\x27'] (m := .single) (n := .bare) rfl rfl (by simp)
  | double | doubleEscaped =>
    exact .of_modes ['x'] ['"'] (m := .double) (n := .single) rfl rfl (by simp)
  | comment => exact breaks_comment
  | unfinished u =>
    cases u with
    | operator cs =>
      have hcs : cs = ['<', '<'] := Decidable.not_not.1 h
      subst hcs
      exact breaks_document
    | dollar quoted => exact breaks_word rfl
    | name quoted cs => exact breaks_word rfl
  | joining u => exact breaks_joining u
  | bracket b quoted cs depth inner => exact breaks_bracket b quoted cs depth inner
  | backquoted quoted cs escaped => exact breaks_backquoted quoted cs escaped

namespace Outliner

variable {s : Outliner}

theorem inDocument_eq_false (hdoc : ∀ cell ∈ s.cells, cell.beginsDocument = false) :
    s.inDocument = false := by
  refine List.any_eq_false.2 fun cell hin => ?_
  rw [hdoc cell ((List.dropWhile_sublist _).subset hin)]
  exact Bool.false_ne_true

/-- The operator in hand is on a line that has not ended, or is the end of a line itself. -/
theorem inDocument_cons_operator (hdoc : ∀ cell ∈ s.cells, cell.beginsDocument = false)
    (cs : List Char) :
    ({ s with cells := .operator cs :: s.cells } : Outliner).inDocument = false := by
  by_cases hcs : cs = ['\n']
  · subst hcs
    apply inDocument_eq_false
    intro cell hin
    rcases List.mem_cons.1 hin with rfl | hin
    · rfl
    · exact hdoc cell hin
  · have hne : (Cell.operator cs != .operator ['\n']) = true := by simpa using hcs
    simp only [inDocument, List.dropWhile_cons, hne, if_true]
    exact inDocument_eq_false hdoc

/-- A place is refused only where values break out of it, as long as no here-document has begun. -/
theorem breaks_of_takeSlot_eq_none {key : List Char} (h : s.takeSlot key = none)
    (hdoc : ∀ cell ∈ s.cells, cell.beginsDocument = false) (values : List Char → List Char) :
    (s.fill values).Breaks := by
  apply Lexer.breaks_of_not_takesValue
  intro htakes
  have hmode : (s.fill values).mode = s.mode := rfl
  rw [hmode] at htakes
  unfold takeSlot at h
  split at h
  · rw [addSlot, inDocument_eq_false hdoc] at h
    exact absurd h (by simp)
  · rename_i cs hop
    rw [hop] at htakes
    rw [if_neg htakes, addSlot, inDocument_cons_operator hdoc cs] at h
    exact absurd h (by simp)
  · rename_i hbare hop
    unfold Mode.TakesValue at htakes
    split at htakes
    · rename_i hmode
      exact hbare hmode
    · rename_i cs hmode
      exact hop cs hmode
    · exact htakes

theorem mapM_plainDigit_of_numeric {parts : List WordPart}
    (h : parts.all WordPart.isNumeric = true) :
    ∃ ds, (parts.flatMap (WordPart.fill fun _ => ['1'])).mapM Lexer.plainDigit? = some ds := by
  induction parts with
  | nil => exact ⟨[], rfl⟩
  | cons p parts ih =>
    rw [List.all_cons, Bool.and_eq_true] at h
    obtain ⟨ds, hds⟩ := ih h.2
    have hp : ∃ d, (p.fill fun _ => ['1']).mapM Lexer.plainDigit? = some [d] := by
      cases p with
      | bit b =>
        obtain ⟨d, hd⟩ := Option.isSome_iff_exists.1 h.1
        exact ⟨d, by simp [WordPart.fill, hd]⟩
      | slot key => exact ⟨'1', rfl⟩
    obtain ⟨d, hd⟩ := hp
    exact ⟨d :: ds, by simp [List.mapM_append, hd, hds]⟩

theorem exists_slot_of_numeric {parts : List WordPart} (h : parts.all WordPart.isNumeric = true)
    (hdigits : parts.mapM WordPart.digit? = none) : ∃ key, .slot key ∈ parts := by
  induction parts with
  | nil => exact absurd hdigits (by simp)
  | cons p parts ih =>
    rw [List.all_cons, Bool.and_eq_true] at h
    cases p with
    | slot key => exact ⟨key, List.mem_cons_self⟩
    | bit b =>
      obtain ⟨d, hd⟩ := Option.isSome_iff_exists.1 h.1
      have hrest : parts.mapM WordPart.digit? = none := by
        cases hm : parts.mapM WordPart.digit? with
        | none => rfl
        | some ds => simp [WordPart.digit?, hd, hm] at hdigits
      obtain ⟨key, hin⟩ := ih h.2 hrest
      exact ⟨key, List.mem_cons_of_mem _ hin⟩

/-- The end of a word is refused only where it is a number for some values and none for others. -/
theorem endBefore_ne_of_eq_none {c : Char} (h : s.endBefore c = none) :
    ((s.fill fun _ => ['1']).endBefore c).tokens.map Token.skeleton ≠
      ((s.fill fun _ => ['x']).endBefore c).tokens.map Token.skeleton := by
  unfold endBefore at h
  split at h
  · rename_i parts hp
    split at h
    · exact absurd h (by simp)
    · rename_i hdigits
      split at h
      · rename_i hcond
        rw [Bool.and_eq_true] at hcond
        obtain ⟨hr, hnum⟩ := hcond
        obtain ⟨ds, hds⟩ := mapM_plainDigit_of_numeric hnum
        obtain ⟨key, hkey⟩ := exists_slot_of_numeric hnum hdigits
        have hx : (parts.reverse.flatMap (WordPart.fill fun _ => ['x'])).mapM Lexer.plainDigit?
            = none :=
          mapM_plainDigit_eq_none (b := .plain 'x')
            (List.mem_flatMap.2 ⟨_, hkey, List.mem_singleton_self _⟩) rfl
        have hnumber : ∃ tokens, ((s.fill fun _ => ['1']).endBefore c).tokens
            = .descriptor ds :: tokens := by
          simp [fill, hp, Lexer.endBefore, hds, hr, Lexer.endAs]
        have hword : ∃ bits tokens, ((s.fill fun _ => ['x']).endBefore c).tokens
            = .word bits :: tokens := by
          simp [fill, hp, Lexer.endBefore, hx, Lexer.endWord, Lexer.endAs]
        obtain ⟨tokens, hnumber⟩ := hnumber
        obtain ⟨bits, tokens', hword⟩ := hword
        rw [hnumber, hword]
        simp [Token.skeleton]
      · exact absurd h (by simp)
  · exact absurd h (by simp)

end Outliner

/-! ## Where the reading of a template stops -/

/-- Acts that end no word before an operator. None of them is ever refused. -/
def Quiet (acts : List Act) : Prop := ∀ a ∈ acts, ∀ c, a ≠ .endBefore c

theorem quiet_nil : Quiet [] := fun _ h => absurd h List.not_mem_nil

theorem quiet_cons {a : Act} {acts : List Act} (ha : ∀ c, a ≠ .endBefore c) (h : Quiet acts) :
    Quiet (a :: acts) := by
  intro b hb
  rcases List.mem_cons.1 hb with rfl | hin
  · exact ha
  · exact h b hin

theorem quiet_add (b : Bit) : Quiet [.add b] := quiet_cons (by simp) quiet_nil

theorem Unfinished.act_ne (u : Unfinished) (c : Char) : u.act ≠ .endBefore c := by
  cases u <;> simp [Unfinished.act]

/-- A word is ended before an operator by the operator itself, as the last act of its move. -/
def EndsLast (acts : List Act) (c : Char) : Prop :=
  Quiet acts ∨ ∃ pre, Quiet pre ∧ acts = pre ++ [.endBefore c]

theorem EndsLast.cons {a : Act} {acts : List Act} {c : Char} (ha : ∀ c, a ≠ .endBefore c)
    (h : EndsLast acts c) : EndsLast (a :: acts) c := by
  rcases h with hq | ⟨pre, hq, rfl⟩
  · exact .inl (quiet_cons ha hq)
  · exact .inr ⟨a :: pre, quiet_cons ha hq, rfl⟩

theorem moveBare_endsLast (fresh : Bool) (c : Char) : EndsLast (moveBare fresh c).acts c := by
  unfold moveBare
  split
  · exact .inl (quiet_cons (by simp) quiet_nil)
  · split
    · exact .inr ⟨[], quiet_nil, rfl⟩
    · left
      repeat' split
      all_goals first | exact quiet_nil | exact quiet_add _

theorem moveDouble_quiet (c : Char) : Quiet (moveDouble c).acts := by
  unfold moveDouble
  repeat' split
  all_goals first | exact quiet_nil | exact quiet_add _

theorem moveEscaped_quiet (c : Char) : Quiet (moveEscaped c).acts := by
  unfold moveEscaped
  split
  · exact quiet_nil
  · exact quiet_add _

theorem moveDoubleEscaped_quiet (c : Char) : Quiet (moveDoubleEscaped c).acts := by
  unfold moveDoubleEscaped
  split
  · exact quiet_nil
  · split
    · exact quiet_add _
    · exact quiet_cons (by simp) (quiet_add _)

theorem Unfinished.next?_quiet {u : Unfinished} {c : Char} {m : Move} (h : u.next? c = some m) :
    Quiet m.acts := by
  unfold Unfinished.next? at h
  repeat' split at h
  all_goals cases h
  all_goals first | exact quiet_nil | exact quiet_add _

theorem move_endsLast (mode : Mode) (fresh : Bool) (c : Char) :
    EndsLast (move mode fresh c).acts c := by
  cases mode with
  | bare => exact moveBare_endsLast fresh c
  | escaped => exact .inl (moveEscaped_quiet c)
  | single =>
    rw [move]
    split
    · exact .inl quiet_nil
    · exact .inl (quiet_add _)
  | double => exact .inl (moveDouble_quiet c)
  | doubleEscaped => exact .inl (moveDoubleEscaped_quiet c)
  | comment =>
    rw [move]
    split
    · exact moveBare_endsLast fresh c
    · exact .inl quiet_nil
  | unfinished u =>
    rw [move]
    cases hnext : u.next? c with
    | some m => exact .inl (u.next?_quiet hnext)
    | none =>
      rw [Option.getD_none, Unfinished.moveBehind]
      split
      · exact .inl quiet_nil
      · refine EndsLast.cons u.act_ne ?_
        split
        · exact .inl (moveDouble_quiet c)
        · exact moveBare_endsLast _ c
  | joining u =>
    rw [move, Unfinished.moveJoining]
    split
    · exact .inl quiet_nil
    · refine EndsLast.cons u.act_ne ?_
      split
      · exact .inl (moveDoubleEscaped_quiet c)
      · exact .inl (moveEscaped_quiet c)
  | bracket b quoted cs depth inner =>
    left
    unfold move Bracket.move
    dsimp only
    repeat' split
    all_goals first | exact quiet_nil | exact quiet_add _
  | backquoted quoted cs escaped =>
    left
    rw [move, moveBackquoted]
    repeat' split
    all_goals first | exact quiet_nil | exact quiet_add _

theorem finalActs_quiet {mode : Mode} {acts : List Act} (h : finalActs mode = .ok acts) :
    Quiet acts := by
  cases mode with
  | bare | comment =>
    cases h
    exact quiet_cons (by simp) quiet_nil
  | escaped =>
    cases h
    exact quiet_cons (by simp) (quiet_cons (by simp) quiet_nil)
  | single | double | doubleEscaped | backquoted => exact absurd h (by simp [finalActs])
  | unfinished u =>
    rw [finalActs] at h
    split at h
    · exact absurd h (by simp)
    · cases h
      exact quiet_cons u.act_ne (quiet_cons (by simp) quiet_nil)
  | joining u =>
    rw [finalActs] at h
    split at h
    · exact absurd h (by simp)
    · cases h
      exact quiet_cons u.act_ne (quiet_cons (by simp) (quiet_cons (by simp) quiet_nil))
  | bracket b quoted => cases b <;> cases quoted <;> exact absurd h (by simp [finalActs])

namespace Outliner

variable {s : Outliner}

theorem actAll_of_quiet {acts : List Act} (h : Quiet acts) : ∃ s', s.actAll acts = some s' := by
  induction acts generalizing s with
  | nil => exact ⟨s, rfl⟩
  | cons a acts ih =>
    have ha : ∃ s', s.act a = some s' := by
      cases a with
      | endBefore c => exact absurd rfl (h _ List.mem_cons_self c)
      | _ => exact ⟨_, rfl⟩
    obtain ⟨mid, hmid⟩ := ha
    obtain ⟨last, hlast⟩ := ih (s := mid) fun b hb => h b (List.mem_cons_of_mem a hb)
    exact ⟨last, Option.bind_eq_some_iff.2 ⟨mid, hmid, hlast⟩⟩

theorem actAll_append (s : Outliner) (acts more : List Act) :
    s.actAll (acts ++ more) = (s.actAll acts).bind fun s => s.actAll more := by
  induction acts generalizing s with
  | nil => rfl
  | cons a acts ih =>
    rw [List.cons_append, actAll, actAll, Option.bind_assoc]
    exact congrArg _ (funext ih)

/-- A character is refused only where it ends a word that is a number for some values and none for
others. -/
theorem step_ne_of_eq_none {c : Char} (h : s.step c = none) :
    ((s.fill fun _ => ['1']).step c).tokens.map Token.skeleton ≠
      ((s.fill fun _ => ['x']).step c).tokens.map Token.skeleton := by
  have hstep : ∀ values, (s.fill values).step c
      = ({ s with mode := (move s.mode s.parts.isNone c).mode }.fill values).actAll
          (move s.mode s.parts.isNone c).acts := by
    intro values
    have hfresh : (s.fill values).bits.isNone = s.parts.isNone := by simp [fill]
    rw [Lexer.step, hfresh]
    rfl
  rw [hstep, hstep]
  rcases move_endsLast s.mode s.parts.isNone c with hq | ⟨pre, hq, hacts⟩
  · obtain ⟨s', hs'⟩ := actAll_of_quiet hq
    rw [step, hs'] at h
    exact absurd h (by simp)
  · obtain ⟨mid, hmid⟩ := actAll_of_quiet hq
    rw [step, hacts, actAll_append, hmid] at h
    have hend : mid.endBefore c = none := by
      cases hm : mid.endBefore c with
      | none => rfl
      | some s' => simp [actAll, act, hm] at h
    have hfill : ∀ values,
        ({ s with mode := (move s.mode s.parts.isNone c).mode }.fill values).actAll
          (move s.mode s.parts.isNone c).acts = (mid.fill values).endBefore c := by
      intro values
      rw [hacts, Lexer.actAll, List.foldl_append]
      exact congrArg (fun t : Lexer => t.endBefore c) (fill_actAll hmid)
    rw [hfill, hfill]
    exact endBefore_ne_of_eq_none hend

theorem finish_isSome (s : Outliner) : s.finish.isSome = true := by
  unfold finish
  split
  · rename_i acts hacts
    obtain ⟨s', hs'⟩ := actAll_of_quiet (s := s) (finalActs_quiet hacts)
    rw [hs']
    rfl
  · rfl

theorem exists_refused {ps : List Piece} (h : s.takeAll ps = none) :
    ∃ before p after mid, ps = before ++ p :: after ∧ s.takeAll before = some mid ∧
      mid.take p = none := by
  induction ps generalizing s with
  | nil => exact absurd h (by simp [takeAll])
  | cons p ps ih =>
    cases htake : s.take p with
    | none => exact ⟨[], p, ps, s, rfl, rfl, htake⟩
    | some next =>
      have hrest : next.takeAll ps = none := by simpa [takeAll, htake] using h
      obtain ⟨before, q, after, mid, rfl, hmid, hq⟩ := ih hrest
      exact ⟨p :: before, q, after, mid, rfl, by simp [takeAll, htake, hmid], hq⟩

end Outliner

/-- The readings of a template up to a point, with one text in all places. -/
def readUpTo (before : List Piece) (text : List Char) : Lexer :=
  ({} : Lexer).steps (fillAll (fun _ => some (quoteChars text)) before)

theorem readUpTo_eq {before : List Piece} {s : Outliner}
    (h : ({} : Outliner).takeAll before = some s) (text : List Char) :
    readUpTo before text = s.fill fun _ => text :=
  Outliner.fill_takeAll (s := {}) (fun _ _ => rfl) h

/-- A template has no outline only where a here-document has begun, where values break out of their
place, or where a word is a number before a redirection for some values only. -/
theorem exists_break_of_outline_eq_none {template : String} (h : outline template = none) :
    ∃ before p after, pieces template = before ++ p :: after ∧
      ((∃ cs ∈ [['<', '<'], ['<', '<', '-']],
          ∀ text, .operator cs ∈ (readUpTo before text).tokens) ∨
        (∃ key, p = .slot key ∧ ∀ text, (readUpTo before text).Breaks) ∨
        ∃ c, p = .char c ∧ ((readUpTo before ['1']).step c).tokens.map Token.skeleton ≠
          ((readUpTo before ['x']).step c).tokens.map Token.skeleton) := by
  have hall : ({} : Outliner).takeAll (pieces template) = none := by
    cases ht : ({} : Outliner).takeAll (pieces template) with
    | none => rfl
    | some s =>
      have hsome := s.finish_isSome
      rw [outline, ht, Option.bind_some] at h
      rw [h] at hsome
      exact absurd hsome (by simp)
  obtain ⟨before, p, after, s, hpieces, hs, hp⟩ := Outliner.exists_refused hall
  refine ⟨before, p, after, hpieces, ?_⟩
  by_cases hdoc : ∀ cell ∈ s.cells, cell.beginsDocument = false
  · right
    cases p with
    | slot key =>
      refine .inl ⟨key, rfl, fun text => ?_⟩
      rw [readUpTo_eq hs]
      exact Outliner.breaks_of_takeSlot_eq_none hp hdoc _
    | char c =>
      refine .inr ⟨c, rfl, ?_⟩
      rw [readUpTo_eq hs, readUpTo_eq hs]
      exact Outliner.step_ne_of_eq_none hp
  · left
    obtain ⟨cell, hcell, hbegins⟩ : ∃ cell ∈ s.cells, cell.beginsDocument = true := by
      simpa using hdoc
    cases cell with
    | operator cs =>
      refine ⟨cs, by simpa [Cell.beginsDocument] using hbegins, fun text => ?_⟩
      rw [readUpTo_eq hs]
      exact List.mem_map.2 ⟨_, hcell, rfl⟩
    | word parts => exact absurd hbegins (by simp [Cell.beginsDocument])
    | descriptor ds => exact absurd hbegins (by simp [Cell.beginsDocument])

end HookPolicy.Shell
