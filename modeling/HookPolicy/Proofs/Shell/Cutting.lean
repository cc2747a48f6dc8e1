import HookPolicy.Proofs.Json.Fields
import HookPolicy.Proofs.Shell.Placement

/-!
# Placeholders are filled all at once

A template is cut into its placeholders, found from the left, and the characters between them. There
is one way to cut it. What a template gives for some values is put together from the pieces of this
cut and from nothing else, so no value is ever looked at for placeholders, and a new value for a key
shows at the placeholders of that key only (`substitute_piecewise`).
-/

namespace HookPolicy.Shell

/-- What may stand between the braces of a placeholder. -/
def IsKey (key : List Char) : Prop := key ≠ [] ∧ '\x7d' ∉ key

instance (key : List Char) : Decidable (IsKey key) := instDecidableAnd

def BeginsWithSlot (cs : List Char) : Prop := ∃ key rest, IsKey key ∧ cs = slotText key ++ rest

/-- The text of a piece in the template itself. -/
def Piece.written : Piece → List Char
  | .char c => [c]
  | .slot key => slotText key

def writtenAll (ps : List Piece) : List Char := ps.flatMap Piece.written

/-- The pieces make up the text, and a character stands alone only where no placeholder begins. -/
structure Cuts (text : List Char) (ps : List Piece) : Prop where
  whole : writtenAll ps = text
  keys : ∀ key, .slot key ∈ ps → IsKey key
  leftmost : ∀ before c behind, ps = before ++ .char c :: behind →
    ¬ BeginsWithSlot (c :: writtenAll behind)

variable {text cs key rest : List Char} {ps : List Piece}

/-! ## Placeholders in front -/

theorem slot?_slotText (hkey : IsKey key) (rest : List Char) :
    slot? (slotText key ++ rest) = some (key, rest) := by
  have hall : ∀ c ∈ key, (c != '\x7d') = true := fun c hc =>
    bne_iff_ne.2 fun heq => hkey.2 (heq ▸ hc)
  have htake : (key ++ '\x7d' :: '\x7d' :: rest).takeWhile (· != '\x7d') = key := by
    rw [List.takeWhile_append_of_pos hall, List.takeWhile_cons_of_neg (by decide), List.append_nil]
  have hdrop : (key ++ '\x7d' :: '\x7d' :: rest).dropWhile (· != '\x7d') =
      '\x7d' :: '\x7d' :: rest := by
    rw [List.dropWhile_append_of_pos hall, List.dropWhile_cons_of_neg (by decide)]
  have htext : slotText key ++ rest = '\x7b' :: '\x7b' :: (key ++ '\x7d' :: '\x7d' :: rest) := by
    simp [slotText]
  obtain ⟨c, cs, rfl⟩ := List.exists_cons_of_ne_nil hkey.1
  rw [htext, slot?, htake, hdrop]
  rfl

theorem isKey_of_slot? (h : slot? cs = some (key, rest)) : IsKey key := by
  unfold slot? at h
  split at h
  · split at h
    · cases h
    · rename_i htake hne
      cases h
      refine ⟨fun hnil => hne hnil, fun hmem => ?_⟩
      have hbrace := List.mem_takeWhile_imp hmem
      exact absurd hbrace (by decide)
    · cases h
  · cases h

theorem slot?_eq_some_iff : slot? cs = some (key, rest) ↔ IsKey key ∧ cs = slotText key ++ rest :=
  ⟨fun h => ⟨isKey_of_slot? h, eq_slotText_of_slot? h⟩, fun ⟨hkey, hcs⟩ =>
    hcs ▸ slot?_slotText hkey rest⟩

theorem slot?_eq_none_iff : slot? cs = none ↔ ¬ BeginsWithSlot cs := by
  rw [Option.eq_none_iff_forall_ne_some]
  refine ⟨?_, ?_⟩
  · rintro h ⟨key, rest, hslot⟩
    exact h (key, rest) (slot?_eq_some_iff.2 hslot)
  · rintro h ⟨key, rest⟩ hslot
    exact h ⟨key, rest, slot?_eq_some_iff.1 hslot⟩

/-! ## The cut of a text -/

theorem cuts_nil : Cuts [] [] where
  whole := rfl
  keys := nofun
  leftmost before c behind h := by simp at h

theorem Cuts.slot (h : Cuts rest ps) (hkey : IsKey key) :
    Cuts (slotText key ++ rest) (.slot key :: ps) where
  whole := congrArg (slotText key ++ ·) h.whole
  keys other hmem := by
    rcases List.mem_cons.1 hmem with heq | hmem
    · cases heq
      exact hkey
    · exact h.keys other hmem
  leftmost before c behind hsplit := by
    cases before with
    | nil => cases hsplit
    | cons p before =>
      obtain ⟨-, hsplit⟩ := List.cons.inj hsplit
      exact h.leftmost before c behind hsplit

theorem Cuts.char {c : Char} (h : Cuts rest ps) (hno : ¬ BeginsWithSlot (c :: rest)) :
    Cuts (c :: rest) (.char c :: ps) where
  whole := congrArg (c :: ·) h.whole
  keys key hmem := h.keys key ((List.mem_cons.1 hmem).resolve_left nofun)
  leftmost before d behind hsplit := by
    cases before with
    | nil =>
      cases hsplit
      rwa [h.whole]
    | cons p before =>
      obtain ⟨-, hsplit⟩ := List.cons.inj hsplit
      exact h.leftmost before d behind hsplit

theorem Cuts.tail {p : Piece} (h : Cuts text (p :: ps)) : Cuts (writtenAll ps) ps where
  whole := rfl
  keys key hmem := h.keys key (List.mem_cons_of_mem p hmem)
  leftmost before c behind hsplit :=
    h.leftmost (p :: before) c behind (congrArg (p :: ·) hsplit)

theorem piecesFrom_slot {c : Char} (h : slot? (c :: cs) = some (key, rest)) (found : List Piece) :
    piecesFrom found (c :: cs) = piecesFrom (.slot key :: found) rest := by
  rw [piecesFrom]
  split
  · rename_i key' rest' hslot
    cases h.symm.trans hslot
    rfl
  · rename_i hslot
    cases h.symm.trans hslot

theorem piecesFrom_char {c : Char} (h : slot? (c :: cs) = none) (found : List Piece) :
    piecesFrom found (c :: cs) = piecesFrom (.char c :: found) cs := by
  rw [piecesFrom]
  split
  · rename_i key' rest' hslot
    cases h.symm.trans hslot
  · rfl

/-- However a text is cut, its pieces are the ones that are found from the left. -/
theorem Cuts.piecesFrom_eq (h : Cuts text ps) (found : List Piece) :
    piecesFrom found text = found.reverse ++ ps := by
  induction ps generalizing text found with
  | nil =>
    obtain rfl := h.whole
    simp [writtenAll, piecesFrom]
  | cons p ps ih =>
    have hrest := ih h.tail
    obtain rfl := h.whole
    cases p with
    | char c =>
      have hnone := slot?_eq_none_iff.2 (h.leftmost [] c ps rfl)
      show piecesFrom found (c :: writtenAll ps) = _
      rw [piecesFrom_char hnone, hrest, List.reverse_cons, List.append_assoc]
      rfl
    | slot key =>
      have hslot := slot?_slotText (h.keys key List.mem_cons_self) (writtenAll ps)
      show piecesFrom found (slotText key ++ writtenAll ps) = _
      rw [slotText, List.cons_append] at hslot ⊢
      rw [piecesFrom_slot hslot, hrest, List.reverse_cons, List.append_assoc]
      rfl

theorem length_lt_of_slot (hcs : cs = slotText key ++ rest) : rest.length < cs.length := by
  simp only [hcs, slotText, List.length_append, List.length_cons]
  omega

theorem exists_cuts (text : List Char) : ∃ ps, Cuts text ps := by
  match text with
  | [] => exact ⟨[], cuts_nil⟩
  | c :: cs =>
    by_cases hslot : BeginsWithSlot (c :: cs)
    · obtain ⟨key, rest, hkey, hcs⟩ := hslot
      have hshorter : rest.length ≤ cs.length := Nat.le_of_lt_succ (length_lt_of_slot hcs)
      obtain ⟨ps, hps⟩ := exists_cuts rest
      exact ⟨.slot key :: ps, hcs ▸ hps.slot hkey⟩
    · obtain ⟨ps, hps⟩ := exists_cuts cs
      exact ⟨.char c :: ps, hps.char hslot⟩
termination_by text.length

theorem cuts_iff {template : String} : Cuts template.toList ps ↔ ps = pieces template := by
  obtain ⟨qs, hqs⟩ := exists_cuts template.toList
  have heq : pieces template = qs := hqs.piecesFrom_eq []
  refine ⟨fun h => (h.piecesFrom_eq []).symm, ?_⟩
  rintro rfl
  rwa [heq]

/-! ## What the pieces give -/

/-- The text that a piece gives in the command: a character as it stands, the quoted value of a
known key, and the placeholder of an unknown one as it stands. -/
def Piece.given (fields : Fields) : Piece → List Char
  | .char c => [c]
  | .slot key =>
    match fields.get? (String.ofList key) with
    | some v => quoteValue v
    | none => slotText key

/-- The placeholders of unknown keys, each as often as it stands there. -/
def leftOver (fields : Fields) (ps : List Piece) : List (List Char) :=
  ps.filterMap fun p => match p with
    | .char _ => none
    | .slot key => if fields.has (String.ofList key) then none else some (slotText key)

def leftOverErrors (texts : List (List Char)) : List String :=
  if texts = [] then []
  else ["Unsubstituted placeholders: " ++ String.ofList ([',', ' '].intercalate texts)]

theorem joinWith_eq_intercalate (sep : List Char) (texts : List (List Char)) :
    Text.joinWith sep texts = sep.intercalate texts := by
  induction texts with
  | nil => rfl
  | cons text texts ih =>
    cases texts with
    | nil => simp [Text.joinWith, List.intercalate]
    | cons next texts =>
      rw [Text.joinWith, List.flatMap_cons, List.intercalate_cons_cons, ← ih, Text.joinWith]
      simp

variable {fields : Fields}

theorem fill_eq_given (p : Piece) : p.fill (fieldValues fields) = p.given fields := by
  cases p with
  | char c => rfl
  | slot key =>
    rw [Piece.fill, Piece.given, fieldValues]
    cases fields.get? (String.ofList key) <;> rfl

theorem missingAll_eq_leftOver (ps : List Piece) :
    missingAll (fieldValues fields) ps = leftOver fields ps := by
  refine List.filterMap_congr fun p _ => ?_
  cases p with
  | char c => rfl
  | slot key =>
    show (if (fieldValues fields key).isNone then some (slotText key) else none) =
      if (fields.get? (String.ofList key)).isSome then none else some (slotText key)
    rw [fieldValues]
    cases fields.get? (String.ofList key) <;> rfl

theorem substituteUnchecked_eq (template : String) (fields : Fields) :
    substituteUnchecked template (fieldValues fields) =
      ⟨some (String.ofList ((pieces template).flatMap (Piece.given fields))),
        leftOverErrors (leftOver fields (pieces template))⟩ := by
  have hfill : fillAll (fieldValues fields) (pieces template) =
      (pieces template).flatMap (Piece.given fields) :=
    List.flatMap_congr fun p _ => fill_eq_given p
  rw [substituteUnchecked, missingAll_eq_leftOver, hfill, leftOverErrors, joinWith_eq_intercalate]
  simp only [List.isEmpty_iff]

theorem substitute_of_clean {template : String} (h : defects template = [])
    (values : List Char → Option (List Char)) :
    substitute template values = substituteUnchecked template values := by
  rw [substitute, h]

theorem leftOver_eq_nil_iff : leftOver fields ps = [] ↔
    ∀ key, .slot key ∈ ps → fields.has (String.ofList key) = true := by
  rw [leftOver, List.filterMap_eq_nil_iff]
  constructor
  · intro h key hmem
    simpa using h _ hmem
  · intro h p hmem
    cases p with
    | char c => rfl
    | slot key => simp [h key hmem]

theorem leftOverErrors_eq_nil_iff {texts : List (List Char)} :
    leftOverErrors texts = [] ↔ texts = [] := by
  unfold leftOverErrors
  split <;> simp [*]

theorem isSafe_iff (template : String) (fields : Fields) :
    (substituteUnchecked template (fieldValues fields)).isSafe = true ↔
      ∀ key, .slot key ∈ pieces template → fields.has (String.ofList key) = true := by
  rw [substituteUnchecked_eq, Substitution.isSafe, Option.isSome_some, Bool.and_true,
    List.isEmpty_iff, leftOverErrors_eq_nil_iff, leftOver_eq_nil_iff]

/-! ## A new value for a key -/

theorem ofList_eq_iff {name : String} : name = String.ofList key ↔ key = name.toList := by
  constructor
  · rintro rfl
    exact String.toList_ofList.symm
  · rintro rfl
    exact String.ofList_toList.symm

theorem given_set (fields : Fields) (name : String) (v : Json) (p : Piece) :
    p.given (fields.set name v) =
      if p = .slot name.toList then quoteValue v else p.given fields := by
  cases p with
  | char c => rfl
  | slot key =>
    rw [Piece.given, Fields.get?_set]
    by_cases hkey : key = name.toList
    · rw [if_pos (ofList_eq_iff.2 hkey), if_pos (congrArg Piece.slot hkey)]
    · rw [if_neg (mt ofList_eq_iff.1 hkey), if_neg fun heq => hkey (Piece.slot.inj heq)]
      rfl

theorem leftOver_set {name : String} (h : fields.has name = true) (v : Json) (ps : List Piece) :
    leftOver (fields.set name v) ps = leftOver fields ps := by
  refine List.filterMap_congr fun p _ => ?_
  cases p with
  | char c => rfl
  | slot key =>
    have hhas : (fields.set name v).has (String.ofList key) = fields.has (String.ofList key) := by
      rw [Fields.has, Fields.get?_set]
      split
      · rename_i heq
        rw [← heq, h]
        rfl
      · rfl
    simp only [hhas]

/-- There is one way to cut a template into its leftmost placeholders and the characters between
them. Whatever the values are, the command is the pieces of this cut one after the other, the known
keys replaced by their quoted values; it is safe if all keys are known, and the error lists the
placeholders of the others. Giving a key another value changes the text at its placeholders and
nothing else. -/
theorem substitute_piecewise (template : String) :
    ∃ ps, Cuts template.toList ps ∧ (∀ qs, Cuts template.toList qs → qs = ps) ∧
      ∀ fields : Fields,
        let result := substituteUnchecked template (fieldValues fields)
        (defects template = [] → substitute template (fieldValues fields) = result) ∧
        result.command = some (String.ofList (ps.flatMap (Piece.given fields))) ∧
        (result.isSafe = true ↔ ∀ key, .slot key ∈ ps → fields.has (String.ofList key) = true) ∧
        result.errors = leftOverErrors (leftOver fields ps) ∧
        ∀ name v, fields.has name = true →
          let changed := substituteUnchecked template (fieldValues (fields.set name v))
          changed.command = some (String.ofList (ps.flatMap fun p =>
            if p = .slot name.toList then quoteValue v else p.given fields)) ∧
          changed.errors = result.errors := by
  refine ⟨pieces template, cuts_iff.2 rfl, fun qs => cuts_iff.1, fun fields => ?_⟩
  have hresult := substituteUnchecked_eq template fields
  refine ⟨fun hclean => substitute_of_clean hclean _, ?_, isSafe_iff template fields, ?_, ?_⟩
  · rw [hresult]
  · rw [hresult]
  · intro name v hhas
    have hgiven : (pieces template).flatMap (Piece.given (fields.set name v)) =
        (pieces template).flatMap fun p =>
          if p = .slot name.toList then quoteValue v else p.given fields :=
      List.flatMap_congr fun p _ => given_set fields name v p
    dsimp only
    rw [hresult, substituteUnchecked_eq, hgiven, leftOver_set hhas]
    exact ⟨rfl, rfl⟩

/-- Braces side by side, an unknown key and braces without a key. -/
def braced : String :=
  "echo \x7b\x7b\x7ba\x7d\x7d\x7d \x7b\x7ba\x7d\x7d\x7b\x7bb\x7d\x7d \x7b\x7b\x7d\x7d"

/-- A value that is written like a placeholder. -/
def bracedFields : Fields := [("a", .string "\x7b\x7bb\x7d\x7d"), ("b", .int 1)]

theorem substitute_piecewise_braced :
    defects braced = [] ∧ bracedFields.has "a" = true ∧
      substitute braced (fieldValues bracedFields) =
        ⟨some "echo \x7b\x7b\x7ba\x7d\x7d\x7d '\x7b\x7bb\x7d\x7d'1 \x7b\x7b\x7d\x7d",
          ["Unsubstituted placeholders: \x7b\x7b\x7ba\x7d\x7d"]⟩ ∧
      (substituteUnchecked braced (fieldValues (bracedFields.set "a" .null))).command =
        some "echo \x7b\x7b\x7ba\x7d\x7d\x7d 1 \x7b\x7b\x7d\x7d" := by
  have hclean : defects braced = [] := by decide +kernel
  have hhas : bracedFields.has "a" = true := by decide
  obtain ⟨ps, hps, -, hall⟩ := substitute_piecewise braced
  obtain ⟨hsame, hcommand, -, herrors, hchange⟩ := hall bracedFields
  obtain rfl := cuts_iff.1 hps
  refine ⟨hclean, hhas, ?_, ?_⟩
  · have heta : ∀ s : Substitution, s = ⟨s.command, s.errors⟩ := fun _ => rfl
    rw [hsame hclean, heta (substituteUnchecked _ _), hcommand, herrors]
    cbv
  · rw [(hchange "a" .null hhas).1]
    cbv

end HookPolicy.Shell
