import HookPolicy.Proofs.Json.Inside
import HookPolicy.Proofs.Json.Numbers
import HookPolicy.Proofs.Json.Texts

/-!
# Reading documents back

The texts of a document differ in the blanks between their parts. Both written forms are texts of
the document, and the reader reads every text of a document as the document.
-/

namespace HookPolicy.Json

open Fields Decimal Text

/-! ## Texts of documents -/

def blanks : List Char := [' ', '\t', '\n', '\r']

def AllBlank (gap : List Char) : Prop := ∀ c ∈ gap, c ∈ blanks

theorem allBlank_nil : AllBlank [] := nofun

theorem allBlank_space : AllBlank [' '] := by
  rintro c hc
  rw [List.mem_singleton.1 hc]
  decide

theorem allBlank_newline (level : Nat) : AllBlank (newline level) := by
  intro c hc
  rcases List.mem_cons.1 hc with rfl | hc
  · decide
  · rw [List.eq_of_mem_replicate hc]
    decide

/-- A document, or what is left of the items of an array or of the fields of an object. -/
inductive Unread
  | value (v : Json)
  | items (items : List Json)
  | fields (fields : Fields)

/-- The text spells the document, or the items or fields that are left together with the bracket
that closes them. -/
inductive Spelled : Unread → List Char → Prop
  | null : Spelled (.value .null) (compact .null)
  | bool (b : Bool) : Spelled (.value (.bool b)) (compact (.bool b))
  | int {n : Int} : n.natAbs < 10 ^ digitLimit → Spelled (.value (.int n)) (compact (.int n))
  | float (x : Binary64) : Spelled (.value (.float x)) (compact (.float x))
  | string (s : String) : Spelled (.value (.string s)) (compact (.string s))
  | emptyArray : Spelled (.value (.array [])) ['[', ']']
  | emptyObject : Spelled (.value (.object [])) ['{', '}']
  | array {items : List Json} {gap cs : List Char} : AllBlank gap → Spelled (.items items) cs →
    Spelled (.value (.array items)) ('[' :: (gap ++ cs))
  | object {fields : Fields} {gap cs : List Char} : Keyed fields → AllBlank gap →
    Spelled (.fields fields) cs → Spelled (.value (.object fields)) ('{' :: (gap ++ cs))
  | lastItem {v : Json} {cs gap : List Char} : Spelled (.value v) cs → AllBlank gap →
    Spelled (.items [v]) (cs ++ (gap ++ [']']))
  | item {v : Json} {items : List Json} {cs gap ds : List Char} : Spelled (.value v) cs →
    AllBlank gap → Spelled (.items items) ds →
    Spelled (.items (v :: items)) (cs ++ ',' :: (gap ++ ds))
  | lastField (name : String) {v : Json} {cs gap : List Char} : Spelled (.value v) cs →
    AllBlank gap →
    Spelled (.fields [(name, v)]) (writeString name ++ ':' :: ' ' :: (cs ++ (gap ++ ['}'])))
  | field (name : String) {v : Json} {fields : Fields} {cs gap ds : List Char} :
    Spelled (.value v) cs → AllBlank gap → Spelled (.fields fields) ds →
    Spelled (.fields ((name, v) :: fields))
      (writeString name ++ ':' :: ' ' :: (cs ++ ',' :: (gap ++ ds)))

/-- What the reader takes: whole numbers that are not too long, and no name twice in an object. -/
structure Readable (v : Json) : Prop where
  ints : ∀ n, Inside (.int n) v → n.natAbs < 10 ^ digitLimit
  keyed : ∀ fields, Inside (.object fields) v → Keyed fields

section

variable {v w : Json} {items : List Json} {fields : Fields}

theorem Readable.of_inside (h : Readable v) (hin : Inside w v) : Readable w where
  ints n hn := h.ints n (hn.trans hin)
  keyed fields hfields := h.keyed fields (hfields.trans hin)

/-! ## The written forms -/

def joinItems (text : Json → List Char) (gap : List Char) : List Json → List Char
  | [] => []
  | [v] => text v
  | v :: more => text v ++ ',' :: (gap ++ joinItems text gap more)

def joinFields (text : Json → List Char) (gap : List Char) : Fields → List Char
  | [] => []
  | [(name, v)] => writeString name ++ ':' :: ' ' :: text v
  | (name, v) :: more =>
    writeString name ++ ':' :: ' ' :: (text v ++ ',' :: (gap ++ joinFields text gap more))

theorem compactItems_eq (items : List Json) :
    compactItems items = joinItems compact [' '] items := by
  induction items using joinItems.induct with
  | case1 => rfl
  | case2 v => simp [compactItems, joinItems]
  | case3 v more hne ih => rw [compactItems, joinItems, ih] <;> first | rfl | exact hne

theorem compactFields_eq (fields : Fields) :
    compactFields fields = joinFields compact [' '] fields := by
  induction fields using joinFields.induct with
  | case1 => rfl
  | case2 name v => simp [compactFields, joinFields]
  | case3 name v more hne ih => rw [compactFields, joinFields, ih] <;> first | rfl | exact hne

theorem indentedItems_eq (level : Nat) (items : List Json) :
    indentedItems level items = joinItems (indentedAt level) (newline level) items := by
  induction items using joinItems.induct with
  | case1 => rfl
  | case2 v => simp [indentedItems, joinItems]
  | case3 v more hne ih => rw [indentedItems, joinItems, ih] <;> exact hne

theorem indentedFields_eq (level : Nat) (fields : Fields) :
    indentedFields level fields = joinFields (indentedAt level) (newline level) fields := by
  induction fields using joinFields.induct with
  | case1 => rfl
  | case2 name v => simp [indentedFields, joinFields]
  | case3 name v more hne ih => rw [indentedFields, joinFields, ih] <;> exact hne

variable {text : Json → List Char} {gap last : List Char}

theorem spelled_joinItems (hgap : AllBlank gap) (hlast : AllBlank last) (hne : items ≠ [])
    (h : ∀ w ∈ items, Spelled (.value w) (text w)) :
    Spelled (.items items) (joinItems text gap items ++ (last ++ [']'])) := by
  induction items with
  | nil => exact absurd rfl hne
  | cons w items ih =>
    have hw := h w List.mem_cons_self
    cases items with
    | nil => exact .lastItem hw hlast
    | cons u items =>
      have hitems := ih nofun fun x hx => h x (List.mem_cons_of_mem w hx)
      rw [joinItems]
      · simpa using Spelled.item hw hgap hitems
      · nofun

theorem spelled_joinFields (hgap : AllBlank gap) (hlast : AllBlank last) (hne : fields ≠ [])
    (h : ∀ f ∈ fields, Spelled (.value f.2) (text f.2)) :
    Spelled (.fields fields) (joinFields text gap fields ++ (last ++ ['}'])) := by
  induction fields with
  | nil => exact absurd rfl hne
  | cons f fields ih =>
    obtain ⟨name, w⟩ := f
    have hw := h (name, w) List.mem_cons_self
    cases fields with
    | nil => simpa [joinFields] using Spelled.lastField name hw hlast
    | cons g fields =>
      have hfields := ih nofun fun x hx => h x (List.mem_cons_of_mem _ hx)
      rw [joinFields]
      · simpa using Spelled.field name hw hgap hfields
      · nofun

theorem spelled_compact (h : Readable v) : Spelled (.value v) (compact v) := by
  induction v using inductionOn with
  | null => exact .null
  | bool b => exact .bool b
  | int n => exact .int (h.ints n .self)
  | float x => exact .float x
  | string s => exact .string s
  | array items ih =>
    cases items with
    | nil => exact .emptyArray
    | cons w items =>
      have hitems := spelled_joinItems allBlank_space allBlank_nil
        (List.cons_ne_nil w items) fun u hu => ih u hu (h.of_inside (.item hu .self))
      have hspelled := Spelled.array allBlank_nil hitems
      rw [compact, compactItems_eq]
      exact hspelled
  | object fields ih =>
    cases fields with
    | nil => exact .emptyObject
    | cons f fields =>
      have hfields := spelled_joinFields allBlank_space allBlank_nil
        (List.cons_ne_nil f fields) fun g hg => ih g hg (h.of_inside (.field hg .self))
      have hspelled := Spelled.object (h.keyed _ .self) allBlank_nil hfields
      rw [compact, compactFields_eq]
      exact hspelled

theorem spelled_indentedAt (h : Readable v) (level : Nat) :
    Spelled (.value v) (indentedAt level v) := by
  induction v using inductionOn generalizing level with
  | null => exact .null
  | bool b => cases b <;> exact .bool _
  | int n => exact .int (h.ints n .self)
  | float x => exact .float x
  | string s => exact .string s
  | array items ih =>
    cases items with
    | nil => exact .emptyArray
    | cons w items =>
      have hitems := spelled_joinItems (allBlank_newline (level + 1)) (allBlank_newline level)
        (List.cons_ne_nil w items) fun u hu => ih u hu (h.of_inside (.item hu .self)) (level + 1)
      rw [indentedAt, indentedItems_eq]
      · exact .array (allBlank_newline (level + 1)) hitems
      · nofun
  | object fields ih =>
    cases fields with
    | nil => exact .emptyObject
    | cons f fields =>
      have hfields := spelled_joinFields (allBlank_newline (level + 1)) (allBlank_newline level)
        (List.cons_ne_nil f fields) fun g hg => ih g hg (h.of_inside (.field hg .self)) (level + 1)
      rw [indentedAt, indentedFields_eq]
      · exact .object (h.keyed _ .self) (allBlank_newline (level + 1)) hfields
      · nofun

end

/-! ## What texts start with -/

/-- Blanks, closing brackets and a byte order mark start no document. -/
def NoStart (c : Char) : Prop := c ∈ blanks ∨ c = ']' ∨ c = '}' ∨ c = '\uFEFF'

theorem not_noStart_of_isAsciiDigit {c : Char} (h : isAsciiDigit c = true) : ¬ NoStart c := by
  have hno : ∀ d, NoStart d → isAsciiDigit d = false := by
    rintro d (hd | rfl | rfl | rfl)
    · simp only [blanks, List.mem_cons, List.not_mem_nil, or_false] at hd
      rcases hd with rfl | rfl | rfl | rfl <;> decide
    · decide
    · decide
    · decide
  intro hc
  rw [hno c hc] at h
  cases h

theorem not_opening_of_isAsciiDigit {c : Char} (h : isAsciiDigit c = true) :
    c ∉ ['"', '{', '['] := by
  intro hmem
  simp only [List.mem_cons, List.not_mem_nil, or_false] at hmem
  rcases hmem with rfl | rfl | rfl <;> exact absurd h (by decide)

theorem ReadsNumber.exists_cons {v : Json} {cs : List Char} (h : ReadsNumber v cs) :
    ∃ c tail, cs = c :: tail ∧ ¬ NoStart c ∧ c ∉ ['"', '{', '['] := by
  obtain ⟨negative, d, tail, rfl, hd⟩ := h.start
  cases negative with
  | true => exact ⟨'-', d :: tail, rfl, by simp [NoStart, blanks], by decide⟩
  | false =>
    exact ⟨d, tail, rfl, not_noStart_of_isAsciiDigit hd, not_opening_of_isAsciiDigit hd⟩

theorem writeFloat_cases (x : Binary64) :
    (compact (.float x), Json.float x) ∈ words ∨ ReadsNumber (.float x) (compact (.float x)) := by
  cases x with
  | finite negative code => exact .inr (readsNumber_finite negative code)
  | infinite negative => cases negative <;> exact .inl (by simp [words, compact, writeFloat])
  | nan => exact .inl (by simp [words, compact, writeFloat])

theorem exists_cons_of_mem_words : ∀ w ∈ words,
    ∃ c tail, w.1 = c :: tail ∧ ¬ NoStart c ∧ c ∉ ['"', '{', '['] := by
  intro w hw
  simp only [words, List.mem_cons, List.not_mem_nil, or_false] at hw
  rcases hw with rfl | rfl | rfl | rfl | rfl | rfl <;>
    exact ⟨_, _, rfl, by simp [NoStart, blanks], by decide⟩

theorem Spelled.exists_cons {u : Unread} {cs : List Char} (h : Spelled u cs) :
    ∃ c tail, cs = c :: tail ∧ ¬ NoStart c := by
  have hbracket : ∀ c ∈ ['"', '{', '['], ¬ NoStart c := by
    intro c hc
    simp only [List.mem_cons, List.not_mem_nil, or_false] at hc
    rcases hc with rfl | rfl | rfl <;> simp [NoStart, blanks]
  induction h with
  | null => exact ⟨'n', _, rfl, by simp [NoStart, blanks]⟩
  | bool b => cases b <;> exact ⟨_, _, rfl, by simp [NoStart, blanks]⟩
  | int hn =>
    obtain ⟨c, tail, hcs, hc, -⟩ := (readsNumber_int hn).exists_cons
    exact ⟨c, tail, hcs, hc⟩
  | float x =>
    rcases writeFloat_cases x with hword | hnumber
    · obtain ⟨c, tail, hcs, hc, -⟩ := exists_cons_of_mem_words _ hword
      exact ⟨c, tail, hcs, hc⟩
    · obtain ⟨c, tail, hcs, hc, -⟩ := hnumber.exists_cons
      exact ⟨c, tail, hcs, hc⟩
  | string s => exact ⟨_, _, rfl, hbracket '"' (by decide)⟩
  | emptyArray => exact ⟨_, _, rfl, hbracket '[' (by decide)⟩
  | emptyObject => exact ⟨_, _, rfl, hbracket '{' (by decide)⟩
  | array => exact ⟨_, _, rfl, hbracket '[' (by decide)⟩
  | object => exact ⟨_, _, rfl, hbracket '{' (by decide)⟩
  | lastItem _ _ ih =>
    obtain ⟨c, tail, rfl, hc⟩ := ih
    exact ⟨c, _, rfl, hc⟩
  | item _ _ _ ih =>
    obtain ⟨c, tail, rfl, hc⟩ := ih
    exact ⟨c, _, rfl, hc⟩
  | lastField => exact ⟨_, _, rfl, hbracket '"' (by decide)⟩
  | field => exact ⟨_, _, rfl, hbracket '"' (by decide)⟩

/-! ## Blanks -/

theorem blankPrefixLength_append {gap : List Char} (h : AllBlank gap) {c : Char} (hc : c ∉ blanks)
    (tail : List Char) (n : Nat) :
    Cursor.blankPrefixLength (gap ++ c :: tail) n = n + gap.length := by
  have hblank : ∀ d, (d == ' ' || d == '\t' || d == '\n' || d == '\r') = true ↔ d ∈ blanks := by
    simp [blanks, or_assoc]
  induction gap generalizing n with
  | nil =>
    rw [List.nil_append, Cursor.blankPrefixLength, if_neg (mt (hblank c).1 hc)]
    rfl
  | cons d gap ih =>
    have hd := (hblank d).2 (h d List.mem_cons_self)
    rw [List.cons_append, Cursor.blankPrefixLength, if_pos hd,
      ih (fun x hx => h x (List.mem_cons_of_mem d hx)), List.length_cons]
    omega

theorem skipBlanks_append {gap : List Char} (h : AllBlank gap) {c : Char} (hc : c ∉ blanks)
    (tail : List Char) (offset : Nat) :
    Cursor.skipBlanks ⟨gap ++ c :: tail, offset⟩ = ⟨c :: tail, offset + gap.length⟩ := by
  rw [Cursor.skipBlanks]
  dsimp only
  rw [blankPrefixLength_append h hc, Nat.zero_add, List.drop_left]

theorem skipBlanks_cons {c : Char} (hc : c ∉ blanks) (tail : List Char) (offset : Nat) :
    Cursor.skipBlanks ⟨c :: tail, offset⟩ = ⟨c :: tail, offset⟩ :=
  skipBlanks_append allBlank_nil hc tail offset

theorem skipBlanks_spelled {gap cs : List Char} {u : Unread} (hgap : AllBlank gap)
    (h : Spelled u cs) (rest : List Char) (offset : Nat) :
    Cursor.skipBlanks ⟨gap ++ (cs ++ rest), offset⟩ = ⟨cs ++ rest, offset + gap.length⟩ := by
  obtain ⟨c, tail, rfl, hc⟩ := h.exists_cons
  exact skipBlanks_append hgap (fun hblank => hc (.inl hblank)) _ offset

theorem delimits_append {gap : List Char} (h : AllBlank gap) {c : Char}
    (hc : c ∈ [',', ']', '}']) (rest : List Char) : Delimits (gap ++ c :: rest) := by
  intro d hd
  cases gap with
  | nil =>
    cases hd
    exact List.mem_append_right blanks hc
  | cons b gap =>
    cases hd
    exact List.mem_append_left [',', ']', '}'] (h d List.mem_cons_self)

/-! ## Reading -/

/-- Something is read, and what is left is as given. -/
def Gives (read : Except ReadError (Json × Cursor)) (v : Json) (rest : List Char) : Prop :=
  ∃ offset, read = .ok (v, ⟨rest, offset⟩)

/-- The reader takes the text as what it spells, if it may go deep enough. The text bounds the steps
that it takes. -/
def Reads : Unread → List Char → Prop
  | .value v, cs => ∀ fuel depth rest offset, 2 * cs.length ≤ fuel → v.nesting ≤ depth →
    Delimits rest → Gives (readValue fuel depth ⟨cs ++ rest, offset⟩) v rest
  | .items items, cs => ∀ fuel depth done rest offset, 2 * cs.length ≤ fuel →
    nestingItems items ≤ depth →
    Gives (readItems fuel depth done ⟨cs ++ rest, offset⟩) (.array (done.reverse ++ items)) rest
  | .fields fields, cs => ∀ fuel depth done rest offset, 2 * cs.length ≤ fuel →
    nestingFields fields ≤ depth →
    Gives (readFields fuel depth done ⟨cs ++ rest, offset⟩)
      (.object (ofPairs (done.reverse ++ fields))) rest

theorem exists_fuel_eq {cs : List Char} {fuel : Nat} (hne : cs ≠ [])
    (hfuel : 2 * cs.length ≤ fuel) : ∃ less, fuel = less + 1 :=
  Nat.exists_eq_add_of_le' (by have := List.length_pos_iff.2 hne; omega)

theorem readValue_scalar {c : Char} (hc : c ∉ ['"', '{', '[']) (fuel depth : Nat)
    (tail : List Char) (offset : Nat) :
    readValue (fuel + 1) depth ⟨c :: tail, offset⟩ =
      match readWord ⟨c :: tail, offset⟩ with
      | some found => .ok found
      | none => readNumber ⟨c :: tail, offset⟩ := by
  rw [readValue]
  split
  · rename_i heq
    cases heq
    exact absurd (by decide) hc
  · rename_i heq
    cases heq
    exact absurd (by decide) hc
  · rename_i heq
    cases heq
    exact absurd (by decide) hc
  · rfl

theorem readWord_words : ∀ w ∈ words, ∀ rest offset,
    readWord ⟨w.1 ++ rest, offset⟩ = some (w.2, ⟨rest, offset + w.1.length⟩) := by
  intro w hw rest offset
  simp only [words, List.mem_cons, List.not_mem_nil, or_false] at hw
  rcases hw with rfl | rfl | rfl | rfl | rfl | rfl <;> rfl

theorem reads_of_mem_words {w : List Char × Json} (h : w ∈ words) : Reads (.value w.2) w.1 := by
  intro fuel depth rest offset hfuel _ _
  have hread := readWord_words w h rest offset
  obtain ⟨c, tail, hcs, -, hc⟩ := exists_cons_of_mem_words w h
  rw [hcs] at hread hfuel ⊢
  obtain ⟨fuel, rfl⟩ := exists_fuel_eq (List.cons_ne_nil _ _) hfuel
  rw [List.cons_append] at hread ⊢
  rw [readValue_scalar hc, hread]
  exact ⟨_, rfl⟩

theorem reads_of_readsNumber {v : Json} {cs : List Char} (h : ReadsNumber v cs) :
    Reads (.value v) cs := by
  intro fuel depth rest offset hfuel _ hrest
  obtain ⟨offset', hread⟩ := h.read rest offset hrest
  -- the words are tried before numbers
  have hword := h.readWord_eq_none rest offset
  obtain ⟨c, tail, rfl, -, hc⟩ := h.exists_cons
  obtain ⟨fuel, rfl⟩ := exists_fuel_eq (List.cons_ne_nil _ _) hfuel
  rw [List.cons_append] at hread hword ⊢
  rw [readValue_scalar hc, hword]
  exact ⟨_, hread⟩

theorem writeString_append (s : String) (rest : List Char) :
    writeString s ++ rest = '"' :: (s.toList.flatMap escapeChar ++ '"' :: rest) := by
  simp [writeString]

theorem readValue_string (fuel depth offset : Nat) (tail : List Char) :
    readValue (fuel + 1) depth ⟨'"' :: tail, offset⟩ =
      match readBody offset (offset + 1) 0 [] tail with
      | .ok (s, c) => .ok (.string s, c)
      | .error e => .error e := by
  rw [readValue]
  rfl

theorem reads_string (s : String) : Reads (.value (.string s)) (writeString s) := by
  intro fuel depth rest offset hfuel _ _
  obtain ⟨fuel, rfl⟩ := exists_fuel_eq (List.cons_ne_nil _ _) hfuel
  obtain ⟨offset', hbody⟩ := exists_readBody_eq offset (offset + 1) [] s.toList rest
  rw [List.reverse_nil, List.nil_append, String.ofList_toList] at hbody
  rw [writeString_append, readValue_string, hbody]
  exact ⟨_, rfl⟩

/-! ### Arrays -/

section

variable {v : Json} {items done : List Json} {gap cs ds tail rest : List Char} {c : Char}
  {fuel depth offset offset' offset'' : Nat}

theorem readValue_emptyArray :
    readValue (fuel + 1) (depth + 1) ⟨'[' :: ']' :: rest, offset⟩ =
      .ok (.array [], ⟨rest, offset + 1 + 1⟩) := by
  rw [readValue]
  rfl

theorem readValue_array
    (h : Cursor.skipBlanks ⟨rest, offset + 1⟩ = ⟨c :: tail, offset'⟩) (hc : c ≠ ']') :
    readValue (fuel + 1) (depth + 1) ⟨'[' :: rest, offset⟩ =
      readItems fuel depth [] ⟨c :: tail, offset'⟩ := by
  rw [readValue]
  simp only [Cursor.advance, h]
  split
  · rename_i heq
    cases heq
    exact absurd rfl hc
  · rfl

theorem readItems_last (done : List Json)
    (hread : readValue fuel depth ⟨cs, offset⟩ = .ok (v, ⟨tail, offset'⟩))
    (hskip : Cursor.skipBlanks ⟨tail, offset'⟩ = ⟨']' :: rest, offset''⟩) :
    readItems (fuel + 1) depth done ⟨cs, offset⟩ =
      .ok (.array (v :: done).reverse, ⟨rest, offset'' + 1⟩) := by
  rw [readItems, hread]
  simp only [hskip]
  rfl

theorem readItems_more
    (hread : readValue fuel depth ⟨cs, offset⟩ = .ok (v, ⟨',' :: tail, offset'⟩)) :
    readItems (fuel + 1) depth done ⟨cs, offset⟩ =
      readItems fuel depth (v :: done) (Cursor.skipBlanks ⟨tail, offset' + 1⟩) := by
  rw [readItems, hread]
  simp only [skipBlanks_cons (c := ',') (by decide)]
  rfl

theorem reads_emptyArray : Reads (.value (.array [])) ['[', ']'] := by
  intro fuel depth rest offset hfuel hdepth _
  obtain ⟨fuel, rfl⟩ := exists_fuel_eq (List.cons_ne_nil _ _) hfuel
  obtain ⟨depth, rfl⟩ := Nat.exists_eq_add_of_le' (show 1 ≤ depth from hdepth)
  exact ⟨_, readValue_emptyArray⟩

theorem reads_array (hgap : AllBlank gap) (h : Spelled (.items items) cs)
    (ih : Reads (.items items) cs) : Reads (.value (.array items)) ('[' :: (gap ++ cs)) := by
  intro fuel depth rest offset hfuel hdepth _
  obtain ⟨fuel, rfl⟩ := exists_fuel_eq (List.cons_ne_nil _ _) hfuel
  rw [List.length_cons, List.length_append] at hfuel
  rw [nesting] at hdepth
  obtain ⟨depth, rfl⟩ := Nat.exists_eq_add_of_le' (show 1 ≤ depth by omega)
  have hskip := skipBlanks_spelled hgap h rest (offset + 1)
  have hread := ih fuel depth [] rest (offset + 1 + gap.length) (by omega) (by omega)
  -- the first item starts with no bracket, so the array is not taken for an empty one
  obtain ⟨c, tail, rfl, hc⟩ := h.exists_cons
  have hclose : c ≠ ']' := fun heq => hc (.inr (.inl heq))
  rw [List.cons_append, List.append_assoc, readValue_array hskip hclose]
  exact hread

theorem reads_lastItem (hgap : AllBlank gap) (ih : Reads (.value v) cs) :
    Reads (.items [v]) (cs ++ (gap ++ [']'])) := by
  intro fuel depth done rest offset hfuel hdepth
  obtain ⟨fuel, rfl⟩ := exists_fuel_eq (by simp) hfuel
  simp only [List.length_append, List.length_singleton] at hfuel
  have hdepth : v.nesting ≤ depth := (Nat.max_le.1 hdepth).1
  obtain ⟨offset', hread⟩ := ih fuel depth (gap ++ ']' :: rest) offset (by omega) hdepth
    (delimits_append hgap (by decide) rest)
  have hlast := readItems_last done hread
    (skipBlanks_append hgap (by decide) rest offset')
  rw [List.append_assoc, List.append_assoc, List.singleton_append, hlast, List.reverse_cons]
  exact ⟨_, rfl⟩

theorem reads_item (hgap : AllBlank gap) (h : Spelled (.items items) ds)
    (ihv : Reads (.value v) cs) (ih : Reads (.items items) ds) :
    Reads (.items (v :: items)) (cs ++ ',' :: (gap ++ ds)) := by
  intro fuel depth done rest offset hfuel hdepth
  obtain ⟨fuel, rfl⟩ := exists_fuel_eq (by simp) hfuel
  simp only [List.length_append, List.length_cons] at hfuel
  obtain ⟨hv, hitems⟩ := Nat.max_le.1 hdepth
  obtain ⟨offset', hread⟩ := ihv fuel depth (',' :: (gap ++ (ds ++ rest))) offset (by omega) hv
    (delimits_append allBlank_nil (by decide) _)
  have hmore := ih fuel depth (v :: done) rest (offset' + 1 + gap.length) (by omega) hitems
  rw [List.append_assoc, List.cons_append, List.append_assoc, readItems_more hread,
    skipBlanks_spelled hgap h, List.append_cons, ← List.reverse_cons]
  exact hmore

/-! ### Objects -/

variable {name : String} {fields known : Fields}

theorem readValue_emptyObject :
    readValue (fuel + 1) (depth + 1) ⟨'{' :: '}' :: rest, offset⟩ =
      .ok (.object [], ⟨rest, offset + 1 + 1⟩) := by
  rw [readValue]
  rfl

theorem readValue_object
    (h : Cursor.skipBlanks ⟨rest, offset + 1⟩ = ⟨c :: tail, offset'⟩) (hc : c ≠ '}') :
    readValue (fuel + 1) (depth + 1) ⟨'{' :: rest, offset⟩ =
      readFields fuel depth [] ⟨c :: tail, offset'⟩ := by
  rw [readValue]
  simp only [Cursor.advance, h]
  split
  · rename_i heq
    cases heq
    exact absurd rfl hc
  · rfl

/-- What becomes of a field once its value is read. -/
def takeField (fuel depth : Nat) (known : Fields) (name : String) (v : Json) (c : Cursor) :
    Except ReadError (Json × Cursor) :=
  let c := c.skipBlanks
  match c.rest with
  | '}' :: rest => .ok (.object (ofPairs ((name, v) :: known).reverse), c.advance 1 rest)
  | ',' :: rest => readFields fuel depth ((name, v) :: known) (c.advance 1 rest).skipBlanks
  | _ => fail .expectedComma c.offset

theorem readFields_named (known : Fields) (tail : List Char) :
    readFields (fuel + 1) depth known ⟨'"' :: tail, offset⟩ =
      match readBody offset (offset + 1) 0 [] tail with
      | .error e => .error e
      | .ok (name, c) =>
        let c := c.skipBlanks
        match c.rest with
        | ':' :: rest =>
          match readValue fuel depth (c.advance 1 rest).skipBlanks with
          | .error e => .error e
          | .ok (v, c) => takeField fuel depth known name v c
        | _ => fail .expectedColon c.offset := by
  rw [readFields]
  rfl

theorem exists_readFields_eq (name : String) (h : Spelled (.value v) cs) (known : Fields)
    (rest : List Char) (offset : Nat)
    (hread : ∀ offset, Gives (readValue fuel depth ⟨cs ++ rest, offset⟩) v rest) :
    ∃ offset', readFields (fuel + 1) depth known
        ⟨writeString name ++ ':' :: ' ' :: (cs ++ rest), offset⟩ =
      takeField fuel depth known name v ⟨rest, offset'⟩ := by
  obtain ⟨offset', hbody⟩ := exists_readBody_eq offset (offset + 1) [] name.toList
    (':' :: ' ' :: (cs ++ rest))
  rw [List.reverse_nil, List.nil_append, String.ofList_toList] at hbody
  have hcolon := skipBlanks_cons (c := ':') (by decide) (' ' :: (cs ++ rest)) offset'
  have hvalue : Cursor.skipBlanks ⟨' ' :: (cs ++ rest), offset' + 1⟩ = _ :=
    skipBlanks_spelled allBlank_space h rest (offset' + 1)
  obtain ⟨offset'', hread⟩ := hread (offset' + 1 + [' '].length)
  refine ⟨offset'', ?_⟩
  rw [writeString_append, readFields_named, hbody]
  simp only [hcolon, Cursor.advance, hvalue, hread]

theorem takeField_last (hgap : AllBlank gap) :
    Gives (takeField fuel depth known name v ⟨gap ++ '}' :: rest, offset⟩)
      (.object (ofPairs (known.reverse ++ [(name, v)]))) rest := by
  have hskip := skipBlanks_append hgap (c := '}') (by decide) rest offset
  rw [takeField, hskip, ← List.reverse_cons]
  exact ⟨_, rfl⟩

theorem takeField_more :
    takeField fuel depth known name v ⟨',' :: rest, offset⟩ =
      readFields fuel depth ((name, v) :: known) (Cursor.skipBlanks ⟨rest, offset + 1⟩) := by
  rw [takeField, skipBlanks_cons (by decide)]
  rfl

theorem reads_emptyObject : Reads (.value (.object [])) ['{', '}'] := by
  intro fuel depth rest offset hfuel hdepth _
  obtain ⟨fuel, rfl⟩ := exists_fuel_eq (List.cons_ne_nil _ _) hfuel
  obtain ⟨depth, rfl⟩ := Nat.exists_eq_add_of_le' (show 1 ≤ depth from hdepth)
  exact ⟨_, readValue_emptyObject⟩

theorem reads_object (hkeyed : Keyed fields) (hgap : AllBlank gap) (h : Spelled (.fields fields) cs)
    (ih : Reads (.fields fields) cs) : Reads (.value (.object fields)) ('{' :: (gap ++ cs)) := by
  intro fuel depth rest offset hfuel hdepth _
  obtain ⟨fuel, rfl⟩ := exists_fuel_eq (List.cons_ne_nil _ _) hfuel
  rw [List.length_cons, List.length_append] at hfuel
  rw [nesting] at hdepth
  obtain ⟨depth, rfl⟩ := Nat.exists_eq_add_of_le' (show 1 ≤ depth by omega)
  have hskip := skipBlanks_spelled hgap h rest (offset + 1)
  have hread := ih fuel depth [] rest (offset + 1 + gap.length) (by omega) (by omega)
  -- the reader keeps one value under a name, and here that is every value
  rw [List.reverse_nil, List.nil_append, hkeyed.ofPairs_eq] at hread
  obtain ⟨c, tail, rfl, hc⟩ := h.exists_cons
  have hclose : c ≠ '}' := fun heq => hc (.inr (.inr (.inl heq)))
  rw [List.cons_append, List.append_assoc, readValue_object hskip hclose]
  exact hread

theorem reads_lastField (name : String) (hgap : AllBlank gap) (h : Spelled (.value v) cs)
    (ih : Reads (.value v) cs) :
    Reads (.fields [(name, v)]) (writeString name ++ ':' :: ' ' :: (cs ++ (gap ++ ['}']))) := by
  intro fuel depth known rest offset hfuel hdepth
  obtain ⟨fuel, rfl⟩ := exists_fuel_eq (by simp) hfuel
  simp only [List.length_append, List.length_cons] at hfuel
  have hdepth : v.nesting ≤ depth := (Nat.max_le.1 hdepth).1
  obtain ⟨offset', hfield⟩ := exists_readFields_eq name h known (gap ++ '}' :: rest) offset
    fun offset => ih fuel depth (gap ++ '}' :: rest) offset (by omega) hdepth
      (delimits_append hgap (by decide) rest)
  simp only [List.append_assoc, List.cons_append, List.nil_append]
  rw [hfield]
  exact takeField_last hgap

theorem reads_field (name : String) (hgap : AllBlank gap) (hv : Spelled (.value v) cs)
    (h : Spelled (.fields fields) ds) (ihv : Reads (.value v) cs) (ih : Reads (.fields fields) ds) :
    Reads (.fields ((name, v) :: fields))
      (writeString name ++ ':' :: ' ' :: (cs ++ ',' :: (gap ++ ds))) := by
  intro fuel depth known rest offset hfuel hdepth
  obtain ⟨fuel, rfl⟩ := exists_fuel_eq (by simp) hfuel
  simp only [List.length_append, List.length_cons] at hfuel
  obtain ⟨hvalue, hfields⟩ := Nat.max_le.1 hdepth
  obtain ⟨offset', hfield⟩ := exists_readFields_eq name hv known (',' :: (gap ++ (ds ++ rest)))
    offset fun offset => ihv fuel depth _ offset (by omega) hvalue
      (delimits_append allBlank_nil (by decide) _)
  have hmore := ih fuel depth ((name, v) :: known) rest (offset' + 1 + gap.length) (by omega)
    hfields
  simp only [List.append_assoc, List.cons_append]
  rw [hfield, takeField_more, skipBlanks_spelled hgap h, List.append_cons, ← List.reverse_cons]
  exact hmore

end

/-- The reader takes every text as what it spells. -/
theorem Spelled.reads {u : Unread} {cs : List Char} (h : Spelled u cs) : Reads u cs := by
  induction h with
  | null => exact reads_of_mem_words (w := (['n', 'u', 'l', 'l'], .null)) (by simp [words])
  | bool b =>
    cases b with
    | true => exact reads_of_mem_words (w := (['t', 'r', 'u', 'e'], .bool true)) (by simp [words])
    | false =>
      exact reads_of_mem_words (w := (['f', 'a', 'l', 's', 'e'], .bool false)) (by simp [words])
  | int hn => exact reads_of_readsNumber (readsNumber_int hn)
  | float x =>
    rcases writeFloat_cases x with hword | hnumber
    · exact reads_of_mem_words hword
    · exact reads_of_readsNumber hnumber
  | string s => exact reads_string s
  | emptyArray => exact reads_emptyArray
  | emptyObject => exact reads_emptyObject
  | array hgap hitems ih => exact reads_array hgap hitems ih
  | object hkeyed hgap hfields ih => exact reads_object hkeyed hgap hfields ih
  | lastItem _ hgap ih => exact reads_lastItem hgap ih
  | item _ hgap hitems ihv ih => exact reads_item hgap hitems ihv ih
  | lastField name hv hgap ih => exact reads_lastField name hgap hv ih
  | field name hv hgap hfields ihv ih => exact reads_field name hgap hv hfields ihv ih

/-! ## Whole texts -/

/-- The reader with a bound of its own for the nesting. -/
def readWithin (limit : Nat) (cs : List Char) : Except ReadError Json :=
  match cs with
  | '\uFEFF' :: _ => fail .byteOrderMark 0
  | _ =>
    match readValue (2 * cs.length + 2) limit (Cursor.skipBlanks ⟨cs, 0⟩) with
    | .error e => .error e
    | .ok (v, c) =>
      let c := c.skipBlanks
      if c.rest.isEmpty then .ok v else fail .extraData c.offset

theorem read_eq (text : String) : Json.read text = readWithin nestingLimit text.toList := rfl

theorem Spelled.readWithin_eq {v : Json} {cs : List Char} (h : Spelled (.value v) cs) {limit : Nat}
    (hlimit : v.nesting ≤ limit) : readWithin limit cs = .ok v := by
  have hskip : Cursor.skipBlanks ⟨cs, 0⟩ = ⟨cs, 0⟩ := by
    simpa using skipBlanks_spelled allBlank_nil h [] 0
  obtain ⟨offset, hread⟩ := h.reads (2 * cs.length + 2) limit [] 0 (by omega) hlimit nofun
  rw [List.append_nil] at hread
  obtain ⟨c, tail, rfl, hc⟩ := h.exists_cons
  unfold readWithin
  split
  · rename_i heq
    cases heq
    exact absurd (.inr (.inr (.inr rfl))) hc
  · rw [hskip, hread]
    rfl

variable {v : Json} {limit : Nat}

theorem readWithin_write (h : Readable v) (hlimit : v.nesting ≤ limit) :
    readWithin limit (write v).toList = .ok v := by
  rw [write, String.toList_ofList]
  exact (spelled_compact h).readWithin_eq hlimit

theorem readWithin_writeIndented (h : Readable v) (hlimit : v.nesting ≤ limit) :
    readWithin limit (writeIndented v).toList = .ok v := by
  rw [writeIndented, String.toList_ofList]
  exact (spelled_indentedAt h 0).readWithin_eq hlimit

/-- A whole number with more digits than the reader takes is refused, however deep it may go. -/
theorem readWithin_tooManyDigits {ds : List Char} (h : AreNumber ds none none)
    (hlong : digitLimit < ds.length) (limit : Nat) :
    readWithin limit ds = .error (.tooManyDigits ds.length) := by
  obtain ⟨size, htext⟩ := readNumberText_pieces h false (show Delimits [] by nofun)
  obtain ⟨d, tail, rfl⟩ := List.exists_cons_of_ne_nil h.nonempty
  have hd := h.areDigits d List.mem_cons_self
  have hstart := not_noStart_of_isAsciiDigit hd
  have hword : readWord ⟨d :: tail, 0⟩ = none := readWord_digit hd false tail 0
  have hnumber : readNumber ⟨d :: tail, 0⟩ = .error (.tooManyDigits (d :: tail).length) := by
    simp only [signChars, partChars, exponentText, List.append_nil, Bool.false_eq_true, if_false,
      List.nil_append] at htext
    simp only [readNumber, htext, NumberText.value_tooManyDigits false hlong]
  unfold readWithin
  split
  · rename_i heq
    cases heq
    exact absurd (.inr (.inr (.inr rfl))) hstart
  · rw [skipBlanks_cons fun hblank => hstart (.inl hblank),
      readValue_scalar (not_opening_of_isAsciiDigit hd), hword, hnumber]

end HookPolicy.Json
