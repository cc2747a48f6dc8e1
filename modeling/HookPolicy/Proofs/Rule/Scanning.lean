import HookPolicy.Proofs.Text.Finding
import HookPolicy.Proofs.Text.Splitting
import HookPolicy.Rule.Eval

/-!
# What the lexer makes of a piece of text

`Scans` says that a piece of text is read as certain tokens, whatever was found before it and
whatever follows. Such pieces can be put side by side. A path scans with the blank behind it and a
`!` with the operand behind it, because the lexer looks at the character after a word and takes the
longest operator.
-/

namespace HookPolicy.Rule

open Text

theorem tokensFrom_token {c : Char} {rest behind : List Char} {t : Token}
    (h : scan c rest = (some t, behind)) (found : List Token) :
    tokensFrom found (c :: rest) = tokensFrom (t :: found) behind := by
  rw [tokensFrom]
  split
  · rename_i h'
    rw [h] at h'
    cases h'
    rfl
  · rename_i h'
    rw [h] at h'
    cases h'

theorem tokensFrom_skip {c : Char} {rest behind : List Char} (h : scan c rest = (none, behind))
    (found : List Token) : tokensFrom found (c :: rest) = tokensFrom found behind := by
  rw [tokensFrom]
  split
  · rename_i h'
    rw [h] at h'
    cases h'
  · rename_i h'
    rw [h] at h'
    cases h'
    rfl

/-- The lexer reads the text as the tokens, wherever it stands. -/
def Scans (cs : List Char) (ts : List Token) : Prop :=
  ∀ found rest, tokensFrom found (cs ++ rest) = tokensFrom (ts.reverse ++ found) rest

theorem Scans.append {cs ds : List Char} {ts us : List Token} (hc : Scans cs ts)
    (hd : Scans ds us) : Scans (cs ++ ds) (ts ++ us) := by
  intro found rest
  rw [List.append_assoc, hc, hd, List.reverse_append, List.append_assoc]

theorem Scans.tokenize_eq {cs : List Char} {ts : List Token} (h : Scans cs ts) :
    tokenize (String.ofList cs) = ts ++ [.finish] := by
  have hall := h [] []
  rw [List.append_nil, List.append_nil] at hall
  rw [tokenize, String.toList_ofList, hall, tokensFrom, List.reverse_cons, List.reverse_reverse]

theorem scans_of_scan {c : Char} {cs : List Char} {t : Token}
    (h : ∀ rest, scan c (cs ++ rest) = (some t, rest)) : Scans (c :: cs) [t] :=
  fun found rest => tokensFrom_token (h rest) found

theorem scans_blank {c : Char} (h : isBlank c = true) : Scans [c] [] :=
  fun found rest => tokensFrom_skip (by simp [scan, h]) found

theorem scans_blanks {cs : List Char} (h : cs.all isBlank = true) : Scans cs [] := by
  induction cs with
  | nil => exact fun _ _ => rfl
  | cons c cs ih =>
    rw [List.all_cons, Bool.and_eq_true] at h
    exact (scans_blank h.1).append (ih h.2)

theorem scans_space : Scans [' '] [] := scans_blank (by decide)

theorem scans_lparen : Scans ['('] [.lparen] := scans_of_scan fun _ => rfl

theorem scans_rparen : Scans [')'] [.rparen] := scans_of_scan fun _ => rfl

theorem scans_conj : Scans ['&', '&'] [.conj] := scans_of_scan fun _ => rfl

theorem scans_disj : Scans ['|', '|'] [.disj] := scans_of_scan fun _ => rfl

/-! ## Operators -/

/-- An operator with the blank that ends its word. -/
theorem scans_operator (op : Operator) : Scans (op.text.toList ++ [' ']) [.operator op] := by
  intro found rest
  have hspace := scans_space (.operator op :: found) rest
  cases op <;> exact (tokensFrom_token rfl found).trans hspace

/-! ## Names and paths -/

/-- A letter or an underscore, then letters, digits and underscores. -/
def isName : List Char → Bool
  | c :: cs => isNameStart c && cs.all isNameChar
  | [] => false

theorem isNameChar_of_isNameStart {c : Char} (h : isNameStart c = true) : isNameChar c = true := by
  simp only [isNameStart, isNameChar, isAsciiAlnum, Bool.or_eq_true] at h ⊢
  exact h.imp_left .inl

theorem isWord_of_isNameChar {c : Char} (h : isNameChar c = true) : isWord c = true := by
  simp only [isNameChar, Bool.or_eq_true] at h
  rcases h with hc | hc
  · have hlt : c.toNat < 128 := by
      simp [isAsciiAlnum, isAsciiLetter, isAsciiDigit, Char.le_def, UInt32.le_iff_toNat_le] at hc
      have : c.toNat = c.val.toNat := rfl
      omega
    simp [isWord, isAlnum, hlt, hc]
  · simp [isWord, hc]

theorem takeWhile_name {w tail : List Char} (hw : w.all isNameChar = true)
    (hend : atWordEnd tail = true) : (w ++ tail).takeWhile isNameChar = w := by
  rw [List.takeWhile_append_of_pos (List.all_eq_true.1 hw)]
  cases tail with
  | nil => simp
  | cons c tail =>
    have hc : isNameChar c = false := by
      cases hn : isNameChar c with
      | false => rfl
      | true => simp [atWordEnd, isWord_of_isNameChar hn] at hend
    simp [hc]

/-- The operators that are words. -/
def reservedWords : List (List Char) :=
  ["matches", "startsWith", "endsWith", "contains", "in"].map String.toList

/-- Names with dots between them, the first of which is no operator. -/
def isPlainPath (path : String) : Bool :=
  (segments path).all (fun s => isName s.toList) &&
    !reservedWords.contains ((segments path).headD "").toList

theorem readForm_eq_some {cs behind : List Char} {form : List Char × Bool × Operator}
    {op : Operator} (h : readForm cs form = some (op, behind)) :
    cs = form.1 ++ behind ∧ (form.2.1 = true → atWordEnd behind = true) := by
  unfold readForm at h
  split at h
  · rename_i rest hrest
    split at h
    · exact absurd h (by simp)
    · rename_i hend
      cases h
      refine ⟨rest?_eq_some_iff.1 hrest, fun hword => ?_⟩
      simpa [hword] using hend
  · exact absurd h (by simp)

theorem isName_all {w : List Char} (hw : isName w = true) : w.all isNameChar = true := by
  cases w with
  | nil => rfl
  | cons c w =>
    simp only [isName, Bool.and_eq_true] at hw
    rw [List.all_cons, isNameChar_of_isNameStart hw.1, hw.2, Bool.and_self]

theorem reservedWords_all : ∀ v ∈ reservedWords, v.all isNameChar = true := by decide

theorem operatorForms_cases : ∀ form ∈ operatorForms,
    form.2.1 = true ∧ form.1 ∈ reservedWords ∨
    form.2.1 = true ∧ form.1 = '!' :: "matches".toList ∨
    form.1 = ['=', '='] ∨ form.1 = ['!', '='] := by decide

/-- Where a word of the notation and a name start the same text and both end there, they agree. -/
theorem mem_reservedWords_of_append_eq {v w behind tail : List Char} (hv : v ∈ reservedWords)
    (hw : isName w = true) (hbehind : atWordEnd behind = true) (htail : atWordEnd tail = true)
    (h : w ++ tail = v ++ behind) : w ∈ reservedWords := by
  have heq : w = v := by
    rw [← takeWhile_name (isName_all hw) htail, h, takeWhile_name (reservedWords_all v hv) hbehind]
  exact heq ▸ hv

theorem exists_form_of_reservedWord :
    ∀ v ∈ reservedWords, ∃ form ∈ operatorForms, form.1 = v := by decide

/-- What starts as a name does is an operator exactly if one of the words stands there and ends. -/
theorem readOperator_eq_none_iff {c : Char} (hc : isNameStart c = true) (cs : List Char) :
    readOperator (c :: cs) = none ↔
      ∀ v ∈ reservedWords, ∀ behind, c :: cs = v ++ behind → atWordEnd behind = false := by
  rw [readOperator, List.findSome?_eq_none_iff]
  constructor
  · intro hnone v hv behind heq
    obtain ⟨form, hform, rfl⟩ := exists_form_of_reservedWord v hv
    have hread := hnone form hform
    rw [readForm, rest?_eq_some_iff.2 heq] at hread
    cases hend : atWordEnd behind with
    | false => rfl
    | true => simp [hend] at hread
  · intro hwords form hform
    cases hread : readForm (c :: cs) form with
    | none => rfl
    | some found =>
      obtain ⟨heq, hends⟩ := readForm_eq_some hread
      have hstart : ∀ d ds, form.1 = d :: ds → isNameStart d = true := by
        intro d ds hd
        rw [hd, List.cons_append] at heq
        rwa [← (List.cons.inj heq).1]
      rcases operatorForms_cases form hform with ⟨hword, hv⟩ | ⟨-, hv⟩ | hv | hv
      · rw [hwords _ hv _ heq] at hends
        exact absurd (hends hword) (by decide)
      all_goals exact absurd (hstart _ _ hv) (by decide)

/-- A name is no operator, unless it is the whole of one that is a word. -/
theorem readOperator_name {w tail : List Char} (hw : isName w = true) (hfree : w ∉ reservedWords)
    (htail : atWordEnd tail = true) : readOperator (w ++ tail) = none := by
  cases w with
  | nil => exact absurd hw (by decide)
  | cons c w =>
    have hc : isNameStart c = true := (Bool.and_eq_true_iff.1 hw).1
    rw [List.cons_append, readOperator_eq_none_iff hc]
    intro v hv behind heq
    cases hbehind : atWordEnd behind with
    | false => rfl
    | true => exact absurd (mem_reservedWords_of_append_eq hv hw hbehind htail heq) hfree

/-- A `!` before a name is none of the operators that start with it. -/
theorem readOperator_negated_name {w tail : List Char} (hw : isName w = true)
    (hfree : w ∉ reservedWords) (htail : atWordEnd tail = true) :
    readOperator ('!' :: (w ++ tail)) = none := by
  rw [readOperator, List.findSome?_eq_none_iff]
  intro form hform
  cases hread : readForm ('!' :: (w ++ tail)) form with
  | none => rfl
  | some found =>
    obtain ⟨heq, hends⟩ := readForm_eq_some hread
    rcases operatorForms_cases form hform with ⟨-, hv⟩ | ⟨hword, hv⟩ | hv | hv
    · cases hform1 : form.1 with
      | nil => exact absurd (hform1 ▸ hv) (by decide)
      | cons c v =>
        have hall := reservedWords_all _ hv
        rw [hform1, List.cons_append] at heq
        rw [hform1, List.all_cons, ← (List.cons.inj heq).1] at hall
        exact absurd (Bool.and_eq_true_iff.1 hall).1 (by decide)
    · -- the operator `!matches` needs the name to be `matches`, which no plain path starts with
      rw [hv, List.cons_append] at heq
      have hin : "matches".toList ∈ reservedWords := by decide
      exact absurd (mem_reservedWords_of_append_eq hin hw (hends hword) htail (List.cons.inj heq).2) hfree
    · rw [hv, List.cons_append] at heq
      exact absurd (List.cons.inj heq).1 (by decide)
    · cases w with
      | nil => exact absurd hw (by decide)
      | cons c w =>
        have hstart : isNameStart c = true := (Bool.and_eq_true_iff.1 hw).1
        rw [hv] at heq
        simp only [List.cons_append, List.nil_append, List.cons.injEq, true_and] at heq
        rw [heq.1] at hstart
        exact absurd hstart (by decide)

/-- Each of the names with a dot before it. -/
def dotted (names : List (List Char)) : List Char := names.flatMap fun w => '.' :: w

theorem dotted_cons (w : List Char) (names : List (List Char)) :
    dotted (w :: names) = '.' :: (w ++ dotted names) := rfl

theorem exists_splitAt_dot_eq (cs : List Char) :
    ∃ first more, splitAt '.' cs = first :: more ∧ cs = first ++ dotted more := by
  induction cs with
  | nil => exact ⟨[], [], rfl, rfl⟩
  | cons c cs ih =>
    obtain ⟨first, more, hsplit, hcs⟩ := ih
    by_cases hc : c = '.'
    · refine ⟨[], first :: more, by rw [hc, splitAt_sep, hsplit], ?_⟩
      rw [dotted_cons, ← hcs, hc, List.nil_append]
    · refine ⟨c :: first, more, splitAt_cons_of_ne hc hsplit, ?_⟩
      rw [List.cons_append, ← hcs]

theorem exists_names_of_isPlainPath {path : String} (h : isPlainPath path = true) :
    ∃ first more, path.toList = first ++ dotted more ∧ isName first = true ∧
      (∀ w ∈ more, isName w = true) ∧ first ∉ reservedWords := by
  obtain ⟨first, more, hsplit, htext⟩ := exists_splitAt_dot_eq path.toList
  simp only [isPlainPath, segments, hsplit, List.map_cons, List.all_cons, List.headD_cons,
    String.toList_ofList, Bool.and_eq_true, List.all_eq_true, List.mem_map,
    forall_exists_index, and_imp, forall_apply_eq_imp_iff₂, Bool.not_eq_true',
    List.contains_eq_mem, decide_eq_false_iff_not] at h
  exact ⟨first, more, htext, h.1.1, h.1.2, h.2⟩

theorem readPath_nameChar {c : Char} (hc : isNameChar c = true) (taken rest : List Char) :
    readPath taken (c :: rest) = readPath (c :: taken) rest := by
  rw [readPath.eq_def]
  simp [hc]

theorem readPath_dot {c : Char} (hc : isNameStart c = true) (taken rest : List Char) :
    readPath taken ('.' :: c :: rest) = readPath (c :: '.' :: taken) rest := by
  rw [readPath.eq_def]
  simp [show isNameChar '.' = false by decide, hc]

theorem readPath_stop {d : Char} {rest : List Char} (hd : isNameChar d = false)
    (hdot : d = '.' → ∀ e more, rest = e :: more → isNameStart e = false) (taken : List Char) :
    readPath taken (d :: rest) = (taken.reverse, d :: rest) := by
  rw [readPath.eq_def]
  simp only [hd, Bool.false_eq_true, if_false]
  split
  · rename_i e more
    rw [hdot rfl e more rfl]
    rfl
  · rfl

theorem readPath_name {w : List Char} (hw : w.all isNameChar = true) (taken rest : List Char) :
    readPath taken (w ++ rest) = readPath (w.reverse ++ taken) rest := by
  induction w generalizing taken with
  | nil => rfl
  | cons c w ih =>
    simp only [List.all_cons, Bool.and_eq_true] at hw
    rw [List.cons_append, readPath_nameChar hw.1, ih hw.2, List.reverse_cons, List.append_assoc]
    rfl

theorem readPath_dotted {names : List (List Char)} (hnames : ∀ w ∈ names, isName w = true)
    (taken rest : List Char) :
    readPath taken (dotted names ++ ' ' :: rest) = (taken.reverse ++ dotted names, ' ' :: rest) := by
  induction names generalizing taken with
  | nil =>
    rw [dotted, List.flatMap_nil, List.nil_append, List.append_nil]
    exact readPath_stop (by decide) (fun hdot => absurd hdot (by decide)) taken
  | cons w names ih =>
    have hw := hnames w List.mem_cons_self
    cases w with
    | nil => exact absurd hw (by decide)
    | cons c w =>
      simp only [isName, Bool.and_eq_true] at hw
      rw [dotted_cons]
      simp only [List.cons_append, List.append_assoc]
      rw [readPath_dot hw.1, readPath_name hw.2, ih fun v hv => hnames v (List.mem_cons_of_mem _ hv)]
      simp

theorem toNat_of_isNameStart {c : Char} (h : isNameStart c = true) :
    65 ≤ c.toNat ∧ c.toNat ≤ 122 := by
  simp [isNameStart, isAsciiLetter, Char.le_def, UInt32.le_iff_toNat_le] at h
  rcases h with (h | h) | rfl
  · omega
  · omega
  · decide

theorem not_isBlank_of_isNameStart {c : Char} (h : isNameStart c = true) : isBlank c = false := by
  have hrange := toNat_of_isNameStart h
  simp only [isBlank, Bool.or_eq_false_iff, Bool.and_eq_false_iff, beq_eq_false_iff_ne,
    decide_eq_false_iff_not]
  omega

/-- A character that starts a name starts a path, unless an operator is there. -/
theorem scan_name {c : Char} {rest : List Char} (hc : isNameStart c = true)
    (hfree : readOperator (c :: rest) = none) :
    scan c rest = (some (.path (String.ofList (readPath [c] rest).1)), (readPath [c] rest).2) := by
  have hne : ∀ d, isNameStart d = false → c ≠ d := by
    intro d hd hcd
    rw [hcd, hd] at hc
    cases hc
  have hlogical : readLogical c rest = none := by
    unfold readLogical
    split
    · exact absurd rfl (hne '&' (by decide))
    · exact absurd rfl (hne '|' (by decide))
    · exact absurd rfl (hne '!' (by decide))
    · rfl
  simp [scan, not_isBlank_of_isNameStart hc, hne '(' (by decide), hne ')' (by decide),
    hne '\x27' (by decide), hne '"' (by decide), hfree, hlogical, hc]

theorem atWordEnd_dotted (names : List (List Char)) (rest : List Char) :
    atWordEnd (dotted names ++ ' ' :: rest) = true := by
  cases names with
  | nil => exact (by decide : atWordEnd [' '] = true)
  | cons w names => exact (by decide : atWordEnd ['.'] = true)

/-- A path with the blank that ends its last name. -/
theorem scans_path {path : String} (h : isPlainPath path = true) :
    Scans (path.toList ++ [' ']) [.path path] := by
  obtain ⟨first, more, htext, hfirst, hmore, hfree⟩ := exists_names_of_isPlainPath h
  intro found rest
  cases first with
  | nil => exact absurd hfirst (by decide)
  | cons c w =>
    have hop : readOperator (c :: (w ++ (dotted more ++ ' ' :: rest))) = none :=
      readOperator_name hfirst hfree (atWordEnd_dotted more rest)
    simp only [isName, Bool.and_eq_true] at hfirst
    have hread : readPath [c] (w ++ (dotted more ++ ' ' :: rest)) = (path.toList, ' ' :: rest) := by
      rw [readPath_name hfirst.2, readPath_dotted hmore, htext]
      simp
    have hscan := scan_name hfirst.1 hop
    rw [hread, String.ofList_toList] at hscan
    have hsplit : path.toList ++ [' '] ++ rest = c :: (w ++ (dotted more ++ ' ' :: rest)) := by
      rw [htext]
      simp
    rw [hsplit, tokensFrom_token hscan]
    exact scans_space (.path path :: found) rest

/-! ## Literals -/

inductive Quote
  | single
  | double
  deriving DecidableEq, Repr

def Quote.char : Quote → Char
  | .single => '\x27'
  | .double => '"'

theorem Quote.char_ne_backslash (q : Quote) : q.char ≠ '\\' := by
  cases q <;> decide

/-- A backslash stands before a backslash and before the quotation mark. -/
def literalEscape (q : Quote) (c : Char) : List Char :=
  if c = '\\' ∨ c = q.char then ['\\', c] else [c]

def literalText (q : Quote) (s : String) : List Char :=
  q.char :: (s.toList.flatMap (literalEscape q) ++ [q.char])

theorem readLiteral_close (q : Char) (taken rest : List Char) :
    readLiteral q taken (q :: rest) = (taken.reverse, rest) := by
  cases rest <;> simp [readLiteral]

theorem readLiteral_escape (q : Quote) (c : Char) (taken rest : List Char) (hrest : rest ≠ []) :
    readLiteral q.char taken (literalEscape q c ++ rest) = readLiteral q.char (c :: taken) rest := by
  have hback := q.char_ne_backslash.symm
  obtain ⟨d, rest, rfl⟩ := List.exists_cons_of_ne_nil hrest
  rw [literalEscape]
  split
  · simp [readLiteral, hback]
  · rename_i hc
    rw [not_or] at hc
    simp [readLiteral, hc.1, hc.2]

theorem readLiteral_escaped (q : Quote) (cs taken rest : List Char) :
    readLiteral q.char taken (cs.flatMap (literalEscape q) ++ q.char :: rest)
      = (taken.reverse ++ cs, rest) := by
  induction cs generalizing taken with
  | nil => simpa using readLiteral_close q.char taken rest
  | cons c cs ih =>
    rw [List.flatMap_cons, List.append_assoc, readLiteral_escape q c taken _ (by simp), ih]
    simp

theorem scans_literal (q : Quote) (s : String) : Scans (literalText q s) [.literal s] := by
  apply scans_of_scan
  intro rest
  have hread := readLiteral_escaped q s.toList [] rest
  rw [List.reverse_nil, List.nil_append] at hread
  rw [List.append_assoc, List.singleton_append]
  cases q <;> simp [scan, Quote.char, isBlank] at hread ⊢ <;> simp [hread]

/-! ## Negation -/

/-- The text of something that can stand behind a `!`: the two do not make an operator. -/
def Negatable (cs : List Char) : Prop := ∀ rest, readOperator ('!' :: (cs ++ rest)) = none

theorem Negatable.append {cs : List Char} (h : Negatable cs) (ds : List Char) :
    Negatable (cs ++ ds) := by
  intro rest
  rw [List.append_assoc]
  exact h (ds ++ rest)

theorem negatable_lparen : Negatable ['('] := fun _ => rfl

theorem negatable_negate : Negatable ['!'] := fun _ => rfl

theorem negatable_path {path : String} (h : isPlainPath path = true) :
    Negatable (path.toList ++ [' ']) := by
  obtain ⟨first, more, htext, hfirst, -, hfree⟩ := exists_names_of_isPlainPath h
  intro rest
  have hop := readOperator_negated_name hfirst hfree (atWordEnd_dotted more rest)
  rw [htext]
  simpa using hop

theorem Scans.negate {cs : List Char} {ts : List Token} (h : Scans cs ts) (hneg : Negatable cs) :
    Scans ('!' :: cs) (.negate :: ts) := by
  intro found rest
  have hscan : scan '!' (cs ++ rest) = (some .negate, cs ++ rest) := by
    have hblank : isBlank '!' = false := by decide
    simp [scan, hblank, hneg rest, readLogical]
  rw [List.cons_append, tokensFrom_token hscan, h]
  simp

end HookPolicy.Rule
