import HookPolicy.Json.Reader
import HookPolicy.Json.Writer
import HookPolicy.Proofs.Number.Shortest

/-!
# Reading numbers back

A number is read back from its text when what follows cannot belong to a number.
-/

namespace HookPolicy.Json

open Decimal Text

variable {cs ds rest whole : List Char} {part : Option (List Char)}
  {exponent : Option (Bool × List Char)}

/-- What may follow a value: nothing, a blank, a comma or a closing bracket. -/
def Delimits (rest : List Char) : Prop :=
  ∀ c ∈ rest.head?, c ∈ [' ', '\t', '\n', '\r', ',', ']', '}']

/-! ## The pieces of a number -/

def partChars : Option (List Char) → List Char
  | none => []
  | some ds => '.' :: ds

def exponentText : Option (Bool × List Char) → List Char
  | none => []
  | some (negative, ds) => 'e' :: (if negative then '-' else '+') :: ds

def signChars (negative : Bool) : List Char := if negative then ['-'] else []

/-- Digits that are read as the pieces of a number: none is missing, and a zero in front stands
alone. -/
structure AreNumber (whole : List Char) (part : Option (List Char))
    (exponent : Option (Bool × List Char)) : Prop where
  areDigits : AllDigits whole
  nonempty : whole ≠ []
  zero : whole.head? = some '0' → whole = ['0']
  places : ∀ ds ∈ part, AllDigits ds ∧ ds ≠ []
  power : ∀ e ∈ exponent, AllDigits e.2 ∧ e.2 ≠ []

theorem takeDigits_append (h : AllDigits ds) (hrest : ∀ c ∈ rest.head?, isAsciiDigit c = false) :
    takeDigits (ds ++ rest) = (ds, rest) :=
  span_digits h hrest

theorem readPart_partChars (hpart : ∀ ds ∈ part, AllDigits ds ∧ ds ≠ [])
    (hrest : ∀ c ∈ rest.head?, isAsciiDigit c = false ∧ c ≠ '.') :
    readPart (partChars part ++ rest) = (part, rest) := by
  cases part with
  | none =>
    cases rest with
    | nil => rfl
    | cons c rest =>
      have hc := (hrest c rfl).2
      change readPart (c :: rest) = (none, c :: rest)
      unfold readPart
      split
      · rename_i heq
        cases heq
        exact absurd rfl hc
      · rfl
  | some ds =>
    obtain ⟨hdigits, hne⟩ := hpart ds rfl
    change readPart ('.' :: (ds ++ rest)) = (some ds, rest)
    rw [readPart, takeDigits_append hdigits fun c hc => (hrest c hc).1]
    cases ds with
    | nil => exact absurd rfl hne
    | cons d ds => rfl

theorem readExponent_exponentText (hexponent : ∀ e ∈ exponent, AllDigits e.2 ∧ e.2 ≠ [])
    (hrest : ∀ c ∈ rest.head?, isAsciiDigit c = false ∧ c ≠ 'e' ∧ c ≠ 'E') :
    ∃ size, readExponent (exponentText exponent ++ rest) = (exponent, size, rest) := by
  cases exponent with
  | none =>
    refine ⟨0, ?_⟩
    cases rest with
    | nil => rfl
    | cons c rest =>
      have hc : (c == 'e' || c == 'E') = false := by simpa using (hrest c rfl).2
      change readExponent (c :: rest) = (none, 0, c :: rest)
      unfold readExponent
      dsimp only
      rw [hc]
      rfl
  | some e =>
    obtain ⟨negative, ds⟩ := e
    obtain ⟨hdigits, hne⟩ := hexponent _ rfl
    have htake : takeDigits (ds ++ rest) = (ds, rest) :=
      takeDigits_append hdigits fun c hc => (hrest c hc).1
    obtain ⟨d, more, rfl⟩ := List.exists_cons_of_ne_nil hne
    cases negative with
    | true =>
      change ∃ size, readExponent ('e' :: '-' :: (d :: more ++ rest)) = _
      simp only [readExponent, htake]
      exact ⟨_, rfl⟩
    | false =>
      change ∃ size, readExponent ('e' :: '+' :: (d :: more ++ rest)) = _
      simp only [readExponent, htake]
      exact ⟨_, rfl⟩

/-- The digits before the point: a zero in front stands alone. -/
def readWhole (body : List Char) : Option (List Char × List Char) :=
  match body with
  | '0' :: r => some (['0'], r)
  | c :: _ => if isAsciiDigit c then some (takeDigits body) else none
  | [] => none

def readUnsigned (negative : Bool) (body : List Char) : Option (NumberText × List Char) :=
  match readWhole body with
  | none => none
  | some (whole, r) =>
    let (part, r) := readPart r
    let (exponent, exponentSize, r) := readExponent r
    let partSize := match part with
      | some ds => 1 + ds.length
      | none => 0
    let size := negative.toNat + whole.length + partSize + exponentSize
    some (⟨negative, whole, part, exponent, size⟩, r)

theorem readNumberText_eq (cs : List Char) :
    readNumberText cs =
      if cs.head? = some '-' then readUnsigned true cs.tail else readUnsigned false cs := by
  unfold readNumberText
  split
  rename_i negative body hsign
  split at hsign
  · cases hsign
    exact (if_pos rfl).symm
  · rename_i hne
    cases hsign
    have hhead : ¬ cs.head? = some '-' := by
      intro heq
      cases cs with
      | nil => cases heq
      | cons c r =>
        cases heq
        exact hne r rfl
    exact (if_neg hhead).symm

theorem readNumberText_signChars {body : List Char} (h : body.head? ≠ some '-') (negative : Bool) :
    readNumberText (signChars negative ++ body) = readUnsigned negative body := by
  rw [readNumberText_eq]
  cases negative with
  | true => exact if_pos rfl
  | false => exact if_neg h

theorem readWhole_append (hdigits : AllDigits whole) (hne : whole ≠ [])
    (hzero : whole.head? = some '0' → whole = ['0'])
    (hrest : ∀ c ∈ rest.head?, isAsciiDigit c = false) :
    readWhole (whole ++ rest) = some (whole, rest) := by
  have htake := takeDigits_append hdigits hrest
  obtain ⟨d, more, rfl⟩ := List.exists_cons_of_ne_nil hne
  rw [List.cons_append] at htake ⊢
  unfold readWhole
  split
  · rename_i heq
    cases heq
    cases hzero rfl
    rfl
  · rename_i heq
    cases heq
    rw [if_pos (hdigits d List.mem_cons_self), htake]
  · rename_i heq
    cases heq

theorem not_digit_of_delimits (h : Delimits rest) :
    ∀ c ∈ rest.head?, isAsciiDigit c = false ∧ c ≠ '.' ∧ c ≠ 'e' ∧ c ≠ 'E' := by
  intro c hc
  have hmem := h c hc
  simp only [List.mem_cons, List.not_mem_nil, or_false] at hmem
  rcases hmem with rfl | rfl | rfl | rfl | rfl | rfl | rfl <;> decide

theorem head?_exponentText (hrest : Delimits rest) (exponent : Option (Bool × List Char)) :
    ∀ c ∈ (exponentText exponent ++ rest).head?, isAsciiDigit c = false ∧ c ≠ '.' := by
  cases exponent with
  | none =>
    intro c hc
    have hdelimits := not_digit_of_delimits hrest c hc
    exact ⟨hdelimits.1, hdelimits.2.1⟩
  | some e =>
    intro c hc
    cases hc
    decide

theorem head?_partChars (hrest : Delimits rest) (part : Option (List Char))
    (exponent : Option (Bool × List Char)) :
    ∀ c ∈ (partChars part ++ (exponentText exponent ++ rest)).head?, isAsciiDigit c = false := by
  cases part with
  | none => exact fun c hc => (head?_exponentText hrest exponent c hc).1
  | some ds =>
    intro c hc
    cases hc
    decide

theorem readUnsigned_pieces (h : AreNumber whole part exponent) (negative : Bool)
    (hrest : Delimits rest) :
    ∃ size, readUnsigned negative (whole ++ (partChars part ++ (exponentText exponent ++ rest))) =
      some (⟨negative, whole, part, exponent, size⟩, rest) := by
  have hpart := readPart_partChars h.places (head?_exponentText hrest exponent)
  obtain ⟨size, hexponent⟩ := readExponent_exponentText h.power fun c hc =>
    have hdelimits := not_digit_of_delimits hrest c hc
    ⟨hdelimits.1, hdelimits.2.2⟩
  have hwhole := readWhole_append h.areDigits h.nonempty h.zero
    (head?_partChars hrest part exponent)
  simp only [readUnsigned, hwhole, hpart, hexponent]
  exact ⟨_, rfl⟩

theorem readNumberText_pieces (h : AreNumber whole part exponent) (negative : Bool)
    (hrest : Delimits rest) :
    ∃ size, readNumberText
        (signChars negative ++ (whole ++ (partChars part ++ (exponentText exponent ++ rest)))) =
      some (⟨negative, whole, part, exponent, size⟩, rest) := by
  have hhead : (whole ++ (partChars part ++ (exponentText exponent ++ rest))).head? ≠ some '-' := by
    obtain ⟨d, more, rfl⟩ := List.exists_cons_of_ne_nil h.nonempty
    have hd := h.areDigits d List.mem_cons_self
    intro heq
    cases heq
    revert hd
    decide
  rw [readNumberText_signChars hhead]
  exact readUnsigned_pieces h negative hrest

/-! ## Layouts -/

def exponentValue : Option (Bool × List Char) → Int
  | none => 0
  | some (true, es) => -(count es : Int)
  | some (false, es) => count es

/-- The pieces of a number stand for `mantissa * 10^e`, and not for a whole number. -/
structure StandFor (whole : List Char) (part : Option (List Char))
    (exponent : Option (Bool × List Char)) (mantissa : Nat) (e : Int) : Prop where
  pieces : AreNumber whole part exponent
  fraction : (part.isNone && exponent.isNone) = false
  value : ∀ negative, ofTen negative (count (whole ++ part.getD []))
    (exponentValue exponent - (part.getD []).length) = ofTen negative mantissa e

section

variable {m : Nat} {e : Int}

theorem head?_ne_zero_of_append {back : List Char} (hne : whole ≠ [])
    (hhead : (whole ++ back).head? ≠ some '0') : whole.head? ≠ some '0' := by
  rwa [List.head?_append_of_ne_nil _ hne] at hhead

theorem standFor_fraction (hdigits : AllDigits ds) (hne : ds ≠ []) (k : Nat) :
    StandFor ['0'] (some (zeros k ++ ds)) none (count ds) (-(k + ds.length : Int)) where
  pieces := {
    areDigits := allDigits_zeros 1
    nonempty := nofun
    zero := fun _ => rfl
    places := by
      rintro _ ⟨⟩
      exact ⟨(allDigits_zeros k).append hdigits, List.append_ne_nil_of_right_ne_nil _ hne⟩
    power := nofun }
  fraction := rfl
  value negative := by
    have hcount : count (['0'] ++ (zeros k ++ ds)) = count ds := by
      rw [show ['0'] = zeros 1 from rfl, count_append, count_append, count_zeros, count_zeros,
        zero_mul, zero_add, zero_mul, zero_add]
    rw [Option.getD_some, hcount]
    congr 1
    simp [exponentValue, zeros]

theorem standFor_whole (hdigits : AllDigits ds) (hne : ds ≠ []) (hhead : ds.head? ≠ some '0')
    (j : Nat) : StandFor (ds ++ zeros j) (some ['0']) none (count ds) j where
  pieces := {
    areDigits := hdigits.append (allDigits_zeros j)
    nonempty := List.append_ne_nil_of_left_ne_nil hne _
    zero := fun h => absurd (List.head?_append_of_ne_nil _ hne ▸ h) hhead
    places := by
      rintro _ ⟨⟩
      exact ⟨allDigits_zeros 1, nofun⟩
    power := nofun }
  fraction := rfl
  value negative := by
    have hcount : count (ds ++ zeros j ++ ['0']) = count ds * 10 ^ (j + 1) := by
      have hzeros : zeros j ++ ['0'] = zeros (j + 1) := List.replicate_succ'.symm
      rw [List.append_assoc, hzeros, count_append, count_zeros, add_zero, zeros,
        List.length_replicate]
    rw [Option.getD_some, hcount, ofTen_mul_pow]
    congr 1
    simp [exponentValue]

theorem standFor_places (hdigits : AllDigits (whole ++ ds)) (hne : whole ≠ []) (hplaces : ds ≠ [])
    (hhead : (whole ++ ds).head? ≠ some '0') :
    StandFor whole (some ds) none (count (whole ++ ds)) (-(ds.length : Int)) where
  pieces := {
    areDigits := hdigits.of_append_left
    nonempty := hne
    zero := fun h => absurd h (head?_ne_zero_of_append hne hhead)
    places := by
      rintro _ ⟨⟩
      exact ⟨hdigits.of_append_right, hplaces⟩
    power := nofun }
  fraction := rfl
  value negative := by
    rw [Option.getD_some]
    congr 1
    simp [exponentValue]

theorem standFor_exponent {d : Char} (hdigits : AllDigits (d :: ds)) (hhead : d ≠ '0')
    (hpart : part = if ds = [] then none else some ds) {es : List Char} (hes : AllDigits es)
    (hne : es ≠ []) (negative : Bool) :
    StandFor [d] part (some (negative, es)) (count (d :: ds))
      (exponentValue (some (negative, es)) - ds.length) where
  pieces := {
    areDigits := hdigits.take 1
    nonempty := nofun
    zero := by
      intro h
      cases h
      exact absurd rfl hhead
    places := by
      intro ds' hds'
      rw [hpart] at hds'
      split at hds' <;> cases hds'
      exact ⟨fun c hc => hdigits c (List.mem_cons_of_mem d hc), ‹_›⟩
    power := by
      rintro _ ⟨⟩
      exact ⟨hes, hne⟩ }
  fraction := by simp
  value _ := by
    have hgetD : part.getD [] = ds := by
      rw [hpart]
      split
      · exact Eq.symm ‹_›
      · rfl
    rw [hgetD]
    rfl

/-- The digits of an exponent, two at least. -/
def exponentDigits (n : Nat) : List Char :=
  if (digits n).length < 2 then '0' :: digits n else digits n

theorem allDigits_exponentDigits (n : Nat) : AllDigits (exponentDigits n) := by
  unfold exponentDigits
  split
  · exact (allDigits_zeros 1).append (allDigits_digits n)
  · exact allDigits_digits n

theorem exponentDigits_ne_nil (n : Nat) : exponentDigits n ≠ [] := by
  unfold exponentDigits
  split
  · nofun
  · exact digits_ne_nil n

theorem count_exponentDigits (n : Nat) : count (exponentDigits n) = n := by
  unfold exponentDigits
  split
  · rw [show '0' :: digits n = zeros 1 ++ digits n from rfl, count_append, count_zeros,
      count_digits, zero_mul, zero_add]
  · exact count_digits n

theorem exponentValue_exponentDigits (e : Int) :
    exponentValue (some (decide (e < 0), exponentDigits e.natAbs)) = e := by
  by_cases h : e < 0
  · rw [decide_eq_true h, exponentValue, count_exponentDigits]
    omega
  · rw [decide_eq_false h, exponentValue, count_exponentDigits]
    omega

/-- Digits with their point, or with an exponent, stand for the number that was laid out. -/
theorem exists_layout_eq (hdigits : AllDigits ds) (hne : ds ≠ []) (hhead : ds.head? ≠ some '0')
    (e : Int) :
    ∃ whole part exponent, layout ds (e + ds.length) =
      whole ++ (partChars part ++ exponentText exponent) ∧
        StandFor whole part exponent (count ds) e := by
  have hlength : 0 < ds.length := List.length_pos_iff.2 hne
  unfold layout
  split
  · rename_i hpoint
    rw [Bool.and_eq_true, decide_eq_true_eq, decide_eq_true_eq] at hpoint
    split
    · -- the point stands in front of all digits
      rename_i hsmall
      have he : -((-(e + ds.length)).toNat + ds.length : Int) = e := by omega
      have hstand := standFor_fraction hdigits hne (-(e + ds.length)).toNat
      rw [he] at hstand
      exact ⟨_, _, _, by simp [partChars, exponentText], hstand⟩
    · split
      · -- the point stands behind them
        rename_i hpos hlarge
        have he : (((e + ds.length).toNat - ds.length : Nat) : Int) = e := by omega
        have hstand := standFor_whole hdigits hne hhead ((e + ds.length).toNat - ds.length)
        rw [he] at hstand
        exact ⟨_, _, _, by simp [partChars, exponentText], hstand⟩
      · -- the point stands among them
        rename_i hpos hlarge
        have hcut := List.take_append_drop (e + ds.length).toNat ds
        have he : -((ds.drop (e + ds.length).toNat).length : Int) = e := by
          rw [List.length_drop]
          omega
        have hfront : ds.take (e + ds.length).toNat ≠ [] := by
          intro heq
          rcases List.take_eq_nil_iff.1 heq with h | h
          · omega
          · exact hne h
        have hback : ds.drop (e + ds.length).toNat ≠ [] := by
          rw [ne_eq, List.drop_eq_nil_iff]
          omega
        have hstand := standFor_places (hcut.symm ▸ hdigits) hfront hback (hcut.symm ▸ hhead)
        rw [he, hcut] at hstand
        exact ⟨_, _, _, by simp [partChars, exponentText], hstand⟩
  · -- the number has an exponent, and the point stands behind the first digit
    obtain ⟨d, more, rfl⟩ := List.exists_cons_of_ne_nil hne
    have hd : d ≠ '0' := fun h => hhead (congrArg some h)
    have hstand := standFor_exponent hdigits hd rfl
      (allDigits_exponentDigits (e + (d :: more).length - 1).natAbs) (exponentDigits_ne_nil _)
      (decide (e + (d :: more).length - 1 < 0))
    have he : e + (d :: more).length - 1 - more.length = e := by
      rw [List.length_cons]
      omega
    rw [exponentValue_exponentDigits, he] at hstand
    refine ⟨_, _, _, ?_, hstand⟩
    cases more with
    | nil => simp [partChars, exponentText, exponentDigits]
    | cons d' more => simp [partChars, exponentText, exponentDigits]

end

/-! ## Numbers in a text -/

/-- The text starts like a number and is read as the value, and nothing of what follows is taken. -/
structure ReadsNumber (v : Json) (cs : List Char) : Prop where
  start : ∃ negative d tail, cs = signChars negative ++ d :: tail ∧ isAsciiDigit d = true
  read : ∀ rest offset, Delimits rest →
    ∃ offset', readNumber ⟨cs ++ rest, offset⟩ = .ok (v, ⟨rest, offset'⟩)

theorem readNumber_pieces (h : AreNumber whole part exponent) {negative : Bool} {v : Json}
    (hvalue : ∀ size, NumberText.value ⟨negative, whole, part, exponent, size⟩ = .ok v) :
    ReadsNumber v
      (signChars negative ++ (whole ++ (partChars part ++ exponentText exponent))) where
  start := by
    obtain ⟨d, more, rfl⟩ := List.exists_cons_of_ne_nil h.nonempty
    exact ⟨_, d, _, rfl, h.areDigits d List.mem_cons_self⟩
  read rest offset hrest := by
    obtain ⟨size, hread⟩ := readNumberText_pieces h negative hrest
    simp only [List.append_assoc, readNumber, hread, hvalue]
    exact ⟨_, rfl⟩

theorem readWord_digit {d : Char} (hd : isAsciiDigit d = true) (negative : Bool)
    (tail : List Char) (offset : Nat) :
    readWord ⟨signChars negative ++ d :: tail, offset⟩ = none := by
  have hne : ∀ c, isAsciiDigit c = false → (c == d) = false := by
    intro c hc
    rw [beq_eq_false_iff_ne]
    rintro rfl
    rw [hd] at hc
    cases hc
  have hI := hne 'I' (by decide)
  cases negative with
  | true => simp [readWord, words, signChars, rest?, hI]
  | false =>
    have hn := hne 'n' (by decide)
    have ht := hne 't' (by decide)
    have hf := hne 'f' (by decide)
    have hN := hne 'N' (by decide)
    have hminus := hne '-' (by decide)
    simp [readWord, words, signChars, rest?, hn, ht, hf, hN, hI, hminus]

theorem ReadsNumber.readWord_eq_none {v : Json} (h : ReadsNumber v cs) (rest : List Char)
    (offset : Nat) : readWord ⟨cs ++ rest, offset⟩ = none := by
  obtain ⟨negative, d, tail, rfl, hd⟩ := h.start
  rw [List.append_assoc, List.cons_append]
  exact readWord_digit hd negative (tail ++ rest) offset

theorem intChars_eq (n : Int) : intChars n = signChars (decide (n < 0)) ++ digits n.natAbs := by
  unfold intChars
  split
  · rename_i h
    rw [decide_eq_true h]
    rfl
  · rename_i h
    rw [decide_eq_false h]
    rfl

theorem areNumber_digits (n : Nat) : AreNumber (digits n) none none where
  areDigits := allDigits_digits n
  nonempty := digits_ne_nil n
  zero h := by
    rcases Nat.eq_zero_or_pos n with rfl | hpos
    · rfl
    · exact absurd h (head_digits_ne_zero hpos)
  places := nofun
  power := nofun

namespace NumberText

theorem value_int (negative : Bool) {size : Nat} (h : ¬ ds.length > digitLimit) :
    value ⟨negative, ds, none, none, size⟩ =
      .ok (.int (if negative then -(count ds : Int) else count ds)) := by
  change (if ds.length > digitLimit then _ else _) = _
  rw [if_neg h]
  rfl

theorem value_tooManyDigits (negative : Bool) {size : Nat} (h : ds.length > digitLimit) :
    value ⟨negative, ds, none, none, size⟩ = .error (.tooManyDigits ds.length) := by
  change (if ds.length > digitLimit then _ else _) = _
  rw [if_pos h]

theorem value_float (negative : Bool) {size : Nat} (h : (part.isNone && exponent.isNone) = false) :
    value ⟨negative, whole, part, exponent, size⟩ =
      .ok (.float (toBinary negative (count (whole ++ part.getD []))
        (whole ++ part.getD []).length (exponentValue exponent - (part.getD []).length))) := by
  rcases exponent with _ | ⟨_ | _, es⟩ <;> cases part <;> first | rfl | cases h

end NumberText

theorem readsNumber_int {n : Int} (h : n.natAbs < 10 ^ digitLimit) :
    ReadsNumber (.int n) (intChars n) := by
  have hlength : ¬ (digits n.natAbs).length > digitLimit :=
    Nat.not_lt.2 ((length_digits_le_iff (by decide)).2 h)
  have hsigned : (if decide (n < 0) = true then -(n.natAbs : Int) else n.natAbs) = n := by
    split <;> rename_i hneg <;> simp only [decide_eq_true_eq] at hneg <;> omega
  have hvalue : ∀ size,
      NumberText.value ⟨decide (n < 0), digits n.natAbs, none, none, size⟩ = .ok (.int n) := by
    intro size
    rw [NumberText.value_int _ hlength, count_digits, hsigned]
  have hread := readNumber_pieces (areNumber_digits n.natAbs) hvalue
  rw [intChars_eq]
  simpa [partChars, exponentText] using hread

theorem NumberText.value_of_standFor {m : Nat} {e : Int} (h : StandFor whole part exponent m e)
    {negative : Bool} {x : Binary64} (hx : ofTen negative m e = x) (size : Nat) :
    NumberText.value ⟨negative, whole, part, exponent, size⟩ = .ok (.float x) := by
  have hall : AllDigits (whole ++ part.getD []) := by
    apply h.pieces.areDigits.append
    cases part with
    | none => nofun
    | some ds => exact (h.pieces.places ds rfl).1
  rw [value_float _ h.fraction, toBinary_eq_ofTen (count_lt hall), h.value, hx]

theorem floatChars_finite (negative : Bool) (code : Fin (2047 * Nat.pow 2 52)) :
    floatChars (.finite negative code) = signChars negative ++ magnitude code := rfl

/-- A finite number is read back from its text. -/
theorem readsNumber_finite (negative : Bool) (code : Fin (2047 * Nat.pow 2 52)) :
    ReadsNumber (.float (.finite negative code)) (floatChars (.finite negative code)) := by
  rw [floatChars_finite]
  by_cases hcode : code.val = 0
  · have hzero : code = ⟨0, by decide⟩ := Fin.ext hcode
    subst hzero
    exact readNumber_pieces (standFor_fraction (allDigits_zeros 1) nofun 0).pieces fun size => by
      rw [NumberText.value_float _ rfl]
      rfl
  · obtain ⟨m, e, hlayout, hpos, hround⟩ := exists_magnitude_eq hcode
    obtain ⟨whole, part, exponent, htext, hstand⟩ :=
      exists_layout_eq (allDigits_digits m) (digits_ne_nil m) (head_digits_ne_zero hpos) e
    rw [count_digits] at hstand
    rw [hlayout, htext]
    exact readNumber_pieces hstand.pieces (NumberText.value_of_standFor hstand (hround negative))

end HookPolicy.Json
