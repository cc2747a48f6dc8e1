import HookPolicy.Proofs.Time.Calendar

/-!
# The written form of a moment

A moment of the calendar is read back from its written form, with its zone and to the microsecond.
-/

namespace HookPolicy.Timestamp

open Text Decimal

variable {t : Timestamp} {rest : List Char}

/-! ## Padded numbers -/

section

variable {width n : Nat}

theorem allDigits_padded (width n : Nat) : AllDigits (padded width n) :=
  (allDigits_zeros _).append (allDigits_digits n)

theorem count_padded (width n : Nat) : count (padded width n) = n := by
  rw [show padded width n = zeros (width - (digits n).length) ++ digits n from rfl, count_append,
    count_zeros, count_digits, zero_mul, zero_add]

theorem length_padded (hwidth : 0 < width) (h : n < 10 ^ width) :
    (padded width n).length = width := by
  have hle := (length_digits_le_iff hwidth).2 h
  rw [padded, List.length_append, List.length_replicate]
  omega

end

theorem twoDigits?_append {ds : List Char} (h : AllDigits ds) (hlength : ds.length = 2) :
    twoDigits? (ds ++ rest) = some (count ds, rest) := by
  obtain ⟨a, b, rfl⟩ := List.length_eq_two.1 hlength
  have ha := h a (by simp)
  have hb := h b (by simp)
  change (if isAsciiDigit a && isAsciiDigit b then some (count [a, b], rest) else none) = _
  rw [ha, hb]
  rfl

theorem twoDigits?_padded {n : Nat} (h : n < 100) :
    twoDigits? (padded 2 n ++ rest) = some (n, rest) := by
  rw [twoDigits?_append (allDigits_padded 2 n) (length_padded (by decide) h), count_padded]

theorem exists_padded_four {n : Nat} (h : n ≤ 9999) :
    ∃ century years, century * 100 + years = n ∧ ∀ rest,
      twoDigits? (padded 4 n ++ rest) = some (century, (padded 4 n).drop 2 ++ rest) ∧
        twoDigits? ((padded 4 n).drop 2 ++ rest) = some (years, rest) := by
  have hdigits := allDigits_padded 4 n
  have hlength : (padded 4 n).length = 4 := length_padded (by decide) (by omega)
  have hcut := List.take_append_drop 2 (padded 4 n)
  have hfront : AllDigits ((padded 4 n).take 2) := hdigits.take 2
  have hback : AllDigits ((padded 4 n).drop 2) := fun c hc => hdigits c (List.mem_of_mem_drop hc)
  have hfrontLength : ((padded 4 n).take 2).length = 2 := by rw [List.length_take, hlength]; rfl
  have hbackLength : ((padded 4 n).drop 2).length = 2 := by rw [List.length_drop, hlength]
  refine ⟨count ((padded 4 n).take 2), count ((padded 4 n).drop 2), ?_, fun rest => ⟨?_, ?_⟩⟩
  · have hcount := count_padded 4 n
    rw [← hcut, count_append, hbackLength] at hcount
    exact hcount
  · nth_rewrite 1 [← hcut]
    rw [List.append_assoc, twoDigits?_append hfront hfrontLength]
  · exact twoDigits?_append hback hbackLength

/-! ## The parts of the written form -/

theorem rest?_singleton (c : Char) (rest : List Char) : rest? [c] (c :: rest) = some rest := by
  simp [rest?]

def writeDate (t : Timestamp) : List Char :=
  padded 4 t.year ++ '-' :: (padded 2 t.month ++ '-' :: padded 2 t.day)

def writeMicro (micro : Nat) : List Char := if micro == 0 then [] else '.' :: padded 6 micro

def writeTime (t : Timestamp) : List Char :=
  padded 2 t.hour ++ ':' :: (padded 2 t.minute ++ ':' :: (padded 2 t.second ++ writeMicro t.micro))

theorem writeWith_eq (utc : List Char) (t : Timestamp) :
    writeWith utc t = writeDate t ++ 'T' :: (writeTime t ++ writeZone utc t.zone) := by
  simp [writeWith, writeDate, writeTime, writeMicro]

theorem readDate_writeDate (h : t.Valid) (rest : List Char) :
    readDate (writeDate t ++ rest) = some (t.year, t.month, t.day, rest) := by
  obtain ⟨-, hm, hm', hd, hd'⟩ := isDate_iff.1 h.date
  have hday : monthDays t.year t.month ≤ 31 := by
    unfold monthDays
    split_ifs <;> decide
  obtain ⟨century, years, hyear, hread⟩ := exists_padded_four h.year
  have hyear : 100 * century + years = t.year := by omega
  have hdate := h.date
  simp only [writeDate, List.append_assoc, List.cons_append, readDate, Option.bind_eq_bind,
    (hread _).1, (hread _).2, Option.bind_some, rest?_singleton,
    twoDigits?_padded (show t.month < 100 by omega), twoDigits?_padded (show t.day < 100 by omega)]
  rw [hyear, if_pos h.date]

theorem head?_writeZone {c : Char} {zone : Option Int} (h : c ∈ (writeZone ['Z'] zone).head?) :
    c = 'Z' ∨ c = '+' ∨ c = '-' := by
  unfold writeZone at h
  split at h
  · cases h
  · cases h
    exact .inl rfl
  · cases h
    split
    · exact .inr (.inr rfl)
    · exact .inr (.inl rfl)

theorem readFraction_writeMicro {micro : Nat} (h : micro < 1000000) (zone : Option Int) :
    readFraction (writeMicro micro ++ writeZone ['Z'] zone) =
      some (micro, writeZone ['Z'] zone) := by
  by_cases hzero : micro = 0
  · subst hzero
    change readFraction (writeZone ['Z'] zone) = _
    unfold readFraction
    split
    · rename_i c rest hzone
      have hhead : c ∈ (writeZone ['Z'] zone).head? := by
        rw [hzone]
        rfl
      have hc := head?_writeZone hhead
      rw [if_neg (by rcases hc with rfl | rfl | rfl <;> decide), hzone]
    · rename_i hzone
      rw [hzone]
  · have hspan : (padded 6 micro ++ writeZone ['Z'] zone).span isAsciiDigit =
        (padded 6 micro, writeZone ['Z'] zone) := by
      apply span_digits (allDigits_padded 6 micro)
      intro c hc
      rcases head?_writeZone hc with rfl | rfl | rfl <;> decide
    have hlength : (padded 6 micro).length = 6 := length_padded (by decide) h
    have hne : (padded 6 micro).isEmpty = false := by
      rw [List.isEmpty_eq_false_iff_exists_mem, ← List.length_pos_iff_exists_mem, hlength]
      decide
    have hmicro : microOf (padded 6 micro) = micro := by
      rw [microOf, List.take_of_length_le hlength.le, hlength]
      change count (padded 6 micro) * 1 = micro
      rw [count_padded, mul_one]
    rw [writeMicro, if_neg (by simpa using hzero), List.cons_append, readFraction,
      if_pos (by decide), hspan]
    dsimp only
    rw [hne, hmicro]
    rfl

theorem readTime_writeTime (h : t.Valid) :
    readTime (writeTime t ++ writeZone ['Z'] t.zone) =
      some (t.hour, t.minute, t.second, t.micro, writeZone ['Z'] t.zone) := by
  have hhour := h.hour
  have hminute := h.minute
  have hsecond := h.second
  have hrange : (decide (t.hour > 23) || decide (t.minute > 59)) = false := by
    simp [hhour, hminute]
  have hlast : ¬ t.second > 59 := Nat.not_lt.2 hsecond
  simp only [writeTime, List.append_assoc, List.cons_append, readTime, Option.bind_eq_bind,
    twoDigits?_padded (show t.hour < 100 by omega), Option.bind_some, rest?_singleton,
    twoDigits?_padded (show t.minute < 100 by omega), hrange, Bool.false_eq_true, if_false,
    twoDigits?_padded (show t.second < 100 by omega), readFraction_writeMicro h.micro, hlast]

theorem readZone_signed {c : Char} {hours minutes : Nat} (hc : c = '+' ∨ c = '-')
    (hhours : hours ≤ 23) (hminutes : minutes ≤ 59) :
    readZone (c :: (padded 2 hours ++ ':' :: padded 2 minutes)) =
      some (some (if c == '+' then (hours * 60 + minutes : Int) else -(hours * 60 + minutes))) := by
  have hread : twoDigits? (padded 2 minutes) = some (minutes, []) := by
    rw [← List.append_nil (padded 2 minutes), twoDigits?_padded (by omega)]
  have hrange : (decide (minutes > 59) || decide (hours > 23) || !([] : List Char).isEmpty) =
      false := by
    simp [hhours, hminutes]
  have hsign : (c == '+' || c == '-' || c == '\u2212') = true := by
    rcases hc with rfl | rfl <;> decide
  unfold readZone
  split
  · cases ‹c :: _ = []›
  · rcases hc with rfl | rfl <;> cases ‹_ :: _ = ['Z']›
  · rcases hc with rfl | rfl <;> cases ‹_ :: _ = ['z']›
  · rename_i heq
    cases heq
    rw [if_pos hsign]
    simp only [Option.bind_eq_bind, twoDigits?_padded (show hours < 100 by omega),
      Option.bind_some, rest?_singleton, Option.getD_some, hread, hrange, Bool.false_eq_true,
      if_false]

theorem readZone_writeZone {zone : Option Int} (h : ∀ ahead ∈ zone, ahead.natAbs < 1440) :
    readZone (writeZone ['Z'] zone) = some zone := by
  unfold writeZone
  split
  · rfl
  · rfl
  · rename_i ahead hzero
    have hahead := h ahead rfl
    have hhours : ahead.natAbs / 60 ≤ 23 := by omega
    have hminutes : ahead.natAbs % 60 ≤ 59 := by omega
    by_cases hneg : ahead < 0
    · rw [if_pos hneg, readZone_signed (.inr rfl) hhours hminutes, if_neg (by decide)]
      congr 2
      omega
    · rw [if_neg hneg, readZone_signed (.inl rfl) hhours hminutes, if_pos (by decide)]
      congr 2
      omega

theorem readWritten_writeWith (h : t.Valid) : readWritten (writeWith ['Z'] t) = some t := by
  simp only [writeWith_eq, readWritten, Option.bind_eq_bind, readDate_writeDate h,
    Option.bind_some, readTime_writeTime h, readZone_writeZone h.zone]
  rfl

/-- A moment of the calendar is read back from its written form. -/
theorem read_write (h : t.Valid) : read t.write = some t := by
  rw [read, write, String.toList_ofList, readWritten_writeWith h]

end HookPolicy.Timestamp
