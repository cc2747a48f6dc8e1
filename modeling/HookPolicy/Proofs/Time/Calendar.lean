import HookPolicy.Check.Basic
import HookPolicy.Proofs.Number.Digits
import HookPolicy.Time.Clock

/-!
# Moments that can be read

Every timestamp that the clock or a check gives is a date of the calendar up to the year 9999 with a
time of day, in a zone less than a day away.
-/

namespace HookPolicy

namespace Timestamp

open Text Decimal

/-- A date of the calendar with a time of day, in a zone less than a day away. -/
structure Valid (t : Timestamp) : Prop where
  date : isDate t.year t.month t.day = true
  year : t.year ≤ 9999
  hour : t.hour ≤ 23
  minute : t.minute ≤ 59
  second : t.second ≤ 59
  micro : t.micro < 1000000
  zone : ∀ ahead ∈ t.zone, ahead.natAbs < 1440

theorem isDate_iff {y m d : Nat} :
    isDate y m d = true ↔ 1 ≤ y ∧ 1 ≤ m ∧ m ≤ 12 ∧ 1 ≤ d ∧ d ≤ monthDays y m := by
  simp [isDate, and_assoc]

/-! ## Days -/

/-- The year of an era that a day of the era falls in, both from March. -/
def yearOfEra (doe : Nat) : Nat := (doe - doe / 1460 + doe / 36524 - doe / 146096) / 365

def startOfYear (yoe : Nat) : Nat := 365 * yoe + yoe / 4 - yoe / 100

def monthOfDay (doy : Nat) : Nat :=
  let mp := (5 * doy + 2) / 153
  if mp < 10 then mp + 3 else mp - 9

def dayOfMonth (doy : Nat) : Nat := doy - (153 * ((5 * doy + 2) / 153) + 2) / 5 + 1

theorem dateOfDays_eq (days : Nat) :
    dateOfDays days =
      (yearOfEra (days % 146097) + days / 146097 * 400 +
          (if monthOfDay (days % 146097 - startOfYear (yearOfEra (days % 146097))) ≤ 2 then 1
            else 0),
        monthOfDay (days % 146097 - startOfYear (yearOfEra (days % 146097))),
        dayOfMonth (days % 146097 - startOfYear (yearOfEra (days % 146097)))) := rfl

theorem yearOfEra_spec {doe : Nat} (h : doe < 146097) :
    yearOfEra doe ≤ 399 ∧ ∃ doy ≤ 365, doe = startOfYear (yearOfEra doe) + doy ∧
      (doy = 365 → ∀ era, isLeap (yearOfEra doe + era * 400 + 1) = true) := by
  by_cases hlast : doe = 146096
  · subst hlast
    refine ⟨by decide, 365, le_rfl, by decide, fun _ era => ?_⟩
    have hyear : yearOfEra 146096 = 399 := by decide
    rw [hyear, isLeap]
    have : (399 + era * 400 + 1) % 400 = 0 := by omega
    simp [this]
  · obtain ⟨b, r, hdoe, hr⟩ : ∃ b r, doe = 36524 * b + r ∧ r < 36524 :=
      ⟨doe / 36524, doe % 36524, by omega, by omega⟩
    obtain ⟨k, s, hrest, hs⟩ : ∃ k s, r = 1461 * k + s ∧ s < 1461 :=
      ⟨r / 1461, r % 1461, by omega, by omega⟩
    have hb : b ≤ 3 := by omega
    have hk : k ≤ 24 := by omega
    have hyear : yearOfEra doe = 100 * b + 4 * k + min (s / 365) 3 := by
      have h1460 : doe / 1460 = 25 * b + k + if 1460 ≤ 24 * b + k + s then 1 else 0 := by
        split <;> omega
      have h36524 : doe / 36524 = b := by omega
      have h146096 : doe / 146096 = 0 := by omega
      rw [yearOfEra, h1460, h36524, h146096]
      split <;> omega
    have hstart : startOfYear (yearOfEra doe) = 36524 * b + 1461 * k + 365 * min (s / 365) 3 := by
      have h4 : (100 * b + 4 * k + min (s / 365) 3) / 4 = 25 * b + k := by omega
      have h100 : (100 * b + 4 * k + min (s / 365) 3) / 100 = b := by omega
      rw [hyear, startOfYear, h4, h100]
      omega
    refine ⟨by omega, s - 365 * min (s / 365) 3, by omega, by omega, fun hdoy era => ?_⟩
    have hs : s = 1460 := by omega
    have hyear : yearOfEra doe + era * 400 + 1 = 400 * era + 100 * b + 4 * (k + 1) := by omega
    have h4 : (400 * era + 100 * b + 4 * (k + 1)) % 4 = 0 := by omega
    have h100 : (400 * era + 100 * b + 4 * (k + 1)) % 100 ≠ 0 := by omega
    rw [hyear, isLeap]
    simp [h4, h100]

/-- Of the days from March the last falls into the end of February if there is one more. -/
theorem monthOfDay_spec : ∀ doy ≤ 365, 1 ≤ monthOfDay doy ∧ monthOfDay doy ≤ 12 ∧
    1 ≤ dayOfMonth doy ∧ (dayOfMonth doy ≤ monthDays 1 (monthOfDay doy) ∨
      doy = 365 ∧ monthOfDay doy = 2 ∧ dayOfMonth doy = 29) ∧
    (monthOfDay doy ≤ 2 ↔ 306 ≤ doy) := by
  decide +kernel


theorem monthDays_one_le (y m : Nat) : monthDays 1 m ≤ monthDays y m := by
  have hone : isLeap 1 = false := by decide
  unfold monthDays
  rw [hone]
  by_cases hm : m = 2 <;> cases isLeap y <;> simp [hm]

/-- The days from the start of the year one to the end of the year 9999 are dates. -/
theorem dateOfDays_spec {days y m d : Nat} (h : dateOfDays days = (y, m, d)) (hfirst : 306 ≤ days)
    (hlast : days ≤ 3652364) : isDate y m d = true ∧ y ≤ 9999 := by
  have hdoe : days % 146097 < 146097 := Nat.mod_lt _ (by decide)
  obtain ⟨hyoe, doy, hdoy, hday, hleap⟩ := yearOfEra_spec hdoe
  have hsub : days % 146097 - startOfYear (yearOfEra (days % 146097)) = doy := by omega
  rw [dateOfDays_eq, hsub] at h
  cases h
  obtain ⟨hm, hm', hd, hd', hearly⟩ := monthOfDay_spec doy hdoy
  have hstart : startOfYear (yearOfEra (days % 146097)) =
    365 * yearOfEra (days % 146097) + yearOfEra (days % 146097) / 4 -
      yearOfEra (days % 146097) / 100 := rfl
  refine ⟨isDate_iff.2 ⟨?_, hm, hm', hd, ?_⟩, ?_⟩
  · split <;> omega
  · rcases hd' with hd' | ⟨hlastDay, hfeb, hd'⟩
    · exact hd'.trans (monthDays_one_le _ _)
    · rw [hd', hfeb, if_pos (by decide), monthDays, hleap hlastDay]
      decide
  · split <;> omega

theorem valid_ofSeconds {seconds : Int} {micro : Nat} (hfirst : yearOne ≤ seconds)
    (hlast : seconds ≤ lastSecond) (hmicro : micro < 1000000) :
    (ofSeconds seconds micro).Valid := by
  have hfirst : -62135596800 ≤ seconds := hfirst
  have hlast : seconds ≤ 253402300799 := hlast
  have hdays : ∃ days : Nat, (seconds.fdiv 86400 + epochDays).toNat = days ∧ 306 ≤ days ∧
      days ≤ 3652364 := by
    refine ⟨_, rfl, ?_, ?_⟩ <;>
    · rw [Int.fdiv_eq_ediv_of_nonneg _ (by decide), show epochDays = 719468 from rfl]
      omega
  obtain ⟨days, hdays, hfirst, hlast⟩ := hdays
  have hrest : (seconds.fmod 86400).toNat < 86400 := by
    rw [Int.fmod_eq_emod_of_nonneg _ (by decide)]
    omega
  rcases hdate : dateOfDays days with ⟨y, m, d⟩
  obtain ⟨hisDate, hyear⟩ := dateOfDays_spec hdate hfirst hlast
  have hmoment : ofSeconds seconds micro = ⟨y, m, d, (seconds.fmod 86400).toNat / 3600,
      (seconds.fmod 86400).toNat % 3600 / 60, (seconds.fmod 86400).toNat % 60, micro, some 0⟩ := by
    rw [ofSeconds, hdays, hdate]
  rw [hmoment]
  constructor
  · exact hisDate
  · exact hyear
  · dsimp only
    omega
  · dsimp only
    omega
  · dsimp only
    omega
  · exact hmicro
  · intro ahead hahead
    cases hahead
    decide

theorem valid_ofCount? {count : Int} {micro : Nat} {t : Timestamp}
    (h : ofCount? count micro = some t) : t.Valid := by
  unfold ofCount? at h
  dsimp only at h
  generalize (if count.natAbs ≤ watershed then (count, micro)
    else (count.fdiv 1000, micro + (count.fmod 1000).toNat * 1000)) = p at h
  split at h
  · cases h
  · rename_i hrange
    cases h
    simp only [Bool.or_eq_true, decide_eq_true_eq, not_or, not_lt] at hrange
    have hfirst : yearOne ≤ firstSecond := by decide
    exact valid_ofSeconds (hfirst.trans hrange.1) hrange.2 (Nat.mod_lt _ (by decide))

theorem valid_ofClock {seconds : Int} {micro : Nat} {t : Timestamp}
    (h : ofClock seconds micro = .ok t) : t.Valid := by
  simp only [ofClock] at h
  split at h
  · cases h
  · split at h
    · cases h
    · rename_i hrange
      cases h
      simp only [Bool.or_eq_true, decide_eq_true_eq, not_or, not_lt] at hrange
      exact valid_ofSeconds hrange.1 hrange.2 (Nat.mod_lt _ (by decide))

theorem valid_ofFloat? {x : Binary64} {t : Timestamp} (h : ofFloat? x = some t) : t.Valid := by
  unfold ofFloat? at h
  split at h
  · cases h
  · exact valid_ofCount? h

/-! ## Texts -/

theorem microOf_lt {ds : List Char} (h : AllDigits ds) : microOf ds < 1000000 := by
  have hkept := count_lt (h.take 6)
  have hlength : (ds.take 6).length ≤ 6 := List.length_take_le 6 ds
  have hpow : 10 ^ (ds.take 6).length * 10 ^ (6 - (ds.take 6).length) = 1000000 := by
    rw [← pow_add, Nat.add_sub_cancel' hlength]
    norm_num
  change count (ds.take 6) * 10 ^ (6 - (ds.take 6).length) < 1000000
  rw [← hpow]
  exact Nat.mul_lt_mul_of_pos_right hkept (by positivity)

theorem twoDigits?_eq_some {cs rest : List Char} {n : Nat} (h : twoDigits? cs = some (n, rest)) :
    n < 100 := by
  unfold twoDigits? at h
  split at h
  · rename_i a b _
    split at h
    · rename_i hdigits
      rw [Bool.and_eq_true] at hdigits
      cases h
      have hall : AllDigits [a, b] := by
        intro c hc
        simp only [List.mem_cons, List.not_mem_nil, or_false] at hc
        rcases hc with rfl | rfl
        · exact hdigits.1
        · exact hdigits.2
      exact count_lt hall
    · cases h
  · cases h

theorem readDate_eq_some {cs rest : List Char} {y m d : Nat}
    (h : readDate cs = some (y, m, d, rest)) : isDate y m d = true ∧ y ≤ 9999 := by
  simp only [readDate, Option.bind_eq_bind, Option.bind_eq_some_iff, Prod.exists] at h
  obtain ⟨century, _, hcentury, years, _, hyears, _, -, month, _, -, _, -, day, _, -, h⟩ := h
  split at h
  · rename_i hdate
    cases h
    have := twoDigits?_eq_some hcentury
    have := twoDigits?_eq_some hyears
    exact ⟨hdate, by omega⟩
  · cases h

theorem readFraction_eq_some {cs rest : List Char} {micro : Nat}
    (h : readFraction cs = some (micro, rest)) : micro < 1000000 := by
  unfold readFraction at h
  split at h
  · split at h
    · dsimp only at h
      split at h
      · cases h
      · cases h
        exact microOf_lt (allDigits_span _)
    · cases h
      decide
  · cases h
    decide

theorem readTime_eq_some {cs rest : List Char} {hour minute second micro : Nat}
    (h : readTime cs = some (hour, minute, second, micro, rest)) :
    hour ≤ 23 ∧ minute ≤ 59 ∧ second ≤ 59 ∧ micro < 1000000 := by
  simp only [readTime, Option.bind_eq_bind, Option.bind_eq_some_iff, Prod.exists] at h
  obtain ⟨hour, _, -, _, -, minute, _, -, h⟩ := h
  split at h
  · cases h
  · rename_i hrange
    simp only [Bool.or_eq_true, decide_eq_true_eq, not_or, not_lt] at hrange
    split at h
    · cases h
      exact ⟨hrange.1, hrange.2, by decide, by decide⟩
    · simp only [Option.bind_eq_some_iff, Prod.exists] at h
      obtain ⟨second, _, -, micro, _, hmicro, h⟩ := h
      split at h
      · cases h
      · rename_i hsecond
        cases h
        exact ⟨hrange.1, hrange.2, Nat.le_of_not_lt hsecond, readFraction_eq_some hmicro⟩

theorem readZone_eq_some {cs : List Char} {zone : Option Int} (h : readZone cs = some zone) :
    ∀ ahead ∈ zone, ahead.natAbs < 1440 := by
  unfold readZone at h
  split at h
  · cases h
    nofun
  · cases h
    rintro ahead ⟨⟩
    decide
  · cases h
    rintro ahead ⟨⟩
    decide
  · split at h
    · simp only [Option.bind_eq_bind, Option.bind_eq_some_iff, Prod.exists] at h
      obtain ⟨hours, _, -, minutes, _, -, h⟩ := h
      split at h
      · cases h
      · rename_i hrange
        simp only [Bool.or_eq_true, decide_eq_true_eq, not_or, not_lt] at hrange
        cases h
        rintro ahead ⟨⟩
        split <;> omega
    · cases h

theorem valid_readWritten {cs : List Char} {t : Timestamp} (h : readWritten cs = some t) :
    t.Valid := by
  simp only [readWritten, Option.bind_eq_bind, Option.bind_eq_some_iff, Prod.exists] at h
  obtain ⟨year, month, day, rest, hdate, h⟩ := h
  obtain ⟨hisDate, hyear⟩ := readDate_eq_some hdate
  split at h
  · cases h
    refine ⟨hisDate, hyear, Nat.zero_le _, Nat.zero_le _, Nat.zero_le _, Nat.zero_lt_succ _, ?_⟩
    rintro _ ⟨⟩
  · split at h
    · simp only [Option.bind_eq_some_iff, Prod.exists] at h
      obtain ⟨hour, minute, second, micro, _, htime, zone, hzone, h⟩ := h
      cases h
      obtain ⟨hhour, hminute, hsecond, hmicro⟩ := readTime_eq_some htime
      exact ⟨hisDate, hyear, hhour, hminute, hsecond, hmicro, readZone_eq_some hzone⟩
    · cases h

theorem valid_readCount {cs : List Char} {t : Timestamp} (h : readCount cs = some t) : t.Valid := by
  simp only [readCount] at h
  -- whatever the sign is, a count is left
  split at h <;>
  · split at h
    · cases h
    · split at h
      · exact valid_ofCount? h
      · split at h
        · exact valid_ofFloat? h
        · cases h
      · cases h

theorem valid_read {s : String} {t : Timestamp} (h : read s = some t) : t.Valid := by
  unfold read at h
  split at h
  · rename_i hwritten
    cases h
    exact valid_readWritten hwritten
  · exact valid_readCount h

end Timestamp

theorem valid_checkTime {v : Json} {t : Timestamp} (h : checkTime v = .good t) : t.Valid := by
  unfold checkTime at h
  split at h
  · split at h
    · rename_i hread
      cases h
      exact Timestamp.valid_read hread
    · cases h
  · split at h
    · rename_i hread
      cases h
      exact Timestamp.valid_ofCount? hread
    · cases h
  · split at h
    · rename_i hread
      cases h
      exact Timestamp.valid_ofFloat? hread
    · cases h
  · cases h

end HookPolicy
