import HookPolicy.Number.Decimal
import HookPolicy.Text.Class
import HookPolicy.Text.Pieces

/-!
# Points in time

A timestamp is a date and a time of day to the microsecond, with the minutes by which its zone is
ahead, if it names one. `read` takes the written form and seconds counted from 1970; `write` gives
the written form back.
-/

namespace HookPolicy

structure Timestamp where
  year : Nat
  month : Nat
  day : Nat
  hour : Nat
  minute : Nat
  second : Nat
  micro : Nat
  zone : Option Int
  deriving DecidableEq, Repr

namespace Timestamp

open Text

def isLeap (y : Nat) : Bool := (y % 4 == 0 && y % 100 != 0) || y % 400 == 0

def monthDays (y m : Nat) : Nat :=
  if m == 2 then (if isLeap y then 29 else 28)
  else if m == 4 || m == 6 || m == 9 || m == 11 then 30 else 31

def isDate (y m d : Nat) : Bool := 1 ≤ y && 1 ≤ m && m ≤ 12 && 1 ≤ d && d ≤ monthDays y m

/-- A date from its days since the first day of year zero, reckoned from March. -/
def dateOfDays (days : Nat) : Nat × Nat × Nat :=
  let era := days / 146097
  let doe := days % 146097
  let yoe := (doe - doe / 1460 + doe / 36524 - doe / 146096) / 365
  let doy := doe - (365 * yoe + yoe / 4 - yoe / 100)
  let mp := (5 * doy + 2) / 153
  let d := doy - (153 * mp + 2) / 5 + 1
  let m := if mp < 10 then mp + 3 else mp - 9
  (yoe + era * 400 + (if m ≤ 2 then 1 else 0), m, d)

/-- The days from the start of that reckoning to 1970. -/
def epochDays : Int := 719468

/-- A moment from its seconds since 1970, in the zone of zero minutes. -/
def ofSeconds (seconds : Int) (micro : Nat) : Timestamp :=
  let (y, m, d) := dateOfDays (seconds.fdiv 86400 + epochDays).toNat
  let s := (seconds.fmod 86400).toNat
  ⟨y, m, d, s / 3600, s % 3600 / 60, s % 60, micro, some 0⟩

/-- Counts above this number are milliseconds. -/
def watershed : Nat := 20000000000

def firstSecond : Int := -11676096000

def lastSecond : Int := 253402300799

def ofCount? (count : Int) (micro : Nat) : Option Timestamp :=
  let (seconds, micro) :=
    if count.natAbs ≤ watershed then (count, micro)
    else (count.fdiv 1000, micro + (count.fmod 1000).toNat * 1000)
  let seconds := seconds + micro / 1000000
  if seconds < firstSecond || seconds > lastSecond then none
  else some (ofSeconds seconds (micro % 1000000))

def ofFloat? (x : Binary64) : Option Timestamp :=
  match x.truncate? with
  | none => none
  | some whole =>
    let floor := if x.isNegative && !x.isWhole then whole - 1 else whole
    ofCount? floor (x.fraction.scaleBy 1000000).roundUp

/-- Two digits and what follows them. -/
def twoDigits? : List Char → Option (Nat × List Char)
  | a :: b :: rest =>
    if isAsciiDigit a && isAsciiDigit b then some (numberOf 10 digitValue? [a, b], rest) else none
  | _ => none

def readDate (cs : List Char) : Option (Nat × Nat × Nat × List Char) := do
  let (century, cs) ← twoDigits? cs
  let (years, cs) ← twoDigits? cs
  let cs ← rest? ['-'] cs
  let (month, cs) ← twoDigits? cs
  let cs ← rest? ['-'] cs
  let (day, cs) ← twoDigits? cs
  if isDate (100 * century + years) month day then some (100 * century + years, month, day, cs)
  else none

/-- The first six digits as microseconds. -/
def microOf (ds : List Char) : Nat :=
  let kept := ds.take 6
  numberOf 10 digitValue? kept * Nat.pow 10 (6 - kept.length)

def readFraction (cs : List Char) : Option (Nat × List Char) :=
  match cs with
  | c :: rest =>
    if c == '.' || c == ',' then
      let (ds, rest) := rest.span isAsciiDigit
      if ds.isEmpty then none else some (microOf ds, rest)
    else some (0, cs)
  | [] => some (0, cs)

/-- The hour, minute, second and microsecond; the seconds may be left out. -/
def readTime (cs : List Char) : Option (Nat × Nat × Nat × Nat × List Char) := do
  let (hour, cs) ← twoDigits? cs
  let cs ← rest? [':'] cs
  let (minute, cs) ← twoDigits? cs
  if hour > 23 || minute > 59 then none
  else match rest? [':'] cs with
    | none => some (hour, minute, 0, 0, cs)
    | some cs =>
      let (second, cs) ← twoDigits? cs
      let (micro, cs) ← readFraction cs
      if second > 59 then none else some (hour, minute, second, micro, cs)

/-- The zone that fills the rest of the text. -/
def readZone (cs : List Char) : Option (Option Int) :=
  match cs with
  | [] => some none
  | ['Z'] | ['z'] => some (some 0)
  | c :: rest =>
    if c == '+' || c == '-' || c == '\u2212' then do
      let (hours, rest) ← twoDigits? rest
      let rest := (rest? [':'] rest).getD rest
      let (minutes, rest) ← twoDigits? rest
      if minutes > 59 || hours > 23 || !rest.isEmpty then none
      else
        let ahead : Int := hours * 60 + minutes
        some (some (if c == '+' then ahead else -ahead))
    else none

def readWritten (cs : List Char) : Option Timestamp := do
  let (year, month, day, cs) ← readDate cs
  match cs with
  | [] => some ⟨year, month, day, 0, 0, 0, 0, none⟩
  | c :: cs =>
    if c == 'T' || c == 't' || c == ' ' || c == '_' then
      let (hour, minute, second, micro, cs) ← readTime cs
      let zone ← readZone cs
      some ⟨year, month, day, hour, minute, second, micro, zone⟩
    else none

/-- A count of seconds written as a number, with a fraction or not. -/
def readCount (cs : List Char) : Option Timestamp :=
  let (negative, body) := match cs with
    | '-' :: r => (true, r)
    | '+' :: r => (false, r)
    | _ => (false, cs)
  let (whole, rest) := body.span isAsciiDigit
  if whole.isEmpty || whole.length > 18 then none
  else
    let n := numberOf 10 digitValue? whole
    let count : Int := if negative then -(n : Int) else n
    match rest with
    | [] => ofCount? count 0
    | '.' :: part =>
      if part.all isAsciiDigit then
        ofFloat? (Decimal.toBinary negative (numberOf 10 digitValue? (whole ++ part))
          (whole.length + part.length) (-(part.length : Int)))
      else none
    | _ => none

def read (s : String) : Option Timestamp :=
  match readWritten s.toList with
  | some t => some t
  | none => readCount s.toList

def padded (width n : Nat) : List Char :=
  let ds := Decimal.digits n
  List.replicate (width - ds.length) '0' ++ ds

def writeZone (utc : List Char) : Option Int → List Char
  | none => []
  | some 0 => utc
  | some ahead =>
    (if ahead < 0 then '-' else '+') ::
      (padded 2 (ahead.natAbs / 60) ++ ':' :: padded 2 (ahead.natAbs % 60))

/-- The written form. `utc` is what stands for a zone of zero minutes. -/
def writeWith (utc : List Char) (t : Timestamp) : List Char :=
  padded 4 t.year ++ '-' :: (padded 2 t.month ++ '-' :: (padded 2 t.day ++ 'T' ::
    (padded 2 t.hour ++ ':' :: (padded 2 t.minute ++ ':' :: (padded 2 t.second ++
      ((if t.micro == 0 then [] else '.' :: padded 6 t.micro) ++ writeZone utc t.zone))))))

def write (t : Timestamp) : String := String.ofList (writeWith ['Z'] t)

end Timestamp

end HookPolicy
