import HookPolicy.Time.Timestamp

/-! Moments from the reading of a clock: seconds since 1970, to the nearest microsecond. -/

namespace HookPolicy

inductive ClockFault
  | notNumber
  | tooLarge
  | yearOutOfRange
  deriving DecidableEq, Repr

namespace Timestamp

/-- The first second of the year one. -/
def yearOne : Int := -62135596800

def ofClock (seconds : Int) (micro : Nat) : Except ClockFault Timestamp :=
  let seconds := seconds + micro / 1000000
  if seconds.natAbs ≥ Nat.pow 2 63 then .error .tooLarge
  else if seconds < yearOne || seconds > lastSecond then .error .yearOutOfRange
  else .ok (ofSeconds seconds (micro % 1000000))

def ofClockFloat (x : Binary64) : Except ClockFault Timestamp :=
  match x with
  | .nan => .error .notNumber
  | .infinite _ => .error .tooLarge
  | x =>
    let whole := x.truncate?.getD 0
    let micro := (x.fraction.scaleBy 1000000).roundEven
    if x.isNegative && micro > 0 then ofClock (whole - 1) (1000000 - micro)
    else ofClock whole micro

end Timestamp

end HookPolicy
