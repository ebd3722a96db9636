import AccessSync.Moment

/-!
# Stamps

A configuration file may name a day, or a time of a day. The time may say how far its clock is from
universal time; then it is a point in time, and two of them are the same at the same point.
-/

namespace AccessSync

structure ClockTime where
  hour : Nat
  minute : Nat
  second : Nat
  microsecond : Nat
  /-- The minutes that the clock is ahead of universal time, where that is said. -/
  ahead : Option Int
  deriving Inhabited, DecidableEq, Repr

structure Stamp where
  year : Nat
  month : Nat
  day : Nat
  time : Option ClockTime
  deriving Inhabited, DecidableEq, Repr

namespace Stamp

def daysIn (year month : Nat) : Nat :=
  if month = 12 then 31 else Moment.daysBefore year (month + 1) - Moment.daysBefore year month

/-- The calendar has the day, a day has the time, and the clock is ahead or behind by less than a
day. -/
def isReal (s : Stamp) : Bool :=
  (1 ≤ s.year && s.year ≤ 9999) && (1 ≤ s.month && s.month ≤ 12) &&
    (1 ≤ s.day && s.day ≤ daysIn s.year s.month) &&
    s.time.all fun t =>
      t.hour < 24 && t.minute < 60 && t.second < 60 && t.ahead.all fun n => n.natAbs < 1440

/-- The days from the start of the calendar up to the day of the stamp. -/
def days (s : Stamp) : Nat :=
  let years := s.year - 1
  365 * years + years / 4 - years / 100 + years / 400 + Moment.daysBefore s.year s.month + s.day

/-- The point in time that a stamp names, in microseconds, if it says so. -/
def instant? (s : Stamp) : Option Int := do
  let t ← s.time
  let ahead ← t.ahead
  let minutes : Int := (1440 * s.days + 60 * t.hour + t.minute : Nat) - ahead
  return (60 * minutes + t.second) * 1000000 + t.microsecond

def aheadText (ahead : Int) : String :=
  (if ahead < 0 then "-" else "+") ++ Moment.padded 2 (ahead.natAbs / 60) ++ ":" ++
    Moment.padded 2 (ahead.natAbs % 60)

def text (s : Stamp) : String :=
  let day :=
    Moment.padded 4 s.year ++ "-" ++ Moment.padded 2 s.month ++ "-" ++ Moment.padded 2 s.day
  match s.time with
  | none => day
  | some t =>
    day ++ " " ++ Moment.padded 2 t.hour ++ ":" ++ Moment.padded 2 t.minute ++ ":" ++
      Moment.padded 2 t.second ++
      (if t.microsecond = 0 then "" else "." ++ Moment.padded 6 t.microsecond) ++
      (t.ahead.map aheadText).getD ""

def zoneLiteral (ahead : Int) : String :=
  if ahead = 0 then "datetime.timezone.utc"
  else
    let days := if ahead < 0 then "days=-1, " else ""
    s!"datetime.timezone(datetime.timedelta({days}seconds={60 * Int.fmod ahead 1440}))"

/-- The stamp as a literal. Seconds and microseconds are left out where they are zero. -/
def literal (s : Stamp) : String :=
  let day := s!"{s.year}, {s.month}, {s.day}"
  match s.time with
  | none => s!"datetime.date({day})"
  | some t =>
    let seconds := if t.second = 0 && t.microsecond = 0 then "" else s!", {t.second}"
    let fraction := if t.microsecond = 0 then "" else s!", {t.microsecond}"
    let zone := match t.ahead with
      | none => ""
      | some ahead => ", tzinfo=" ++ zoneLiteral ahead
    s!"datetime.datetime({day}, {t.hour}, {t.minute}{seconds}{fraction}{zone})"

end Stamp

end AccessSync
