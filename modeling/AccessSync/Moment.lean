/-!
# Moments

A moment is a number of whole seconds since the start of 1970, in universal time. `Moment.civil`
gives its date and time of day in the Gregorian calendar.
-/

namespace AccessSync

structure Civil where
  year : Int
  month : Nat
  day : Nat
  hour : Nat
  minute : Nat
  second : Nat
  /-- The day of the week, from Monday as zero. -/
  weekday : Nat
  /-- The day of the year, from one. -/
  yearDay : Nat
  deriving Inhabited, DecidableEq

namespace Moment

/-- The days before each month of a year that starts in March. -/
def marchMonthStart (month : Nat) : Nat := (153 * month + 2) / 5

/-- The year, month and day of a number of days since the start of 1970, reckoned in eras of four
hundred years that start in March. -/
def dateOfDays (days : Int) : Int × Nat × Nat :=
  let shifted := days + 719468
  let era := Int.fdiv shifted 146097
  let dayOfEra := (Int.fmod shifted 146097).toNat
  let yearOfEra :=
    (dayOfEra - dayOfEra / 1460 + dayOfEra / 36524 - dayOfEra / 146096) / 365
  let dayOfYear := dayOfEra - (365 * yearOfEra + yearOfEra / 4 - yearOfEra / 100)
  let marchMonth := (5 * dayOfYear + 2) / 153
  let day := dayOfYear - marchMonthStart marchMonth + 1
  let month := if marchMonth < 10 then marchMonth + 3 else marchMonth - 9
  let year : Int := yearOfEra + era * 400
  (if month ≤ 2 then year + 1 else year, month, day)

def isLeap (year : Int) : Bool :=
  Int.fmod year 4 = 0 && (Int.fmod year 100 != 0 || Int.fmod year 400 = 0)

def daysBefore (year : Int) (month : Nat) : Nat :=
  let plain := [0, 31, 59, 90, 120, 151, 181, 212, 243, 273, 304, 334].getD (month - 1) 0
  if month > 2 && isLeap year then plain + 1 else plain

def civil (seconds : Int) : Civil :=
  let days := Int.fdiv seconds 86400
  let rest := (Int.fmod seconds 86400).toNat
  let (year, month, day) := dateOfDays days
  { year, month, day
    hour := rest / 3600
    minute := rest / 60 % 60
    second := rest % 60
    weekday := (Int.fmod (days + 3) 7).toNat
    yearDay := daysBefore year month + day }

def padded (width n : Nat) : String :=
  let digits := Nat.toDigits 10 n
  String.ofList (List.replicate (width - digits.length) '0' ++ digits)

/-- The moment in the international form, in universal time. -/
def international (seconds : Int) : String :=
  let c := civil seconds
  padded 4 c.year.toNat ++ "-" ++ padded 2 c.month ++ "-" ++ padded 2 c.day ++ "T" ++
    padded 2 c.hour ++ ":" ++ padded 2 c.minute ++ ":" ++ padded 2 c.second ++ "+00:00"

end Moment

end AccessSync
