import AccessSync.Moment

/-!
# Date patterns

A pattern is a text in which a percent sign and a letter stand for a part of a date or of a time of
day. `Moment.dated` writes a moment by a pattern, in universal time and with English names.
-/

namespace AccessSync.Moment

def weekdayNames : List String :=
  ["Monday", "Tuesday", "Wednesday", "Thursday", "Friday", "Saturday", "Sunday"]

def monthNames : List String :=
  ["January", "February", "March", "April", "May", "June", "July", "August", "September",
    "October", "November", "December"]

def shortName (name : String) : String := String.ofList (name.toList.take 3)

def blankPadded (n : Nat) : String := if n < 10 then " " ++ toString n else toString n

def clockHour (hour : Nat) : Nat := if hour % 12 = 0 then 12 else hour % 12

/-- The year and the week of the year by the rule that a week belongs to the year of its
Thursday. -/
def isoWeek (c : Civil) : Int × Nat :=
  let week := (c.yearDay + 9 - c.weekday) / 7
  let longYear (year : Int) : Bool :=
    let start (y : Int) := Int.fmod (y + Int.fdiv y 4 - Int.fdiv y 100 + Int.fdiv y 400) 7
    start year = 4 || start (year - 1) = 3
  if week = 0 then (c.year - 1, if longYear (c.year - 1) then 53 else 52)
  else if week = 53 && !longYear c.year then (c.year + 1, 1)
  else (c.year, week)

def slashed (c : Civil) : String :=
  padded 2 c.month ++ "/" ++ padded 2 c.day ++ "/" ++ padded 2 (Int.fmod c.year 100).toNat

def hourMinute (c : Civil) : String := padded 2 c.hour ++ ":" ++ padded 2 c.minute

def timeOfDay (c : Civil) : String := hourMinute c ++ ":" ++ padded 2 c.second

def half (c : Civil) : String := if c.hour < 12 then "AM" else "PM"

def component? (seconds : Int) (c : Civil) (letter : Char) : Option String :=
  let weekday := weekdayNames.getD c.weekday ""
  let month := monthNames.getD (c.month - 1) ""
  let sunday := (c.weekday + 1) % 7
  match letter with
  | 'a' => some (shortName weekday)
  | 'A' => some weekday
  | 'b' | 'h' => some (shortName month)
  | 'B' => some month
  | 'c' => some (shortName weekday ++ " " ++ shortName month ++ " " ++ blankPadded c.day ++ " " ++
      timeOfDay c ++ " " ++ toString c.year)
  | 'C' => some (padded 2 (Int.fdiv c.year 100).toNat)
  | 'd' => some (padded 2 c.day)
  | 'D' | 'x' => some (slashed c)
  | 'e' => some (blankPadded c.day)
  | 'F' => some (toString c.year ++ "-" ++ padded 2 c.month ++ "-" ++ padded 2 c.day)
  | 'g' => some (padded 2 (Int.fmod (isoWeek c).1 100).toNat)
  | 'G' => some (toString (isoWeek c).1)
  | 'H' => some (padded 2 c.hour)
  | 'I' => some (padded 2 (clockHour c.hour))
  | 'j' => some (padded 3 c.yearDay)
  | 'k' => some (blankPadded c.hour)
  | 'l' => some (blankPadded (clockHour c.hour))
  | 'm' => some (padded 2 c.month)
  | 'M' => some (padded 2 c.minute)
  | 'n' => some "\n"
  | 'p' => some (half c)
  | 'P' => some (half c).toLower
  | 'r' => some (padded 2 (clockHour c.hour) ++ ":" ++ padded 2 c.minute ++ ":" ++
      padded 2 c.second ++ " " ++ half c)
  | 'R' => some (hourMinute c)
  | 's' => some (toString seconds)
  | 'S' => some (padded 2 c.second)
  | 't' => some "\t"
  | 'T' | 'X' => some (timeOfDay c)
  | 'u' => some (toString (c.weekday + 1))
  | 'U' => some (padded 2 ((c.yearDay + 6 - sunday) / 7))
  | 'V' => some (padded 2 (isoWeek c).2)
  | 'w' => some (toString sunday)
  | 'W' => some (padded 2 ((c.yearDay + 6 - c.weekday) / 7))
  | 'y' => some (padded 2 (Int.fmod c.year 100).toNat)
  | 'Y' => some (toString c.year)
  | 'z' => some "+0000"
  | 'Z' => some "UTC"
  | '%' => some "%"
  | _ => none

/-- The pattern with its letters replaced. A percent sign before a letter that stands for nothing
stays. -/
def datedChars (seconds : Int) (c : Civil) : List Char → List Char
  | [] => []
  | '%' :: letter :: rest =>
    match component? seconds c letter with
    | some s => s.toList ++ datedChars seconds c rest
    | none => '%' :: letter :: datedChars seconds c rest
  | d :: rest => d :: datedChars seconds c rest

def dated (pattern : String) (seconds : Int) : String :=
  String.ofList (datedChars seconds (civil seconds) pattern.toList)

end AccessSync.Moment
