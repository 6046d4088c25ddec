/-!
# Moments

A moment is a date and a time of day in coordinated universal time, to the nanosecond. A minute may
end in a second numbered 60, which is how a leap second is written. A date carries the proof that it
is one of the Gregorian calendar, counted back before its introduction, in the years from -262143 to
262142.
-/

set_option autoImplicit false

namespace MessageRelay

/-- Whether a year has a 29th of February. -/
def isLeapYear (year : Int) : Bool :=
  year % 4 == 0 && (year % 100 != 0 || year % 400 == 0)

/-- The number of days of a month. -/
def daysInMonth (year : Int) (month : Nat) : Nat :=
  if month = 2 then (if isLeapYear year then 29 else 28)
  else if month = 4 ∨ month = 6 ∨ month = 9 ∨ month = 11 then 30
  else 31

/-- A day of the calendar. -/
structure Date where
  year : Int
  month : Nat
  day : Nat
  /-- The year is in range, and the month and the day exist. -/
  inCalendar : -262143 ≤ year ∧ year ≤ 262142 ∧ 1 ≤ month ∧ month ≤ 12 ∧ 1 ≤ day
    ∧ day ≤ daysInMonth year month
  deriving DecidableEq

namespace Date

/-- The date with the given numbers, if there is one. -/
def ofCivil? (year : Int) (month day : Nat) : Option Date :=
  if h : -262143 ≤ year ∧ year ≤ 262142 ∧ 1 ≤ month ∧ month ≤ 12 ∧ 1 ≤ day
      ∧ day ≤ daysInMonth year month then
    some ⟨year, month, day, h⟩
  else
    none

/-- The day after, unless the calendar ends. -/
def next? (date : Date) : Option Date :=
  if date.day < daysInMonth date.year date.month then
    ofCivil? date.year date.month (date.day + 1)
  else if date.month < 12 then
    ofCivil? date.year (date.month + 1) 1
  else
    ofCivil? (date.year + 1) 1 1

/-- The day before, unless the calendar begins. -/
def previous? (date : Date) : Option Date :=
  if 1 < date.day then
    ofCivil? date.year date.month (date.day - 1)
  else if 1 < date.month then
    ofCivil? date.year (date.month - 1) (daysInMonth date.year (date.month - 1))
  else
    ofCivil? (date.year - 1) 12 31

/-- The year, the month and the day of a date make up this date again. -/
theorem ofCivil?_self (date : Date) :
    ofCivil? date.year date.month date.day = some date := by
  simp only [ofCivil?, date.inCalendar, and_self, dif_pos]

end Date

/-- A moment in coordinated universal time. -/
structure Timestamp where
  date : Date
  hour : Nat
  minute : Nat
  second : Nat
  nanosecond : Nat
  /-- The numbers are those of a time of day, where a second may be the 60th. -/
  inDay : hour < 24 ∧ minute < 60 ∧ second ≤ 60 ∧ nanosecond < 1000000000
  deriving DecidableEq

namespace Timestamp

/-- The moment with the given date and time, if the time is one of a day. -/
def ofParts? (date : Date) (hour minute second nanosecond : Nat) : Option Timestamp :=
  if h : hour < 24 ∧ minute < 60 ∧ second ≤ 60 ∧ nanosecond < 1000000000 then
    some ⟨date, hour, minute, second, nanosecond, h⟩
  else
    none

/-- The moment that a clock `offset` minutes ahead of universal time shows as `shown`. -/
def ofOffset? (shown : Timestamp) (offset : Int) : Option Timestamp :=
  let minutes : Int := shown.hour * 60 + shown.minute - offset
  let date? :=
    if minutes < 0 then shown.date.previous?
    else if minutes < 1440 then some shown.date
    else shown.date.next?
  date?.bind fun date =>
    let ofDay := (minutes % 1440).toNat
    ofParts? date (ofDay / 60) (ofDay % 60) shown.second shown.nanosecond

/-- The parts of a moment make up this moment again. -/
theorem ofParts?_self (t : Timestamp) :
    ofParts? t.date t.hour t.minute t.second t.nanosecond = some t := by
  simp only [ofParts?, t.inDay, and_self, dif_pos]

/-- A clock at universal time shows the moment itself. -/
theorem ofOffset?_zero (t : Timestamp) : ofOffset? t 0 = some t := by
  obtain ⟨hh, hm, _, _⟩ := t.inDay
  have h0 : ¬ ((t.hour : Int) * 60 + t.minute - 0 < 0) := by omega
  have h1 : (t.hour : Int) * 60 + t.minute - 0 < 1440 := by omega
  have hd : (((t.hour : Int) * 60 + t.minute - 0) % 1440).toNat = t.hour * 60 + t.minute := by
    omega
  have hq : (t.hour * 60 + t.minute) / 60 = t.hour := by omega
  have hr : (t.hour * 60 + t.minute) % 60 = t.minute := by omega
  simp only [ofOffset?, h0, h1, if_false, if_true, Option.bind_some, hd, hq, hr]
  exact ofParts?_self t

end Timestamp

end MessageRelay
