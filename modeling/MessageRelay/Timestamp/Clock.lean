import MessageRelay.Text.Decimal
import MessageRelay.Timestamp

/-!
# Moments by the clock

A clock counts the nanoseconds since the beginning of 1970. The years of the calendar are counted
from March here, so that a leap day ends its year: then the days before a month are 153 for every
five months, and the leap days follow from the year alone.
-/

set_option autoImplicit false

namespace MessageRelay

/-- The date so many days after the first of January 1970. -/
def Date.ofDays? (days : Nat) : Option Date :=
  let days := days + 719468
  let century4 := days / 146097
  let rest := days % 146097
  let year := (rest - rest / 1460 + rest / 36524 - rest / 146096) / 365
  let ofYear := rest - (365 * year + year / 4 - year / 100)
  let month := (5 * ofYear + 2) / 153
  let day := ofYear - (153 * month + 2) / 5 + 1
  let year := 400 * century4 + year
  if month < 10 then ofCivil? year (month + 3) day else ofCivil? (year + 1) (month - 9) day

namespace Timestamp

/-- The moment so many nanoseconds after the beginning of 1970, if the calendar goes so far. -/
def ofClock? (nanoseconds : Nat) : Option Timestamp :=
  let seconds := nanoseconds / 1000000000
  (Date.ofDays? (seconds / 86400)).bind fun date =>
    ofParts? date (seconds / 3600 % 24) (seconds / 60 % 60) (seconds % 60)
      (nanoseconds % 1000000000)

/-- Date and time for a line of the log, to the millisecond. -/
def clockText (t : Timestamp) : String :=
  let two := Text.decimalOfWidth 2
  toString t.date.year ++ String.ofList
    ('-' :: two t.date.month ++ '-' :: two t.date.day ++ ' ' :: two t.hour ++ ':' :: two t.minute
      ++ ':' :: two t.second ++ '.' :: Text.decimalOfWidth 3 (t.nanosecond / 1000000))

end Timestamp

end MessageRelay
