import MessageRelay.Log.Notice
import MessageRelay.Text.Blank
import MessageRelay.Text.Decimal

/-!
# Thresholds of the log

A threshold says which notices are shown: those at least as grave as a severity, or none at all. It
is stated as a word in upper or lower case or as a number from zero to five, where nothing stated
means that everything is shown. A comma with only blanks after it may end the statement.
-/

set_option autoImplicit false

namespace MessageRelay.Log

/-- Which notices are shown. -/
structure Threshold where
  /-- The least grave severity that is shown, if any is. -/
  least? : Option Severity
  deriving DecidableEq

/-- Why a text is no threshold. -/
inductive ThresholdError where
  | unknownLevel
  | strayText
  deriving DecidableEq

def ThresholdError.message : ThresholdError → String
  | .unknownLevel =>
    "error parsing level filter: expected one of \"off\", \"error\", \"warn\", \"info\", "
      ++ "\"debug\", \"trace\", or a number 0-5"
  | .strayText => "invalid filter directive"

namespace Threshold

/-- Whether a notice of a severity is shown. -/
def admits (threshold : Threshold) (severity : Severity) : Bool :=
  match threshold.least? with
  | none => false
  | some least => severity.rank ≤ least.rank

/-- The threshold with a number: the least rank that is shown. -/
def ofNumber? : Nat → Option Threshold
  | 0 => some ⟨none⟩
  | 1 => some ⟨some .error⟩
  | 2 => some ⟨some .warn⟩
  | 3 => some ⟨some .info⟩
  | 4 => some ⟨some .debug⟩
  | 5 => some ⟨some .trace⟩
  | _ => none

/-- The number of a threshold by its word. -/
def numberOfWord? (word : String) : Option Nat :=
  ["off", "error", "warn", "info", "debug", "trace"].findIdx? (· == word)

/-- The threshold that a word or number states. -/
def ofLevel (cs : List Char) : Except ThresholdError Threshold :=
  let number? := if cs.isEmpty then some 5
    else (Text.boundedDecimal? 5 cs).or (numberOfWord? (String.ofList (cs.map Char.toLower)))
  match number?.bind ofNumber? with
  | some threshold => .ok threshold
  | none => .error .unknownLevel

/-- The threshold that a text states. -/
def ofText (text : String) : Except ThresholdError Threshold :=
  let stated := Text.trimEnd text.toList
  match stated.dropWhile (· ≠ ',') with
  | [] => ofLevel text.toList
  | _ :: stray => do
    let threshold ← ofLevel (stated.takeWhile (· ≠ ','))
    if stray.isEmpty then return threshold else throw .strayText

/-- An event is admitted exactly if the threshold has a least severity and the event's is not below
it. -/
theorem admits_iff {threshold : Threshold} {severity : Severity} :
    threshold.admits severity ↔ ∃ least ∈ threshold.least?, severity.rank ≤ least.rank := by
  cases h : threshold.least? <;> simp [admits, h]

end Threshold

end MessageRelay.Log
