import MessageRelay.Log.Notice
import MessageRelay.Text.Quoted

/-!
# Lines of the log

An event is one line: the time, a column of sixteen characters for the speaker, a column of nine
for the severity, the message, and the fields by name and value. Message and component are recorded
as fields too, and their names tell them apart. A text is shown as it is. Every other value, and the
message with them, is shown as it prints, without one pair of enclosing double quotes, if it has
both. Where colours are on, the line begins in cyan and the severity is in a colour of its own.
-/

set_option autoImplicit false

namespace MessageRelay.Log

/-- The value of a field, as it is recorded. -/
inductive FieldValue where
  | text (value : String)
  | integer (value : Int)
  | truth (value : Bool)
  /-- A text that prints between quotes. -/
  | quotedText (value : String)
  /-- A text that prints as it is. -/
  | printedText (value : String)
  deriving DecidableEq

/-- What the fields of an event come to. -/
structure Content where
  message : String
  component? : Option String
  /-- The other fields by name, as they are shown, in order. -/
  extra : List (String × String)
  deriving DecidableEq

/-- An event as it is recorded. -/
structure Event where
  severity : Severity
  /-- The component that speaks, if it is not the program as a whole. -/
  component? : Option String
  message : String
  /-- Fields beside the message, in order. -/
  fields : List (String × FieldValue)
  deriving DecidableEq

/-- How lines are made. -/
structure Style where
  /-- The name of the program. -/
  service : String
  coloured : Bool
  deriving DecidableEq

/-- Characters of the column for the speaker. -/
def speakerWidth : Nat := 16

/-- Characters of the column for the severity: a sign, a blank and a word. -/
def severityWidth : Nat := 9

/-- Characters with blanks after them up to a width. -/
def padRight (width : Nat) (cs : List Char) : List Char :=
  cs ++ List.replicate (width - cs.length) ' '

/-- The column for the speaker. A name that is too long ends in a mark of omission. -/
def speakerColumn (name : String) : List Char :=
  let cs := name.toList
  if speakerWidth < cs.length then cs.take (speakerWidth - 1) ++ ['…']
  else padRight speakerWidth cs

/-- Text that fits a column is made exactly as wide as it. -/
theorem length_padRight {width : Nat} {cs : List Char} (fits : cs.length ≤ width) :
    (padRight width cs).length = width := by
  simp only [padRight, List.length_append, List.length_replicate]
  omega

/-- A name that fits its column is shown in full, with blanks behind it. -/
theorem speakerColumn_of_le {name : String} (fits : name.length ≤ speakerWidth) :
    speakerColumn name = padRight speakerWidth name.toList := by
  rw [← String.length_toList] at fits
  exact if_neg (Nat.not_lt.2 fits)

/-- A name that exceeds its column is cut, and an ellipsis takes the last place. -/
theorem speakerColumn_of_lt {name : String} (exceeds : speakerWidth < name.length) :
    speakerColumn name = name.toList.take (speakerWidth - 1) ++ ['…'] := by
  rw [← String.length_toList] at exceeds
  exact if_pos exceeds

/-- The column of the speaker has its width whatever the name is. -/
theorem length_speakerColumn (name : String) : (speakerColumn name).length = speakerWidth := by
  by_cases fits : name.length ≤ speakerWidth
  · rw [speakerColumn_of_le fits]
    exact length_padRight (by rwa [String.length_toList])
  · have exceeds := Nat.not_le.1 fits
    rw [speakerColumn_of_lt exceeds, List.length_append, List.length_take, String.length_toList,
      List.length_singleton]
    unfold speakerWidth at exceeds ⊢
    omega

namespace Severity

/-- The sign and word of a severity. -/
def label : Severity → String
  | .error => "✗ ERROR"
  | .warn => "⚠ WARN"
  | .info => "ℹ INFO"
  | .debug => "◦ DEBUG"
  | .trace => "◦ TRACE"

/-- The column for a severity. -/
def column (severity : Severity) : List Char :=
  padRight severityWidth severity.label.toList

/-- The column of the severity has its width for each of them. -/
theorem length_column (severity : Severity) : severity.column.length = severityWidth := by
  cases severity <;> rfl

/-- What turns on the colour of a severity. -/
def colour : Severity → String
  | .error => "\x1b[91m"
  | .warn => "\x1b[93m"
  | .info => "\x1b[32m"
  | .debug => "\x1b[90m"
  | .trace => "\x1b[90m"

end Severity

/-- What turns on the colour of a line. -/
def lineColour : String := "\x1b[36m"

/-- What turns off all colours. -/
def noColour : String := "\x1b[0m"

/-- Whether colours are on for a terminal: there has to be one, and not a dumb one. -/
def colouredFor (terminal? : Option String) : Bool :=
  match terminal? with
  | none => false
  | some terminal => terminal ≠ "dumb"

namespace FieldValue

/-- A value as it prints. -/
def printed : FieldValue → String
  | .text value => value
  | .integer value => toString value
  | .truth true => "true"
  | .truth false => "false"
  | .quotedText value => Text.quoted value
  | .printedText value => value

/-- A value as it is shown. -/
def shown : FieldValue → String
  | .text value => value
  | value => Text.unquoted value.printed

end FieldValue

namespace Content

/-- What no fields come to. -/
def empty : Content := ⟨"", none, []⟩

/-- With one more field. Of several messages or components the last one counts. -/
def record (content : Content) (name : String) (value : FieldValue) : Content :=
  if name = "message" then { content with message := value.shown }
  else if name = "component" then { content with component? := some value.shown }
  else { content with extra := content.extra ++ [(name, value.shown)] }

/-- What fields come to that are recorded in order. -/
def ofFields (fields : List (String × FieldValue)) : Content :=
  fields.foldl (fun content (name, value) => content.record name value) empty

/-- The name of the speaker. -/
def speaker (style : Style) (content : Content) : String :=
  match content.component? with
  | some component => "relay-" ++ component
  | none => style.service

/-- Fields by name and value, each behind a blank. -/
def fieldsText (fields : List (String × String)) : String :=
  String.join (fields.map fun (name, value) => " " ++ name ++ "=" ++ value)

/-- The line of an event at a time, without the end of the line. -/
def line (style : Style) (time : String) (severity : Severity) (content : Content) : String :=
  let colour (c : String) : String := if style.coloured then c else ""
  colour lineColour ++ "[" ++ time ++ "] [" ++ String.ofList (speakerColumn (content.speaker style))
    ++ "] [" ++ colour severity.colour ++ String.ofList severity.column
    ++ colour noColour ++ "] " ++ content.message ++ fieldsText content.extra ++ colour noColour

end Content

namespace Event

/-- The event that a notice is. -/
def ofNotice (notice : Notice) : Event where
  severity := notice.severity
  component? := notice.component?
  message := notice.text
  fields := []

/-- The fields of an event as they are recorded, the message first. -/
def recorded (event : Event) : List (String × FieldValue) :=
  ("message", .printedText event.message)
    :: (event.component?.map fun component => ("component", .text component)).toList
    ++ event.fields

/-- The line of an event at a time, without the end of the line. -/
def line (style : Style) (time : String) (event : Event) : String :=
  (Content.ofFields event.recorded).line style time event.severity

end Event

end MessageRelay.Log
