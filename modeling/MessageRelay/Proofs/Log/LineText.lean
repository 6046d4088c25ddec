import MessageRelay.Proofs.Log.Colours

/-!
# What a line keeps of its texts

A text is handed over to the log either as a text or as a value that prints as it is, and in the
second way the message always is. What is shown of a printed text is the text, unless it stands
between double quotes, which are taken for those of a quoted text and dropped
(`Handed.shown_eq_value_iff`). So a line carries the texts of a call unaltered, in columns of fixed
width and around its colours, exactly if no text of the call was printed with double quotes around
it (`Call.line_unaltered_iff`).
-/

set_option autoImplicit false

namespace MessageRelay

/-! ## Quotes around a text -/

namespace Text

/-- A text with double quotes around it. -/
def enclosed (inner : String) : String := "\"" ++ inner ++ "\""

/-- A text between quotes, character by character. -/
theorem toList_enclosed (inner : String) :
    (enclosed inner).toList = '"' :: (inner.toList ++ ['"']) := by
  simp [enclosed]

/-- The quotes around a text are two characters. -/
theorem length_enclosed (inner : String) : (enclosed inner).length = inner.length + 2 := by
  rw [← String.length_toList, toList_enclosed]
  simp only [List.length_cons, List.length_append, String.length_toList, List.length_nil]

/-- The quotes around a text are taken off. -/
theorem unquoted_enclosed (inner : String) : unquoted (enclosed inner) = inner := by
  simp [unquoted, toList_enclosed]

/-- Only a text with double quotes around it is altered. -/
theorem unquoted_of_not_enclosed {text : String} (bare : ∀ inner, text ≠ enclosed inner) :
    unquoted text = text := by
  unfold unquoted
  split
  · next rest begins =>
    split
    · next inner ends =>
      have rest_eq : rest = inner.reverse ++ ['"'] := by
        rw [← List.reverse_reverse rest, ends, List.reverse_cons]
      apply absurd _ (bare (String.ofList inner.reverse))
      rw [← String.toList_inj, toList_enclosed, begins, rest_eq, String.toList_ofList]
    · rfl
  · rfl

/-- Taking off quotes makes no text longer. -/
theorem length_unquoted_le (text : String) : (unquoted text).length ≤ text.length := by
  by_cases quotes : ∃ inner, text = enclosed inner
  · obtain ⟨inner, rfl⟩ := quotes
    rw [unquoted_enclosed, length_enclosed]
    omega
  · have same := unquoted_of_not_enclosed (not_exists.1 quotes)
    exact Nat.le_of_eq (congrArg String.length same)

end Text

namespace Log

open Text (enclosed)

/-! ## Texts that are handed over -/

/-- A text as it is handed over: as a text, or as a value that prints as it is. -/
inductive Handed where
  | plain (value : String)
  | printed (value : String)
  deriving DecidableEq

namespace Handed

/-- The text itself. -/
def value : Handed → String
  | .plain value => value
  | .printed value => value

/-- The value that is recorded. -/
def field : Handed → FieldValue
  | .plain value => .text value
  | .printed value => .printedText value

/-- Any text but one that was printed with double quotes around it. -/
def Bare (handed : Handed) : Prop := ∀ inner, handed ≠ .printed (enclosed inner)

/-- A text that is handed over bare is shown as it is. -/
theorem shown_of_bare {handed : Handed} (bare : handed.Bare) :
    handed.field.shown = handed.value := by
  cases handed with
  | plain value => rfl
  | printed value =>
    exact Text.unquoted_of_not_enclosed fun inner same => bare inner (congrArg printed same)

/-- A text that is printed is shown without the quotes that it brought itself. -/
theorem shown_enclosed (inner : String) : (printed (enclosed inner)).field.shown = inner :=
  Text.unquoted_enclosed inner

/-- No text is shown longer than it was handed over. -/
theorem length_shown_le (handed : Handed) :
    handed.field.shown.length ≤ handed.value.length := by
  cases handed with
  | plain value => exact Nat.le_refl _
  | printed value => exact Text.length_unquoted_le value

/-- A text is shown as it is exactly if it was not printed with double quotes around it. -/
theorem shown_eq_value_iff {handed : Handed} :
    handed.field.shown = handed.value ↔ handed.Bare := by
  refine ⟨?_, shown_of_bare⟩
  rintro same inner rfl
  rw [shown_enclosed] at same
  have lengths : inner.length = (enclosed inner).length := congrArg String.length same
  rw [Text.length_enclosed] at lengths
  omega

end Handed

/-! ## Texts in a row -/

/-- Texts with fronts of one length are the same exactly if their fronts and their backs are. -/
theorem append_eq_append_iff_of_length_eq {front back front' back' : String}
    (lengths : front.length = front'.length) :
    front ++ back = front' ++ back' ↔ front = front' ∧ back = back' := by
  constructor
  · intro same
    simp only [← String.toList_inj, String.toList_append] at same ⊢
    exact List.append_inj same (by rw [String.length_toList, String.length_toList, lengths])
  · rintro ⟨rfl, rfl⟩
    rfl

/-- Two texts none of which is longer than its counterpart are together what their counterparts are
exactly if each is its own. -/
theorem append_eq_append_iff_of_length_le {front back front' back' : String}
    (front_le : front.length ≤ front'.length) (back_le : back.length ≤ back'.length) :
    front ++ back = front' ++ back' ↔ front = front' ∧ back = back' := by
  constructor
  · intro same
    have lengths := congrArg String.length same
    rw [String.length_append, String.length_append] at lengths
    exact (append_eq_append_iff_of_length_eq (by omega)).1 same
  · rintro ⟨rfl, rfl⟩
    rfl

/-- Lines whose first columns are of one length are the same, in either style, exactly if what
stands before and behind the severity is. -/
theorem Wording.styled_eq_iff (style : Style) {said told : Wording}
    (lengths : said.before.length = told.before.length)
    (severities : said.severity = told.severity) :
    said.styled style = told.styled style ↔
      said.before = told.before ∧ said.after = told.after := by
  obtain ⟨before, severity, after⟩ := said
  obtain ⟨before', severity', after'⟩ := told
  obtain rfl : severity = severity' := severities
  unfold Wording.styled
  split
  · simp only [Wording.painted, String.append_assoc, String.append_right_inj,
      append_eq_append_iff_of_length_eq lengths, String.append_left_inj]
  · simp only [Wording.plain, String.append_assoc, String.append_right_inj,
      append_eq_append_iff_of_length_eq lengths]

namespace Content

/-- A field stands before the others, behind a blank. -/
theorem fieldsText_cons (name value : String) (fields : List (String × String)) :
    fieldsText ((name, value) :: fields)
      = " " ++ name ++ "=" ++ (value ++ fieldsText fields) := by
  simp [fieldsText, String.append_assoc]

/-- The row of fields is never shown longer than it was handed over. -/
theorem length_fieldsText_shown_le (extra : List (String × Handed)) :
    (fieldsText (extra.map fun field => (field.1, field.2.field.shown))).length
      ≤ (fieldsText (extra.map fun field => (field.1, field.2.value))).length := by
  induction extra with
  | nil => exact Nat.le_refl _
  | cons field extra ih =>
    obtain ⟨name, text⟩ := field
    have := text.length_shown_le
    simp only [List.map_cons, fieldsText_cons, String.length_append]
    omega

/-- Fields are shown as they were handed over exactly if each of them is. -/
theorem fieldsText_shown_eq_iff (extra : List (String × Handed)) :
    fieldsText (extra.map fun field => (field.1, field.2.field.shown))
        = fieldsText (extra.map fun field => (field.1, field.2.value)) ↔
      ∀ field ∈ extra, field.2.Bare := by
  induction extra with
  | nil => simp
  | cons field extra ih =>
    obtain ⟨name, text⟩ := field
    simp only [List.map_cons, fieldsText_cons, String.append_right_inj, List.forall_mem_cons]
    rw [append_eq_append_iff_of_length_le text.length_shown_le (length_fieldsText_shown_le extra),
      Handed.shown_eq_value_iff, ih]

end Content

/-! ## What a call records -/

/-- What is handed over to the log in one call. -/
structure Call where
  severity : Severity
  message : Handed
  component? : Option Handed
  /-- The other fields by name, in order. -/
  extra : List (String × Handed)
  extra_named : ∀ field ∈ extra, field.1 ≠ "message" ∧ field.1 ≠ "component"

namespace Content

/-- A row of fields, neither of which is the message or the component, comes behind those before. -/
theorem foldl_record_extra (content : Content) (extra : List (String × Handed))
    (named : ∀ field ∈ extra, field.1 ≠ "message" ∧ field.1 ≠ "component") :
    (extra.map fun field => (field.1, field.2.field)).foldl
        (fun content (name, value) => content.record name value) content
      = { content with
          extra := content.extra ++ extra.map fun field => (field.1, field.2.field.shown) } := by
  induction extra generalizing content with
  | nil => simp
  | cons field extra ih =>
    obtain ⟨name, text⟩ := field
    obtain ⟨⟨no_message, no_component⟩, later⟩ := List.forall_mem_cons.1 named
    have recorded : content.record name text.field
        = { content with extra := content.extra ++ [(name, text.field.shown)] } := by
      rw [record, if_neg no_message, if_neg no_component]
    simp only [List.map_cons, List.foldl_cons, recorded, ih _ later, List.append_assoc,
      List.singleton_append]

/-- What a line says of a content, parted at the severity. -/
def wording (style : Style) (time : String) (severity : Severity) (content : Content) :
    Wording where
  before := "[" ++ time ++ "] [" ++ String.ofList (speakerColumn (content.speaker style)) ++ "] ["
  severity
  after := "] " ++ content.message ++ fieldsText content.extra

/-- The line of an event is its wording in the given style. -/
theorem line_eq_styled (style : Style) (time : String) (severity : Severity) (content : Content) :
    content.line style time severity = (content.wording style time severity).styled style := by
  obtain ⟨service, coloured⟩ := style
  cases coloured with
  | false => simp [line, wording, Wording.styled, Wording.plain, String.append_assoc]
  | true => simp [line, wording, Wording.styled, Wording.painted, String.append_assoc]

/-- What stands before the severity is as long as the time and a column of fixed width. -/
theorem length_wording_before (style : Style) (time : String) (severity : Severity)
    (content : Content) :
    (content.wording style time severity).before.length = time.length + 23 := by
  have marks : "[".length = 1 ∧ "] [".length = 3 := ⟨rfl, rfl⟩
  simp only [wording, String.length_append, String.length_ofList, length_speakerColumn, marks,
    speakerWidth]
  omega

/-- Two lines at one time and with one severity are the same exactly if the speakers have the same
column and the rest is the same. -/
theorem styled_wording_eq_iff (style : Style) (time : String) (severity : Severity)
    (said told : Content) :
    (said.wording style time severity).styled style
        = (told.wording style time severity).styled style ↔
      speakerColumn (said.speaker style) = speakerColumn (told.speaker style) ∧
        said.message ++ fieldsText said.extra = told.message ++ fieldsText told.extra := by
  have lengths := (length_wording_before style time severity said).trans
    (length_wording_before style time severity told).symm
  rw [Wording.styled_eq_iff style lengths rfl]
  simp only [wording, String.append_assoc, String.append_right_inj, String.append_left_inj,
    String.ofList_inj]

end Content

/-- A column begins with the whole name, or with as much of it as leaves room for the mark. -/
theorem take_prefix_speakerColumn (name : String) :
    name.toList.take (if name.length ≤ 16 then 16 else 15) <+: speakerColumn name := by
  by_cases fits : name.length ≤ 16
  · have whole : name.toList.length ≤ 16 := by rwa [String.length_toList]
    rw [if_pos fits, speakerColumn_of_le fits, List.take_of_length_le whole]
    exact List.prefix_append ..
  · rw [if_neg fits, speakerColumn_of_lt (Nat.not_le.1 fits)]
    exact List.prefix_append ..

namespace Call

/-- The fields that are recorded, the message first. -/
def fields (call : Call) : List (String × FieldValue) :=
  ("message", call.message.field)
    :: (call.component?.map fun component => ("component", component.field)).toList
    ++ call.extra.map fun field => (field.1, field.2.field)

/-- The texts of a call, each seen in a way. -/
def seen (way : Handed → String) (call : Call) : Content where
  message := way call.message
  component? := call.component?.map way
  extra := call.extra.map fun field => (field.1, way field.2)

/-- The texts of a call as they were handed over. -/
def given (call : Call) : Content := call.seen Handed.value

/-- What is read off the fields of a call is the call as it is shown. -/
theorem ofFields_fields (call : Call) :
    Content.ofFields call.fields = call.seen fun text => text.field.shown := by
  obtain ⟨severity, message, component?, extra, named⟩ := call
  cases component? with
  | none => exact Content.foldl_record_extra ⟨message.field.shown, none, []⟩ extra named
  | some component =>
    exact Content.foldl_record_extra ⟨message.field.shown, some component.field.shown, []⟩
      extra named

/-- The speaker stands in its column as it was handed over exactly if it was not printed with double
quotes around it, or if the column is the same without them. -/
theorem speakerColumn_shown_eq_iff (style : Style) (call : Call) :
    speakerColumn ((call.seen fun text => text.field.shown).speaker style)
        = speakerColumn (call.given.speaker style) ↔
      ∀ inner, call.component? = some (.printed (enclosed inner)) →
        speakerColumn ("relay-" ++ inner) = speakerColumn ("relay-" ++ enclosed inner) := by
  obtain ⟨severity, message, component?, extra, named⟩ := call
  cases component? with
  | none => simp [seen, given, Content.speaker]
  | some component =>
    change speakerColumn ("relay-" ++ component.field.shown)
        = speakerColumn ("relay-" ++ component.value) ↔ _
    constructor
    · rintro same inner ⟨⟩
      rwa [Handed.shown_enclosed] at same
    · intro same
      by_cases quotes : ∃ inner, component = .printed (enclosed inner)
      · obtain ⟨inner, rfl⟩ := quotes
        rw [Handed.shown_enclosed]
        exact same inner rfl
      · rw [Handed.shown_of_bare (not_exists.1 quotes)]

/-- Message and fields are shown as they were handed over exactly if each of them is. -/
theorem rest_shown_eq_iff (call : Call) :
    (call.seen fun text => text.field.shown).message
          ++ Content.fieldsText (call.seen fun text => text.field.shown).extra
        = call.given.message ++ Content.fieldsText call.given.extra ↔
      call.message.Bare ∧ ∀ field ∈ call.extra, field.2.Bare := by
  refine (append_eq_append_iff_of_length_le call.message.length_shown_le
    (Content.length_fieldsText_shown_le call.extra)).trans ?_
  exact and_congr Handed.shown_eq_value_iff (Content.fieldsText_shown_eq_iff call.extra)

/-- A line carries the texts of a call as they were handed over exactly if neither the message nor
one of the other fields was printed with double quotes around it, nor the component, unless its
column is the same without them. In the line that does, the speaker has sixteen characters and the
severity nine, and a name is cut where it has more; with the colours deleted it is the line without
colours. -/
theorem line_unaltered_iff (style : Style) (time : String) (call : Call) :
    let speaker := call.given.speaker style
    let unaltered := call.given.wording style time call.severity
    unaltered.plain
        = "[" ++ time ++ "] [" ++ String.ofList (speakerColumn speaker) ++ "] ["
          ++ String.ofList call.severity.column ++ "] " ++ call.message.value
          ++ String.join (call.extra.map fun field => " " ++ field.1 ++ "=" ++ field.2.value) ∧
      ((speakerColumn speaker).length = 16 ∧ call.severity.column.length = 9 ∧
        speaker.toList.take (if speaker.length ≤ 16 then 16 else 15) <+: speakerColumn speaker) ∧
      (withoutColours (unaltered.styled style).toList = withoutColours unaltered.plain.toList ∧
        ('\x1b' ∉ unaltered.plain.toList →
          withoutColours (unaltered.styled style).toList = unaltered.plain.toList)) ∧
      ((Content.ofFields call.fields).line style time call.severity = unaltered.styled style ↔
        call.message.Bare ∧ (∀ field ∈ call.extra, field.2.Bare) ∧
          ∀ inner, call.component? = some (.printed (enclosed inner)) →
            speakerColumn ("relay-" ++ inner) = speakerColumn ("relay-" ++ enclosed inner)) := by
  intro speaker unaltered
  have colourless := unaltered.withoutColours_styled style
  refine ⟨?_, ⟨length_speakerColumn speaker, call.severity.length_column,
    take_prefix_speakerColumn speaker⟩, ⟨colourless, ?_⟩, ?_⟩
  · simp [unaltered, speaker, Content.wording, Wording.plain, Content.fieldsText, given, seen,
      Function.comp_def, String.append_assoc]
  · intro plain
    rw [colourless, withoutColours_of_plain plain]
  · rw [ofFields_fields, Content.line_eq_styled, Content.styled_wording_eq_iff,
      speakerColumn_shown_eq_iff, rest_shown_eq_iff, and_comm, and_assoc]

/-- A message between double quotes loses them, and the same text as another field keeps them. -/
theorem message_loses_quotes :
    let call : Call := ⟨.info, .printed "\"hi\"", none, [("peer", .plain "\"hi\"")], by decide⟩
    let event : Event := ⟨.info, none, "\"hi\"", [("peer", .text "\"hi\"")]⟩
    let style : Style := ⟨"relay", false⟩
    event.recorded = call.fields ∧
      event.line style "now" = "[now] [relay           ] [ℹ INFO   ] hi peer=\"hi\"" ∧
      (call.given.wording style "now" call.severity).styled style
        = "[now] [relay           ] [ℹ INFO   ] \"hi\" peer=\"hi\"" ∧
      (Content.ofFields call.fields).line style "now" call.severity
        ≠ (call.given.wording style "now" call.severity).styled style :=
  ⟨rfl, rfl, rfl, by decide⟩

end Call

end Log

end MessageRelay
