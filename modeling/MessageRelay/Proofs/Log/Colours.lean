import MessageRelay.Log.Line

/-!
# Lines without their colours

The sequences that turn colours on and off begin with the escape character, have no other one, and
none is the front of another. So they can be deleted from a text wherever they stand, and text that
ends like the front of one does not run together with the sequence behind it
(`withoutColours_append_cons`). A line with the colours set in says what it says without them:
deleting the sequences from either gives the same, whatever texts the line is made of
(`Wording.withoutColours_painted`).
-/

set_option autoImplicit false

namespace MessageRelay.Log

/-- The sequences that turn colours on and off. -/
def colourCodes : List (List Char) :=
  [lineColour, noColour, Severity.error.colour, Severity.warn.colour, Severity.info.colour,
    Severity.debug.colour, Severity.trace.colour].map String.toList

/-- The sequence that a text begins with, if it does with one. -/
def codeAtFront? (cs : List Char) : Option (List Char) :=
  colourCodes.find? fun code => code <+: cs

/-- A text with the sequences deleted that stand in it. -/
def withoutColours : List Char → List Char
  | [] => []
  | c :: cs =>
    match codeAtFront? (c :: cs) with
    | some code => withoutColours (cs.drop code.tail.length)
    | none => c :: withoutColours cs
termination_by cs => cs.length
decreasing_by
  · simp only [List.length_drop, List.length_cons]
    omega
  · simp

/-! ## The sequences -/

/-- No colour code is the front of another one. -/
theorem colourCodes_prefixFree :
    ∀ code ∈ colourCodes, ∀ other ∈ colourCodes, code <+: other → code = other := by
  decide

/-- Every colour code starts with the escape. -/
theorem eq_escape_cons_of_mem_colourCodes : ∀ code ∈ colourCodes, code = '\x1b' :: code.tail := by
  decide

/-- A character that no sequence has behind its front. -/
def Separating (c : Char) : Prop := ∀ code ∈ colourCodes, c ∉ code.tail

/-- No colour code has an escape behind its first character. -/
theorem separating_escape : Separating '\x1b' := by
  unfold Separating
  decide

/-- The colour code found at the front of a text is one, and is its front. -/
theorem prefix_of_codeAtFront? {code cs : List Char} (found : codeAtFront? cs = some code) :
    code ∈ colourCodes ∧ code <+: cs :=
  ⟨List.mem_of_find?_eq_some found, of_decide_eq_true (List.find?_some found :)⟩

/-- A colour code is found exactly at the front that it is: no other code can be there as well. -/
theorem codeAtFront?_eq_some_iff {code cs : List Char} :
    codeAtFront? cs = some code ↔ code ∈ colourCodes ∧ code <+: cs := by
  refine ⟨prefix_of_codeAtFront?, ?_⟩
  rintro ⟨listed, front⟩
  cases found : codeAtFront? cs with
  | none => exact absurd (decide_eq_true front) (List.find?_eq_none.1 found code listed)
  | some other =>
    obtain ⟨listed', front'⟩ := prefix_of_codeAtFront? found
    obtain shorter | longer := List.prefix_or_prefix_of_prefix front' front
    · rw [colourCodes_prefixFree other listed' code listed shorter]
    · rw [colourCodes_prefixFree code listed other listed' longer]

/-- What stands behind a separating character does not matter for the sequence at the front. -/
theorem codeAtFront?_append_cons {front rest : List Char} {c : Char} (some_ : front ≠ [])
    (separates : Separating c) : codeAtFront? (front ++ c :: rest) = codeAtFront? front := by
  apply Option.ext
  intro code
  simp only [codeAtFront?_eq_some_iff]
  refine and_congr_right fun listed => ⟨fun stands => ?_, fun stands => ?_⟩
  · obtain shorter | ⟨more, rfl⟩ := List.prefix_or_prefix_of_prefix stands (List.prefix_append ..)
    · exact shorter
    · -- The sequence reaches behind the front, and so has the separating character in it.
      obtain rfl | ⟨more', rfl⟩ : more = [] ∨ ∃ more', more = c :: more' := by
        have here := (List.prefix_append_right_inj front).1 stands
        cases more with
        | nil => exact .inl rfl
        | cons d more' => exact .inr ⟨more', by rw [(List.cons_prefix_cons.1 here).1]⟩
      · simp
      · exfalso
        apply separates _ listed
        rw [List.tail_append_of_ne_nil some_]
        simp
  · exact stands.trans (List.prefix_append ..)

/-! ## Deleting them -/

/-- There is nothing to delete from an empty text. -/
theorem withoutColours_nil : withoutColours [] = [] := by
  rw [withoutColours]

/-- A colour code at the front is deleted. -/
theorem withoutColours_of_code {c : Char} {cs code : List Char}
    (found : codeAtFront? (c :: cs) = some code) :
    withoutColours (c :: cs) = withoutColours (cs.drop code.tail.length) := by
  rw [withoutColours, found]

/-- A character that starts no colour code stays. -/
theorem withoutColours_of_no_code {c : Char} {cs : List Char}
    (found : codeAtFront? (c :: cs) = none) :
    withoutColours (c :: cs) = c :: withoutColours cs := by
  rw [withoutColours, found]

/-- A sequence at the front goes. -/
theorem withoutColours_code_append {code : List Char} (listed : code ∈ colourCodes)
    (rest : List Char) : withoutColours (code ++ rest) = withoutColours rest := by
  have found : codeAtFront? (code ++ rest) = some code :=
    codeAtFront?_eq_some_iff.2 ⟨listed, List.prefix_append ..⟩
  rw [eq_escape_cons_of_mem_colourCodes code listed, List.cons_append] at found ⊢
  rw [withoutColours_of_code found, List.tail_cons, List.drop_left]

/-- A separating character cuts a text in two. -/
theorem withoutColours_append_cons (front rest : List Char) {c : Char} (separates : Separating c) :
    withoutColours (front ++ c :: rest) = withoutColours front ++ withoutColours (c :: rest) := by
  fun_induction withoutColours front with
  | case1 => rfl
  | case2 d cs code found ih =>
    -- a sequence found in front of the separating character ends before it
    have found' : codeAtFront? (d :: (cs ++ c :: rest)) = some code := by
      rw [← List.cons_append, codeAtFront?_append_cons (List.cons_ne_nil d cs) separates, found]
    have inside : code.tail.length ≤ cs.length := by
      have := (prefix_of_codeAtFront? found).2.length_le
      rw [List.length_tail]
      simp only [List.length_cons] at this
      omega
    rw [List.cons_append, withoutColours_of_code found', ← ih,
      List.drop_append_of_le_length inside]
  | case3 d cs found ih =>
    have found' : codeAtFront? (d :: (cs ++ c :: rest)) = none := by
      rw [← List.cons_append, codeAtFront?_append_cons (List.cons_ne_nil d cs) separates, found]
    rw [List.cons_append, withoutColours_of_no_code found', ih, List.cons_append]

/-- A sequence goes wherever it stands, whatever it stands behind. -/
theorem withoutColours_append_code (front : List Char) {code : List Char}
    (listed : code ∈ colourCodes) (rest : List Char) :
    withoutColours (front ++ (code ++ rest)) = withoutColours front ++ withoutColours rest := by
  rw [← withoutColours_code_append listed rest]
  have begins := eq_escape_cons_of_mem_colourCodes code listed
  rw [begins, List.cons_append]
  exact withoutColours_append_cons front _ separating_escape

/-- A text without the escape character stays as it is, also in front of another. -/
theorem withoutColours_append_of_plain {front : List Char} (plain : '\x1b' ∉ front)
    (rest : List Char) : withoutColours (front ++ rest) = front ++ withoutColours rest := by
  induction front with
  | nil => rfl
  | cons c front ih =>
    obtain ⟨here, later⟩ := List.ne_and_not_mem_of_not_mem_cons plain
    -- a sequence starts with an escape, and there is none
    have none_ : codeAtFront? (c :: (front ++ rest)) = none := by
      cases found : codeAtFront? (c :: (front ++ rest)) with
      | none => rfl
      | some code =>
        obtain ⟨listed, stands⟩ := prefix_of_codeAtFront? found
        rw [eq_escape_cons_of_mem_colourCodes code listed] at stands
        exact absurd (List.cons_prefix_cons.1 stands).1 here
    rw [List.cons_append, withoutColours_of_no_code none_, ih later, List.cons_append]

/-- Nothing is deleted from a text without escapes. -/
theorem withoutColours_of_plain {cs : List Char} (plain : '\x1b' ∉ cs) :
    withoutColours cs = cs := by
  have := withoutColours_append_of_plain plain []
  rwa [List.append_nil, withoutColours_nil, List.append_nil] at this

/-! ## Lines with and without colours -/

/-- The colour of a severity is one of the colour codes. -/
theorem Severity.colour_mem_colourCodes (severity : Severity) :
    severity.colour.toList ∈ colourCodes := by
  cases severity <;> decide

/-- The column of a severity has no escape. -/
theorem Severity.escape_not_mem_column (severity : Severity) : '\x1b' ∉ severity.column := by
  cases severity <;> decide

/-- The column for a severity begins with a sign that no sequence has. -/
theorem Severity.column_separates (severity : Severity) :
    ∃ sign more, severity.column = sign :: more ∧ Separating sign := by
  unfold Separating
  cases severity with
  | error => exact ⟨'✗', _, rfl, by decide⟩
  | warn => exact ⟨'⚠', _, rfl, by decide⟩
  | info => exact ⟨'ℹ', _, rfl, by decide⟩
  | debug => exact ⟨'◦', _, rfl, by decide⟩
  | trace => exact ⟨'◦', _, rfl, by decide⟩

/-- What a line says, parted at its severity. -/
structure Wording where
  before : String
  severity : Severity
  after : String

namespace Wording

/-- The line without colours. -/
def plain (wording : Wording) : String :=
  wording.before ++ String.ofList wording.severity.column ++ wording.after

/-- The line with the colours set in. -/
def painted (wording : Wording) : String :=
  lineColour ++ wording.before
    ++ wording.severity.colour ++ String.ofList wording.severity.column ++ noColour
    ++ wording.after ++ noColour

/-- The line in a style. -/
def styled (style : Style) (wording : Wording) : String :=
  if style.coloured then wording.painted else wording.plain

/-- With the sequences deleted, the line is the same with colours and without. -/
theorem withoutColours_painted (wording : Wording) :
    withoutColours wording.painted.toList = withoutColours wording.plain.toList := by
  obtain ⟨before, severity, after⟩ := wording
  have line_listed : lineColour.toList ∈ colourCodes := by decide
  have no_listed : noColour.toList ∈ colourCodes := by decide
  have listed := severity.colour_mem_colourCodes
  have plain := severity.escape_not_mem_column
  obtain ⟨sign, more, column, separates⟩ := severity.column_separates
  have cut : withoutColours (before.toList ++ (severity.column ++ after.toList))
      = withoutColours before.toList ++ withoutColours (severity.column ++ after.toList) := by
    rw [column, List.cons_append]
    exact withoutColours_append_cons _ _ separates
  have ends : withoutColours (after.toList ++ noColour.toList) = withoutColours after.toList := by
    have := withoutColours_append_code after.toList no_listed []
    rwa [List.append_nil, withoutColours_nil, List.append_nil] at this
  simp only [Wording.painted, Wording.plain, String.toList_append, String.toList_ofList,
    List.append_assoc]
  rw [withoutColours_code_append line_listed, withoutColours_append_code _ listed,
    withoutColours_append_of_plain plain, withoutColours_code_append no_listed, ends, cut,
    withoutColours_append_of_plain plain]

/-- A wording reads the same in either style once the colour codes are deleted. -/
theorem withoutColours_styled (style : Style) (wording : Wording) :
    withoutColours (wording.styled style).toList = withoutColours wording.plain.toList := by
  unfold styled
  split
  · exact wording.withoutColours_painted
  · rfl

end Wording

end MessageRelay.Log
