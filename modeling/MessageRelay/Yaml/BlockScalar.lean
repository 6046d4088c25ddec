import MessageRelay.Yaml.Cursor

/-!
# Block scalars of a YAML text

A block scalar begins on the line after its sign. The sign may be followed by the number of blanks
by which the lines are indented and by a mark that says whether the line ends behind the last line
are dropped or all kept; without a mark one is kept. Without a number the first line that is not
blank fixes the indentation.
-/

set_option autoImplicit false

namespace MessageRelay.Yaml.BlockScalar

/-- What becomes of the line ends behind the last line. -/
inductive Chomping where
  /-- One is kept. -/
  | clip
  /-- None is kept. -/
  | strip
  /-- All are kept. -/
  | keep
  deriving DecidableEq

/-- The mark at a place. -/
def chomping? (cursor : Cursor) : Option Chomping :=
  match cursor.rest with
  | '+' :: _ => some .keep
  | '-' :: _ => some .strip
  | _ => none

/-- The digit at a place. -/
def digit? (cursor : Cursor) : Option Nat :=
  match cursor.rest with
  | c :: _ => if '0' ≤ c ∧ c ≤ '9' then some (c.toNat - 48) else none
  | [] => none

/-- The mark and the number behind the sign, in either order, up to the next line. The number is
zero if there is none. -/
def header (cursor : Cursor) : Option (Chomping × Nat × Cursor) := do
  let (mark, number, cursor) := match chomping? cursor, digit? cursor with
    | some mark, _ =>
      let cursor := cursor.advance 1
      match digit? cursor with
      | some n => (mark, some n, cursor.advance 1)
      | none => (mark, none, cursor)
    | none, some n =>
      let cursor := cursor.advance 1
      match chomping? cursor with
      | some mark => (mark, some n, cursor.advance 1)
      | none => (.clip, some n, cursor)
    | none, none => (.clip, none, cursor)
  if number = some 0 then none
  else do
    let next ← cursor.finishLine
    some (mark, number.getD 0, next)

/-- Passes indentation and empty lines; gives the ends of those lines and the largest column
reached. An indentation of zero is not known yet. A tab must not stand where a blank may. -/
def emptyLines (indentation : Nat) : Nat → List Char → Nat → Cursor →
    Option (List Char × Nat × Cursor)
  | 0, ends, reached, cursor => some (ends, reached, cursor)
  | bound + 1, ends, reached, cursor =>
    let spaces := cursor.rest.takeWhile (· == ' ')
    let count := if indentation = 0 then spaces.length
      else min spaces.length (indentation - cursor.column)
    let cursor := cursor.advance count
    let reached := max reached cursor.column
    match cursor.rest with
    | [] => some (ends, reached, cursor)
    | c :: _ =>
      if c == '\t' && (indentation = 0 || cursor.column < indentation) then none
      else if isBreak c then
        let (ending, next) := cursor.nextLine
        emptyLines indentation bound (ends ++ ending) reached next
      else some (ends, reached, cursor)

/-- The text that is collected while the lines of a block are read. -/
structure Progress where
  text : List Char
  /-- The end of the last line. -/
  lineEnd : List Char
  /-- The ends of the empty lines after it. -/
  emptyEnds : List Char
  /-- Whether the last line began with white space. -/
  indented : Bool

namespace Progress

/-- The text with what stands between the last line and one that does or does not begin with white
space. -/
def joined (isFolded startsBlank : Bool) (progress : Progress) : List Char :=
  if isFolded && progress.lineEnd == ['\n'] && !progress.indented && !startsBlank then
    progress.text ++ (if progress.emptyEnds.isEmpty then [' '] else progress.emptyEnds)
  else progress.text ++ progress.lineEnd ++ progress.emptyEnds

/-- The whole text. -/
def finished (mark : Chomping) (progress : Progress) : List Char :=
  match mark with
  | .strip => progress.text
  | .clip => progress.text ++ progress.lineEnd
  | .keep => progress.text ++ progress.lineEnd ++ progress.emptyEnds

end Progress

/-- Reads the lines of a block. -/
def lines (isFolded : Bool) (indentation : Nat) :
    Nat → Progress → Cursor → Option (Progress × Cursor)
  | 0, progress, cursor => some (progress, cursor)
  | bound + 1, progress, cursor =>
    if cursor.column = indentation ∧ ¬ cursor.rest.isEmpty then do
      let startsBlank := (cursor.rest.head?.map isBlank).getD false
      let (line, after) := cursor.takeWhile fun c => !isBreak c
      let (lineEnd, next) := after.nextLine
      let (emptyEnds, _, next) ← emptyLines indentation (next.rest.length + 1) [] 0 next
      lines isFolded indentation bound {
        text := progress.joined isFolded startsBlank ++ line
        lineEnd, emptyEnds, indented := startsBlank } next
    else some (progress, cursor)

/-- The block scalar behind its sign, within a block that is indented by `parent`. -/
def read (isFolded : Bool) (parent : Int) (cursor : Cursor) : Option (List Char × Cursor) := do
  let (mark, number, cursor) ← header cursor
  let stated := if number = 0 then 0 else (max parent 0).toNat + number
  let (emptyEnds, reached, cursor) ← emptyLines stated (cursor.rest.length + 1) [] 0 cursor
  let indentation := if stated = 0 then max (max reached (parent + 1).toNat) 1 else stated
  let (progress, cursor) ← lines isFolded indentation (cursor.rest.length + 1)
    { text := [], lineEnd := [], emptyEnds, indented := false } cursor
  some (progress.finished mark, cursor)

end MessageRelay.Yaml.BlockScalar
