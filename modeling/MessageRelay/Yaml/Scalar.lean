import MessageRelay.Text.Decimal
import MessageRelay.Yaml.Cursor

/-!
# Scalars of a YAML text

A scalar is plain, in single or double quotes, or a block whose lines are kept or folded. Within the
first three, white space around the end of a line is replaced: one line end becomes a blank, and
further ones are kept. In a block, leading lines fix the indentation, and lines that are folded are
joined where neither begins with white space. Every function here gives nothing where the text is
not YAML.
-/

set_option autoImplicit false

namespace MessageRelay.Yaml

/-- How a scalar is written. -/
inductive Style where
  | plain
  | singleQuoted
  | doubleQuoted
  | literal
  | folded
  deriving DecidableEq

/-- White space between two parts of a scalar. -/
structure Gap where
  /-- Blanks before the first line end. -/
  blanks : List Char
  /-- The first line end. -/
  first : List Char
  /-- The line ends after the first. -/
  further : List Char
  /-- Whether there is a line end, which may be one that an escape has removed. -/
  broken : Bool

namespace Gap

/-- No white space. -/
def none : Gap :=
  ⟨[], [], [], false⟩

/-- The place after a line end that an escape has removed. -/
def joined : Gap :=
  ⟨[], [], [], true⟩

/-- What the white space stands for. -/
def text (gap : Gap) : List Char :=
  if gap.broken then
    if gap.first = ['\n'] then (if gap.further.isEmpty then [' '] else gap.further)
    else gap.first ++ gap.further
  else gap.blanks

/-- The white space from a place on, after some that was seen already. In a line that begins within
it, a tab has to stand at `margin` or behind it. The first number bounds the characters. -/
def scan : Nat → Nat → Gap → Cursor → Option (Gap × Cursor)
  | 0, _, gap, cursor => some (gap, cursor)
  | bound + 1, margin, gap, cursor =>
    match cursor.rest with
    | [] => some (gap, cursor)
    | c :: _ =>
      if isBlank c then
        if gap.broken then
          if c == '\t' && cursor.column < margin then Option.none
          else scan bound margin gap (cursor.advance 1)
        else scan bound margin { gap with blanks := gap.blanks ++ [c] } (cursor.advance 1)
      else if isBreak c then
        let (ending, next) := cursor.nextLine
        if gap.broken then scan bound margin { gap with further := gap.further ++ ending } next
        else scan bound margin ⟨[], ending, [], true⟩ next
      else some (gap, cursor)

end Gap

namespace Scalar

/-- The characters of a plain scalar up to white space or to what ends it. -/
def plainRun (inFlow : Bool) : List Char → Option (List Char)
  | [] => some []
  | c :: rest =>
    if isBlank c || isBreak c then some []
    else if inFlow && c == ':'
        && (rest.head?.map fun d => [',', '?', '[', ']', '\x7b', '\x7d'].contains d).getD false then
      none
    else if c == ':' && atSpace rest then some []
    else if inFlow && [',', '[', ']', '\x7b', '\x7d'].contains c then some []
    else (plainRun inFlow rest).map (c :: ·)

/-- The rest of a plain scalar, and whether a new line has begun behind it. -/
def plainFrom (inFlow : Bool) (margin : Nat) :
    Nat → List Char → Gap → Cursor → Option (List Char × Bool × Cursor)
  | 0, text, gap, cursor => some (text, gap.broken, cursor)
  | bound + 1, text, gap, cursor =>
    if cursor.atBoundary || cursor.rest.head? == some '#' then some (text, gap.broken, cursor)
    else do
      let run ← plainRun inFlow cursor.rest
      let (text, gap) := if run.isEmpty then (text, gap) else (text ++ gap.text ++ run, Gap.none)
      let cursor := cursor.advance run.length
      match cursor.rest with
      | [] => some (text, gap.broken, cursor)
      | c :: _ =>
        if isBlank c || isBreak c then do
          let (gap, cursor) ← gap.scan cursor.rest.length margin cursor
          if !inFlow && cursor.column < margin then some (text, gap.broken, cursor)
          else plainFrom inFlow margin bound text gap cursor
        else some (text, gap.broken, cursor)

/-- The plain scalar at a place, and whether a new line has begun behind it. Its further lines have
to be indented by `margin` unless it is within brackets. -/
def plain (inFlow : Bool) (margin : Nat) (cursor : Cursor) :
    Option (List Char × Bool × Cursor) :=
  plainFrom inFlow margin (cursor.rest.length + 1) [] Gap.none cursor

/-- The character that an escape of one letter stands for. -/
def shortEscape? (c : Char) : Option Char :=
  match c with
  | '0' => some '\x00'
  | 'a' => some '\x07'
  | 'b' => some '\x08'
  | 't' => some '\t'
  | '\t' => some '\t'
  | 'n' => some '\n'
  | 'v' => some '\x0b'
  | 'f' => some '\x0c'
  | 'r' => some '\r'
  | 'e' => some '\x1b'
  | ' ' => some ' '
  | '"' => some '"'
  | '/' => some '/'
  | '\\' => some '\\'
  | 'N' => some '\u0085'
  | '_' => some '\u00a0'
  | 'L' => some '\u2028'
  | 'P' => some '\u2029'
  | _ => none

/-- The digits that an escape by number has. -/
def escapeWidth? (c : Char) : Option Nat :=
  match c with
  | 'x' => some 2
  | 'u' => some 4
  | 'U' => some 8
  | _ => none

/-- The character that the text after a backslash stands for, and the characters it takes. -/
def escape? : List Char → Option (Char × Nat)
  | [] => none
  | c :: rest =>
    match shortEscape? c, escapeWidth? c with
    | some d, _ => some (d, 1)
    | none, some width => do
      let digits := rest.take width
      if digits.length ≠ width then none
      else do
        let n ← Text.digits? 16 digits
        if h : n.isValidChar then some (Char.ofNatAux n h, width + 1) else none
    | none, none => none

/-- The characters of a quoted scalar up to white space, its quote or an escaped line end, and
whether that was an escaped line end, which is then passed. -/
def quotedRun (single : Bool) : Nat → List Char → Cursor → Option (List Char × Bool × Cursor)
  | 0, text, cursor => some (text, false, cursor)
  | bound + 1, text, cursor =>
    match cursor.rest with
    | [] => some (text, false, cursor)
    | c :: rest =>
      if isBlank c || isBreak c then some (text, false, cursor)
      else if single && c == '\'' then
        if rest.head? == some '\'' then quotedRun single bound (text ++ ['\'']) (cursor.advance 2)
        else some (text, false, cursor)
      else if !single && c == '"' then some (text, false, cursor)
      else if !single && c == '\\' then
        if (rest.head?.map isBreak).getD false then
          some (text, true, (cursor.advance 1).nextLine.2)
        else do
          let (d, width) ← escape? rest
          quotedRun single bound (text ++ [d]) (cursor.advance (width + 1))
      else quotedRun single bound (text ++ [c]) (cursor.advance 1)

/-- The rest of a quoted scalar, up to and including its quote. -/
def quotedFrom (single : Bool) : Nat → List Char → Cursor → Option (List Char × Cursor)
  | 0, _, _ => none
  | bound + 1, text, cursor =>
    if cursor.atBoundary || cursor.rest.isEmpty then none
    else do
      let (text, joined, cursor) ← quotedRun single cursor.rest.length text cursor
      if cursor.rest.head? == some (if single then '\'' else '"') then
        some (text, cursor.advance 1)
      else do
        let (gap, cursor) ←
          (if joined then Gap.joined else Gap.none).scan cursor.rest.length 0 cursor
        quotedFrom single bound (text ++ gap.text) cursor

/-- The quoted scalar at a place. -/
def quoted (single : Bool) (cursor : Cursor) : Option (List Char × Cursor) :=
  quotedFrom single (cursor.rest.length + 1) [] (cursor.advance 1)

end Scalar

end MessageRelay.Yaml
