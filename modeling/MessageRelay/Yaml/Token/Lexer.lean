import MessageRelay.Yaml.BlockScalar
import MessageRelay.Yaml.Token.Directive

/-!
# Reading tokens

Tokens are read one after the other, with the columns of the blocks that are open and, for each open
bracket, the place where a key may have begun. That something is a key shows only at the colon
behind it, on the same line and at most 1024 characters further on; then the tokens that open it are
put where it began. A text that is not YAML has no tokens.
-/

set_option autoImplicit false

namespace MessageRelay.Yaml

/-- A place where a key may have begun. -/
structure PossibleKey where
  /-- Whether nothing else than a key may stand here. -/
  required : Bool
  /-- How many tokens stand before it. -/
  position : Nat
  index : Nat
  line : Nat
  column : Nat

/-- How far a text has been read. -/
structure Lexer where
  cursor : Cursor
  /-- The tokens so far. -/
  tokens : List Token
  /-- The column of the innermost open block, or -1. -/
  indent : Int
  /-- The columns of the blocks around it. -/
  outer : List Int
  /-- Whether a key may begin here. -/
  keyAllowed : Bool
  /-- The possible key within the innermost open bracket, or outside of all. -/
  possible? : Option PossibleKey
  /-- The possible keys around the open brackets, the innermost first. -/
  suspended : List (Option PossibleKey)

namespace Lexer

def start (text : List Char) : Lexer where
  cursor := Cursor.start text
  tokens := []
  indent := -1
  outer := []
  keyAllowed := true
  possible? := none
  suspended := []

/-- Whether a bracket is open. -/
def inFlow (lexer : Lexer) : Bool :=
  !lexer.suspended.isEmpty

/-- Puts a token behind the others. -/
def push (token : Token) (lexer : Lexer) : Lexer :=
  { lexer with tokens := lexer.tokens ++ [token] }

/-- Puts a token where some tokens stand before it. -/
def insert (position : Nat) (token : Token) (lexer : Lexer) : Lexer :=
  { lexer with tokens := lexer.tokens.take position ++ token :: lexer.tokens.drop position }

/-- Passes some characters of the line. -/
def advance (n : Nat) (lexer : Lexer) : Lexer :=
  { lexer with cursor := lexer.cursor.advance n }

/-- Passes what is no token. A line may begin with one byte order mark, which takes a column. A tab
counts as a blank within brackets and where no key may begin. -/
def skipSpace : Nat → Lexer → Lexer
  | 0, lexer => lexer
  | bound + 1, lexer =>
    let cursor :=
      if lexer.cursor.column = 0 ∧ lexer.cursor.rest.head? = some '\uFEFF' then
        lexer.cursor.advance 1
      else lexer.cursor
    let tabs := lexer.inFlow || !lexer.keyAllowed
    let cursor := (cursor.dropWhile fun c => c == ' ' || (tabs && c == '\t')).skipComment
    match cursor.rest with
    | [] => { lexer with cursor }
    | c :: _ =>
      if isBreak c then
        skipSpace bound { lexer with
          cursor := cursor.nextLine.2, keyAllowed := lexer.keyAllowed || !lexer.inFlow }
      else { lexer with cursor }

/-- The possible key after it is too far behind. One that had to be a key is a fault. -/
def refresh (cursor : Cursor) : Option PossibleKey → Option (Option PossibleKey)
  | none => some none
  | some key =>
    if key.line < cursor.line ∨ key.index + 1024 < cursor.index then
      if key.required then none else some none
    else some (some key)

/-- Gives up the possible keys that are too far behind. -/
def dropStale (lexer : Lexer) : Option Lexer := do
  let possible? ← refresh lexer.cursor lexer.possible?
  let suspended ← lexer.suspended.mapM (refresh lexer.cursor)
  some { lexer with possible?, suspended }

/-- Gives up the innermost possible key. -/
def dropKey (lexer : Lexer) : Option Lexer :=
  match lexer.possible? with
  | some { required := true, .. } => none
  | _ => some { lexer with possible? := none }

/-- Notes that a key may begin here. -/
def noteKey (lexer : Lexer) : Option Lexer :=
  if lexer.keyAllowed then do
    let lexer ← lexer.dropKey
    some { lexer with possible? := some {
      required := !lexer.inFlow && lexer.indent == lexer.cursor.column
      position := lexer.tokens.length
      index := lexer.cursor.index
      line := lexer.cursor.line
      column := lexer.cursor.column } }
  else some lexer

/-- Opens a block at a column, unless one is open there, with a token at a position. -/
def openBlock (column position : Nat) (token : Token) (lexer : Lexer) : Lexer :=
  if !lexer.inFlow && lexer.indent < column then
    { lexer with indent := column, outer := lexer.indent :: lexer.outer }.insert position token
  else lexer

/-- Closes the blocks that are open behind a column. -/
def closeBlocks (column : Int) (lexer : Lexer) : Lexer :=
  if lexer.inFlow then lexer
  else
    let columns := lexer.indent :: lexer.outer
    let closed := columns.takeWhile (column < ·)
    match columns.drop closed.length with
    | [] => lexer
    | indent :: outer =>
      { lexer with
        indent, outer, tokens := lexer.tokens ++ closed.map fun _ => Token.blockEnd }

/-- Reads a token that may be a key or begin one. -/
def readKeyLike (lexer : Lexer) (read : Cursor → Option (Token × Cursor)) : Option Lexer := do
  let lexer ← lexer.noteKey
  let (token, cursor) ← read lexer.cursor
  some ({ lexer with cursor, keyAllowed := false }.push token)

/-- Reads a mark of three characters that bounds a document, or a directive. -/
def readBoundary (lexer : Lexer) (read : Cursor → Option (Token × Cursor)) : Option Lexer := do
  let lexer ← (lexer.closeBlocks (-1)).dropKey
  let (token, cursor) ← read lexer.cursor
  some ({ lexer with cursor, keyAllowed := false }.push token)

def openBracket (token : Token) (lexer : Lexer) : Option Lexer := do
  let lexer ← lexer.noteKey
  some (({ lexer with
    possible? := none
    suspended := lexer.possible? :: lexer.suspended
    keyAllowed := true }.advance 1).push token)

def closeBracket (token : Token) (lexer : Lexer) : Option Lexer := do
  let lexer ← lexer.dropKey
  let lexer := match lexer.suspended with
    | possible? :: suspended => { lexer with possible?, suspended }
    | [] => lexer
  some (({ lexer with keyAllowed := false }.advance 1).push token)

/-- Reads a comma between brackets. -/
def readFlowEntry (lexer : Lexer) : Option Lexer := do
  let lexer ← lexer.dropKey
  some (({ lexer with keyAllowed := true }.advance 1).push .flowEntry)

/-- Opens a block for an entry of its own kind, which has to be allowed here. -/
def openForEntry (token : Token) (lexer : Lexer) : Option Lexer :=
  if lexer.inFlow then some lexer
  else if lexer.keyAllowed then
    some (lexer.openBlock lexer.cursor.column lexer.tokens.length token)
  else none

/-- Reads the dash of an entry. -/
def readBlockEntry (lexer : Lexer) : Option Lexer := do
  let lexer ← (← lexer.openForEntry .blockSequenceStart).dropKey
  some (({ lexer with keyAllowed := true }.advance 1).push .blockEntry)

/-- Reads the question mark of a key. -/
def readKey (lexer : Lexer) : Option Lexer := do
  let lexer ← (← lexer.openForEntry .blockMappingStart).dropKey
  some (({ lexer with keyAllowed := !lexer.inFlow }.advance 1).push .key)

/-- Reads the colon of a value. What may have been a key before it is one. -/
def readValue (lexer : Lexer) : Option Lexer := do
  let lexer ← match lexer.possible? with
    | some key =>
      let lexer := (lexer.insert key.position .key).openBlock key.column key.position
        .blockMappingStart
      some { lexer with possible? := none, keyAllowed := false }
    | none => do
      let lexer ← lexer.openForEntry .blockMappingStart
      some { lexer with keyAllowed := !lexer.inFlow }
  some ((lexer.advance 1).push .value)

/-- Reads a block scalar behind its sign. -/
def readBlockScalar (style : Style) (lexer : Lexer) : Option Lexer := do
  let lexer ← lexer.dropKey
  let (text, cursor) ← BlockScalar.read (style == .folded) lexer.indent (lexer.cursor.advance 1)
  some ({ lexer with cursor, keyAllowed := true }.push (.scalar style (String.ofList text)))

def readPlain (lexer : Lexer) : Option Lexer := do
  let lexer ← lexer.noteKey
  let (text, isBroken, cursor) ←
    Scalar.plain lexer.inFlow (lexer.indent + 1).toNat lexer.cursor
  some ({ lexer with cursor, keyAllowed := isBroken }.push (.scalar .plain (String.ofList text)))

def readQuoted (single : Bool) (lexer : Lexer) : Option Lexer :=
  lexer.readKeyLike fun cursor => (Scalar.quoted single cursor).map fun (text, after) =>
    (.scalar (if single then .singleQuoted else .doubleQuoted) (String.ofList text), after)

/-- Whether a plain scalar begins with a character, by what follows it. -/
def startsPlain (inFlow : Bool) (c : Char) (rest : List Char) : Bool :=
  if c == '-' then !(rest.head?.map isBlank).getD false
  else if c == '?' || c == ':' then !inFlow && !atSpace rest
  else !(isBlank c || isBreak c
    || [',', '[', ']', '\x7b', '\x7d', '#', '&', '*', '!', '|', '>', '\'', '"', '%', '@',
      '\x60'].contains c)

/-- Reads the token that begins with a character. -/
def readToken (c : Char) (rest : List Char) (lexer : Lexer) : Option Lexer :=
  let mark := lexer.inFlow || atSpace rest
  if lexer.cursor.column = 0 ∧ c = '%' then
    lexer.readBoundary fun cursor => Token.readDirective (cursor.advance 1)
  else if lexer.cursor.atMark ['-', '-', '-'] then
    lexer.readBoundary fun cursor => some (.documentStart, cursor.advance 3)
  else if lexer.cursor.atMark ['.', '.', '.'] then
    lexer.readBoundary fun cursor => some (.documentEnd, cursor.advance 3)
  else if c = '[' then lexer.openBracket .flowSequenceStart
  else if c = '\x7b' then lexer.openBracket .flowMappingStart
  else if c = ']' then lexer.closeBracket .flowSequenceEnd
  else if c = '\x7d' then lexer.closeBracket .flowMappingEnd
  else if c = ',' then lexer.readFlowEntry
  else if c = '-' ∧ atSpace rest then lexer.readBlockEntry
  else if c = '?' ∧ mark then lexer.readKey
  else if c = ':' ∧ mark then lexer.readValue
  else if c = '*' then
    lexer.readKeyLike fun cursor =>
      (Token.readName (cursor.advance 1)).map fun (name, after) => (.alias name, after)
  else if c = '&' then
    lexer.readKeyLike fun cursor =>
      (Token.readName (cursor.advance 1)).map fun (name, after) => (.anchor name, after)
  else if c = '!' then lexer.readKeyLike (Token.readTag lexer.inFlow)
  else if c = '|' ∧ !lexer.inFlow then lexer.readBlockScalar .literal
  else if c = '>' ∧ !lexer.inFlow then lexer.readBlockScalar .folded
  else if c = '\'' then lexer.readQuoted true
  else if c = '"' then lexer.readQuoted false
  else if startsPlain lexer.inFlow c rest then lexer.readPlain
  else none

/-- Reads tokens to the end of the text, of which there are no more than the bound. -/
def readAll : Nat → Lexer → Option Lexer
  | 0, _ => none
  | bound + 1, lexer => do
    let lexer ← (lexer.skipSpace (lexer.cursor.rest.length + 1)).dropStale
    match lexer.cursor.rest with
    | [] => (lexer.closeBlocks (-1)).dropKey
    | c :: rest =>
      let lexer := lexer.closeBlocks lexer.cursor.column
      readAll bound (← lexer.readToken c rest)

end Lexer

/-- The tokens of a text. Each takes a character at least. -/
def Token.ofText? (text : List Char) : Option (List Token) :=
  if text.all isAllowed then
    ((Lexer.start text).readAll (text.length + 1)).map (·.tokens)
  else none

end MessageRelay.Yaml
