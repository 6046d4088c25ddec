import MessageRelay.Yaml.Token

/-!
# Directives, names and tags of a YAML text

The parts of a YAML text that are made of single words: directives at the head of a document, names
of anchors, and tags. Each function gives nothing where the text is not YAML.
-/

set_option autoImplicit false

namespace MessageRelay.Yaml.Token

/-- A number of one to nine digits. -/
def readNumber (cursor : Cursor) : Option (Nat × Cursor) := do
  let (digits, after) := cursor.takeWhile Text.isDigit
  if 9 < digits.length then none
  else (Text.digits? 10 digits).map fun n => (n, after)

/-- Whether a character may stand in the part of a tag that is not a short form. -/
def isTagChar (verbatim : Bool) (c : Char) : Bool :=
  isNameChar c
    || [';', '/', '?', ':', '@', '&', '=', '+', '$', '.', '!', '~', '*', '\'', '(', ')'].contains c
    || (verbatim && [',', '[', ']'].contains c)

/-- One byte written as a percent sign and two digits. -/
def percentByte? : List Char → Option (Nat × List Char)
  | '%' :: a :: b :: rest => (Text.digits? 16 [a, b]).map fun n => (n, rest)
  | _ => none

/-- The bytes that follow the first byte of a character, by their number. -/
def percentTail : Nat → Nat → List Char → Option (Nat × List Char)
  | 0, n, cs => some (n, cs)
  | count + 1, n, cs => do
    let (b, cs) ← percentByte? cs
    if b / 64 = 2 then percentTail count (n * 64 + b % 64) cs else none

/-- The character with a code point of at least `least`, or else the one that stands for no other. -/
def charFrom (least n : Nat) : Char :=
  if h : n.isValidChar then if least ≤ n then Char.ofNatAux n h else '\uFFFD' else '\uFFFD'

/-- A character written as the bytes of its UTF-8 form, and what follows. Bytes that have the shape
of that form but are the form of no character are passed as the replacement character. -/
def percentChar? (cs : List Char) : Option (Char × List Char) := do
  let (b, cs) ← percentByte? cs
  let (least, n, cs) ←
    if b < 0x80 then some (0, b, cs)
    else if b / 32 = 6 then (percentTail 1 (b % 32) cs).map (0x80, ·)
    else if b / 16 = 14 then (percentTail 2 (b % 16) cs).map (0x800, ·)
    else if b / 8 = 30 then (percentTail 3 (b % 8) cs).map (0x10000, ·)
    else none
  some (charFrom least n, cs)

/-- The characters of a tag, with percent signs resolved. -/
def tagText (verbatim : Bool) : Nat → List Char → Cursor → Option (List Char × Cursor)
  | 0, text, cursor => some (text, cursor)
  | bound + 1, text, cursor =>
    match cursor.rest with
    | [] => some (text, cursor)
    | c :: rest =>
      if c == '%' then do
        let (d, after) ← percentChar? (c :: rest)
        tagText verbatim bound (text ++ [d])
          (cursor.advance (cursor.rest.length - after.length))
      else if isTagChar verbatim c then tagText verbatim bound (text ++ [c]) (cursor.advance 1)
      else some (text, cursor)

/-- The text of a tag as it counts: a zero character ends it. -/
def tagString (text : List Char) : String :=
  String.ofList (text.takeWhile (· ≠ '\x00'))

/-- An exclamation mark with a name behind it, which a second mark may end. -/
def readHandle (cursor : Cursor) : Option (List Char × Cursor) :=
  match cursor.rest with
  | '!' :: _ =>
    let (name, after) := (cursor.advance 1).takeWhile isNameChar
    match after.rest with
    | '!' :: _ => some ('!' :: name ++ ['!'], after.advance 1)
    | _ => some ('!' :: name, after)
  | _ => none

/-- A directive, of which the percent sign has been passed, up to the next line. -/
def readDirective (cursor : Cursor) : Option (Token × Cursor) := do
  let (name, cursor) := cursor.takeWhile isNameChar
  if name.isEmpty || !atSpace cursor.rest then none
  else do
    let cursor := cursor.dropWhile isBlank
    let (token, cursor) ←
      if name = ['Y', 'A', 'M', 'L'] then do
        let (major, cursor) ← readNumber cursor
        match cursor.rest with
        | '.' :: _ =>
          let (minor, cursor) ← readNumber (cursor.advance 1)
          some (Token.versionDirective major minor, cursor)
        | _ => none
      else if name = ['T', 'A', 'G'] then do
        let (handle, cursor) ← readHandle cursor
        let isWhole := handle = ['!'] || handle.getLast? = some '!'
        match cursor.rest with
        | c :: _ =>
          if !isWhole || !isBlank c then none
          else do
            let (stem, cursor) ← tagText true cursor.rest.length [] (cursor.dropWhile isBlank)
            if stem.isEmpty || !atSpace cursor.rest then none
            else some (Token.tagDirective (String.ofList handle) (tagString stem), cursor)
        | [] => none
      else none
    let next ← cursor.finishLine
    some (token, next)

/-- The name of an anchor or of an alias, behind its sign. -/
def readName (cursor : Cursor) : Option (String × Cursor) :=
  let (name, after) := cursor.takeWhile isNameChar
  let isEnded := atSpace after.rest
    || (after.rest.head?.map fun c => ['?', ':', ',', ']', '\x7d', '%', '@', '\x60'].contains c).getD
      false
  if name.isEmpty || !isEnded then none else some (String.ofList name, after)

/-- The tag at a place. A tag that is no short form has an empty handle. -/
def readTag (inFlow : Bool) (cursor : Cursor) : Option (Token × Cursor) := do
  let (token, cursor) ←
    match cursor.rest with
    | '!' :: '<' :: _ => do
      let (text, cursor) ← tagText true cursor.rest.length [] (cursor.advance 2)
      match cursor.rest with
      | '>' :: _ =>
        if text.isEmpty then none
        else some (Token.tag "" (tagString text), cursor.advance 1)
      | _ => none
    | _ => do
      let (handle, cursor) ← readHandle cursor
      if 1 < handle.length ∧ handle.getLast? = some '!' then do
        let (suffix, cursor) ← tagText false cursor.rest.length [] cursor
        if suffix.isEmpty then none
        else some (Token.tag (String.ofList handle) (tagString suffix), cursor)
      else do
        let (suffix, cursor) ← tagText false cursor.rest.length handle.tail cursor
        let suffix := tagString suffix
        if suffix.isEmpty then some (Token.tag "" "!", cursor)
        else some (Token.tag "!" suffix, cursor)
  if atSpace cursor.rest || (inFlow && cursor.rest.head? == some ',') then some (token, cursor)
  else none

end MessageRelay.Yaml.Token
