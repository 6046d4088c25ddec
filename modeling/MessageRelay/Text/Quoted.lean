import MessageRelay.Text.DefaultIgnorable
import MessageRelay.Text.GraphemeExtend
import MessageRelay.Text.Unprintable

/-!
# Quoted text

Text between double quotes for messages and logs, with every character that would not show as
itself written as an escape. A backslash starts each escape: `\0`, `\t`, `\n`, `\r`, `\\` and `\"`
stand for themselves, and any other character that is unprintable, extends the one before it or may
show as nothing is written by its code point in braces. Names of files also have the apostrophe
escaped.
-/

set_option autoImplicit false

namespace MessageRelay.Text

/-- Whether a character is written by its code point. -/
def needsCodePoint (c : Char) : Bool :=
  if c.toNat < 0x7F then c.toNat < 0x20
  else GraphemeExtend.contains c || DefaultIgnorable.contains c || Unprintable.contains c

/-- A character as it stands between the quotes. -/
def quotedChar (c : Char) : List Char :=
  if c = '\x00' then ['\\', '0']
  else if c = '\t' then ['\\', 't']
  else if c = '\n' then ['\\', 'n']
  else if c = '\r' then ['\\', 'r']
  else if c = '\\' then ['\\', '\\']
  else if c = '"' then ['\\', '"']
  else if needsCodePoint c then ['\\', 'u', '\x7b'] ++ Nat.toDigits 16 c.toNat ++ ['\x7d']
  else [c]

/-- A text between double quotes. -/
def quoted (text : String) : String :=
  String.ofList ('"' :: text.toList.flatMap quotedChar ++ ['"'])

/-- The name of a file between double quotes, where the apostrophe is escaped too. -/
def quotedPath (path : String) : String :=
  String.ofList
    ('"' :: path.toList.flatMap (fun c => if c = '\'' then ['\\', '\''] else quotedChar c) ++ ['"'])

/-- The text without one pair of enclosing double quotes, if it has both. -/
def unquoted (text : String) : String :=
  match text.toList with
  | '"' :: rest =>
    match rest.reverse with
    | '"' :: inner => String.ofList inner.reverse
    | _ => text
  | _ => text

end MessageRelay.Text
