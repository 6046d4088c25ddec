import MessageRelay.Startup.Settings
import MessageRelay.Yaml.Node.Parser

/-!
# Settings as a YAML document

A document states some of the settings by name and leaves the others as they are by standard. Names
that are no settings are passed over; a setting that is stated twice or has a value of another kind
spoils the document.
-/

set_option autoImplicit false

namespace MessageRelay.Startup

open Yaml (Document Node Style)

/-- A node within a document. -/
structure Place where
  document : Document
  node : Node Nat

namespace Place

/-- The text of a scalar. -/
def text? (place : Place) : Option String :=
  match place.document.resolve place.node with
  | .scalar _ _ _ text => some text
  | _ => none

/-- The text of a scalar that may be taken for a value of a type: a plain one, or a block of kept
lines that has the tag of the type. -/
def typedText? (tag : String) (place : Place) : Option String :=
  match place.document.resolve place.node with
  | .scalar _ _ .plain text => some text
  | .scalar _ (some tag') .literal text => if tag' = tag then some text else none
  | _ => none

/-- A natural number: decimal without leading zeros, or in another base after its mark. -/
def naturalOf? (cs : List Char) : Option Nat :=
  let digits := match cs with
    | '+' :: rest => rest
    | _ => cs
  match digits with
  | '0' :: 'x' :: rest => Text.digits? 16 rest
  | '0' :: 'o' :: rest => Text.digits? 8 rest
  | '0' :: 'b' :: rest => Text.digits? 2 rest
  | ['0'] => some 0
  | '0' :: _ => none
  | _ => Text.digits? 10 digits

/-- A natural number of at most `bound`. -/
def natural? (bound : Nat) (place : Place) : Option Nat :=
  ((place.typedText? "tag:yaml.org,2002:int").bind fun text => naturalOf? text.toList).filter
    (· ≤ bound)

def truth? (place : Place) : Option Bool :=
  (place.typedText? "tag:yaml.org,2002:bool").bind fun text =>
    if text = "true" ∨ text = "True" ∨ text = "TRUE" then some true
    else if text = "false" ∨ text = "False" ∨ text = "FALSE" then some false
    else none

/-- The values of a mapping by their names. A scalar that is not written counts as no values. -/
def fields? (place : Place) : Option (List (String × Place)) :=
  match place.document.resolve place.node with
  | .mapping _ entries => entries.mapM fun (key, value) =>
    (text? ⟨place.document, key⟩).map fun name => (name, ⟨place.document, value⟩)
  | .scalar _ _ .plain "" => some []
  | _ => none

end Place

/-- The setting with a name, or what is standard for it. -/
def fieldOr {α : Type} (standard : α) (read : Place → Option α) (name : String)
    (fields : List (String × Place)) : Option α :=
  match fields.filter fun field => field.1 == name with
  | [] => some standard
  | [(_, place)] => read place
  | _ => none

/-- Where the data are kept, as a place in a document states it. -/
def StorageSettings.ofPlace? (place : Place) : Option StorageSettings := do
  let fields ← place.fields?
  some {
    mode := ← fieldOr standard.mode Place.text? "mode" fields
    dataFolder := ← fieldOr standard.dataFolder Place.text? "data_dir" fields
    sync := ← fieldOr standard.sync Place.truth? "fsync" fields }

/-- The settings that a document states. -/
def Settings.ofDocument? (document : Document) : Option Settings := do
  let fields ← Place.fields? ⟨document, document.root⟩
  let natural (bound : Nat) (place : Place) : Option Nat := place.natural? bound
  some {
    host := ← fieldOr standard.host Place.text? "host" fields
    listenNumber := UInt16.ofNat
      (← fieldOr standard.listenNumber.toNat (natural 65535) "port" fields)
    backlog := UInt32.ofNat (← fieldOr standard.backlog.toNat (natural 4294967295) "backlog" fields)
    storage := ← fieldOr .standard StorageSettings.ofPlace? "storage" fields }

/-- The settings that a text states. -/
def Settings.ofText? (text : String) : Option Settings :=
  (Document.ofText? text).bind ofDocument?

/-- What is wrong with a text off which no settings are read, in the words of this reader. -/
def Settings.objection (text : String) : String :=
  match Document.ofText? text with
  | none => "not a YAML document"
  | some _ => "not a document of settings"

end MessageRelay.Startup
