import MessageRelay.Table
import MessageRelay.Yaml.Token

/-!
# Nodes of a YAML document

A document is a tree of scalars, sequences and mappings, any of which may have an anchor, and of
aliases that stand for anchored nodes. An anchor is known by the number of different names that came
before it, so a name that is used again may share its number with a later one; what an alias stands
for is the last node that has its number.
-/

set_option autoImplicit false

namespace MessageRelay.Yaml

/-- A node, with aliases of one kind or another. -/
inductive Node (α : Type) where
  | alias (target : α)
  | scalar (anchor? : Option String) (tag? : Option String) (style : Style) (text : String)
  | sequence (anchor? : Option String) (items : List (Node α))
  | mapping (anchor? : Option String) (entries : List (Node α × Node α))

/-- A scalar that is not written at all. -/
def Node.absent {α : Type} : Node α :=
  .scalar none none .plain ""

/-- The root of a document and the nodes that its aliases stand for, by their numbers. -/
structure Document where
  root : Node Nat
  targets : Table Nat (Node Nat)

/-- The anchors that were met on the way through a document. -/
structure Anchors where
  /-- The number of each name. -/
  numbers : Table String Nat
  /-- The place of the last node with each number. -/
  places : Table Nat Nat
  /-- The anchored nodes by their places. -/
  nodes : Table Nat (Node Nat)

namespace Anchors

def start : Anchors :=
  ⟨[], [], []⟩

/-- Meets a node that may have an anchor; gives its place. -/
def meet (anchor? : Option String) (anchors : Anchors) : Option Nat × Anchors :=
  match anchor? with
  | none => (none, anchors)
  | some name =>
    let number := anchors.numbers.length
    let place := anchors.nodes.length
    (some place, {
      numbers := anchors.numbers.put name number
      places := anchors.places.put number place
      nodes := anchors.nodes ++ [(place, .absent)] })

/-- Leaves a node. -/
def leave (place? : Option Nat) (node : Node Nat) (anchors : Anchors) : Node Nat × Anchors :=
  match place? with
  | none => (node, anchors)
  | some place => (node, { anchors with nodes := anchors.nodes.put place node })

end Anchors

namespace Node

mutual

/-- The node with its aliases as numbers, unless one of them has no anchor before it. -/
def number (anchors : Anchors) : Node String → Option (Node Nat × Anchors)
  | .alias name => (anchors.numbers.find? name).map fun n => (.alias n, anchors)
  | .scalar anchor? tag? style text =>
    let (place?, anchors) := anchors.meet anchor?
    some (anchors.leave place? (.scalar anchor? tag? style text))
  | .sequence anchor? items => do
    let (place?, anchors) := anchors.meet anchor?
    let (items, anchors) ← numberItems anchors items
    some (anchors.leave place? (.sequence anchor? items))
  | .mapping anchor? entries => do
    let (place?, anchors) := anchors.meet anchor?
    let (entries, anchors) ← numberEntries anchors entries
    some (anchors.leave place? (.mapping anchor? entries))

/-- The items of a sequence with their aliases as numbers. -/
def numberItems (anchors : Anchors) : List (Node String) → Option (List (Node Nat) × Anchors)
  | [] => some ([], anchors)
  | item :: items => do
    let (item, anchors) ← number anchors item
    let (items, anchors) ← numberItems anchors items
    some (item :: items, anchors)

/-- The entries of a mapping with their aliases as numbers. -/
def numberEntries (anchors : Anchors) :
    List (Node String × Node String) → Option (List (Node Nat × Node Nat) × Anchors)
  | [] => some ([], anchors)
  | (key, value) :: entries => do
    let (key, anchors) ← number anchors key
    let (value, anchors) ← number anchors value
    let (entries, anchors) ← numberEntries anchors entries
    some ((key, value) :: entries, anchors)

end

end Node

namespace Document

/-- The document with a root, unless one of its aliases has no anchor before it. -/
def ofRoot? (root : Node String) : Option Document := do
  let (root, anchors) ← root.number .start
  some {
    root
    targets := anchors.places.filterMap fun (number, place) =>
      (anchors.nodes.find? place).map fun node => (number, node) }

/-- What a node is or stands for. -/
def resolve (document : Document) : Node Nat → Node Nat
  | .alias n => (document.targets.find? n).getD .absent
  | node => node

end Document

end MessageRelay.Yaml
