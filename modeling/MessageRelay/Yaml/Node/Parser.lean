import MessageRelay.Yaml.Node
import MessageRelay.Yaml.Token.Lexer

/-!
# Reading documents

A text holds one document or none. A document may begin with directives, which say what the short
forms of its tags stand for. Every function here takes tokens from the front and gives what is left;
it gives nothing where the text is not YAML. The number at the front of each bounds the depth of the
recursion and is never reached by the tokens of a text.
-/

set_option autoImplicit false

namespace MessageRelay.Yaml

/-- What the short forms of tags stand for. -/
abbrev TagForms : Type := Table String String

namespace Parser

/-- What the two short forms that need no directive stand for. -/
def standardForms : TagForms :=
  [("!", "!"), ("!!", "tag:yaml.org,2002:")]

/-- The tag that a short form stands for. -/
def resolveTag (forms : TagForms) (handle suffix : String) : Option String :=
  if handle.isEmpty then some suffix
  else (forms.find? handle).map (· ++ suffix)

/-- The anchor and the tag of a node, in either order. -/
def properties (forms : TagForms) (tokens : List Token) :
    Option (Option String × Option String × List Token) :=
  match tokens with
  | .anchor name :: .tag handle suffix :: rest =>
    (resolveTag forms handle suffix).map fun tag => (some name, some tag, rest)
  | .tag handle suffix :: .anchor name :: rest =>
    (resolveTag forms handle suffix).map fun tag => (some name, some tag, rest)
  | .anchor name :: rest => some (some name, none, rest)
  | .tag handle suffix :: rest =>
    (resolveTag forms handle suffix).map fun tag => (none, some tag, rest)
  | rest => some (none, none, rest)

/-- Whether a value in a block is left out: what follows is the next key or the end of the block. -/
def endsBlockValue : List Token → Bool
  | .key :: _ => true
  | .value :: _ => true
  | .blockEnd :: _ => true
  | _ => false

/-- Whether an entry of a sequence is left out. -/
def endsBlockEntry : List Token → Bool
  | .blockEntry :: _ => true
  | .blockEnd :: _ => true
  | _ => false

/-- Whether a key between braces is left out. -/
def endsFlowKey : List Token → Bool
  | .value :: _ => true
  | .flowEntry :: _ => true
  | .flowMappingEnd :: _ => true
  | _ => false

/-- Whether a value between braces is left out. -/
def endsFlowValue : List Token → Bool
  | .flowEntry :: _ => true
  | .flowMappingEnd :: _ => true
  | _ => false

/-- Whether the value of a pair between brackets is left out. -/
def endsPairValue : List Token → Bool
  | .flowEntry :: _ => true
  | .flowSequenceEnd :: _ => true
  | _ => false

mutual

/-- A node. A block, or a sequence that is not indented behind its key, may stand only in some
places. -/
def node (forms : TagForms) (depth : Nat) (inBlock behindKey : Bool) (tokens : List Token) :
    Option (Node String × List Token) :=
  match depth with
  | 0 => none
  | depth + 1 =>
    match tokens with
    | .alias name :: rest => some (.alias name, rest)
    | _ =>
      match properties forms tokens with
      | none => none
      | some (anchor?, tag?, rest) =>
        match rest with
        | .scalar style text :: rest' =>
          let tag? := if tag? = some "!" then none else tag?
          some (.scalar anchor? tag? style text, rest')
        | .flowSequenceStart :: rest' =>
          (flowItems forms depth true rest').map fun (items, rest'') =>
            (.sequence anchor? items, rest'')
        | .flowMappingStart :: rest' =>
          (flowEntries forms depth true rest').map fun (entries, rest'') =>
            (.mapping anchor? entries, rest'')
        | .blockSequenceStart :: rest' =>
          if inBlock then
            (blockItems forms depth rest').map fun (items, rest'') =>
              (.sequence anchor? items, rest'')
          else none
        | .blockMappingStart :: rest' =>
          if inBlock then
            (blockEntries forms depth rest').map fun (entries, rest'') =>
              (.mapping anchor? entries, rest'')
          else none
        | .blockEntry :: _ =>
          if behindKey then
            (flatItems forms depth rest).map fun (items, rest'') =>
              (.sequence anchor? items, rest'')
          else if anchor?.isSome || tag?.isSome then
            some (.scalar anchor? tag? .plain "", rest)
          else none
        | _ =>
          if anchor?.isSome || tag?.isSome then some (.scalar anchor? tag? .plain "", rest)
          else none

/-- The entries of a sequence, up to the end of its block. -/
def blockItems (forms : TagForms) (depth : Nat) (tokens : List Token) :
    Option (List (Node String) × List Token) :=
  match depth with
  | 0 => none
  | depth + 1 =>
    match tokens with
    | .blockEnd :: rest => some ([], rest)
    | .blockEntry :: rest => do
      let (item, rest) ←
        if endsBlockEntry rest then some (.absent, rest) else node forms depth true false rest
      let (items, rest) ← blockItems forms depth rest
      some (item :: items, rest)
    | _ => none

/-- The entries of a sequence that is not indented behind its key. -/
def flatItems (forms : TagForms) (depth : Nat) (tokens : List Token) :
    Option (List (Node String) × List Token) :=
  match depth with
  | 0 => none
  | depth + 1 =>
    match tokens with
    | .blockEntry :: rest => do
      let (item, rest) ←
        if endsBlockEntry rest || endsBlockValue rest then some (.absent, rest)
        else node forms depth true false rest
      let (items, rest) ← flatItems forms depth rest
      some (item :: items, rest)
    | _ => some ([], tokens)

/-- The entries of a mapping, up to the end of its block. -/
def blockEntries (forms : TagForms) (depth : Nat) (tokens : List Token) :
    Option (List (Node String × Node String) × List Token) :=
  match depth with
  | 0 => none
  | depth + 1 =>
    match tokens with
    | .blockEnd :: rest => some ([], rest)
    | .key :: rest => do
      let (key, rest) ←
        if endsBlockValue rest then some (.absent, rest) else node forms depth true true rest
      let (value, rest) ← match rest with
        | .value :: rest' =>
          if endsBlockValue rest' then some (.absent, rest') else node forms depth true true rest'
        | _ => some (.absent, rest)
      let (entries, rest) ← blockEntries forms depth rest
      some ((key, value) :: entries, rest)
    | _ => none

/-- The items between brackets, of which none was read yet or some were. -/
def flowItems (forms : TagForms) (depth : Nat) (first : Bool) (tokens : List Token) :
    Option (List (Node String) × List Token) :=
  match depth with
  | 0 => none
  | depth + 1 =>
    match tokens with
    | .flowSequenceEnd :: rest => some ([], rest)
    | _ => do
      let rest ← if first then some tokens else match tokens with
        | .flowEntry :: rest => some rest
        | _ => none
      match rest with
      | .flowSequenceEnd :: rest => if first then none else some ([], rest)
      | .key :: rest => do
        let (key, rest) ←
          if endsPairValue rest || rest.head? == some .value then some (.absent, rest.tail)
          else node forms depth false false rest
        let (value, rest) ← match rest with
          | .value :: rest' =>
            if endsPairValue rest' then some (.absent, rest') else node forms depth false false rest'
          | _ => some (.absent, rest)
        let (items, rest) ← flowItems forms depth false rest
        some (.mapping none [(key, value)] :: items, rest)
      | _ => do
        let (item, rest) ← node forms depth false false rest
        let (items, rest) ← flowItems forms depth false rest
        some (item :: items, rest)

/-- The entries between braces, of which none was read yet or some were. -/
def flowEntries (forms : TagForms) (depth : Nat) (first : Bool) (tokens : List Token) :
    Option (List (Node String × Node String) × List Token) :=
  match depth with
  | 0 => none
  | depth + 1 =>
    match tokens with
    | .flowMappingEnd :: rest => some ([], rest)
    | _ => do
      let rest ← if first then some tokens else match tokens with
        | .flowEntry :: rest => some rest
        | _ => none
      match rest with
      | .flowMappingEnd :: rest => if first then none else some ([], rest)
      | .key :: rest => do
        let (key, rest) ←
          if endsFlowKey rest then some (.absent, rest) else node forms depth false false rest
        let (value, rest) ← match rest with
          | .value :: rest' =>
            if endsFlowValue rest' then some (.absent, rest') else node forms depth false false rest'
          | _ => some (.absent, rest)
        let (entries, rest) ← flowEntries forms depth false rest
        some ((key, value) :: entries, rest)
      | _ => do
        let (key, rest) ← node forms depth false false rest
        let (entries, rest) ← flowEntries forms depth false rest
        some ((key, .absent) :: entries, rest)

end

/-- The directives at the front of a document: the version at most once, and each short form at most
once. `versioned` says that the version was stated already. -/
def directives (versioned : Bool) (forms : TagForms) : List Token → Option (TagForms × List Token)
  | .versionDirective major minor :: rest =>
    if versioned ∨ major ≠ 1 ∨ (minor ≠ 1 ∧ minor ≠ 2) then none else directives true forms rest
  | .tagDirective handle stem :: rest =>
    if forms.has handle then none else directives versioned (forms ++ [(handle, stem)]) rest
  | rest => some (forms, rest)

/-- Whether a document has no content. -/
def endsDocument : List Token → Bool
  | [] => true
  | .versionDirective _ _ :: _ => true
  | .tagDirective _ _ :: _ => true
  | .documentStart :: _ => true
  | .documentEnd :: _ => true
  | _ => false

/-- The only document of some tokens, or nothing if they hold none. -/
def onlyDocument (tokens : List Token) : Option (Option (Node String)) :=
  let depth := 4 * tokens.length + 4
  let finish (root : Node String) (rest : List Token) : Option (Option (Node String)) :=
    if rest.all (· == .documentEnd) then some (some root) else none
  match tokens with
  | [] => some none
  | .versionDirective _ _ :: _ | .tagDirective _ _ :: _ | .documentStart :: _ => do
    let (stated, rest) ← directives false [] tokens
    match rest with
    | .documentStart :: rest =>
      let forms := stated ++ standardForms
      if endsDocument rest then finish .absent rest
      else do
        let (root, rest) ← node forms depth true false rest
        finish root rest
    | _ => none
  | _ => do
    let (root, rest) ← node standardForms depth true false tokens
    finish root rest

end Parser

/-- The document of a text. A text without one counts as a document whose root is not written. -/
def Document.ofText? (text : String) : Option Document := do
  let tokens ← Token.ofText? text.toList
  let root? ← Parser.onlyDocument tokens
  Document.ofRoot? (root?.getD .absent)

end MessageRelay.Yaml
