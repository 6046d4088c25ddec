import MessageRelay.Yaml.Scalar

/-!
# Tokens of a YAML text

What a YAML text is made of once its indentation has been turned into brackets: the begin and end of
each block stand as tokens beside the marks that are written.
-/

set_option autoImplicit false

namespace MessageRelay.Yaml

/-- A token. -/
inductive Token where
  | versionDirective (major minor : Nat)
  /-- What a short form of tags stands for. -/
  | tagDirective (handle stem : String)
  | documentStart
  | documentEnd
  | blockSequenceStart
  | blockMappingStart
  | blockEnd
  | flowSequenceStart
  | flowSequenceEnd
  | flowMappingStart
  | flowMappingEnd
  | blockEntry
  | flowEntry
  | key
  | value
  | alias (name : String)
  | anchor (name : String)
  | tag (handle suffix : String)
  | scalar (style : Style) (text : String)
  deriving DecidableEq

end MessageRelay.Yaml
