/-!
# Notices

What the relay has to say about its work: a text with a severity, attributed to a component of the
relay or to the relay as a whole.
-/

set_option autoImplicit false

namespace MessageRelay.Log

/-- How much a notice matters, the gravest first. -/
inductive Severity where
  | error
  | warn
  | info
  | debug
  | trace
  deriving DecidableEq

/-- Something the relay has to say. -/
structure Notice where
  severity : Severity
  /-- The component that speaks, if it is not the relay as a whole. -/
  component? : Option String
  text : String
  deriving DecidableEq

namespace Severity

/-- Larger for graver notices, and never zero. -/
def rank : Severity → Nat
  | .error => 1
  | .warn => 2
  | .info => 3
  | .debug => 4
  | .trace => 5

end Severity

namespace Notice

/-- A failure. -/
def error (text : String) : Notice := ⟨.error, none, text⟩

/-- Something that deserves attention. -/
def warn (text : String) : Notice := ⟨.warn, none, text⟩

/-- Something that happened as it should. -/
def info (text : String) : Notice := ⟨.info, none, text⟩

/-- A detail. -/
def debug (text : String) : Notice := ⟨.debug, none, text⟩

end Notice

end MessageRelay.Log
