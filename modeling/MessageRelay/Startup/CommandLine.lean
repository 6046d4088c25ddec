import MessageRelay.Startup.Layers

/-!
# The command line

The words of a command line are read one by one, and the first that does not fit decides. Every
option takes a value, in the same word after an equals sign or in the next word, and is stated at
most once. A word that begins with a dash is never the value of the option before it, unless it is
the dash alone.
-/

set_option autoImplicit false

namespace MessageRelay.Startup

/-- What can be stated on the command line. -/
inductive Key where
  | documentPath
  | numberPath
  | host
  | listenNumber
  | backlog
  | mode
  | dataFolder
  | sync
  | threshold
  deriving DecidableEq

def Key.ofName? : String → Option Key
  | "config" => some .documentPath
  | "port-file" => some .numberPath
  | "host" => some .host
  | "port" => some .listenNumber
  | "backlog" => some .backlog
  | "storage-mode" => some .mode
  | "storage-data-dir" => some .dataFolder
  | "storage-fsync" => some .sync
  | "log-level" => some .threshold
  | _ => none

/-- What a command line states. -/
structure Arguments where
  /-- The path of the document with the settings. -/
  documentPath : String
  /-- The path of the file whose first line is the number to listen on. -/
  numberPath : String
  /-- Which notices are shown. -/
  threshold : String
  flags : Flags
  deriving DecidableEq

/-- Why nothing is started. -/
inductive NoStart where
  /-- The command line asks about the program instead. -/
  | inquiry
  /-- The command line does not fit. -/
  | misuse
  deriving DecidableEq

/-- How the program ends when nothing is started. -/
def NoStart.exitCode : NoStart → UInt8
  | .inquiry => 0
  | .misuse => 2

namespace Arguments

/-- What an empty command line states. -/
def standard : Arguments where
  documentPath := "config.yaml"
  numberPath := "port.info"
  threshold := "info"
  flags := .none

/-- A path, which is never empty. -/
def path? (value : String) : Option String :=
  if value.isEmpty then none else some value

/-- A whole number, which may carry a sign, from zero to a bound. -/
def number? (bound : Nat) (value : String) : Option Nat :=
  match value.toList with
  | '-' :: digits => (Text.digits? 10 digits).filter (· = 0)
  | cs => Text.boundedDecimal? bound cs

def truth? : String → Option Bool
  | "true" => some true
  | "false" => some false
  | _ => none

/-- The arguments with a value under a key, if the value is of the kind that the key takes. -/
def put? (arguments : Arguments) (value : String) : Key → Option Arguments
  | .documentPath => (path? value).map fun documentPath => { arguments with documentPath }
  | .numberPath => (path? value).map fun numberPath => { arguments with numberPath }
  | .host => some { arguments with flags.host? := some value }
  | .listenNumber => (number? 65535 value).map fun n =>
    { arguments with flags.listenNumber? := some (UInt16.ofNat n) }
  | .backlog => (number? 4294967295 value).map fun n =>
    { arguments with flags.backlog? := some (UInt32.ofNat n) }
  | .mode => some { arguments with flags.mode? := some value }
  | .dataFolder => (path? value).map fun path =>
    { arguments with flags.dataFolder? := some path }
  | .sync => (truth? value).map fun sync => { arguments with flags.sync? := some sync }
  | .threshold => some { arguments with threshold := value }

end Arguments

/-- A command line that is read up to some word. -/
structure Reading where
  arguments : Arguments
  /-- The keys that were stated. -/
  stated : List Key
  /-- The key whose value is the next word. -/
  awaited? : Option Key
  /-- Whether no word may follow. -/
  closed : Bool

namespace Reading

def start : Reading :=
  ⟨.standard, [], none, false⟩

/-- Takes a value for a key. -/
def takeValue (reading : Reading) (key : Key) (value : String) : Except NoStart Reading :=
  match reading.arguments.put? value key with
  | some arguments => .ok { reading with arguments, awaited? := none }
  | none => .error .misuse

/-- Takes a key, with its value if it is in the same word. -/
def takeKey (reading : Reading) (name : String) (value? : Option String) :
    Except NoStart Reading :=
  match Key.ofName? name with
  | none => .error .misuse
  | some key =>
    if key ∈ reading.stated then .error .misuse
    else
      let reading := { reading with stated := key :: reading.stated }
      match value? with
      | some value => reading.takeValue key value
      | none => .ok { reading with awaited? := some key }

/-- Takes a word that begins with two dashes, without them. -/
def takeLong (reading : Reading) (cs : List Char) : Except NoStart Reading :=
  let name := String.ofList (cs.takeWhile (· ≠ '='))
  match cs.dropWhile (· ≠ '=') with
  | [] =>
    if name.isEmpty then .ok { reading with closed := true }
    else if name = "help" ∨ name = "version" then .error .inquiry
    else reading.takeKey name none
  | _ :: value => reading.takeKey name (some (String.ofList value))

/-- Takes the next word. -/
def take (reading : Reading) (word : String) : Except NoStart Reading :=
  if reading.closed then .error .misuse
  else
    match reading.awaited?, word.toList with
    | some key, ['-'] => reading.takeValue key word
    | some _, '-' :: _ => .error .misuse
    | some key, _ => reading.takeValue key word
    | none, '-' :: '-' :: cs => reading.takeLong cs
    | none, '-' :: 'h' :: _ => .error .inquiry
    | none, '-' :: 'V' :: _ => .error .inquiry
    | none, _ => .error .misuse

/-- What was read, once there are no more words. -/
def finish (reading : Reading) : Except NoStart Arguments :=
  if reading.awaited?.isSome then .error .misuse else .ok reading.arguments

end Reading

/-- The arguments that the words of a command line state. -/
def Arguments.ofWords (words : List String) : Except NoStart Arguments := do
  (← words.foldlM Reading.take Reading.start).finish

end MessageRelay.Startup
