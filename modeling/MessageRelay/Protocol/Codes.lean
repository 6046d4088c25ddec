/-!
# Codes of requests, responses and messages

Each kind of request, response and message has a number on the wire and a name in logs and stored
records. `ofNumber?_number` and `ofName?_name` say for each of the three that numbers and names lead
back to the kind.
-/

set_option autoImplicit false

namespace MessageRelay.Protocol

/-- What a client asks for. -/
inductive RequestCode where
  | register
  | clientsList
  | publicKey
  | sendMessage
  | unreadMessages
  deriving DecidableEq

/-- What the relay answers with. -/
inductive ResponseCode where
  | registered
  | clientsList
  | publicKey
  | messageSent
  | unreadMessages
  | genericError
  deriving DecidableEq

/-- What a message is for. The relay never looks into its content. -/
inductive MessageType where
  /-- Asks for the receiver's symmetric key. -/
  | getKey
  /-- Carries a symmetric key under the receiver's public key. -/
  | sendKey
  /-- Carries an encrypted text. -/
  | textMessage
  /-- Carries an encrypted file. -/
  | file
  deriving DecidableEq

namespace RequestCode

/-- All codes in the order of their numbers. -/
def all : List RequestCode :=
  [.register, .clientsList, .publicKey, .sendMessage, .unreadMessages]

/-- The number on the wire. -/
def number : RequestCode → UInt16
  | .register => 1000
  | .clientsList => 1001
  | .publicKey => 1002
  | .sendMessage => 1003
  | .unreadMessages => 1004

/-- The name in logs. -/
def name : RequestCode → String
  | .register => "Register"
  | .clientsList => "ClientsList"
  | .publicKey => "PublicKey"
  | .sendMessage => "SendMessage"
  | .unreadMessages => "UnreadMessages"

/-- The code with a number. -/
def ofNumber? (n : UInt16) : Option RequestCode :=
  all.find? fun code => code.number == n

/-- The code with a name. -/
def ofName? (name : String) : Option RequestCode :=
  all.find? fun code => code.name == name

/-- A request code is found by its number. -/
theorem ofNumber?_number (code : RequestCode) : ofNumber? code.number = some code := by
  cases code <;> rfl

/-- A request code is found by its name. -/
theorem ofName?_name (code : RequestCode) : ofName? code.name = some code := by
  cases code <;> rfl

/-- The request code found by a number has that number. -/
theorem number_of_ofNumber? {n : UInt16} {code : RequestCode} (h : ofNumber? n = some code) :
    code.number = n := by
  have := List.find?_some h
  simpa using this

end RequestCode

namespace ResponseCode

def all : List ResponseCode :=
  [.registered, .clientsList, .publicKey, .messageSent, .unreadMessages, .genericError]

def number : ResponseCode → UInt16
  | .registered => 2000
  | .clientsList => 2001
  | .publicKey => 2002
  | .messageSent => 2003
  | .unreadMessages => 2004
  | .genericError => 9000

def name : ResponseCode → String
  | .registered => "Registered"
  | .clientsList => "ClientsList"
  | .publicKey => "PublicKey"
  | .messageSent => "MessageSent"
  | .unreadMessages => "UnreadMessages"
  | .genericError => "GenericError"

def ofNumber? (n : UInt16) : Option ResponseCode :=
  all.find? fun code => code.number == n

def ofName? (name : String) : Option ResponseCode :=
  all.find? fun code => code.name == name

/-- A response code is found by its number. -/
theorem ofNumber?_number (code : ResponseCode) : ofNumber? code.number = some code := by
  cases code <;> rfl

/-- A response code is found by its name. -/
theorem ofName?_name (code : ResponseCode) : ofName? code.name = some code := by
  cases code <;> rfl

/-- The response code found by a number has that number. -/
theorem number_of_ofNumber? {n : UInt16} {code : ResponseCode} (h : ofNumber? n = some code) :
    code.number = n := by
  have := List.find?_some h
  simpa using this

end ResponseCode

namespace MessageType

def all : List MessageType :=
  [.getKey, .sendKey, .textMessage, .file]

def number : MessageType → UInt8
  | .getKey => 1
  | .sendKey => 2
  | .textMessage => 3
  | .file => 4

/-- The name in logs and stored records. -/
def name : MessageType → String
  | .getKey => "GetKey"
  | .sendKey => "SendKey"
  | .textMessage => "TextMessage"
  | .file => "File"

def ofNumber? (n : UInt8) : Option MessageType :=
  all.find? fun type => type.number == n

def ofName? (name : String) : Option MessageType :=
  all.find? fun type => type.name == name

/-- A message type is found by its number. -/
theorem ofNumber?_number (type : MessageType) : ofNumber? type.number = some type := by
  cases type <;> rfl

/-- A message type is found by its name. -/
theorem ofName?_name (type : MessageType) : ofName? type.name = some type := by
  cases type <;> rfl

/-- The message type found by a number has that number. -/
theorem number_of_ofNumber? {n : UInt8} {type : MessageType} (h : ofNumber? n = some type) :
    type.number = n := by
  have := List.find?_some h
  simpa using this

end MessageType

end MessageRelay.Protocol
