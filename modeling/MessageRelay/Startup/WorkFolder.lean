import MessageRelay.Startup.Launch
import MessageRelay.Table
import MessageRelay.Text.Utf8

/-!
# The folder where a relay is started

The files that lie in the folder, which paths lead to them, and where beside them another folder can
be made. A path is a list of names with slashes between them, where a point stands for the folder
itself and two points for the folder around it. Paths that lead out of the folder are taken to lead
to nothing, but folders can be made there except under the places that belong to the system.
-/

set_option autoImplicit false

namespace MessageRelay.Startup

open Network (IpAddress)
open Store (DataFolder)

/-- The names on a path. -/
def namesOf (path : String) : List String :=
  (path.splitOn "/").filter fun name => name ≠ "" ∧ name ≠ "."

/-- Where a path leads from a folder, as the names of the folders on the way. -/
def placeFrom? : List String → List String → Option (List String)
  | place, [] => some place
  | place, name :: rest =>
    if name ≠ ".." then placeFrom? (place ++ [name]) rest
    else if place.isEmpty then none
    else placeFrom? place.dropLast rest

/-- The place that a path leads to within the folder where it starts. -/
def placeOf? (path : String) : Option (List String) :=
  if path.startsWith "/" then none else placeFrom? [] (namesOf path)

/-- The folder where a relay is started: its files by their names. -/
abbrev WorkFolder : Type := Table String Bytes

namespace WorkFolder

/-- The content of the file at a path. -/
def content? (work : WorkFolder) (path : String) : Option Bytes :=
  if path = "/dev/null" then some []
  else if path.startsWith "/" ∨ path.endsWith "/" then none
  else
    match namesOf path with
    | [name] => Table.find? name work
    | _ => none

/-- Whether a folder can have a name. -/
def canName (name : String) : Bool :=
  name.utf8ByteSize ≤ 255 && !name.contains '\x00'

/-- Whether a path leads to or over one of the files. -/
def isTaken (work : WorkFolder) (path : String) : Bool :=
  let names := namesOf path
  (List.range names.length).any fun n =>
    match placeFrom? [] (names.take (n + 1)) with
    | some [name] => Table.has name work
    | _ => false

/-- Whether a path leads to where only the system makes folders. -/
def isReserved (path : String) : Bool :=
  match namesOf path with
  | "proc" :: _ => true
  | "sys" :: _ => true
  | "dev" :: "null" :: _ => true
  | _ => false

/-- The empty folder at a path, or why it cannot be made. -/
def folderAt (work : WorkFolder) (path : String) : Except String DataFolder :=
  if !(namesOf path).all canName then .error "Invalid argument (os error 22)"
  else if path.startsWith "/" then
    if isReserved path then .error "Operation not permitted (os error 1)"
    else .ok (.empty path)
  else if work.isTaken path then .error "File exists (os error 17)"
  else .ok (.empty path)

/-- The number to listen on, where the system chooses one in place of zero and grants only addresses
that every host has. -/
def listenAt (chosen : String) (address : IpAddress) (number : UInt16) : Except String String :=
  if address.isEverywhere then .ok (if number = 0 then chosen else toString number)
  else .error "Cannot assign requested address (os error 99)"

/-- What a relay that is started in the folder finds outside of itself. -/
def surroundings (work : WorkFolder) (valueOf? : String → Option String) (chosen : String) :
    Surroundings where
  content? := work.content?
  valueOf? := valueOf?
  folderAt := work.folderAt
  listenAt := listenAt chosen

/-- The paths of all files, once there is also the folder of a store. -/
def pathsWith (work : WorkFolder) (folder? : Option DataFolder) : List String :=
  let stored := match folder? with
    | none => []
    | some folder =>
      match placeOf? folder.path with
      | none => []
      | some place =>
        let pathOf (name : String) : String := "/".intercalate (place ++ [name])
        (folder.snapshot?.map fun _ => pathOf "clients.json").toList
          ++ (folder.journal?.map fun _ => pathOf "mailbox.log").toList
  (work.map Prod.fst ++ stored).mergeSort Text.le

end WorkFolder

end MessageRelay.Startup
