import MessageRelay.Proofs.Json.DecodeRoundTrip
import MessageRelay.Proofs.Timestamp.TextRoundTrip
import MessageRelay.Store.Durable

/-!
# Stored values read back

Clients and messages come back from the JSON that they are stored as, in either layout
(`stored_values_come_back`). So the file of clients is read as the clients it was written for
(`ofSnapshot?_snapshotOf`) and the body of a message in the log as that message
(`ofBytes?_compact`).
-/

set_option autoImplicit false

namespace MessageRelay

open Json (Layout ReadsBack WritesText)

namespace Protocol

/-- An identifier is read back from its stored form. -/
theorem ClientId.ofJson?_toJson (id : ClientId) : ClientId.ofJson? id.toJson = some id := by
  unfold toJson ofJson? Json.byteArray
  simp only [Json.mapM_byteArray, Option.bind_eq_bind, Option.bind_some]
  rw [dif_pos id.length_bytes]

/-- A message type is read back from its stored form. -/
theorem MessageType.ofJson?_toJson (type : MessageType) :
    MessageType.ofJson? type.toJson = some type := by
  rw [MessageType.ofJson?, MessageType.toJson, Json.asChoice?_text, Option.bind_some,
    MessageType.ofName?_name]

end Protocol

namespace Store

open Protocol (ClientId MessageType)

namespace StoredMessage

/-- The fields of a message's form, each with its value. -/
def fields (message : StoredMessage) : List (String × Json) :=
  [("id", .natural message.id.toNat), ("to", message.target.toJson),
    ("from", message.sender.toJson), ("message_type", message.type.toJson),
    ("content", .byteArray message.content)]

/-- A message is read back from its stored form. -/
theorem ofJson?_toJson (message : StoredMessage) : ofJson? message.toJson = some message := by
  have distinct : fieldNames.Nodup := by decide
  have found : message.toJson.asRecord? fieldNames = some (message.fields.map (·.2)) :=
    Json.asRecord?_record distinct
  have bound := message.id.toNat_lt
  unfold ofJson?
  rw [found]
  simp only [fields, List.map_cons, List.map_nil, Option.bind_eq_bind, Option.bind_some,
    Json.asNatural?_natural (by omega : message.id.toNat ≤ 4294967295),
    ClientId.ofJson?_toJson, MessageType.ofJson?_toJson, Json.asBytes?_byteArray,
    UInt32.ofNat_toNat]

/-- The stored form of a message is read back from its text, in any layout. -/
theorem readsBack_toJson (layout : Layout) (message : StoredMessage) :
    ReadsBack layout message.toJson := by
  apply Json.readsBack_record
  simp only [List.mem_cons, List.not_mem_nil, or_false, forall_eq_or_imp, forall_eq]
  exact ⟨Json.readsBack_natural _ _, Json.readsBack_byteArray _ _, Json.readsBack_byteArray _ _,
    Json.readsBack_text _ _, Json.readsBack_byteArray _ _⟩

/-- A message comes back from what is written of it. -/
theorem ofBytes?_write (layout : Layout) (message : StoredMessage) :
    (Json.ofBytes? (message.toJson.write layout)).bind ofJson? = some message := by
  rw [(readsBack_toJson layout message).ofBytes?, Option.bind_some, ofJson?_toJson]

/-- A message comes back from the body of its record. -/
theorem ofBytes?_compact (message : StoredMessage) :
    (Json.ofBytes? message.toJson.compact).bind ofJson? = some message :=
  ofBytes?_write .compact message

end StoredMessage

namespace ClientRecord

/-- The fields of a client's form, each with its value. -/
def fields (record : ClientRecord) : List (String × Json) :=
  [("id", record.id.toJson), ("name", .text record.name),
    ("public_key", .byteArray record.publicKey), ("last_seen", .text record.lastSeen.toText)]

/-- A client is read back from its stored form. -/
theorem ofJson?_toJson (record : ClientRecord) : ofJson? record.toJson = some record := by
  have distinct : fieldNames.Nodup := by decide
  have found : record.toJson.asRecord? fieldNames = some (record.fields.map (·.2)) :=
    Json.asRecord?_record distinct
  unfold ofJson?
  rw [found]
  simp only [fields, List.map_cons, List.map_nil, Option.bind_eq_bind, Option.bind_some,
    ClientId.ofJson?_toJson, Json.asText?_text, Json.asBytes?_byteArray,
    Timestamp.ofText?_toText]

/-- The stored form of a client is read back from its text, in any layout. -/
theorem readsBack_toJson (layout : Layout) (record : ClientRecord) :
    ReadsBack layout record.toJson := by
  apply Json.readsBack_record
  simp only [List.mem_cons, List.not_mem_nil, or_false, forall_eq_or_imp, forall_eq]
  exact ⟨Json.readsBack_byteArray _ _, Json.readsBack_text _ _, Json.readsBack_byteArray _ _,
    Json.readsBack_text _ _⟩

/-- The stored form of a client is written as valid text. -/
theorem writesText_toJson (layout : Layout) (record : ClientRecord) :
    WritesText layout record.toJson := by
  apply Json.writesText_record
  simp only [List.mem_cons, List.not_mem_nil, or_false, forall_eq_or_imp, forall_eq]
  exact ⟨Json.writesText_byteArray _ _, Json.writesText_text _ _, Json.writesText_byteArray _ _,
    Json.writesText_text _ _⟩

/-- A list of clients is read back from its stored form. -/
theorem listOfJson?_toJson (records : List ClientRecord) :
    listOfJson? (.array (records.map toJson)) = some records :=
  mapM_map_eq_self ofJson? toJson records fun record _ => ofJson?_toJson record

/-- The stored form of a list of clients is read back from its text, in any layout. -/
theorem readsBack_list (layout : Layout) (records : List ClientRecord) :
    ReadsBack layout (.array (records.map toJson)) := by
  apply Json.readsBack_array
  intro item listed
  obtain ⟨record, -, rfl⟩ := List.mem_map.1 listed
  exact record.readsBack_toJson _

/-- A client comes back from what is written of it. -/
theorem ofBytes?_write (layout : Layout) (record : ClientRecord) :
    (Json.ofBytes? (record.toJson.write layout)).bind ofJson? = some record := by
  rw [(readsBack_toJson layout record).ofBytes?, Option.bind_some, ofJson?_toJson]

/-- Any clients come back from what is written of their list. -/
theorem listOfBytes?_write (layout : Layout) (records : List ClientRecord) :
    (Json.ofBytes? ((Json.array (records.map toJson)).write layout)).bind listOfJson?
      = some records := by
  rw [(readsBack_list layout records).ofBytes?, Option.bind_some, listOfJson?_toJson]

end ClientRecord

/-- A file of any clients is read as these clients. -/
theorem Durable.ofSnapshot?_pretty (path : String) (records : List ClientRecord) :
    ofSnapshot? path (Json.array (records.map ClientRecord.toJson)).pretty = .ok records := by
  have isText : WritesText (.indented 0) (.array (records.map ClientRecord.toJson)) := by
    apply Json.writesText_array
    intro item hi
    obtain ⟨record, -, rfl⟩ := List.mem_map.1 hi
    exact record.writesText_toJson _
  have valid : (Text.ofUtf8 (Json.array (records.map ClientRecord.toJson)).pretty).isSome = true :=
    isText.isSome
  have parsed : (Json.ofBytes? (Json.array (records.map ClientRecord.toJson)).pretty).bind
      ClientRecord.listOfJson? = some records := ClientRecord.listOfBytes?_write (.indented 0) records
  unfold ofSnapshot?
  rw [parsed, if_neg]
  rw [Option.isNone_iff_eq_none]
  intro absent
  rw [absent] at valid
  cases valid

/-- The file of clients is read as the clients it was written for. -/
theorem Durable.ofSnapshot?_snapshotOf (path : String) (directory : Directory) :
    ofSnapshot? path (snapshotOf directory) = .ok directory.sorted :=
  ofSnapshot?_pretty path directory.sorted

/-- Everything that is stored comes back as it was: messages and clients from what is written of
them in either layout, a message from the body of its record in the log, and any clients from the
file of them. -/
theorem stored_values_come_back :
    (∀ (layout : Layout) (message : StoredMessage),
      (Json.ofBytes? (message.toJson.write layout)).bind StoredMessage.ofJson? = some message) ∧
    (∀ (layout : Layout) (record : ClientRecord),
      (Json.ofBytes? (record.toJson.write layout)).bind ClientRecord.ofJson? = some record) ∧
    (∀ message : StoredMessage,
      (Json.ofBytes? (JournalEntry.inserted message).body).bind StoredMessage.ofJson?
        = some message) ∧
    ∀ (path : String) (records : List ClientRecord),
      Durable.ofSnapshot? path (Json.array (records.map ClientRecord.toJson)).pretty
        = .ok records :=
  ⟨StoredMessage.ofBytes?_write, ClientRecord.ofBytes?_write, StoredMessage.ofBytes?_compact,
    Durable.ofSnapshot?_pretty⟩

end Store

end MessageRelay
