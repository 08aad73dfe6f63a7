import PublishPool.Payload
import PublishPool.Schema.Coerce
import PublishPool.Json.Tagged
import PublishPool.Value.Compare
import PublishPool.Value.Access

/-!
Messages: the units of work in the queue.

A message has a kind, a topic, a key, optional text headers and a payload. Data
and Sensitive messages are published; a Shutdown message stops the pool; the two
broker-detail kinds are not supported by workers and are dropped. A message built
without its checks may carry a kind outside the five (`Kind.unsupported`); no check
gives one, and a worker drops it with the rest of its batch.

`Message.describe` is the one-line description of a message. A Sensitive
message's description leaves the payload out, so nothing of it reaches a log.

`Message.ofFields` checks raw fields: the kind must be one of the kind names, the
topic and key texts, the headers absent or a mapping to texts, and the payload a
text, byte string, mapping or list. Every bad field is reported, and a payload of
another type is reported once against each of the four forms.
-/

namespace PublishPool

/-- What a worker does with a message. -/
inductive Message.Kind where
  | data
  | sensitive
  | shutdown
  | brokerDetails
  | brokerTopicDetails
  /-- A kind outside the five, shown as its text. -/
  | unsupported (shown : String)
  deriving DecidableEq, Repr, Inhabited

namespace Message.Kind

/-- The name of a kind. -/
def name : Message.Kind → String
  | .data => "Data"
  | .sensitive => "Sensitive"
  | .shutdown => "Shutdown"
  | .brokerDetails => "LogBrokerDetails"
  | .brokerTopicDetails => "LogBrokerTopicDetails"
  | .unsupported shown => shown

/-- Every kind a check accepts, in declaration order. -/
def all : List Message.Kind := [.data, .sensitive, .shutdown, .brokerDetails, .brokerTopicDetails]

/-- The kind with a given name. -/
def ofName? (s : String) : Option Message.Kind := all.find? (·.name == s)

end Message.Kind

/-- A unit of work waiting in the queue. -/
structure Message where
  kind : Message.Kind := .data
  topic : String := ""
  key : String := ""
  headers : Option (List (String × String)) := none
  payload : Payload := .text ""
  deriving Inhabited

namespace Message

/-- Whether the payload must stay out of every description. -/
def isSensitive (m : Message) : Bool := m.kind == .sensitive

/-- The headers as a value: a mapping of texts, or nothing. -/
def headersValue (m : Message) : Value :=
  match m.headers with
  | none => .none
  | some hs => .dict (hs.map fun (k, v) => (k, .str v))

/-- The one-line description of a message; a Sensitive one leaves its payload out. -/
def describe (m : Message) : String :=
  let common := "KafkaPublishMessage type=" ++ m.kind.name ++ " topic=" ++ m.topic ++
    " key=" ++ m.key ++ " headers=" ++ m.headersValue.literal
  if m.isSensitive then "SENSITIVE " ++ common
  else common ++ " payload=" ++ m.payload.toValue.literal

/-- The description in angle brackets. -/
def bracketed (m : Message) : String := "<" ++ m.describe ++ ">"

/-- Every field under its name. -/
def dump (m : Message) : Value :=
  .dict [("msg_type", .str m.kind.name), ("topic", .str m.topic), ("key", .str m.key),
         ("headers", m.headersValue), ("payload", m.payload.toValue)]

/-- A Shutdown message with every other field at its default. -/
def shutdownSignal : Message := { kind := .shutdown }

/-- The kind field: one of the kind names, as text or as its UTF-8 bytes. -/
def kindOf (v : Value) : Except Issue.Kind Message.Kind :=
  let refused : Except Issue.Kind Message.Kind := .error (.enum (Message.Kind.all.map (·.name)))
  let named (s : String) := (Message.Kind.ofName? s).elim refused .ok
  match v with
  | .str s => named s
  | .bytes data => (String.fromUTF8? (ByteArray.mk data.toArray)).elim refused named
  | _ => refused

/-- The headers field: nothing, or a mapping whose values are texts. -/
def headersOf : Value → Schema.Checked (Option (List (String × String)))
  | .none => .ok none
  | .dict entries => (Schema.entries Schema.text entries).map some
  | _ => .error [{ kind := .dictType, loc := [] }]

/-- The payload field: a text, byte string, mapping or list, as it is. -/
def payloadOf : Value → Schema.Checked Payload
  | .str s => .ok (.text s)
  | .bytes data => .ok (.bytes data)
  | .dict entries => .ok (.dict entries)
  | .list items => .ok (.list items)
  | _ => .error
    [{ kind := .stringType, loc := [.key "str"] }, { kind := .bytesType, loc := [.key "bytes"] },
     { kind := .dictType, loc := [.key "dict[str,any]"] },
     { kind := .listType, loc := [.key "list[any]"] }]

/-- A field of a raw message: its default when absent, else checked. -/
def pick {α : Type} (fields : List (String × Value)) (name : String) (default : α)
    (rule : Value → Schema.Checked α) : Schema.Checked α :=
  match Value.lookup fields name with
  | none => .ok default
  | some v => Schema.under name (rule v)

/-- A plain rule as a checked one with the issue at the value itself. -/
def plain {α : Type} (rule : Value → Except Issue.Kind α) (v : Value) : Schema.Checked α :=
  match rule v with
  | .ok a => .ok a
  | .error k => .error [{ kind := k, loc := [] }]

/-- A message from raw fields, or every issue of its fields in field order. -/
def ofFields (fields : List (String × Value)) : Except Fault Message :=
  let mk (kind : Message.Kind) (topic key : String) (headers : Option (List (String × String)))
      (payload : Payload) : Message := { kind, topic, key, headers, payload }
  let checked :=
    Schema.Checked.ap (Schema.Checked.ap (Schema.Checked.ap (Schema.Checked.ap
      ((pick fields "msg_type" .data (plain kindOf)).map mk)
      (pick fields "topic" "" (plain Schema.text)))
      (pick fields "key" "" (plain Schema.text)))
      (pick fields "headers" none headersOf))
      (pick fields "payload" (.text "") payloadOf)
  match checked with
  | .ok m => .ok m
  | .error issues => .error (.invalid issues)

/-- The names of the building arguments, in order. -/
def argumentNames : List String := ["msg_type", "topic", "key", "headers", "payload"]

/-- A message from positional arguments in the order kind, topic, key, headers,
payload; the kind is required, the others default. -/
def build (args : List Value) : Except Fault Message :=
  if args.isEmpty then
    .error (.raised .typeMismatch
      "build_kafka_publish_message() missing 1 required positional argument: 'msg_type'")
  else ofFields (argumentNames.zip args)

/-- The fields of a raw message: a mapping gives them and a text is the kind alone;
other values have no fields. -/
def rawFields : Value → Except Fault (List (String × Value))
  | .dict fields => .ok fields
  | .str s => .ok [("msg_type", .str s)]
  | v => .error (.raised .attribute ("'" ++ v.typeName ++ "' object has no attribute 'items'"))

/-- A message from a raw value, checked field by field. -/
def ofRaw (v : Value) : Except Fault Message := rawFields v >>= ofFields

/-- A message from a document: the fields are taken, their tagged objects read,
and then checked as `ofRaw` does. -/
def ofDocument (v : Value) : Except Fault Message := do
  let fields ← rawFields v
  let fields ← Json.untagEntries Json.untagRoom fields
  ofFields fields

/-- A message built from a document as it is: its tagged objects are read, and the
argument names it contains are passed by position in argument order, so that a
missing field shifts the ones after it. A text contains the names it has as parts
and a list those among its items; a text is not a mapping, so a name it contains
cannot be looked up in it. -/
def buildFrom (doc : Value) : Except Fault Message := do
  let v ← Json.untag doc
  let present ← argumentNames.filterM fun n => Value.contains v (.str n)
  let args ← present.mapM v.member
  build args

end Message

end PublishPool
