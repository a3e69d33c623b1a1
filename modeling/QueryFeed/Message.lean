import QueryFeed.FeedError
import QueryFeed.Json.Printer
import QueryFeed.Uuid

/-!
**Messages.**

A message has a payload and headers: an identity of its own, the time at which it was issued, and named
texts.  A message that is derived from another one keeps its texts and refers back to it.

Main definitions:

* `MessageId`, `MessageId.text` — identities, numbered in the order of issue;
* `Stamp` — what is fresh about a message;
* `Headers`, `Headers.derive`, `Headers.ofFailure` — headers;
* `Encoding` — the characters of a value, as far as it can be written;
* `Message`, `Message.line` — a message and its line of JSON;
* `Failure`, `Failure.ofPoll`, `Failure.ofMessage` — a reported error.
-/

set_option autoImplicit false

namespace QueryFeed

/-! ### Identities -/

/-- The identity of a message. -/
structure MessageId where
  serial : Nat
  deriving DecidableEq

/-- The text of an identity, in the form of a universally unique identifier. -/
def MessageId.text (id : MessageId) : String :=
  String.ofList (Uuid.grouped (Text.zeroFilled 32 (Text.hexadecimal id.serial)))

/-- What is fresh about a message: its identity, and the time of issue in nanoseconds. -/
structure Stamp where
  id : MessageId
  issued : Nat

/-! ### Headers -/

/-- The header that refers back to the message of the poll. -/
def correlationId : String := "correlation_id"

/-- The header that numbers the messages of a poll from one on. -/
def sequenceNumber : String := "sequence_number"

/-- The header that names the message that failed. -/
def failedMessageId : String := "failed_message_id"

/-- The header that names the channel for the failures of a message. -/
def errorChannel : String := "error_channel"

/-- The headers of a message. -/
structure Headers where
  id : MessageId
  issued : Nat
  values : Table String

namespace Headers

/-- Fresh headers with the given texts. -/
def fresh (stamp : Stamp) (values : Table String) : Headers := ⟨stamp.id, stamp.issued, values⟩

/-- The text of a header. -/
def get? (headers : Headers) (name : String) : Option String := Table.get? headers.values name

/-- Writes a header. -/
def insert (headers : Headers) (name value : String) : Headers :=
  { headers with values := Table.insert headers.values name value }

/-- Writes several headers. -/
def insertAll (headers : Headers) (entries : List (String × String)) : Headers :=
  { headers with values := Table.insertAll headers.values entries }

/-- Headers with the same texts that refer back to these. -/
def derive (headers : Headers) (stamp : Stamp) : Headers :=
  (fresh stamp headers.values).insert correlationId headers.id.text

/-- Headers of a report that the message with these headers failed. -/
def ofFailure (headers : Headers) (stamp : Stamp) : Headers :=
  (headers.derive stamp).insert failedMessageId headers.id.text

/-- Headers of the message for the row in a given place of a poll. -/
def ofRow (headers : Headers) (stamp : Stamp) (place : Nat) : Headers :=
  (headers.derive stamp).insert sequenceNumber (String.ofList (Text.decimal place))

/-- The characters of the headers as JSON: the texts in the order of their names, and left out when
there are none. -/
def render (clock : Nat → String) (headers : Headers) : List Char :=
  let values := (Table.sorted headers.values).map fun entry => (entry.1, Json.str entry.2)
  let always :=
    [("id", Json.str headers.id.text), ("timestamp", Json.str (clock headers.issued))]
  (Json.obj (if values.isEmpty then always else always ++ [("values", .obj values)])).render

end Headers

/-! ### Messages -/

/-- The characters of a value, and why they end before the value does, if they do. -/
structure Encoding where
  text : List Char
  fault : Option String

/-- The characters of a whole value. -/
def Encoding.whole (text : List Char) : Encoding := ⟨text, none⟩

/-- A payload with headers. -/
structure Message (τ : Type) where
  headers : Headers
  payload : τ

/-- A message as one line of JSON, without the line break.  `clock` writes times and `encode` payloads;
where a payload cannot be written, the line ends early. -/
def Message.line {τ : Type} (clock : Nat → String) (encode : τ → Encoding) (message : Message τ) :
    Encoding :=
  let payload := encode message.payload
  let closing := if payload.fault.isNone then ['\x7d'] else []
  ⟨"\x7b\"headers\":".toList ++ message.headers.render clock ++ ",\"payload\":".toList ++
    payload.text ++ closing, payload.fault⟩

/-! ### Failures -/

/-- An error that a component reports. -/
structure Failure where
  headers : Headers
  error : FeedError
  component : String

namespace Failure

/-- The report of an error that no message is to blame for. -/
def ofPoll (stamp : Stamp) (component : String) (e : FeedError) : Failure :=
  ⟨.fresh stamp [], e, component⟩

/-- The report of an error that the message with the given headers ran into. -/
def ofMessage (stamp : Stamp) (component : String) (e : FeedError) (failed : Headers) : Failure :=
  ⟨failed.ofFailure stamp, e, component⟩

end Failure

end QueryFeed
