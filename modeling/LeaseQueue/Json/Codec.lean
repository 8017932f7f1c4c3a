import LeaseQueue.Calendar
import LeaseQueue.Cluster.Shard
import LeaseQueue.Json.Number
import LeaseQueue.Lifecycle

/-!
The JSON forms of the data that other programs read. Records are objects; an array of all members in order is read as
well. Nothing is validated here beyond the form.
-/
namespace LeaseQueue

/-- How data of one kind is read and written. -/
structure JsonCodec (α : Type) where
  read : Json → Option α
  write : α → List Char
  /-- Whether two data are the same, numbers compared as numbers. -/
  same : α → α → Bool

namespace Json

def toString? : Json → Option String
  | string content => content
  | _ => none

/-- An integer between two bounds. -/
def toInt? (low high : Int) : Json → Option Int
  | number n => n.toInt?.filter fun n => low ≤ n && n ≤ high
  | _ => none

def toBool? : Json → Option Bool
  | bool b => some b
  | _ => none

/-- A value that may be missing or null. -/
def optional {α : Type} (read : Json → Option α) : Option Json → Option (Option α)
  | none | some null => some none
  | some value => (read value).map some

/-- The values of named members, absent where there is no such member. Members of other names are passed over, but
every name has to be a text, and a named member must not be repeated. -/
def named? (names : List String) (members : List (Option String × Json)) : Option (List (Option Json)) := do
  let known ← members.mapM fun (key, value) => key.map fun key => (key, value)
  names.mapM fun name =>
    match known.filter fun member => member.1 == name with
    | [] => some none
    | [member] => some (some member.2)
    | _ => none

/-- The members of a record. -/
def record? (names : List String) : Json → Option (List (Option Json))
  | object members => named? names members
  | array items => if items.length = names.length then some (items.map some) else none
  | _ => none

/-- The content of one of several forms, told apart by their names. -/
def variant? : Json → Option (String × Json)
  | object [(key, content)] => key.map fun key => (key, content)
  | _ => none

/-- One character of a written string. -/
def stringChar : Char → List Char
  | '"' => ['\\', '"']
  | '\\' => ['\\', '\\']
  | '\x08' => ['\\', 'b']
  | '\x0c' => ['\\', 'f']
  | '\n' => ['\\', 'n']
  | '\r' => ['\\', 'r']
  | '\t' => ['\\', 't']
  | c =>
    if c.toNat < 0x20 then "\\u00".toList ++ Nat.toDigits 16 (c.toNat / 16) ++ Nat.toDigits 16 (c.toNat % 16)
    else [c]

def stringText (content : String) : List Char := '"' :: content.toList.flatMap stringChar ++ ['"']

def intText (n : Int) : List Char := (toString n).toList

def boolText (b : Bool) : List Char := (toString b).toList

def optionText {α : Type} (write : α → List Char) : Option α → List Char
  | none => "null".toList
  | some content => write content

/-- A record with its members in order. -/
def recordText (members : List (String × List Char)) : List Char :=
  let shown := members.map fun (name, content) => stringText name ++ ':' :: content
  '{' :: (shown.intersperse [',']).flatten ++ ['}']

end Json

namespace JsonCodec

open Json

/-- Reads a text, writes what was read, and says whether that reads as the same again. -/
def again? {α : Type} (codec : JsonCodec α) (text : String) : Option (String × Bool) := do
  let content ← (Json.ofText? text).bind codec.read
  let written := String.ofList (codec.write content)
  let reread := (Json.ofText? written).bind codec.read
  some (written, reread.any (codec.same content))

def bigInt? : Json → Option Int := Json.toInt? Int64.minValue.toInt Int64.maxValue.toInt

def int? : Json → Option Int := Json.toInt? Int32.minValue.toInt Int32.maxValue.toInt

/-- A number of 32 bits. -/
def int : JsonCodec Int := ⟨int?, intText, (· == ·)⟩

def string : JsonCodec String := ⟨Json.toString?, stringText, (· == ·)⟩

def messageId : JsonCodec MessageId where
  read json := do
    let [localId, shard] ← json.record? ["local_id", "shard"] | none
    some ⟨← localId.bind bigInt?, ← shard.bind int?⟩
  write id := recordText [("local_id", intText id.localId), ("shard", intText id.shard)]
  same := (· == ·)

def shardRecord : JsonCodec ShardRecord where
  read json := do
    let [shard, producer, consumer, next] ← json.record? ["shard", "producer", "consumer", "next_consumer"] | none
    some ⟨← shard.bind int?, ← producer.bind toString?, ← optional toString? consumer, ← optional toString? next⟩
  write record := recordText [("shard", intText record.shard), ("producer", stringText record.producer),
    ("consumer", optionText stringText record.consumer),
    ("next_consumer", optionText stringText record.nextConsumer)]
  same := (· == ·)

def stateName : MessageState → String
  | .scheduled => "Scheduled"
  | .ready => "Ready"
  | .inFlight => "InFlight"
  | .retry => "Retry"
  | .dead => "Dead"

def stateNamed? (name : String) : Option MessageState :=
  MessageState.all.find? fun state => stateName state == name

/-- A state is its name, also in the form of a record without content. -/
def state : JsonCodec MessageState where
  read
    | .string name => name.bind stateNamed?
    | json => do
      let (name, .null) ← json.variant? | none
      stateNamed? name
  write state := stringText (stateName state)
  same := (· == ·)

def counts : JsonCodec MessageCounts where
  read json := do
    let [scheduled, ready, inFlight, retry, dead] ←
      json.record? ["scheduled", "ready", "in_flight", "retry", "dead"] | none
    some ⟨← scheduled.bind bigInt?, ← ready.bind bigInt?, ← inFlight.bind bigInt?, ← retry.bind bigInt?,
      ← dead.bind bigInt?⟩
  write counts := recordText [("scheduled", intText counts.scheduled), ("ready", intText counts.ready),
    ("in_flight", intText counts.inFlight), ("retry", intText counts.retry), ("dead", intText counts.dead)]
  same := (· == ·)

/-- A node with the time of its record as it is written down. -/
structure NodeForm where
  serverId : String
  bucket : Option Int
  createdAt : Timestamp
deriving DecidableEq

def node : JsonCodec NodeForm where
  read json := do
    let [serverId, bucket, createdAt] ← json.record? ["server_id", "identifiers_bucket", "created_at"] | none
    let stamp ← createdAt.bind toString?
    some ⟨← serverId.bind toString?, ← optional int? bucket, ← Timestamp.ofText? stamp.toList⟩
  write node := recordText [("server_id", stringText node.serverId),
    ("identifiers_bucket", optionText intText node.bucket),
    ("created_at", stringText (String.ofList node.createdAt.toText))]
  same := (· == ·)

def readValue? : String → Json → Option Value
  | "SmallInt", json => (json.toInt? Int16.minValue.toInt Int16.maxValue.toInt).map fun n => .smallInt (Int16.ofInt n)
  | "Int", json => (int? json).map fun n => .int (Int32.ofInt n)
  | "BigInt", json => (bigInt? json).map fun n => .bigInt (Int64.ofInt n)
  | "Boolean", json => json.toBool?.map .boolean
  | "Real", .number n => (n.toBinary? .single).map .real
  | "Double", .number n => (n.toBinary? .double).map .double
  | "Text", json => json.toString?.map .text
  | _, _ => none

def valueText : Value → List Char
  | .smallInt n => intText n.toInt
  | .int n => intText n.toInt
  | .bigInt n => intText n.toInt
  | .boolean b => boolText b
  | .real x => FloatLayout.single.text x
  | .double x => FloatLayout.double.text x
  | .text content => stringText content

/-- A value under the name of its type. -/
def value : JsonCodec Value where
  read json := json.variant?.bind fun (name, content) => readValue? name content
  write value := recordText [(value.type.name, valueText value)]
  same := Value.equals

end JsonCodec

end LeaseQueue
