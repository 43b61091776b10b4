import NoisContracts.Library.Text
import NoisContracts.Protocol

/-!
The JSON of the protocol as `to_json_binary` writes it. Timestamps and amounts are
decimal strings, a `Binary` is base64 and a `HexBinary` is hexadecimal. The readers
accept the written form.
-/

namespace NoisContracts

open ContractCall TextFormat

namespace ProtocolJson

def writeTimestamp (time : Timestamp) : String := String.ofList (writeDecimal time.nanos)

def readTimestamp (text : String) : Option Timestamp := do
  let nanos ← readDecimal text.toList
  if fits : nanos < 2 ^ 64 then some ⟨nanos, fits⟩ else none

def writeAmount (amount : Uint128) : String := String.ofList (writeDecimal amount.val)

def readAmount (text : String) : Option Uint128 := do
  let value ← readDecimal text.toList
  if fits : value < 2 ^ 128 then some ⟨value, fits⟩ else none

def writeBinary (bytes : Binary) : String := String.ofList (writeBase64 bytes)

def readBinary (text : String) : Option Binary := readBase64 text.toList

def writeHexBinary (bytes : Binary) : String := String.ofList (writeHex bytes)

def readHexBinary (text : String) : Option Binary := readHex text.toList

@[simp] theorem readTimestamp_writeTimestamp (time : Timestamp) :
    readTimestamp (writeTimestamp time) = some time := by
  simp only [readTimestamp, writeTimestamp, String.toList_ofList, readDecimal_writeDecimal,
    Option.bind_eq_bind, Option.bind_some, time.isU64, dif_pos]

@[simp] theorem readAmount_writeAmount (amount : Uint128) :
    readAmount (writeAmount amount) = some amount := by
  simp only [readAmount, writeAmount, String.toList_ofList, readDecimal_writeDecimal,
    Option.bind_eq_bind, Option.bind_some, amount.isU128, dif_pos]

@[simp] theorem readBinary_writeBinary (bytes : Binary) :
    readBinary (writeBinary bytes) = some bytes := by
  simp [readBinary, writeBinary, readBase64_writeBase64]

@[simp] theorem readHexBinary_writeHexBinary (bytes : Binary) :
    readHexBinary (writeHexBinary bytes) = some bytes := by
  simp [readHexBinary, writeHexBinary, readHex_writeHex]

def writeInPacket : InPacket → String × Record
  | .requestBeacon after origin =>
      ("request_beacon", [("after", writeTimestamp after), ("origin", writeBinary origin)])
  | .pullBeaconPrice => ("pull_beacon_price", [])

def readInPacket : String × Record → Option InPacket
  | ("request_beacon", [("after", after), ("origin", origin)]) => do
      some (.requestBeacon (← readTimestamp after) (← readBinary origin))
  | ("pull_beacon_price", []) => some .pullBeaconPrice
  | _ => none

def writeInPacketAck : InPacketAck → String × Record
  | .requestProcessed sourceId => ("request_processed", [("source_id", sourceId)])
  | .requestQueued sourceId => ("request_queued", [("source_id", sourceId)])
  | .pullBeaconPrice timestamp amount denom =>
      ("pull_beacon_price",
        [("timestamp", writeTimestamp timestamp), ("amount", writeAmount amount), ("denom", denom)])

def readInPacketAck : String × Record → Option InPacketAck
  | ("request_processed", [("source_id", sourceId)]) => some (.requestProcessed sourceId)
  | ("request_queued", [("source_id", sourceId)]) => some (.requestQueued sourceId)
  | ("pull_beacon_price", [("timestamp", timestamp), ("amount", amount), ("denom", denom)]) => do
      some (.pullBeaconPrice (← readTimestamp timestamp) (← readAmount amount) denom)
  | _ => none

def writeOutPacket : OutPacket → String × Record
  | .deliverBeacon sourceId published randomness origin =>
      ("deliver_beacon",
        [("source_id", sourceId), ("published", writeTimestamp published),
          ("randomness", writeHexBinary randomness), ("origin", writeBinary origin)])
  | .welcome payment => ("welcome", [("payment", payment)])
  | .pushBeaconPrice timestamp amount denom =>
      ("push_beacon_price",
        [("timestamp", writeTimestamp timestamp), ("amount", writeAmount amount), ("denom", denom)])

def readOutPacket : String × Record → Option OutPacket
  | ("deliver_beacon",
      [("source_id", sourceId), ("published", published), ("randomness", randomness),
        ("origin", origin)]) => do
      some (.deliverBeacon sourceId (← readTimestamp published) (← readHexBinary randomness)
        (← readBinary origin))
  | ("welcome", [("payment", payment)]) => some (.welcome payment)
  | ("push_beacon_price", [("timestamp", timestamp), ("amount", amount), ("denom", denom)]) => do
      some (.pushBeaconPrice (← readTimestamp timestamp) (← readAmount amount) denom)
  | _ => none

def writeOutPacketAck : OutPacketAck → String × Record
  | .deliverBeacon => ("deliver_beacon", [])
  | .welcome => ("welcome", [])
  | .pushBeaconPrice => ("push_beacon_price", [])

def readOutPacketAck : String × Record → Option OutPacketAck
  | ("deliver_beacon", []) => some .deliverBeacon
  | ("welcome", []) => some .welcome
  | ("push_beacon_price", []) => some .pushBeaconPrice
  | _ => none

def writeStdAck : StdAck → Record
  | .success data => [("result", writeBinary data)]
  | .error msg => [("error", msg)]

def readStdAck : Record → Option StdAck
  | [("result", data)] => do some (.success (← readBinary data))
  | [("error", msg)] => some (.error msg)
  | _ => none

def writeOrigin (origin : RequestBeaconOrigin) : Record :=
  [("sender", origin.sender), ("job_id", origin.jobId)]

def readOrigin : Record → Option RequestBeaconOrigin
  | [("sender", sender), ("job_id", jobId)] => some ⟨sender, jobId⟩
  | _ => none

def parsed {α : Type} (typeName : String) : Option α → Except StdError α
  | some value => .ok value
  | none => .error (.parseErr typeName "Invalid type")

def tagged {α : Type} (typeName : String) (write : α → String × Record)
    (read : String × Record → Option α) (round : ∀ value, read (write value) = some value) :
    Json α where
  toJsonBinary value := encodeUtf8 (writeTagged (write value).1 (write value).2)
  fromJson data := parsed typeName do
    let text ← decodeUtf8 data
    let variant ← whole readTagged text
    read variant
  fromJson_toJsonBinary := by
    intro value
    have closed := readTagged_writeTagged (write value).1 (write value).2 []
    rw [List.append_nil] at closed
    simp [decodeUtf8_encodeUtf8, whole_of_read closed, round, parsed]

def untagged {α : Type} (typeName : String) (write : α → Record) (read : Record → Option α)
    (round : ∀ value, read (write value) = some value) : Json α where
  toJsonBinary value := encodeUtf8 (writeRecord (write value))
  fromJson data := parsed typeName do
    let text ← decodeUtf8 data
    let record ← whole readRecord text
    read record
  fromJson_toJsonBinary := by
    intro value
    have closed := readRecord_writeRecord (write value) []
    rw [List.append_nil] at closed
    simp [decodeUtf8_encodeUtf8, whole_of_read closed, round, parsed]

end ProtocolJson

open ProtocolJson in
@[reducible] def jsonWire : Wire where
  inPacket := tagged "nois_protocol::ibc_msg::InPacket" writeInPacket readInPacket (by
    intro packet
    cases packet <;> simp [writeInPacket, readInPacket])
  inPacketAck := tagged "nois_protocol::ibc_msg::InPacketAck" writeInPacketAck readInPacketAck (by
    intro ack
    cases ack <;> simp [writeInPacketAck, readInPacketAck])
  outPacket := tagged "nois_protocol::ibc_msg::OutPacket" writeOutPacket readOutPacket (by
    intro packet
    cases packet <;> simp [writeOutPacket, readOutPacket])
  outPacketAck :=
    tagged "nois_protocol::ibc_msg::OutPacketAck" writeOutPacketAck readOutPacketAck (by
    intro ack
    cases ack <;> simp [writeOutPacketAck, readOutPacketAck])
  stdAck := untagged "cosmwasm_std::stdack::StdAck" writeStdAck readStdAck (by
    intro ack
    cases ack <;> simp [writeStdAck, readStdAck])
  origin := untagged "nois_proxy::msg::RequestBeaconOrigin" writeOrigin readOrigin (by
    intro origin
    simp [writeOrigin, readOrigin])

end NoisContracts
