import NoisContracts.CosmWasm

/-!
The `nois-protocol` package: the packets between `nois-proxy` and `nois-gateway`,
their acknowledgements and the checks of a channel handshake. The messages that
the contracts of this repository send to each other on one chain are collected in
`ContractMsg`.
-/

namespace NoisContracts

open ContractCall

inductive InPacket where
  | requestBeacon (after : Timestamp) (origin : Binary)
  | pullBeaconPrice
deriving DecidableEq, Repr

inductive InPacketAck where
  | requestProcessed (sourceId : String)
  | requestQueued (sourceId : String)
  | pullBeaconPrice (timestamp : Timestamp) (amount : Uint128) (denom : String)
deriving DecidableEq, Repr

inductive OutPacket where
  | deliverBeacon (sourceId : String) (published : Timestamp) (randomness origin : Binary)
  | welcome (payment : String)
  | pushBeaconPrice (timestamp : Timestamp) (amount : Uint128) (denom : String)
deriving DecidableEq, Repr

inductive OutPacketAck where
  | deliverBeacon
  | welcome
  | pushBeaconPrice
deriving DecidableEq, Repr

structure RequestBeaconOrigin where
  sender : String
  jobId : String
deriving DecidableEq, Repr

structure NoisCallback where
  jobId : String
  published : Timestamp
  randomness : Binary
deriving DecidableEq, Repr

inductive ContractMsg where
  | setIncentivized (round : Nat)
  | addVerifiedRound (round : Nat) (randomness : Binary) (isVerifyingTx : Bool)
  | pay (burn communityPool : Coin) (relayer : String × Coin)
  | burn
  | noisReceive (callback : NoisCallback)
  | instantiatePayment (sink : String)
deriving DecidableEq, Repr

abbrev Msg := CosmosMsg ContractMsg

/-- The JSON of every message that crosses a channel. -/
class Wire where
  inPacket : Json InPacket
  inPacketAck : Json InPacketAck
  outPacket : Json OutPacket
  outPacketAck : Json OutPacketAck
  stdAck : Json StdAck
  origin : Json RequestBeaconOrigin

def ibcAppVersion : String := "nois-v7"

def appOrder : IbcOrder := .unordered

def requestBeaconPacketLifetime : Nat := 100 * 24 * 3600

def deliverBeaconPacketLifetime : Nat := 100 * 24 * 3600

def beaconPricePacketLifetime : Nat := 100 * 24 * 3600

def welcomePacketLifetime : Nat := 100 * 24 * 3600

def transferPacketLifetime : Nat := 24 * 3600

inductive ChannelError where
  | invalidChannelOrder
  | invalidChannelVersion (expected : String)
deriving DecidableEq, Repr

def ChannelError.toString : ChannelError → String
  | .invalidChannelOrder => "Only supports unordered channels"
  | .invalidChannelVersion expected => "Counterparty version must be '" ++ expected ++ "'"

def checkOrder (order : IbcOrder) : Except ChannelError Unit :=
  if order ≠ appOrder then .error .invalidChannelOrder else .ok ()

def checkVersion (version : String) : Except ChannelError Unit :=
  if version ≠ ibcAppVersion then .error (.invalidChannelVersion ibcAppVersion) else .ok ()

end NoisContracts
