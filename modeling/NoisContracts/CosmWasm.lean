import NoisContracts.Library.Call

/-!
The part of `cosmwasm_std` that the contracts use. Fixed-width numbers carry their
bound, and the operations that the release profile checks for overflow panic.
-/

namespace NoisContracts

open ContractCall

abbrev Addr := String

/-- Bytes of a `Binary` or a `HexBinary`. -/
abbrev Binary := List UInt8

def asBytes (text : String) : Binary := text.toUTF8.data.toList

/-- Nanoseconds since the Unix epoch in a `u64`. -/
structure Timestamp where
  nanos : Nat
  isU64 : nanos < 2 ^ 64
deriving DecidableEq, Repr

namespace Timestamp

@[ext] theorem ext {first second : Timestamp} (same : first.nanos = second.nanos) :
    first = second := by
  cases first
  cases second
  simp_all

def epoch : Timestamp := ⟨0, by decide⟩

def plusNanos (time : Timestamp) (addition : Nat) : Panics Timestamp :=
  if fits : time.nanos + addition < 2 ^ 64 then .ok ⟨time.nanos + addition, fits⟩
  else .error .overflow

def plusSeconds (time : Timestamp) (addition : Nat) : Panics Timestamp := do
  let nanos ← checkedMul 64 addition 1000000000
  time.plusNanos nanos

theorem plusNanos_eq_ok {time later : Timestamp} {addition : Nat} :
    time.plusNanos addition = .ok later ↔ time.nanos + addition = later.nanos := by
  unfold plusNanos
  split
  · simp [Timestamp.ext_iff]
  · rename_i exceeds
    have bound := later.isU64
    simp only [reduceCtorEq, false_iff]
    omega

theorem plusSeconds_eq_ok {time later : Timestamp} {addition : Nat} :
    time.plusSeconds addition = .ok later ↔
      time.nanos + addition * 1000000000 = later.nanos := by
  unfold plusSeconds
  rw [except_bind_eq_ok]
  simp only [checkedMul_eq_ok, plusNanos_eq_ok]
  constructor
  · rintro ⟨nanos, ⟨_, same⟩, sum⟩
    omega
  · intro sum
    have bound := later.isU64
    exact ⟨addition * 1000000000, ⟨by omega, rfl⟩, sum⟩

end Timestamp

structure Uint128 where
  val : Nat
  isU128 : val < 2 ^ 128
deriving DecidableEq, Repr

namespace Uint128

@[ext] theorem ext {first second : Uint128} (same : first.val = second.val) : first = second := by
  cases first
  cases second
  simp_all

def zero : Uint128 := ⟨0, by decide⟩

def isZero (amount : Uint128) : Bool := amount.val == 0

def sub (left right : Uint128) : Panics Uint128 :=
  if right.val ≤ left.val then
    .ok ⟨left.val - right.val, Nat.lt_of_le_of_lt (Nat.sub_le _ _) left.isU128⟩
  else .error .overflow

def mul (left right : Uint128) : Panics Uint128 :=
  if fits : left.val * right.val < 2 ^ 128 then .ok ⟨left.val * right.val, fits⟩
  else .error .overflow

/-- `mul_floor` with a fraction: the product is taken in 256 bits, the quotient
has to fit again. -/
def mulFloor (amount : Uint128) (numerator denominator : Nat) : Panics Uint128 :=
  if fits : amount.val * numerator / denominator < 2 ^ 128 then
    .ok ⟨amount.val * numerator / denominator, fits⟩
  else .error .overflow

theorem sub_eq_ok {left right difference : Uint128} :
    left.sub right = .ok difference ↔
      right.val ≤ left.val ∧ left.val - right.val = difference.val := by
  unfold sub
  split <;> simp_all [Uint128.ext_iff]

theorem mul_eq_ok {left right product : Uint128} :
    left.mul right = .ok product ↔ left.val * right.val = product.val := by
  unfold mul
  split
  · simp [Uint128.ext_iff]
  · rename_i exceeds
    have bound := product.isU128
    simp only [reduceCtorEq, false_iff]
    omega

theorem mulFloor_eq_ok {amount share : Uint128} {numerator denominator : Nat} :
    amount.mulFloor numerator denominator = .ok share ↔
      amount.val * numerator / denominator = share.val := by
  unfold mulFloor
  split
  · simp [Uint128.ext_iff]
  · rename_i exceeds
    have bound := share.isU128
    simp only [reduceCtorEq, false_iff]
    omega

end Uint128

structure Coin where
  denom : String
  amount : Uint128
deriving DecidableEq, Repr

/-- The balance in one denom of an account that holds these coins. -/
def balanceIn (denom : String) (coins : List Coin) : Uint128 :=
  ((coins.find? fun coin => coin.denom = denom).map Coin.amount).getD Uint128.zero

def amounts (coins : List Coin) : List (String × Nat) :=
  coins.map fun coin => (coin.denom, coin.amount.val)

def Coin.toString (coin : Coin) : String := Nat.repr coin.amount.val ++ coin.denom

structure BlockInfo where
  height : Nat
  time : Timestamp
deriving DecidableEq, Repr

structure Env where
  block : BlockInfo
  transaction : Option Nat
  contract : Addr
deriving DecidableEq, Repr

structure MessageInfo where
  sender : Addr
  funds : List Coin
deriving DecidableEq, Repr

inductive StdError where
  | notFound (kind : String)
  | parseErr (targetType msg : String)
  | genericErr (msg : String)
deriving DecidableEq, Repr

def StdError.toString : StdError → String
  | .notFound kind => kind ++ " not found"
  | .parseErr targetType msg => "Error parsing into type " ++ targetType ++ ": " ++ msg
  | .genericErr msg => "Generic error: " ++ msg

/-- The acknowledgement envelope of the IBC entry points. -/
inductive StdAck where
  | success (data : Binary)
  | error (msg : String)
deriving DecidableEq, Repr

/-- JSON of one message type. Of `to_json_binary` and `from_json` the contracts rely
on the round trip only; which other bytes decode is left open. -/
structure Json (α : Type) where
  toJsonBinary : α → Binary
  fromJson : Binary → Except StdError α
  fromJson_toJsonBinary : ∀ value, fromJson (toJsonBinary value) = .ok value

theorem Json.toJsonBinary_injective {α : Type} (json : Json α) {first second : α}
    (same : json.toJsonBinary first = json.toJsonBinary second) : first = second := by
  have decoded := json.fromJson_toJsonBinary first
  rw [same, json.fromJson_toJsonBinary] at decoded
  exact (Except.ok.inj decoded).symm

/-- Messages of a response. Contract calls keep their message `μ` as a value. -/
inductive CosmosMsg (μ : Type) where
  | bankSend (toAddress : String) (amount : List Coin)
  | bankBurn (amount : List Coin)
  | wasmExecute (contractAddr : String) (msg : μ) (funds : List Coin)
  | wasmInstantiate2 (admin : Option String) (codeId : Nat) (label : String) (msg : μ)
      (funds : List Coin) (salt : Binary)
  | ibcSendPacket (channelId : String) (data : Binary) (timeout : Timestamp)
  | ibcTransfer (channelId toAddress : String) (amount : Coin) (timeout : Timestamp)
      (memo : Option String)
  | stargate (typeUrl : String) (value : Binary)
deriving DecidableEq, Repr

def CosmosMsg.isBank {μ : Type} : CosmosMsg μ → Bool
  | .bankSend _ _ => true
  | .bankBurn _ => true
  | _ => false

inductive ReplyOn where
  | never
  | error
deriving DecidableEq, Repr

structure SubMsg (μ : Type) where
  id : Nat
  msg : CosmosMsg μ
  gasLimit : Option Nat
  replyOn : ReplyOn
deriving DecidableEq, Repr

def SubMsg.new {μ : Type} (msg : CosmosMsg μ) : SubMsg μ := ⟨0, msg, none, .never⟩

/-- `Response`, `IbcBasicResponse` and `IbcReceiveResponse`. Only the last one
carries an acknowledgement. -/
structure Response (μ : Type) where
  acknowledgement : Option StdAck := none
  messages : List (SubMsg μ) := []
  attributes : List (String × String) := []
  events : List (String × List (String × String)) := []
deriving DecidableEq, Repr

def Response.addMessages {μ : Type} (response : Response μ) (msgs : List (CosmosMsg μ)) :
    Response μ :=
  { response with messages := response.messages ++ msgs.map SubMsg.new }

def Response.msgs {μ : Type} (response : Response μ) : List (CosmosMsg μ) :=
  response.messages.map SubMsg.msg

@[simp] theorem SubMsg.new_msg {μ : Type} (msg : CosmosMsg μ) : (SubMsg.new msg).msg = msg := rfl

@[simp] theorem SubMsg.map_msg_new {μ : Type} (msgs : List (CosmosMsg μ)) :
    (msgs.map SubMsg.new).map SubMsg.msg = msgs := by
  induction msgs with
  | nil => rfl
  | cons msg rest ih => simpa using ih

inductive IbcOrder where
  | unordered
  | ordered
deriving DecidableEq, Repr

structure IbcChannel where
  channelId : String
  order : IbcOrder
  version : String
deriving DecidableEq, Repr

inductive IbcChannelOpenMsg where
  | openInit (channel : IbcChannel)
  | openTry (channel : IbcChannel) (counterpartyVersion : String)
deriving DecidableEq, Repr

inductive IbcChannelConnectMsg where
  | openAck (channel : IbcChannel) (counterpartyVersion : String)
  | openConfirm (channel : IbcChannel)
deriving DecidableEq, Repr

inductive IbcChannelCloseMsg where
  | closeInit (channel : IbcChannel)
  | closeConfirm (channel : IbcChannel)
deriving DecidableEq, Repr

def IbcChannelConnectMsg.channel : IbcChannelConnectMsg → IbcChannel
  | .openAck channel _ => channel
  | .openConfirm channel => channel

def IbcChannelCloseMsg.channel : IbcChannelCloseMsg → IbcChannel
  | .closeInit channel => channel
  | .closeConfirm channel => channel

structure IbcPacketReceiveMsg where
  data : Binary
  destChannel : String
  relayer : Addr
deriving DecidableEq, Repr

inductive CodeInfo where
  | found (checksum : Binary)
  | noSuchCode
  | systemError (msg : String)
deriving DecidableEq, Repr

/-- What a contract asks its host for: the address API, the code registry and the
hash functions. Their code is not part of the contracts. -/
structure Deps where
  addrValidate : String → Except StdError Addr
  addrCanonicalize : String → Except StdError Binary
  addrHumanize : Binary → Except StdError Addr
  codeInfo : Nat → CodeInfo
  instantiate2Address : Binary → Binary → Binary → Except String Binary
  sha256 : Binary → Binary

def Deps.queryWasmCodeInfo (deps : Deps) (codeId : Nat) : Except StdError Binary :=
  match deps.codeInfo codeId with
  | .found checksum => .ok checksum
  | .noSuchCode => .error (.genericErr ("Querier system error: No such code: " ++ Nat.repr codeId))
  | .systemError msg => .error (.genericErr ("Querier system error: " ++ msg))

end NoisContracts
