import NoisContracts.Library.Protobuf
import NoisContracts.Library.Text
import NoisContracts.Protocol

/-!
Executable model of `nois-payment`, the contract that holds the funds of one customer,
and of the message to the community pool that it encodes by hand.
-/

namespace NoisContracts.Payment

open ContractCall ContractCall.Call Protobuf

structure Config where
  sink : Addr
  gateway : Addr
deriving DecidableEq, Repr

structure Storage where
  contractVersion : Option (String × String)
  config : Option Config
deriving DecidableEq, Repr

def Storage.empty : Storage := ⟨none, none⟩

inductive ContractError where
  | std (error : StdError)
  | dontSendFunds
  | invalidAddress
  | unauthorized
deriving DecidableEq, Repr

def ContractError.toString : ContractError → String
  | .std error => error.toString
  | .dontSendFunds => "Sending funds via wasm module is not allowed"
  | .invalidAddress => "Invalid Address"
  | .unauthorized => "Unothorised! Make sure you call this contract from the gateway "

inductive ExecuteMsg where
  | pay (burn communityPool : Coin) (relayer : String × Coin)
deriving DecidableEq, Repr

/-- `append_string` of `anybuf`, which leaves an empty string out. -/
def appendString (number : Nat) (text : String) : Binary :=
  if text.isEmpty then [] else writeField ⟨number, asBytes text⟩

def appendMessage (number : Nat) (message : Binary) : Binary := writeField ⟨number, message⟩

def encodeMsgFundCommunityPool (amount : Coin) (depositor : Addr) : Binary :=
  let coin := appendString 1 amount.denom ++ appendString 2 (Nat.repr amount.amount.val)
  appendMessage 1 coin ++ appendString 2 depositor

def fundCommunityPoolUrl : String := "/cosmos.distribution.v1beta1.MsgFundCommunityPool"

def instantiate (deps : Deps) (info : MessageInfo) (sink : String) :
    Call Storage ContractError (Response ContractMsg) := do
  let noisSinkAddr ← ofExcept ((deps.addrValidate sink).mapError fun _ => .invalidAddress)
  writes fun storage => { storage with config := some ⟨noisSinkAddr, info.sender⟩ }
  writes fun storage => { storage with contractVersion := some ("nois-payment", "0.15.4") }
  pure {
    attributes := [("action", "instantiate"), ("nois_sink", sink), ("nois_gateway", info.sender)]
  }

def executePay (deps : Deps) (env : Env) (info : MessageInfo) (burn communityPool : Coin)
    (relayer : String × Coin) : Call Storage ContractError (Response ContractMsg) := do
  let loaded ← reads Storage.config
  let config ← ofPanics (match loaded with
    | some config => .ok config
    | none => .error (.expect "called `Result::unwrap()` on an `Err` value"))
  ensure (info.sender = config.gateway) .unauthorized
  ensure (info.funds = []) .dontSendFunds
  let _ ← ofExcept ((deps.addrValidate relayer.1).mapError fun _ => ContractError.invalidAddress)
  let burning : List Msg :=
    if burn.amount.isZero then [] else [.wasmExecute config.sink .burn [burn]]
  let sending : List Msg :=
    if relayer.2.amount.isZero then [] else [.bankSend relayer.1 [relayer.2]]
  let funding : List Msg :=
    if communityPool.amount.isZero then []
    else [.stargate fundCommunityPoolUrl (encodeMsgFundCommunityPool communityPool env.contract)]
  let response : Response ContractMsg := {
    attributes := [("burnt", burn.toString), ("relayer_reward", relayer.2.toString),
      ("relayer_address", relayer.1), ("sent_to_community_pool", communityPool.toString)]
  }
  pure (response.addMessages (burning ++ sending ++ funding))

def execute (deps : Deps) (env : Env) (info : MessageInfo) :
    ExecuteMsg → Call Storage ContractError (Response ContractMsg)
  | .pay burn communityPool relayer => executePay deps env info burn communityPool relayer

def payoutMsgs (sink contract : Addr) (burn communityPool : Coin) (relayer : String × Coin) :
    List Msg :=
  (if burn.amount.isZero then [] else [.wasmExecute sink .burn [burn]]) ++
    (if relayer.2.amount.isZero then [] else [.bankSend relayer.1 [relayer.2]]) ++
    if communityPool.amount.isZero then []
    else [.stargate fundCommunityPoolUrl (encodeMsgFundCommunityPool communityPool contract)]

def payoutResponse (sink contract : Addr) (burn communityPool : Coin) (relayer : String × Coin) :
    Response ContractMsg :=
  { messages := (payoutMsgs sink contract burn communityPool relayer).map SubMsg.new
    attributes := [("burnt", burn.toString), ("relayer_reward", relayer.2.toString),
      ("relayer_address", relayer.1), ("sent_to_community_pool", communityPool.toString)] }

theorem executePay_eq_ok {deps : Deps} {env : Env} {info : MessageInfo} {burn communityPool : Coin}
    {relayer : String × Coin} {storage after : Storage} {response : Response ContractMsg} :
    executePay deps env info burn communityPool relayer storage = .ok response after ↔
      ∃ config valid, storage.config = some config ∧ info.sender = config.gateway ∧
        info.funds = [] ∧ deps.addrValidate relayer.1 = .ok valid ∧ storage = after ∧
        response = payoutResponse config.sink env.contract burn communityPool relayer := by
  simp only [executePay, bind_eq_ok, reads_eq_ok, ofPanics_eq_ok, ensure_eq_ok, ofExcept_eq_ok,
    except_mapError_eq_ok, pure_eq_ok]
  constructor
  · rintro ⟨loaded, _, ⟨rfl, rfl⟩, config, _, ⟨found, rfl⟩, _, _, ⟨sender, rfl⟩, _, _, ⟨funds, rfl⟩,
        valid, _, ⟨validated, rfl⟩, rfl, rfl⟩
    cases present : storage.config with
    | none => simp [present] at found
    | some stored =>
        simp only [present, Except.ok.injEq] at found
        subst found
        exact ⟨stored, valid, rfl, sender, funds, validated, rfl, rfl⟩
  · rintro ⟨config, valid, present, sender, funds, validated, rfl, rfl⟩
    exact ⟨_, _, ⟨rfl, rfl⟩, config, _, ⟨by simp [present], rfl⟩, (), _, ⟨sender, rfl⟩, (), _,
      ⟨funds, rfl⟩, valid, _, ⟨validated, rfl⟩, rfl, rfl⟩

/-! The community pool message as the chain reads it. -/

def textOf (bytes : Binary) : Option String := (TextFormat.decodeUtf8 bytes).map String.ofList

theorem textOf_asBytes (text : String) : textOf (asBytes text) = some text := by
  have encoded : asBytes text = TextFormat.encodeUtf8 text.toList := by
    simp [asBytes, TextFormat.encodeUtf8]
  rw [textOf, encoded, TextFormat.decodeUtf8_encodeUtf8]
  simp

structure WireCoin where
  denom : String
  amount : String
deriving DecidableEq, Repr

structure MsgFundCommunityPool where
  amount : List WireCoin
  depositor : String
deriving DecidableEq, Repr

def readCoin (bytes : Binary) : Option WireCoin := do
  let fields ← readFields bytes
  let denom ← textOf (payloadOf 1 fields)
  let amount ← textOf (payloadOf 2 fields)
  some ⟨denom, amount⟩

def readMsg (bytes : Binary) : Option MsgFundCommunityPool := do
  let fields ← readFields bytes
  let amount ← (payloadsOf 1 fields).mapM readCoin
  let depositor ← textOf (payloadOf 2 fields)
  some ⟨amount, depositor⟩

def WireCoin.coin (read : WireCoin) : Option Coin := do
  let value ← TextFormat.readDecimal read.amount.toList
  if fits : value < 2 ^ 128 then some ⟨read.denom, ⟨value, fits⟩⟩ else none

def decodeMsgFundCommunityPool (bytes : Binary) : Option (List Coin × Addr) := do
  let msg ← readMsg bytes
  let coins ← msg.amount.mapM WireCoin.coin
  some (coins, msg.depositor)

/-- An optional string field: what is written and what is read back. -/
def stringFields (number : Nat) (text : String) : List Field :=
  if text.isEmpty then [] else [⟨number, asBytes text⟩]

theorem appendString_eq (number : Nat) (text : String) :
    appendString number text = writeFields (stringFields number text) := by
  unfold appendString stringFields
  split <;> simp [writeFields]

theorem payloadOf_stringFields (number : Nat) (text : String) :
    payloadOf number (stringFields number text) = asBytes text := by
  unfold stringFields
  split
  · rename_i empty
    have none : text = "" := by simpa using empty
    subst none
    rfl
  · simp [payloadOf]

theorem stringFields_filter (number other : Nat) (text : String) (different : number ≠ other) :
    (stringFields number text).filter (fun field => field.number = other) = [] := by
  unfold stringFields
  split <;> simp [different]

theorem payloads_of_two (first second : String) :
    payloadOf 1 (stringFields 1 first ++ stringFields 2 second) = asBytes first ∧
      payloadOf 2 (stringFields 1 first ++ stringFields 2 second) = asBytes second := by
  constructor
  · rw [← payloadOf_stringFields 1, payloadOf, payloadOf, List.filter_append,
      stringFields_filter 2 1 _ (by decide), List.append_nil]
  · rw [← payloadOf_stringFields 2, payloadOf, payloadOf, List.filter_append,
      stringFields_filter 1 2 _ (by decide), List.nil_append]

def coinBytes (amount : Coin) : Binary :=
  appendString 1 amount.denom ++ appendString 2 (Nat.repr amount.amount.val)

theorem readCoin_coinBytes (amount : Coin) :
    readCoin (coinBytes amount) = some ⟨amount.denom, Nat.repr amount.amount.val⟩ := by
  have written : coinBytes amount =
      writeFields (stringFields 1 amount.denom ++ stringFields 2 (Nat.repr amount.amount.val)) := by
    simp [coinBytes, appendString_eq, writeFields]
  obtain ⟨denom, value⟩ := payloads_of_two amount.denom (Nat.repr amount.amount.val)
  rw [readCoin, written, readFields_writeFields]
  simp [denom, value, textOf_asBytes]

theorem readMsg_encoded (amount : Coin) (depositor : Addr) :
    readMsg (encodeMsgFundCommunityPool amount depositor) =
      some ⟨[⟨amount.denom, Nat.repr amount.amount.val⟩], depositor⟩ := by
  have written : encodeMsgFundCommunityPool amount depositor =
      writeFields (⟨1, coinBytes amount⟩ :: stringFields 2 depositor) := by
    rw [encodeMsgFundCommunityPool, appendString_eq 2 depositor]
    simp [appendMessage, writeFields, coinBytes]
  have coins :
      payloadsOf 1 (⟨1, coinBytes amount⟩ :: stringFields 2 depositor) = [coinBytes amount] := by
    simp [payloadsOf, stringFields_filter 2 1 _ (by decide)]
  have account :
      payloadOf 2 (⟨1, coinBytes amount⟩ :: stringFields 2 depositor) = asBytes depositor := by
    rw [← payloadOf_stringFields 2, payloadOf, payloadOf]
    simp
  rw [readMsg, written, readFields_writeFields]
  simp [coins, account, textOf_asBytes, readCoin_coinBytes]

theorem WireCoin.coin_repr (amount : Coin) :
    WireCoin.coin ⟨amount.denom, Nat.repr amount.amount.val⟩ = some amount := by
  have digits :
      TextFormat.readDecimal (Nat.repr amount.amount.val).toList = some amount.amount.val := by
    have repr :
        (Nat.repr amount.amount.val).toList = TextFormat.writeDecimal amount.amount.val := by
      simp [TextFormat.writeDecimal, Nat.repr]
    rw [repr, TextFormat.readDecimal_writeDecimal]
  have bound := amount.amount.isU128
  simp only [WireCoin.coin, Option.bind_eq_bind, digits, Option.bind_some, bound, dif_pos]

theorem decodeMsgFundCommunityPool_encoded (amount : Coin) (depositor : Addr) :
    decodeMsgFundCommunityPool (encodeMsgFundCommunityPool amount depositor) =
      some ([amount], depositor) := by
  simp [decodeMsgFundCommunityPool, readMsg_encoded, WireCoin.coin_repr]

def coinsOf : Msg → List Coin
  | .bankSend _ amount => amount
  | .wasmExecute _ _ funds => funds
  | .stargate _ value => ((decodeMsgFundCommunityPool value).map Prod.fst).getD []
  | _ => []

def payoutCoins (burn communityPool : Coin) (relayer : String × Coin) : List Coin :=
  [burn, relayer.2, communityPool].filter fun coin => !coin.amount.isZero

theorem payoutMsgs_coins (sink contract : Addr) (burn communityPool : Coin)
    (relayer : String × Coin) :
    (payoutMsgs sink contract burn communityPool relayer).flatMap coinsOf =
      payoutCoins burn communityPool relayer := by
  cases burnt : burn.amount.isZero <;> cases sent : relayer.2.amount.isZero <;>
    cases funded : communityPool.amount.isZero <;>
    simp [payoutMsgs, payoutCoins, burnt, sent, funded, coinsOf, decodeMsgFundCommunityPool_encoded]

theorem payoutMsgs_coin {sink contract : Addr} {burn communityPool : Coin} {relayer : String × Coin}
    {msg : Msg} (member : msg ∈ payoutMsgs sink contract burn communityPool relayer) :
    ∃ coin ∈ [burn, relayer.2, communityPool], coinsOf msg = [coin] ∧
      coin.amount.isZero = false := by
  simp only [payoutMsgs, List.mem_append] at member
  rcases member with (burning | sending) | funding
  · split at burning
    · simp at burning
    · rename_i nonzero
      rw [List.mem_singleton] at burning
      subst burning
      exact ⟨burn, by simp, rfl, by simpa using nonzero⟩
  · split at sending
    · simp at sending
    · rename_i nonzero
      rw [List.mem_singleton] at sending
      subst sending
      exact ⟨relayer.2, by simp, rfl, by simpa using nonzero⟩
  · split at funding
    · simp at funding
    · rename_i nonzero
      rw [List.mem_singleton] at funding
      subst funding
      exact ⟨communityPool, by simp, by simp [coinsOf, decodeMsgFundCommunityPool_encoded],
        by simpa using nonzero⟩

theorem payoutMsgs_burn {sink contract receiver : Addr} {burn communityPool : Coin}
    {relayer : String × Coin} {funds : List Coin}
    (member : .wasmExecute receiver .burn funds ∈
      payoutMsgs sink contract burn communityPool relayer) : receiver = sink ∧ funds = [burn] := by
  simp only [payoutMsgs, List.mem_append] at member
  rcases member with (burning | sending) | funding
  · split at burning
    · simp at burning
    · simpa using burning
  · split at sending <;> simp at sending
  · split at funding <;> simp at funding

end NoisContracts.Payment
