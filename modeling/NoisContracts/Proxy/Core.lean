import NoisContracts.Library.Store
import NoisContracts.Payment

/-!
Executable model of `nois-proxy`, the contract on the consumer chain: its storage and
the entry points. The balances of the contract are what the bank module answers to a
query. The sudo messages exist in builds with the feature `governance_owned`.
-/

namespace NoisContracts.Proxy

open ContractCall ContractCall.Call OrderedStore
open Payment (appendString appendMessage)

structure IbcDenom where
  ics20Channel : String
  denom : String
deriving DecidableEq, Repr

/-- How the proxy pays for its requests on the Nois chain. -/
inductive OperationalMode where
  | funded
  | ibcPay (unoisDenom : IbcDenom)
deriving DecidableEq, Repr

structure Config where
  prices : List Coin
  manager : Option Addr
  testMode : Bool
  callbackGasLimit : Nat
  payment : Option String
  noisBeaconPrice : Uint128
  noisBeaconPriceUpdated : Timestamp
  mode : OperationalMode
  allowlistEnabled : Option Bool
  minAfter : Option Timestamp
  maxAfter : Option Timestamp
deriving DecidableEq, Repr

structure Storage where
  contractVersion : Option (String × String)
  config : Option Config
  allowlist : Store Addr Nat
  gatewayChannel : Option String
  testModeNextAfter : Option Timestamp

def Storage.empty : Storage := ⟨none, none, ∅, none, none⟩

def allowlistMarker : Nat := 1

inductive ContractError where
  | std (error : StdError)
  | unauthorized
  | jobIdTooLong
  | afterTooLow (minAfter after : Timestamp)
  | afterTooHigh (maxAfter after : Timestamp)
  | noPaymentOption
  | insufficientPayment
  | senderNotAllowed
  | unknownReplyId (id : Nat)
  | mustBeChainA
  | unsupportedPacketType
  | unsetChannel
  | channelAlreadySet
  | channelMustNotBeClosed
  | channelError (error : ChannelError)
deriving DecidableEq, Repr

def displayTimestamp (time : Timestamp) : String :=
  let nanos := Nat.repr (time.nanos % 1000000000)
  Nat.repr (time.nanos / 1000000000) ++ "." ++
    String.ofList (List.replicate (9 - nanos.length) '0') ++ nanos

def ContractError.toString : ContractError → String
  | .std error => error.toString
  | .unauthorized => "Unauthorized"
  | .jobIdTooLong => "Job ID exceeds length limit."
  | .afterTooLow minAfter after =>
      "The after value is too low (min_after: " ++ displayTimestamp minAfter ++ ", after: " ++
        displayTimestamp after ++ ")."
  | .afterTooHigh maxAfter after =>
      "The after value is too high (max_after: " ++ displayTimestamp maxAfter ++ ", after: " ++
        displayTimestamp after ++ ")."
  | .noPaymentOption => "No payment option is configured in this proxy."
  | .insufficientPayment => "Insufficient payment."
  | .senderNotAllowed => "Sender address is not allowed to perform this action"
  | .unknownReplyId id => "Unknown reply ID " ++ Nat.repr id
  | .mustBeChainA => "The nois-proxy contract must be on chain A of the connection. " ++
      "Try swapping A and B in the channel creation."
  | .unsupportedPacketType => "Unsupported packet type."
  | .unsetChannel => "Channel is not stored. Channel not yet established or closed."
  | .channelAlreadySet =>
      "Channel was already created. Channel is immutable and cannot be overriden"
  | .channelMustNotBeClosed => "Channel must not be closed."
  | .channelError error => error.toString

structure InstantiateMsg where
  prices : List Coin
  manager : Option String
  testMode : Option Bool
  callbackGasLimit : Nat
  mode : OperationalMode
  allowlistEnabled : Option Bool
  allowlist : Option (List String)
deriving DecidableEq, Repr

/-- The fields of a `SetConfig`, which `ExecuteMsg` and `SudoMsg` share. -/
structure SetConfig where
  manager : Option String
  prices : Option (List Coin)
  payment : Option String
  noisBeaconPrice : Option Uint128
  callbackGasLimit : Option Nat
  mode : Option OperationalMode
  allowlistEnabled : Option Bool
  minAfter : Option Timestamp
  maxAfter : Option Timestamp
deriving DecidableEq, Repr

inductive ExecuteMsg where
  | getNextRandomness (jobId : String)
  | getRandomnessAfter (after : Timestamp) (jobId : String)
  | setConfig (change : SetConfig)
  | withdraw (denom : String) (amount : Option Uint128) (address : String)
  | updateAllowlist (add remove : List String)
deriving DecidableEq, Repr

inductive SudoMsg where
  | withdraw (denom : String) (amount : Option Uint128) (address : String)
  | withdrawToCommunityPool (denom : String) (amount : Option Uint128)
  | setConfig (change : SetConfig)
deriving DecidableEq, Repr

inductive SubMsgResult where
  | ok
  | err (msg : String)
deriving DecidableEq, Repr

structure Reply where
  id : Nat
  result : SubMsgResult
deriving DecidableEq, Repr

def replayIdCallback : Nat := 456

def tenYearsS : Nat := 10 * 3600 * 24 * 365

def minAfterFallback : Timestamp := ⟨1680015600 * 1000000000, by norm_num⟩

def maxAfterFallback : Timestamp := ⟨(1680015600 + tenYearsS) * 1000000000, by norm_num [tenYearsS]⟩

/-! The state. -/

def loadConfig : Call Storage StdError Config := do
  match ← reads Storage.config with
  | some config => pure config
  | none => fail (.notFound "config")

def saveConfig (config : Config) : Call Storage StdError Unit :=
  writes fun storage => { storage with config := some config }

def setContractVersion : Call Storage StdError Unit :=
  writes fun storage => { storage with contractVersion := some ("nois-proxy", "0.15.4") }

def getGatewayChannel : Call Storage ContractError String := do
  match ← reads Storage.gatewayChannel with
  | some channel => pure channel
  | none => fail .unsetChannel

def addToAllowlist (deps : Deps) : List String → Call Storage StdError Unit
  | [] => pure ()
  | address :: rest => do
      let addr ← ofExcept (deps.addrValidate address)
      writes fun storage =>
        { storage with allowlist := storage.allowlist.insert addr allowlistMarker }
      addToAllowlist deps rest

def removeFromAllowlist (deps : Deps) : List String → Call Storage StdError Unit
  | [] => pure ()
  | address :: rest => do
      let addr ← ofExcept (deps.addrValidate address)
      writes fun storage => { storage with allowlist := storage.allowlist.erase addr }
      removeFromAllowlist deps rest

/-! Jobs and publish times. -/

/-- `MAX_JOB_ID_LEN` of the `nois` package. -/
def maxJobIdLen : Nat := 64

def validateJobId (jobId : String) : Except ContractError Unit :=
  if maxJobIdLen < jobId.utf8ByteSize then .error .jobIdTooLong else .ok ()

/-- The map of the prices holds the last price of a denom. -/
def priceIn (prices : List Coin) (denom : String) : Option Uint128 :=
  (prices.reverse.find? fun price => price.denom = denom).map Coin.amount

def pays (prices : List Coin) (fund : Coin) : Bool :=
  match priceIn prices fund.denom with
  | some price => price.val ≤ fund.amount.val
  | none => false

def validatePayment (prices funds : List Coin) : Except ContractError Unit :=
  if prices.isEmpty then .error .noPaymentOption
  else if funds.any (pays prices) then .ok ()
  else .error .insufficientPayment

def safetyMargin : Nat := 5000000000

def testModeNextAfterInit : Timestamp := ⟨1677687597000000000 - 1, by norm_num⟩

def testModeNextAfterIncrementSeconds : Nat := 30

inductive AfterMode where
  | test
  | blockTime (time : Timestamp)
deriving DecidableEq, Repr

def calculateAfter : AfterMode → Call Storage StdError Timestamp
  | .test => do
      let stored ← reads Storage.testModeNextAfter
      let after := stored.getD testModeNextAfterInit
      let next ← ofPanics (after.plusSeconds testModeNextAfterIncrementSeconds)
      writes fun storage => { storage with testModeNextAfter := some next }
      pure after
  | .blockTime time => ofPanics (time.plusNanos safetyMargin)

/-! The entry points. -/

def instantiate (deps : Deps) (env : Env) (msg : InstantiateMsg) :
    Call Storage StdError (Response ContractMsg) := do
  let manager ← ofExcept <| match msg.manager with
    | some manager => (deps.addrValidate manager).map some
    | none => .ok none
  let testMode := msg.testMode.getD false
  let maxAfter ← ofPanics (env.block.time.plusSeconds tenYearsS)
  saveConfig {
    prices := msg.prices
    manager
    testMode
    callbackGasLimit := msg.callbackGasLimit
    payment := none
    noisBeaconPrice := .zero
    noisBeaconPriceUpdated := .epoch
    mode := msg.mode
    allowlistEnabled := some (msg.allowlistEnabled.getD false)
    minAfter := some env.block.time
    maxAfter := some maxAfter
  }
  addToAllowlist deps (msg.allowlist.getD [])
  setContractVersion
  pure { attributes := [("action", "instantiate"), ("test_mode", toString testMode)] }

def migrate (env : Env) : Call Storage StdError (Response ContractMsg) := do
  let config ← loadConfig
  let minAfter := config.minAfter.getD env.block.time
  let maxAfter ← ofPanics <| match config.maxAfter with
    | some maxAfter => .ok maxAfter
    | none => env.block.time.plusSeconds tenYearsS
  saveConfig { config with
    minAfter := some minAfter
    maxAfter := some maxAfter
    allowlistEnabled := some (config.allowlistEnabled.getD false) }
  setContractVersion
  pure { attributes := [("action", "migrate")] }

def checkRequest (info : MessageInfo) (config : Config) (after : Timestamp) (jobId : String) :
    Call Storage ContractError Unit := do
  ofExcept (validateJobId jobId)
  ofExcept (validatePayment config.prices info.funds)
  let listed ← reads fun storage => storage.allowlist.contains info.sender
  ensure (config.allowlistEnabled.getD false = true → listed = true) .senderNotAllowed
  let minAfter := config.minAfter.getD minAfterFallback
  ensure (minAfter.nanos ≤ after.nanos) (.afterTooLow minAfter after)
  let maxAfter := config.maxAfter.getD maxAfterFallback
  ensure (after.nanos ≤ maxAfter.nanos) (.afterTooHigh maxAfter after)

def transferMsgs (env : Env) (config : Config) : Panics (List Msg) :=
  match config.mode, config.payment with
  | .ibcPay unoisDenom, some paymentContract =>
      if config.noisBeaconPrice.isZero then .ok []
      else do
        let timeout ← env.block.time.plusSeconds transferPacketLifetime
        pure
          [.ibcTransfer unoisDenom.ics20Channel paymentContract
            ⟨unoisDenom.denom, config.noisBeaconPrice⟩ timeout none]
  | _, _ => .ok []

def encodeMsgFundCommunityPool (amount : Coin) (depositor : Addr) : Binary :=
  let coin := appendString 1 amount.denom ++ appendString 2 (Nat.repr amount.amount.val)
  appendMessage 1 coin ++ appendString 2 depositor

def withdrawUnchecked (deps : Deps) (balances : List Coin) (action denom : String)
    (amount : Option Uint128) (address : String) :
    Call Storage ContractError (Response ContractMsg) := do
  let address ← mapError .std (ofExcept (deps.addrValidate address))
  let coin : Coin := ⟨denom, amount.getD (balanceIn denom balances)⟩
  let response : Response ContractMsg :=
    { attributes := [("action", action), ("amount", coin.toString)] }
  pure (response.addMessages [.bankSend address [coin]])

def withdrawToCommunityPoolUnchecked (env : Env) (balances : List Coin) (action denom : String)
    (amount : Option Uint128) : Call Storage ContractError (Response ContractMsg) := do
  let coin : Coin := ⟨denom, amount.getD (balanceIn denom balances)⟩
  let msg : Msg := .stargate "/cosmos.distribution.v1beta1.MsgFundCommunityPool"
    (encodeMsgFundCommunityPool coin env.contract)
  let response : Response ContractMsg :=
    { attributes := [("action", action), ("amount", coin.toString)] }
  pure (response.addMessages [msg])

def setConfigUnchecked (deps : Deps) (env : Env) (action : String) (change : SetConfig) :
    Call Storage ContractError (Response ContractMsg) := do
  let config ← mapError .std loadConfig
  let manager ← mapError .std <| ofExcept <| match change.manager with
    | some manager => (deps.addrValidate manager).map some
    | none => .ok config.manager
  let (noisBeaconPrice, noisBeaconPriceUpdated) := match change.noisBeaconPrice with
    | some price => (price, env.block.time)
    | none => (config.noisBeaconPrice, config.noisBeaconPriceUpdated)
  mapError .std <| saveConfig {
    manager
    prices := change.prices.getD config.prices
    testMode := config.testMode
    callbackGasLimit := change.callbackGasLimit.getD config.callbackGasLimit
    payment := change.payment.or config.payment
    noisBeaconPrice
    noisBeaconPriceUpdated
    mode := change.mode.getD config.mode
    allowlistEnabled := some (change.allowlistEnabled.getD (config.allowlistEnabled.getD false))
    minAfter := change.minAfter.or config.minAfter
    maxAfter := change.maxAfter.or config.maxAfter
  }
  pure { attributes := [("action", action)] }

def ensureManager (info : MessageInfo) : Call Storage ContractError Unit := do
  let config ← mapError .std loadConfig
  ensure (config.manager = some info.sender) .unauthorized

def executeSetConfig (deps : Deps) (env : Env) (info : MessageInfo) (change : SetConfig) :
    Call Storage ContractError (Response ContractMsg) := do
  ensureManager info
  setConfigUnchecked deps env "execute_set_config" change

def executeWithdraw (deps : Deps) (balances : List Coin) (info : MessageInfo) (denom : String)
    (amount : Option Uint128) (address : String) :
    Call Storage ContractError (Response ContractMsg) := do
  ensureManager info
  withdrawUnchecked deps balances "execute_withdraw" denom amount address

def updateAllowlistUnchecked (deps : Deps) (add remove : List String) :
    Call Storage StdError Unit := do
  addToAllowlist deps add
  removeFromAllowlist deps remove

def executeUpdateAllowlist (deps : Deps) (info : MessageInfo) (add remove : List String) :
    Call Storage ContractError (Response ContractMsg) := do
  ensureManager info
  mapError .std (updateAllowlistUnchecked deps add remove)
  pure { attributes := [("action", "execute_update_allowlist")] }

def sudoWithdraw (deps : Deps) (balances : List Coin) (denom : String) (amount : Option Uint128)
    (address : String) : Call Storage ContractError (Response ContractMsg) :=
  withdrawUnchecked deps balances "sudo_withdraw" denom amount address

def sudoWithdrawToCommunityPool (env : Env) (balances : List Coin) (denom : String)
    (amount : Option Uint128) : Call Storage ContractError (Response ContractMsg) :=
  withdrawToCommunityPoolUnchecked env balances "sudo_withdraw_to_community_pool" denom amount

def sudoSetConfig (deps : Deps) (env : Env) (change : SetConfig) :
    Call Storage ContractError (Response ContractMsg) :=
  setConfigUnchecked deps env "sudo_set_config" change

def sudoEntry (deps : Deps) (env : Env) (balances : List Coin) :
    SudoMsg → Call Storage ContractError (Response ContractMsg)
  | .withdraw denom amount address => sudoWithdraw deps balances denom amount address
  | .withdrawToCommunityPool denom amount => sudoWithdrawToCommunityPool env balances denom amount
  | .setConfig change => sudoSetConfig deps env change

def reply (reply : Reply) : Call Storage ContractError (Response ContractMsg) := do
  ensure (reply.id = replayIdCallback) (.unknownReplyId reply.id)
  let attributes := match reply.result with
    | .ok => [("success", "true")]
    | .err msg => [("success", "false"), ("error_msg", msg)]
  pure { events := [("nois-callback", attributes)] }

def ibcChannelOpen : IbcChannelOpenMsg → Except ContractError (Option String)
  | .openInit channel => do
      (checkOrder channel.order).mapError .channelError
      (checkVersion channel.version).mapError .channelError
      pure none
  | .openTry _ _ => .error .mustBeChainA

def ibcChannelConnect (msg : IbcChannelConnectMsg) :
    Call Storage ContractError (Response ContractMsg) := do
  let channel ← match msg with
    | .openAck channel _ => pure channel
    | .openConfirm _ => fail .mustBeChainA
  let connected ← reads fun storage => storage.gatewayChannel.isSome
  ensure (connected = false) .channelAlreadySet
  writes fun storage => { storage with gatewayChannel := some channel.channelId }
  pure { attributes := [("action", "ibc_channel_connect"), ("channel_id", channel.channelId)] }

def ibcChannelClose : IbcChannelCloseMsg → Call Storage ContractError (Response ContractMsg)
  | .closeInit _ => fail .channelMustNotBeClosed
  | .closeConfirm channel => do
      writes fun storage => { storage with gatewayChannel := none }
      pure { attributes := [("action", "ibc_channel_close"), ("channel_id", channel.channelId)] }

def updateNoisBeaconPrice (timestamp : Timestamp) (newPrice : Uint128) (denom : String) :
    Call Storage ContractError Unit :=
  if denom ≠ "unois" then pure ()
  else do
    let config ← mapError .std loadConfig
    if timestamp.nanos < config.noisBeaconPriceUpdated.nanos then pure ()
    else mapError .std (saveConfig { config with
      noisBeaconPrice := newPrice
      noisBeaconPriceUpdated := timestamp })

section

variable [Wire]

def executeGetRandomnessImpl (env : Env) (info : MessageInfo) (action : String) (config : Config)
    (after : Timestamp) (jobId : String) : Call Storage ContractError (Response ContractMsg) := do
  checkRequest info config after jobId
  let packet : InPacket := .requestBeacon after (Wire.origin.toJsonBinary ⟨info.sender, jobId⟩)
  let channelId ← getGatewayChannel
  let transfer ← ofPanics (transferMsgs env config)
  let timeout ← ofPanics (env.block.time.plusSeconds requestBeaconPacketLifetime)
  let send : Msg := .ibcSendPacket channelId (Wire.inPacket.toJsonBinary packet) timeout
  let response : Response ContractMsg := { attributes := [("action", action)] }
  pure (response.addMessages (transfer ++ [send]))

def executeGetNextRandomness (env : Env) (info : MessageInfo) (jobId : String) :
    Call Storage ContractError (Response ContractMsg) := do
  let config ← mapError .std loadConfig
  let mode := if config.testMode then AfterMode.test else AfterMode.blockTime env.block.time
  let after ← mapError .std (calculateAfter mode)
  executeGetRandomnessImpl env info "execute_get_next_randomness" config after jobId

def executeGetRandomnessAfter (env : Env) (info : MessageInfo) (after : Timestamp)
    (jobId : String) : Call Storage ContractError (Response ContractMsg) := do
  let config ← mapError .std loadConfig
  executeGetRandomnessImpl env info "execute_get_randomness_after" config after jobId

def execute (deps : Deps) (env : Env) (balances : List Coin) (info : MessageInfo) :
    ExecuteMsg → Call Storage ContractError (Response ContractMsg)
  | .getNextRandomness jobId => executeGetNextRandomness env info jobId
  | .getRandomnessAfter after jobId => executeGetRandomnessAfter env info after jobId
  | .setConfig change => executeSetConfig deps env info change
  | .withdraw denom amount address => executeWithdraw deps balances info denom amount address
  | .updateAllowlist add remove => executeUpdateAllowlist deps info add remove

def receiveDeliverBeacon (published : Timestamp) (randomness origin : Binary) :
    Call Storage ContractError (Response ContractMsg) := do
  let config ← mapError .std loadConfig
  let origin ← mapError .std (ofExcept (Wire.origin.fromJson origin))
  let msg : SubMsg ContractMsg := {
    id := replayIdCallback
    msg := .wasmExecute origin.sender (.noisReceive ⟨origin.jobId, published, randomness⟩) []
    gasLimit := some config.callbackGasLimit
    replyOn := .error
  }
  pure {
    acknowledgement := some (.success (Wire.outPacketAck.toJsonBinary .deliverBeacon))
    messages := [msg]
    attributes := [("action", "receive_deliver_beacon"), ("job_id", origin.jobId)]
  }

def receiveWelcome (payment : String) : Call Storage ContractError (Response ContractMsg) := do
  let config ← mapError .std loadConfig
  mapError .std (saveConfig { config with payment := some payment })
  pure {
    acknowledgement := some (.success (Wire.outPacketAck.toJsonBinary .welcome))
    attributes := [("action", "receive_welcome")]
  }

def receivePushBeaconPrice (timestamp : Timestamp) (amount : Uint128) (denom : String) :
    Call Storage ContractError (Response ContractMsg) := do
  updateNoisBeaconPrice timestamp amount denom
  pure {
    acknowledgement := some (.success (Wire.outPacketAck.toJsonBinary .pushBeaconPrice))
    attributes := [("action", "receive_push_beacon_price")]
  }

def receivePacket (msg : IbcPacketReceiveMsg) :
    Call Storage ContractError (Response ContractMsg) := do
  let op ← mapError .std (ofExcept (Wire.outPacket.fromJson msg.data))
  match op with
  | .deliverBeacon _ published randomness origin => receiveDeliverBeacon published randomness origin
  | .welcome payment => receiveWelcome payment
  | .pushBeaconPrice timestamp amount denom => receivePushBeaconPrice timestamp amount denom

/-- Infallible for its caller: an error becomes an acknowledgement. -/
def ibcPacketReceive (msg : IbcPacketReceiveMsg) : Call Storage Empty (Response ContractMsg) :=
  (receivePacket msg).orElse fun error => pure {
    acknowledgement := some (.error ("Error processing packet: " ++ error.toString))
    events := [("ibc", [("packet", "receive")])]
  }

def ibcPacketAck (data : Binary) : Call Storage ContractError (Response ContractMsg) := do
  let ack ← mapError .std (ofExcept (Wire.stdAck.fromJson data))
  match ack with
  | .success data => do
      let response ← mapError .std (ofExcept (Wire.inPacketAck.fromJson data))
      let ackType ← match response with
        | .requestProcessed _ => pure "request_processed"
        | .requestQueued _ => pure "request_queued"
        | .pullBeaconPrice timestamp amount denom => do
            updateNoisBeaconPrice timestamp amount denom
            pure "beacon_price"
      pure {
        attributes := [("action", "ibc_packet_ack"), ("ack_type", ackType), ("is_error", "false")]
      }
  | .error err =>
      pure { attributes := [("action", "ibc_packet_ack"), ("error", err), ("is_error", "true")] }

end

def ibcPacketTimeout : Call Storage StdError (Response ContractMsg) :=
  pure { attributes := [("action", "ibc_packet_timeout")] }

end NoisContracts.Proxy
