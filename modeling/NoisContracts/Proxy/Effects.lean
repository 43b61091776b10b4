import NoisContracts.Library.Journal
import NoisContracts.Proxy.Core

/-!
The proxy on its chain, and what its entry points do to the storage. The journal of a
world holds the committed transactions with their responses, oldest first.
-/

namespace NoisContracts.Proxy

open ContractCall ContractCall.Call OrderedStore

inductive Action where
  | instantiate (msg : InstantiateMsg)
  | execute (info : MessageInfo) (msg : ExecuteMsg)
  | governance (msg : SudoMsg)
  | migrate
  | reply (reply : Reply)
  | channelOpen (msg : IbcChannelOpenMsg)
  | channelConnect (msg : IbcChannelConnectMsg)
  | channelClose (msg : IbcChannelCloseMsg)
  | packetReceive (msg : IbcPacketReceiveMsg)
  | packetAck (acknowledgement : Binary)
  | packetTimeout
deriving DecidableEq, Repr

structure Tx where
  block : BlockInfo
  index : Option Nat
  balances : List Coin
  action : Action
  /-- Whether the chain executes every message of the response. -/
  dispatched : Bool
deriving DecidableEq, Repr

def Tx.env (tx : Tx) (contract : Addr) : Env := ⟨tx.block, tx.index, contract⟩

def admits (storage : Storage) (tx : Tx) : Bool :=
  tx.dispatched && match tx.action with
    | .instantiate _ => storage.config.isNone
    | _ => true

abbrev World := Journal.World Storage Tx (Response ContractMsg)

structure PriceInfo where
  timestamp : Timestamp
  amount : Uint128
  denom : String
deriving DecidableEq, Repr

def Config.initial (msg : InstantiateMsg) (manager : Option Addr) (minAfter maxAfter : Timestamp) :
    Config where
  prices := msg.prices
  manager := manager
  testMode := msg.testMode.getD false
  callbackGasLimit := msg.callbackGasLimit
  payment := none
  noisBeaconPrice := .zero
  noisBeaconPriceUpdated := .epoch
  mode := msg.mode
  allowlistEnabled := some (msg.allowlistEnabled.getD false)
  minAfter := some minAfter
  maxAfter := some maxAfter

def Config.update (config : Config) (change : SetConfig) (time : Timestamp)
    (manager : Option Addr) : Config where
  prices := change.prices.getD config.prices
  manager := manager
  testMode := config.testMode
  callbackGasLimit := change.callbackGasLimit.getD config.callbackGasLimit
  payment := change.payment.or config.payment
  noisBeaconPrice := change.noisBeaconPrice.getD config.noisBeaconPrice
  noisBeaconPriceUpdated :=
    if change.noisBeaconPrice.isSome then time else config.noisBeaconPriceUpdated
  mode := change.mode.getD config.mode
  allowlistEnabled := some (change.allowlistEnabled.getD (config.allowlistEnabled.getD false))
  minAfter := change.minAfter.or config.minAfter
  maxAfter := change.maxAfter.or config.maxAfter

def Config.accepts (config : Config) (info : PriceInfo) : Bool :=
  info.denom = "unois" && config.noisBeaconPriceUpdated.nanos ≤ info.timestamp.nanos

def Config.reprice (config : Config) (info : PriceInfo) : Config :=
  if config.accepts info then
    { config with noisBeaconPrice := info.amount, noisBeaconPriceUpdated := info.timestamp }
  else config

theorem Config.accepts_iff {config : Config} {info : PriceInfo} :
    config.accepts info = true ↔
      info.denom = "unois" ∧ config.noisBeaconPriceUpdated.nanos ≤ info.timestamp.nanos := by
  simp [Config.accepts]

def Action.sets : Action → Option SetConfig
  | .execute _ (.setConfig change) => some change
  | .governance (.setConfig change) => some change
  | _ => none

def Action.withdraws : Action → Bool
  | .execute _ (.withdraw _ _ _) => true
  | .governance (.withdraw _ _ _) => true
  | .governance (.withdrawToCommunityPool _ _) => true
  | _ => false

def Action.idles : Action → Bool
  | .reply _ => true
  | .channelOpen _ => true
  | .packetReceive _ => true
  | .packetAck _ => true
  | .packetTimeout => true
  | _ => false

theorem loadConfig_eq_ok {storage after : Storage} {config : Config} :
    loadConfig storage = .ok config after ↔ storage.config = some config ∧ storage = after := by
  unfold loadConfig
  cases stored : storage.config <;> simp [stored]

theorem loadConfig_eq_error {storage after : Storage} {cause : StdError} :
    loadConfig storage = .error cause after ↔
      storage.config = none ∧ cause = .notFound "config" ∧ storage = after := by
  unfold loadConfig
  cases stored : storage.config <;> simp [stored, eq_comm]

theorem getGatewayChannel_eq_ok {storage after : Storage} {channel : String} :
    getGatewayChannel storage = .ok channel after ↔
      storage.gatewayChannel = some channel ∧ storage = after := by
  unfold getGatewayChannel
  cases stored : storage.gatewayChannel <;> simp [stored]

theorem addToAllowlist_ok {deps : Deps} {addresses : List String} {storage after : Storage}
    {done : Unit} (returned : addToAllowlist deps addresses storage = .ok done after) :
    ∃ allowlist, after = { storage with allowlist } := by
  induction addresses generalizing storage with
  | nil =>
      simp only [addToAllowlist, pure_eq_ok] at returned
      exact ⟨storage.allowlist, returned.2.symm⟩
  | cons address rest ih =>
      simp only [addToAllowlist, bind_eq_ok, ofExcept_eq_ok, writes_eq_ok] at returned
      obtain ⟨addr, _, ⟨_, rfl⟩, _, _, rfl, returned⟩ := returned
      obtain ⟨allowlist, changed⟩ := ih returned
      exact ⟨allowlist, changed⟩

theorem removeFromAllowlist_ok {deps : Deps} {addresses : List String} {storage after : Storage}
    {done : Unit} (returned : removeFromAllowlist deps addresses storage = .ok done after) :
    ∃ allowlist, after = { storage with allowlist } := by
  induction addresses generalizing storage with
  | nil =>
      simp only [removeFromAllowlist, pure_eq_ok] at returned
      exact ⟨storage.allowlist, returned.2.symm⟩
  | cons address rest ih =>
      simp only [removeFromAllowlist, bind_eq_ok, ofExcept_eq_ok, writes_eq_ok] at returned
      obtain ⟨addr, _, ⟨_, rfl⟩, _, _, rfl, returned⟩ := returned
      obtain ⟨allowlist, changed⟩ := ih returned
      exact ⟨allowlist, changed⟩

theorem ensureManager_eq_ok {info : MessageInfo} {storage after : Storage} {done : Unit} :
    ensureManager info storage = .ok done after ↔
      (∃ config, storage.config = some config ∧ config.manager = some info.sender) ∧
        storage = after := by
  simp only [ensureManager, bind_eq_ok, mapError_eq_ok, loadConfig_eq_ok, ensure_eq_ok]
  constructor
  · rintro ⟨config, _, ⟨configured, rfl⟩, manager, rfl⟩
    exact ⟨⟨config, configured, manager⟩, rfl⟩
  · rintro ⟨⟨config, configured, manager⟩, rfl⟩
    exact ⟨config, storage, ⟨configured, rfl⟩, manager, rfl⟩

def OptionalManager (deps : Deps) (named : Option String) (current manager : Option Addr) : Prop :=
  match named with
  | some text => ∃ addr, deps.addrValidate text = .ok addr ∧ manager = some addr
  | none => manager = current

theorem optionalManager_of_ok {deps : Deps} {named : Option String} {current manager : Option Addr}
    (validated : (match named with
      | some text => (deps.addrValidate text).map some
      | none => .ok current) = .ok manager) : OptionalManager deps named current manager := by
  cases named with
  | none => exact (Except.ok.inj validated).symm
  | some text =>
      cases valid : deps.addrValidate text with
      | error cause => simp [valid, Except.map] at validated
      | ok addr =>
          simp only [valid, Except.map, Except.ok.injEq] at validated
          exact ⟨addr, valid, validated.symm⟩

theorem setConfigUnchecked_ok {deps : Deps} {env : Env} {action : String} {change : SetConfig}
    {storage after : Storage} {response : Response ContractMsg}
    (returned : setConfigUnchecked deps env action change storage = .ok response after) :
    ∃ config manager, storage.config = some config ∧
      OptionalManager deps change.manager config.manager manager ∧
      after = { storage with config := some (config.update change env.block.time manager) } ∧
      response = { attributes := [("action", action)] } := by
  simp only [setConfigUnchecked, bind_eq_ok, mapError_eq_ok, loadConfig_eq_ok, ofExcept_eq_ok,
    saveConfig, writes_eq_ok, pure_eq_ok] at returned
  obtain ⟨config, _, ⟨configured, rfl⟩, manager, _, ⟨validated, rfl⟩, _, _, rfl, rfl, rfl⟩ :=
    returned
  refine ⟨config, manager, configured, optionalManager_of_ok validated, ?_, rfl⟩
  cases priced : change.noisBeaconPrice <;> simp [Config.update, priced]

inductive Asked (env : Env) (config : Config) (storage : Storage) :
    ExecuteMsg → Timestamp → String → Storage → Prop
  | after {after : Timestamp} {jobId : String} :
      Asked env config storage (.getRandomnessAfter after jobId) after jobId storage
  | next {after : Timestamp} {jobId : String} (clock : config.testMode = false)
      (margin : env.block.time.nanos + safetyMargin = after.nanos) :
      Asked env config storage (.getNextRandomness jobId) after jobId storage
  | test {next : Timestamp} {jobId : String} (detached : config.testMode = true)
      (stepped : (storage.testModeNextAfter.getD testModeNextAfterInit).plusSeconds
        testModeNextAfterIncrementSeconds = .ok next) :
      Asked env config storage (.getNextRandomness jobId)
        (storage.testModeNextAfter.getD testModeNextAfterInit) jobId
        { storage with testModeNextAfter := some next }

structure Admitted (info : MessageInfo) (config : Config) (storage : Storage) (after : Timestamp)
    (jobId : String) : Prop where
  short : jobId.utf8ByteSize ≤ maxJobIdLen
  paid : validatePayment config.prices info.funds = .ok ()
  allowed :
    config.allowlistEnabled.getD false = true → storage.allowlist.contains info.sender = true
  early : (config.minAfter.getD minAfterFallback).nanos ≤ after.nanos
  late : after.nanos ≤ (config.maxAfter.getD maxAfterFallback).nanos

theorem checkRequest_eq_ok {info : MessageInfo} {config : Config} {storage final : Storage}
    {after : Timestamp} {jobId : String} {done : Unit} :
    checkRequest info config after jobId storage = .ok done final ↔
      Admitted info config storage after jobId ∧ storage = final := by
  have short : validateJobId jobId = .ok () ↔ jobId.utf8ByteSize ≤ maxJobIdLen := by
    unfold validateJobId
    split <;> simp <;> omega
  simp only [checkRequest, bind_eq_ok, ofExcept_eq_ok, reads_eq_ok, ensure_eq_ok]
  constructor
  · rintro ⟨_, _, ⟨shortId, rfl⟩, _, _, ⟨paid, rfl⟩, _, _, ⟨rfl, rfl⟩, _, _, ⟨allowed, rfl⟩, _, _,
        ⟨early, rfl⟩, late, rfl⟩
    exact ⟨⟨short.mp shortId, paid, allowed, early, late⟩, rfl⟩
  · rintro ⟨admitted, rfl⟩
    exact ⟨(), storage, ⟨short.mpr admitted.short, rfl⟩, (), storage, ⟨admitted.paid, rfl⟩, _,
      storage, ⟨rfl, rfl⟩, (), storage, ⟨admitted.allowed, rfl⟩, (), storage, ⟨admitted.early, rfl⟩,
      admitted.late, rfl⟩

theorem transferMsgs_ok {env : Env} {config : Config} {transfers : List Msg} {msg : Msg}
    (transferred : transferMsgs env config = .ok transfers) (member : msg ∈ transfers) :
    ∃ unoisDenom payment timeout, config.mode = .ibcPay unoisDenom ∧ config.payment = some payment ∧
      config.noisBeaconPrice.isZero = false ∧
      msg = .ibcTransfer unoisDenom.ics20Channel payment ⟨unoisDenom.denom, config.noisBeaconPrice⟩
        timeout none := by
  unfold transferMsgs at transferred
  split at transferred
  · rename_i unoisDenom payment mode known
    split at transferred
    · cases transferred
      cases member
    · rename_i priced
      obtain ⟨timeout, _, transferred⟩ := except_bind_eq_ok.mp transferred
      cases transferred
      rw [List.mem_singleton] at member
      exact ⟨unoisDenom, payment, timeout, mode, known, by simpa using priced, member⟩
  · cases transferred
    cases member

theorem updateNoisBeaconPrice_ok {info : PriceInfo} {storage after : Storage} {done : Unit}
    (returned : updateNoisBeaconPrice info.timestamp info.amount info.denom storage =
      .ok done after) : after = { storage with config := storage.config.map (·.reprice info) } := by
  unfold updateNoisBeaconPrice at returned
  split at returned
  · rename_i foreign
    simp only [pure_eq_ok] at returned
    have same : storage.config.map (·.reprice info) = storage.config := by
      cases storage.config <;> simp [Config.reprice, Config.accepts, foreign]
    rw [same]
    exact returned.2.symm
  · rename_i native
    rw [not_not] at native
    simp only [bind_eq_ok, mapError_eq_ok, loadConfig_eq_ok] at returned
    obtain ⟨config, _, ⟨configured, rfl⟩, returned⟩ := returned
    split at returned
    · rename_i stale
      have ignored : config.accepts info = false := by simp [Config.accepts, stale]
      have same : storage.config.map (·.reprice info) = storage.config := by
        simp [configured, Config.reprice, ignored]
      simp only [pure_eq_ok] at returned
      rw [same]
      exact returned.2.symm
    · rename_i recent
      have applied : config.accepts info = true := by
        simp [Config.accepts, native, Nat.not_lt.mp recent]
      simp only [saveConfig, mapError_eq_ok, writes_eq_ok] at returned
      rw [← returned, configured, Option.map_some, Config.reprice, applied]
      rfl

theorem updateNoisBeaconPrice_error {timestamp : Timestamp} {amount : Uint128} {denom : String}
    {storage after : Storage} {cause : ContractError}
    (failed : updateNoisBeaconPrice timestamp amount denom storage = .error cause after) :
    storage = after := by
  unfold updateNoisBeaconPrice at failed
  split at failed
  · simp at failed
  · simp only [bind_eq_error, mapError_eq_error, mapError_eq_ok, loadConfig_eq_error,
      loadConfig_eq_ok] at failed
    rcases failed with ⟨_, ⟨_, _, same⟩, _⟩ | ⟨config, _, ⟨_, rfl⟩, failed⟩
    · exact same
    · split at failed
      · simp at failed
      · simp [saveConfig, mapError_eq_error] at failed

section

variable [Wire]

def perform (deps : Deps) (contract : Addr) (tx : Tx) :
    Call Storage ContractError (Response ContractMsg) :=
  let env := tx.env contract
  match tx.action with
  | .instantiate msg => mapError .std (instantiate deps env msg)
  | .execute info msg => execute deps env tx.balances info msg
  | .governance msg => sudoEntry deps env tx.balances msg
  | .migrate => mapError .std (migrate env)
  | .reply replied => reply replied
  | .channelOpen msg => do
      let _ ← ofExcept (ibcChannelOpen msg)
      pure {}
  | .channelConnect msg => ibcChannelConnect msg
  | .channelClose msg => ibcChannelClose msg
  | .packetReceive msg => mapError (fun never => nomatch never) (ibcPacketReceive msg)
  | .packetAck acknowledgement => ibcPacketAck acknowledgement
  | .packetTimeout => mapError .std ibcPacketTimeout

def system (deps : Deps) (contract : Addr) :
    Journal.System Storage Tx ContractError (Response ContractMsg) :=
  ⟨admits, perform deps contract⟩

def attempt (deps : Deps) (contract : Addr) : World → Tx → Option World :=
  (system deps contract).attempt

def reached (deps : Deps) (contract : Addr) (txs : List Tx) : World :=
  (system deps contract).reached Storage.empty txs

def requestMsg (info : MessageInfo) (channel : String) (after : Timestamp) (jobId : String)
    (timeout : Timestamp) : Msg :=
  .ibcSendPacket channel (Wire.inPacket.toJsonBinary
    (.requestBeacon after (Wire.origin.toJsonBinary ⟨info.sender, jobId⟩))) timeout

/-- Everything that a successful request does. -/
structure Requested (env : Env) (info : MessageInfo) (msg : ExecuteMsg) (storage : Storage)
    (response : Response ContractMsg) (final : Storage) (config : Config) (after : Timestamp)
    (jobId channel : String) : Prop where
  configured : storage.config = some config
  asked : Asked env config storage msg after jobId final
  admitted : Admitted info config storage after jobId
  connected : storage.gatewayChannel = some channel
  sent : ∃ transfers timeout, transferMsgs env config = .ok transfers ∧
    env.block.time.plusSeconds requestBeaconPacketLifetime = .ok timeout ∧
    response.msgs = transfers ++ [requestMsg info channel after jobId timeout]

theorem executeGetRandomnessImpl_ok {env : Env} {info : MessageInfo} {action : String}
    {config : Config} {after : Timestamp} {jobId : String} {storage final : Storage}
    {response : Response ContractMsg}
    (returned : executeGetRandomnessImpl env info action config after jobId storage =
      .ok response final) :
    Admitted info config storage after jobId ∧
      (∃ channel, storage.gatewayChannel = some channel ∧
        ∃ transfers timeout, transferMsgs env config = .ok transfers ∧
          env.block.time.plusSeconds requestBeaconPacketLifetime = .ok timeout ∧
          response.msgs = transfers ++ [requestMsg info channel after jobId timeout]) ∧
      storage = final := by
  simp only [executeGetRandomnessImpl, bind_eq_ok, checkRequest_eq_ok, getGatewayChannel_eq_ok,
    ofPanics_eq_ok, pure_eq_ok] at returned
  obtain ⟨_, _, ⟨admitted, rfl⟩, channel, _, ⟨connected, rfl⟩, transfers, _, ⟨transferred, rfl⟩,
      timeout, _, ⟨deadline, rfl⟩, rfl, rfl⟩ := returned
  refine ⟨admitted, ⟨channel, connected, transfers, timeout, transferred, deadline, ?_⟩, rfl⟩
  simp only [Response.addMessages, Response.msgs, List.nil_append, SubMsg.map_msg_new]
  rfl

theorem executeGetRandomnessAfter_ok {env : Env} {info : MessageInfo} {after : Timestamp}
    {jobId : String} {storage final : Storage} {response : Response ContractMsg}
    (returned : executeGetRandomnessAfter env info after jobId storage = .ok response final) :
    ∃ config channel, Requested env info (.getRandomnessAfter after jobId) storage response final
      config after jobId channel := by
  simp only [executeGetRandomnessAfter, bind_eq_ok, mapError_eq_ok, loadConfig_eq_ok] at returned
  obtain ⟨config, _, ⟨configured, rfl⟩, returned⟩ := returned
  obtain ⟨admitted, ⟨channel, connected, sent⟩, rfl⟩ := executeGetRandomnessImpl_ok returned
  exact ⟨config, channel, configured, .after, admitted, connected, sent⟩

theorem executeGetNextRandomness_ok {env : Env} {info : MessageInfo} {jobId : String}
    {storage final : Storage} {response : Response ContractMsg}
    (returned : executeGetNextRandomness env info jobId storage = .ok response final) :
    ∃ config after channel, Requested env info (.getNextRandomness jobId) storage response final
      config after jobId channel := by
  simp only [executeGetNextRandomness, bind_eq_ok, mapError_eq_ok, loadConfig_eq_ok] at returned
  obtain ⟨config, _, ⟨configured, rfl⟩, after, _, calculated, returned⟩ := returned
  obtain ⟨admitted, ⟨channel, connected, sent⟩, rfl⟩ := executeGetRandomnessImpl_ok returned
  refine ⟨config, after, channel, ?_⟩
  cases mode : config.testMode with
  | false =>
      simp only [mode, Bool.false_eq_true, if_false, calculateAfter, ofPanics_eq_ok,
        Timestamp.plusNanos_eq_ok] at calculated
      obtain ⟨margin, rfl⟩ := calculated
      exact ⟨configured, .next mode margin, admitted, connected, sent⟩
  | true =>
      simp only [mode, if_true, calculateAfter, bind_eq_ok, reads_eq_ok, ofPanics_eq_ok,
        writes_eq_ok, pure_eq_ok] at calculated
      obtain ⟨_, _, ⟨rfl, rfl⟩, next, _, ⟨stepped, rfl⟩, _, _, rfl, rfl, rfl⟩ := calculated
      exact ⟨configured, .test mode stepped,
        ⟨admitted.short, admitted.paid, admitted.allowed, admitted.early, admitted.late⟩, connected,
        sent⟩

def Action.price : Action → Option PriceInfo
  | .packetReceive msg =>
      match Wire.outPacket.fromJson msg.data with
      | .ok (.pushBeaconPrice timestamp amount denom) => some ⟨timestamp, amount, denom⟩
      | _ => none
  | .packetAck acknowledgement =>
      match Wire.stdAck.fromJson acknowledgement with
      | .ok (.success data) =>
          match Wire.inPacketAck.fromJson data with
          | .ok (.pullBeaconPrice timestamp amount denom) => some ⟨timestamp, amount, denom⟩
          | _ => none
      | _ => none
  | _ => none

/-- Everything that a returning entry point does. -/
inductive Effect (deps : Deps) (env : Env) (storage : Storage) :
    Action → Response ContractMsg → Storage → Prop
  | instantiated {msg : InstantiateMsg} {manager : Option Addr} {maxAfter : Timestamp}
      {allowlist : Store Addr Nat} {version : Option (String × String)}
      {response : Response ContractMsg} (named : OptionalManager deps msg.manager none manager)
      (years : env.block.time.plusSeconds tenYearsS = .ok maxAfter)
      (messages : response.messages = []) :
      Effect deps env storage (.instantiate msg) response { storage with
          config := some (Config.initial msg manager env.block.time maxAfter)
          allowlist
          contractVersion := version }
  | requested {info : MessageInfo} {msg : ExecuteMsg} {response : Response ContractMsg}
      {final : Storage} {config : Config} {after : Timestamp} {jobId channel : String}
      (request : Requested env info msg storage response final config after jobId channel) :
      Effect deps env storage (.execute info msg) response final
  | configured {action : Action} {change : SetConfig} {config : Config} {manager : Option Addr}
      {response : Response ContractMsg} (sets : action.sets = some change)
      (configured : storage.config = some config)
      (authorized : ∀ info msg, action = .execute info msg → config.manager = some info.sender)
      (named : OptionalManager deps change.manager config.manager manager)
      (messages : response.messages = []) :
      Effect deps env storage action response
        { storage with config := some (config.update change env.block.time manager) }
  | withdrawn {action : Action} {response : Response ContractMsg}
      (withdraws : action.withdraws = true)
      (authorized : ∀ info msg, action = .execute info msg →
        ∃ config, storage.config = some config ∧ config.manager = some info.sender)
      (unsent : ∀ channel data timeout, .ibcSendPacket channel data timeout ∉ response.msgs)
      (uncalled : ∀ called msg funds, .wasmExecute called msg funds ∉ response.msgs) :
      Effect deps env storage action response storage
  | allowlisted {info : MessageInfo} {add remove : List String} {config : Config}
      {allowlist : Store Addr Nat} {response : Response ContractMsg}
      (configured : storage.config = some config) (authorized : config.manager = some info.sender)
      (messages : response.messages = []) :
      Effect deps env storage (.execute info (.updateAllowlist add remove)) response
        { storage with allowlist }
  | migrated {config : Config} {maxAfter : Timestamp} {version : Option (String × String)}
      {response : Response ContractMsg} (configured : storage.config = some config)
      (limited : (match config.maxAfter with
        | some time => .ok time
        | none => env.block.time.plusSeconds tenYearsS) = Except.ok maxAfter)
      (messages : response.messages = []) :
      Effect deps env storage .migrate response
        { storage with
          config := some { config with
            minAfter := some (config.minAfter.getD env.block.time)
            maxAfter := some maxAfter
            allowlistEnabled := some (config.allowlistEnabled.getD false) }
          contractVersion := version }
  | connected {channel : IbcChannel} {version : String} {response : Response ContractMsg}
      (free : storage.gatewayChannel = none) (messages : response.messages = []) :
      Effect deps env storage (.channelConnect (.openAck channel version)) response
        { storage with gatewayChannel := some channel.channelId }
  | closed {channel : IbcChannel} {response : Response ContractMsg}
      (messages : response.messages = []) :
      Effect deps env storage (.channelClose (.closeConfirm channel)) response
        { storage with gatewayChannel := none }
  | delivered {msg : IbcPacketReceiveMsg} {sourceId : String} {published : Timestamp}
      {randomness data : Binary} {origin : RequestBeaconOrigin} {response : Response ContractMsg}
      (decoded : Wire.outPacket.fromJson msg.data =
        .ok (.deliverBeacon sourceId published randomness data))
      (originated : Wire.origin.fromJson data = .ok origin)
      (callback : response.msgs =
        [.wasmExecute origin.sender (.noisReceive ⟨origin.jobId, published, randomness⟩) []]) :
      Effect deps env storage (.packetReceive msg) response storage
  | welcomed {msg : IbcPacketReceiveMsg} {payment : String} {config : Config}
      {response : Response ContractMsg}
      (decoded : Wire.outPacket.fromJson msg.data = .ok (.welcome payment))
      (configured : storage.config = some config)
      (acknowledged : ∃ data, response.acknowledgement = some (.success data))
      (messages : response.messages = []) :
      Effect deps env storage (.packetReceive msg) response
        { storage with config := some { config with payment := some payment } }
  | priced {action : Action} {info : PriceInfo} {response : Response ContractMsg}
      (carries : action.price = some info) (messages : response.messages = []) :
      Effect deps env storage action response
        { storage with config := storage.config.map (·.reprice info) }
  | idle {action : Action} {response : Response ContractMsg} (idles : action.idles = true)
      (refused : ∀ msg, action = .packetReceive msg →
        ∃ text, response.acknowledgement = some (.error text)) (messages : response.messages = []) :
      Effect deps env storage action response storage

theorem receivePacket_ok {deps : Deps} {env : Env} {msg : IbcPacketReceiveMsg}
    {storage after : Storage} {response : Response ContractMsg}
    (returned : receivePacket msg storage = .ok response after) :
    Effect deps env storage (.packetReceive msg) response after := by
  simp only [receivePacket, bind_eq_ok, mapError_eq_ok, ofExcept_eq_ok] at returned
  obtain ⟨packet, _, ⟨decoded, rfl⟩, returned⟩ := returned
  cases packet with
  | deliverBeacon sourceId published randomness data =>
      simp only [receiveDeliverBeacon, bind_eq_ok, mapError_eq_ok, loadConfig_eq_ok, ofExcept_eq_ok,
        pure_eq_ok] at returned
      obtain ⟨config, _, ⟨configured, rfl⟩, origin, _, ⟨originated, rfl⟩, rfl, rfl⟩ := returned
      exact .delivered decoded originated rfl
  | welcome payment =>
      simp only [receiveWelcome, bind_eq_ok, mapError_eq_ok, loadConfig_eq_ok, saveConfig,
        writes_eq_ok, pure_eq_ok] at returned
      obtain ⟨config, _, ⟨configured, rfl⟩, _, _, rfl, rfl, rfl⟩ := returned
      exact .welcomed decoded configured ⟨_, rfl⟩ rfl
  | pushBeaconPrice timestamp amount denom =>
      simp only [receivePushBeaconPrice, bind_eq_ok, pure_eq_ok] at returned
      obtain ⟨_, _, updated, rfl, rfl⟩ := returned
      have changed := @updateNoisBeaconPrice_ok ⟨timestamp, amount, denom⟩ _ _ _ updated
      subst changed
      exact .priced (by simp only [Action.price, decoded]) rfl

theorem receivePacket_error {msg : IbcPacketReceiveMsg} {storage after : Storage}
    {cause : ContractError} (failed : receivePacket msg storage = .error cause after) :
    storage = after := by
  simp only [receivePacket, bind_eq_error, mapError_eq_error, mapError_eq_ok, ofExcept_eq_error,
    ofExcept_eq_ok] at failed
  rcases failed with ⟨_, ⟨_, same⟩, _⟩ | ⟨packet, _, ⟨_, rfl⟩, failed⟩
  · exact same
  · cases packet with
    | deliverBeacon sourceId published randomness data =>
        simp only [receiveDeliverBeacon, bind_eq_error, mapError_eq_error, mapError_eq_ok,
          loadConfig_eq_error, loadConfig_eq_ok, ofExcept_eq_error, pure_apply, reduceCtorEq,
          and_false, exists_false, or_false] at failed
        rcases failed with ⟨_, ⟨_, _, same⟩, _⟩ | ⟨_, _, ⟨_, rfl⟩, _, ⟨_, same⟩, _⟩
        · exact same
        · exact same
    | welcome payment =>
        simp only [receiveWelcome, bind_eq_error, mapError_eq_error, mapError_eq_ok,
          loadConfig_eq_error, saveConfig, writes_apply, pure_apply, reduceCtorEq, false_and,
          and_false, exists_false, or_false] at failed
        obtain ⟨_, ⟨_, _, same⟩, _⟩ := failed
        exact same
    | pushBeaconPrice timestamp amount denom =>
        simp only [receivePushBeaconPrice, bind_eq_error, pure_apply, reduceCtorEq, and_false,
          exists_false, or_false] at failed
        exact updateNoisBeaconPrice_error failed

theorem ibcPacketReceive_ok {deps : Deps} {env : Env} {msg : IbcPacketReceiveMsg}
    {storage after : Storage} {response : Response ContractMsg}
    (returned : ibcPacketReceive msg storage = .ok response after) :
    Effect deps env storage (.packetReceive msg) response after := by
  rw [ibcPacketReceive, orElse_eq_ok] at returned
  rcases returned with returned | ⟨cause, middle, failed, returned⟩
  · exact receivePacket_ok returned
  · have same := receivePacket_error failed
    subst same
    simp only [pure_eq_ok] at returned
    obtain ⟨rfl, rfl⟩ := returned
    refine .idle rfl ?_ rfl
    intro msg _
    exact ⟨_, rfl⟩

theorem ibcPacketAck_ok {deps : Deps} {env : Env} {data : Binary} {storage after : Storage}
    {response : Response ContractMsg} (returned : ibcPacketAck data storage = .ok response after) :
    Effect deps env storage (.packetAck data) response after := by
  simp only [ibcPacketAck, bind_eq_ok, mapError_eq_ok, ofExcept_eq_ok] at returned
  obtain ⟨ack, _, ⟨decoded, rfl⟩, returned⟩ := returned
  cases ack with
  | error err =>
      simp only [pure_eq_ok] at returned
      obtain ⟨rfl, rfl⟩ := returned
      exact .idle rfl (by simp) rfl
  | success inner =>
      simp only [bind_eq_ok, mapError_eq_ok, ofExcept_eq_ok] at returned
      obtain ⟨answer, _, ⟨read, rfl⟩, returned⟩ := returned
      cases answer with
      | requestProcessed sourceId =>
          simp only [bind_eq_ok, pure_eq_ok] at returned
          obtain ⟨_, _, ⟨_, rfl⟩, rfl, rfl⟩ := returned
          exact .idle rfl (by simp) rfl
      | requestQueued sourceId =>
          simp only [bind_eq_ok, pure_eq_ok] at returned
          obtain ⟨_, _, ⟨_, rfl⟩, rfl, rfl⟩ := returned
          exact .idle rfl (by simp) rfl
      | pullBeaconPrice timestamp amount denom =>
          simp only [bind_eq_ok, pure_eq_ok] at returned
          obtain ⟨_, _, updated, _, _, ⟨_, rfl⟩, rfl, rfl⟩ := returned
          have changed := @updateNoisBeaconPrice_ok ⟨timestamp, amount, denom⟩ _ _ _ updated
          subst changed
          exact .priced (by simp only [Action.price, decoded, read]) rfl

theorem execute_ok {deps : Deps} {env : Env} {balances : List Coin} {info : MessageInfo}
    {msg : ExecuteMsg} {storage after : Storage} {response : Response ContractMsg}
    (returned : execute deps env balances info msg storage = .ok response after) :
    Effect deps env storage (.execute info msg) response after := by
  cases msg with
  | getNextRandomness jobId =>
      obtain ⟨config, time, channel, request⟩ := executeGetNextRandomness_ok returned
      exact .requested request
  | getRandomnessAfter time jobId =>
      obtain ⟨config, channel, request⟩ := executeGetRandomnessAfter_ok returned
      exact .requested request
  | setConfig change =>
      simp only [execute, executeSetConfig, bind_eq_ok, ensureManager_eq_ok] at returned
      obtain ⟨_, _, ⟨⟨config, configured, authorized⟩, rfl⟩, returned⟩ := returned
      obtain ⟨found, manager, stored, named, rfl, rfl⟩ := setConfigUnchecked_ok returned
      rw [configured] at stored
      cases stored
      refine .configured rfl configured ?_ named rfl
      intro sender msg same
      cases same
      exact authorized
  | withdraw denom amount address =>
      simp only [execute, executeWithdraw, withdrawUnchecked, bind_eq_ok, ensureManager_eq_ok,
        mapError_eq_ok, ofExcept_eq_ok, pure_eq_ok] at returned
      obtain ⟨_, _, ⟨authorized, rfl⟩, _, _, ⟨_, rfl⟩, rfl, rfl⟩ := returned
      refine .withdrawn rfl ?_ (by simp [Response.addMessages, Response.msgs])
        (by simp [Response.addMessages, Response.msgs])
      intro sender msg same
      cases same
      exact authorized
  | updateAllowlist add remove =>
      simp only [execute, executeUpdateAllowlist, updateAllowlistUnchecked, bind_eq_ok,
        ensureManager_eq_ok, mapError_eq_ok, pure_eq_ok] at returned
      obtain ⟨_, _, ⟨⟨config, configured, authorized⟩, rfl⟩, _, _, ⟨_, _, added, removed⟩, rfl,
          rfl⟩ := returned
      obtain ⟨_, rfl⟩ := addToAllowlist_ok added
      obtain ⟨_, rfl⟩ := removeFromAllowlist_ok removed
      exact .allowlisted configured authorized rfl

theorem sudoEntry_ok {deps : Deps} {env : Env} {balances : List Coin} {msg : SudoMsg}
    {storage after : Storage} {response : Response ContractMsg}
    (returned : sudoEntry deps env balances msg storage = .ok response after) :
    Effect deps env storage (.governance msg) response after := by
  cases msg with
  | withdraw denom amount address =>
      simp only [sudoEntry, sudoWithdraw, withdrawUnchecked, bind_eq_ok, mapError_eq_ok,
        ofExcept_eq_ok, pure_eq_ok] at returned
      obtain ⟨_, _, ⟨_, rfl⟩, rfl, rfl⟩ := returned
      exact .withdrawn rfl (by simp) (by simp [Response.addMessages, Response.msgs])
        (by simp [Response.addMessages, Response.msgs])
  | withdrawToCommunityPool denom amount =>
      simp only [sudoEntry, sudoWithdrawToCommunityPool, withdrawToCommunityPoolUnchecked,
        pure_eq_ok] at returned
      obtain ⟨rfl, rfl⟩ := returned
      exact .withdrawn rfl (by simp) (by simp [Response.addMessages, Response.msgs])
        (by simp [Response.addMessages, Response.msgs])
  | setConfig change =>
      obtain ⟨config, manager, configured, named, rfl, rfl⟩ := setConfigUnchecked_ok returned
      exact .configured rfl configured (by simp) named rfl

theorem perform_effect {deps : Deps} {contract : Addr} {tx : Tx} {storage after : Storage}
    {response : Response ContractMsg}
    (returned : perform deps contract tx storage = .ok response after) :
    Effect deps (tx.env contract) storage tx.action response after := by
  cases action : tx.action with
  | instantiate msg =>
      simp only [perform, action, instantiate, mapError_eq_ok, bind_eq_ok, ofExcept_eq_ok,
        ofPanics_eq_ok, saveConfig, setContractVersion, writes_eq_ok, pure_eq_ok] at returned
      obtain ⟨manager, _, ⟨validated, rfl⟩, maxAfter, _, ⟨years, rfl⟩, _, _, rfl, _, _, listed, _,
          _, rfl, rfl, rfl⟩ := returned
      obtain ⟨allowlist, rfl⟩ := addToAllowlist_ok listed
      exact .instantiated (optionalManager_of_ok validated) years rfl
  | execute info msg =>
      simp only [perform, action] at returned
      exact execute_ok returned
  | governance msg =>
      simp only [perform, action] at returned
      exact sudoEntry_ok returned
  | migrate =>
      simp only [perform, action, migrate, mapError_eq_ok, bind_eq_ok, loadConfig_eq_ok, saveConfig,
        setContractVersion, writes_eq_ok, ofPanics_eq_ok, pure_eq_ok] at returned
      obtain ⟨config, _, ⟨configured, rfl⟩, maxAfter, _, ⟨limited, rfl⟩, _, _, rfl, _, _, rfl, rfl,
          rfl⟩ := returned
      exact .migrated configured limited rfl
  | reply replied =>
      simp only [perform, action, reply, bind_eq_ok, ensure_eq_ok, pure_eq_ok] at returned
      obtain ⟨_, _, ⟨_, rfl⟩, rfl, rfl⟩ := returned
      exact .idle rfl (by simp) rfl
  | channelOpen msg =>
      simp only [perform, action, bind_eq_ok, ofExcept_eq_ok, pure_eq_ok] at returned
      obtain ⟨_, _, ⟨_, rfl⟩, rfl, rfl⟩ := returned
      exact .idle rfl (by simp) rfl
  | channelConnect msg =>
      cases msg with
      | openConfirm channel => simp [perform, action, ibcChannelConnect] at returned
      | openAck channel version =>
          simp only [perform, action, ibcChannelConnect, bind_eq_ok, reads_eq_ok, ensure_eq_ok,
            writes_eq_ok, pure_eq_ok] at returned
          obtain ⟨_, _, ⟨rfl, rfl⟩, _, _, ⟨rfl, rfl⟩, _, _, ⟨free, rfl⟩, _, _, rfl, rfl, rfl⟩ :=
            returned
          exact .connected (by simpa using free) rfl
  | channelClose msg =>
      cases msg with
      | closeInit channel => simp [perform, action, ibcChannelClose] at returned
      | closeConfirm channel =>
          simp only [perform, action, ibcChannelClose, bind_eq_ok, writes_eq_ok, pure_eq_ok]
            at returned
          obtain ⟨_, _, rfl, rfl, rfl⟩ := returned
          exact .closed rfl
  | packetReceive msg =>
      simp only [perform, action, mapError_eq_ok] at returned
      exact ibcPacketReceive_ok returned
  | packetAck data =>
      simp only [perform, action] at returned
      exact ibcPacketAck_ok returned
  | packetTimeout =>
      simp only [perform, action, ibcPacketTimeout, mapError_eq_ok, pure_eq_ok] at returned
      obtain ⟨rfl, rfl⟩ := returned
      exact .idle rfl (by simp) rfl

theorem attempt_effect {deps : Deps} {contract : Addr} {world next : World} {tx : Tx}
    (committed : attempt deps contract world tx = some next) :
    admits world.storage tx = true ∧ ∃ response after,
      Effect deps (tx.env contract) world.storage tx.action response after ∧
        next = world.commit tx response after := by
  obtain ⟨admitted, response, after, returned, rfl⟩ := Journal.System.attempt_eq_some.mp committed
  exact ⟨admitted, response, after, perform_effect returned, rfl⟩

end

end NoisContracts.Proxy
