import NoisContracts.Library.Deque
import NoisContracts.Library.Store
import NoisContracts.DrandCommon
import NoisContracts.Protocol

/-!
Executable model of `nois-gateway`: its storage, the request router and the entry
points. Every cell of the storage is a field of its own. A `Deque` of the requests
log is the list of its entries from front to back; its positions are 32 bit numbers
that wrap around, and nothing is ever taken from its front. The loop of `new_drand` breaks at
its limit, so that many iterations are all it can make.
-/

namespace NoisContracts.Gateway

open ContractCall ContractCall.Call OrderedStore

structure Config where
  drand : Option Addr
  trustedSources : Option (List Addr)
  manager : Addr
  price : Coin
  paymentCodeId : Nat
  paymentInitialFunds : Option Coin
  sink : Addr
deriving DecidableEq, Repr

structure Customer where
  payment : Addr
  requestedBeacons : Nat
deriving DecidableEq, Repr

structure Job where
  sourceId : String
  channel : String
  origin : Binary
deriving DecidableEq, Repr

structure RequestLogEntry where
  origin : Binary
  tx : Nat × Option Nat
  sourceId : String
  queued : Bool
deriving DecidableEq, Repr

instance jobKeyOrder : Std.TransCmp (compare : Nat ×ₗ Nat → Nat ×ₗ Nat → Ordering) := inferInstance

structure Storage where
  contractVersion : Option (String × String)
  config : Option Config
  customers : Store String Customer
  jobs : Store (Nat ×ₗ Nat) Job
  lastJobId : Store Nat Nat
  processedDrandJobsCount : Store Nat Nat
  requestsLog : Store String (List RequestLogEntry)
  archive : Store Nat Binary

def Storage.empty : Storage := ⟨none, none, ∅, ∅, ∅, ∅, ∅, ∅⟩

inductive ContractError where
  | std (error : StdError)
  | unauthorized
  | codeIdDoesNotExist (codeId : Nat)
  | originTooLong
  | unauthorizedAddVerifiedRound
  | mustBeChainB
  | unsupportedPacketType
  | channelError (error : ChannelError)
deriving DecidableEq, Repr

def ContractError.toString : ContractError → String
  | .std error => error.toString
  | .unauthorized => "Unauthorized"
  | .codeIdDoesNotExist codeId => "Code ID does not exist: " ++ Nat.repr codeId
  | .originTooLong => "Origin data exceeds length limit."
  | .unauthorizedAddVerifiedRound => "Sender is unauthorized to add verified round."
  | .mustBeChainB => "The nois-gateway contract must be on chain B of the connection. " ++
      "Try swapping A and B in the channel creation."
  | .unsupportedPacketType => "Unsupported packet type."
  | .channelError error => error.toString

structure InstantiateMsg where
  price : Coin
  manager : String
  paymentCodeId : Nat
  paymentInitialFunds : Option Coin
  sink : String
deriving DecidableEq, Repr

inductive ExecuteMsg where
  | addVerifiedRound (round : Nat) (randomness : Binary) (isVerifyingTx : Bool)
  | setConfig (manager : Option String) (price : Option Coin) (drandAddr : Option String)
      (paymentInitialFunds : Option Coin) (trustedSources : Option (List String))
deriving DecidableEq, Repr

/-! The state modules: config, customers, drand jobs, requests log, stats and archive. -/

def loadConfig : Call Storage StdError Config := do
  match ← reads Storage.config with
  | some config => pure config
  | none => fail (.notFound "config")

def saveConfig (config : Config) : Call Storage StdError Unit :=
  writes fun storage => { storage with config := some config }

def setContractVersion : Call Storage StdError Unit :=
  writes fun storage => { storage with contractVersion := some ("nois-gateway", "0.15.4") }

def loadCustomer (channelId : String) : Call Storage StdError Customer := do
  match ← reads fun storage => storage.customers[channelId]? with
  | some customer => pure customer
  | none => fail (.notFound "customers")

def saveCustomer (channelId : String) (customer : Customer) : Call Storage StdError Unit :=
  writes fun storage => { storage with customers := storage.customers.insert channelId customer }

def roundToU32 (round : Nat) : Panics Nat :=
  if round < 2 ^ 32 then .ok round else .error (.expect "round must not exceed u32 range")

def unprocessedDrandJobsEnqueue (round : Nat) (value : Job) : Call Storage StdError Unit := do
  let round ← ofPanics (roundToU32 round)
  let lastId ← reads fun storage => storage.lastJobId[round]?
  let newId ← ofPanics (checkedAdd 16 (lastId.getD 0) 1)
  writes fun storage => { storage with jobs := storage.jobs.insert (toLex (round, newId)) value }
  writes fun storage => { storage with lastJobId := storage.lastJobId.insert round newId }

def unprocessedDrandJobsDequeue (round : Nat) : Call Storage StdError (Option Job) := do
  let round ← ofPanics (roundToU32 round)
  let first ← reads fun storage => (prefixRange storage.jobs round).head?
  match first with
  | none => pure none
  | some (id, job) =>
      writes fun storage => { storage with jobs := storage.jobs.erase (toLex (round, id)) }
      pure (some job)

def unprocessedDrandJobsLen (round : Nat) : Call Storage StdError Nat := do
  let round ← ofPanics (roundToU32 round)
  let count ← reads fun storage => (prefixRange storage.jobs round).length
  pure (count % 2 ^ 32)

def getProcessedDrandJobs (storage : Storage) (round : Nat) : Nat :=
  storage.processedDrandJobsCount[round]?.getD 0

def incrementProcessedDrandJobs (round : Nat) : Call Storage StdError Unit := do
  let current ← reads fun storage => getProcessedDrandJobs storage round
  let next ← ofPanics (checkedAdd 32 current 1)
  writes fun storage =>
    { storage with processedDrandJobsCount := storage.processedDrandJobsCount.insert round next }

def requestsLogKey (channelId : String) : String := "rl_" ++ channelId

def requestsLogOf (storage : Storage) (channelId : String) : List RequestLogEntry :=
  storage.requestsLog[requestsLogKey channelId]?.getD []

def requestsLogAdd (channelId : String) (entry : RequestLogEntry) : Call Storage StdError Unit :=
  writes fun storage =>
    { storage with
      requestsLog := storage.requestsLog.insert (requestsLogKey channelId)
        (Deque.pushBack (2 ^ 32) (requestsLogOf storage channelId) entry) }

def archiveLookup (storage : Storage) (round : Nat) : Option Binary := storage.archive[round]?

/-- The storage of the host refuses an empty value. -/
def archiveStore (round : Nat) (randomness : Binary) : Call Storage StdError Unit := do
  ofPanics (if randomness.isEmpty then .error (.expect "Value must not be empty in Storage::set")
    else .ok ())
  writes fun storage => { storage with archive := storage.archive.insert round randomness }

def maxOriginLen : Nat := 512

def validateOrigin (origin : Binary) : Except ContractError Unit :=
  if origin.length > maxOriginLen then .error .originTooLong else .ok ()

/-! The request router. -/

def maxJobsPerSubmissionWithVerification : Nat := 1

def maxJobsPerSubmissionWithoutVerification : Nat := 10

structure RoutingReceipt where
  queued : Bool
  sourceId : String
  acknowledgement : StdAck
  msgs : List Msg

structure NewDrand where
  msgs : List Msg
  jobsProcessed : Nat

def sourceIdOf (round : Nat) : String := "drand:" ++ drandChainHash ++ ":" ++ Nat.repr round

def commitToDrandRound (after : Timestamp) : Panics (Nat × String) := do
  let round ← roundAfter after
  pure (round, sourceIdOf round)

variable [Wire]

def createDeliverBeaconIbcMessage (blocktime : Timestamp) (job : Job) (published : Timestamp)
    (randomness : Binary) : Panics Msg := do
  let packet := OutPacket.deliverBeacon job.sourceId published randomness job.origin
  let timeout ← blocktime.plusSeconds deliverBeaconPacketLifetime
  pure (.ibcSendPacket job.channel (Wire.outPacket.toJsonBinary packet) timeout)

def handleDrandRequest (env : Env) (channel : String) (after : Timestamp) (origin : Binary) :
    Call Storage StdError RoutingReceipt := do
  let (round, sourceId) ← ofPanics (commitToDrandRound after)
  let existingRandomness ← reads fun storage => archiveLookup storage round
  let job : Job := { sourceId, channel, origin }
  let (queued, msgs) ←
    match existingRandomness with
    | some randomness => do
        incrementProcessedDrandJobs round
        let published ← ofPanics (timeOfRound round)
        let msg ← ofPanics (createDeliverBeaconIbcMessage env.block.time job published randomness)
        pure (false, [msg])
    | none => do
        unprocessedDrandJobsEnqueue round job
        let config ← loadConfig
        match config.drand with
        | some drandAddr =>
            pure (true, [CosmosMsg.wasmExecute drandAddr (.setIncentivized round) []])
        | none => pure (true, [])
  let acknowledgement :=
    if queued then StdAck.success (Wire.inPacketAck.toJsonBinary (.requestQueued sourceId))
    else StdAck.success (Wire.inPacketAck.toJsonBinary (.requestProcessed sourceId))
  pure { queued, sourceId, acknowledgement, msgs }

def route (env : Env) (channel : String) (after : Timestamp) (origin : Binary) :
    Call Storage StdError RoutingReceipt :=
  handleDrandRequest env channel after origin

def newDrandLoop (env : Env) (round : Nat) (randomness : Binary) (limit : Nat) :
    Nat → NewDrand → Call Storage StdError NewDrand
  | 0, collected => pure collected
  | fuel + 1, collected => do
      match ← unprocessedDrandJobsDequeue round with
      | none => pure collected
      | some job =>
          incrementProcessedDrandJobs round
          let published ← ofPanics (timeOfRound round)
          let msg ← ofPanics
            (createDeliverBeaconIbcMessage env.block.time job published randomness)
          let collected : NewDrand := ⟨collected.msgs ++ [msg], collected.jobsProcessed + 1⟩
          if collected.jobsProcessed ≥ limit then pure collected
          else newDrandLoop env round randomness limit fuel collected

def maxJobsPerSubmission (isVerifyingTx : Bool) : Nat :=
  if isVerifyingTx then maxJobsPerSubmissionWithVerification
  else maxJobsPerSubmissionWithoutVerification

def newDrand (env : Env) (round : Nat) (randomness : Binary) (isVerifyingTx : Bool) :
    Call Storage StdError NewDrand := do
  archiveStore round randomness
  let limit := maxJobsPerSubmission isVerifyingTx
  newDrandLoop env round randomness limit limit ⟨[], 0⟩

/-! The entry points. -/

def ensureCodeIdExists (deps : Deps) (codeId : Nat) : Except ContractError Unit :=
  match deps.codeInfo codeId with
  | .found _ => .ok ()
  | .noSuchCode => .error (.codeIdDoesNotExist codeId)
  | .systemError msg => .error (.std (.genericErr ("Querier system error: " ++ msg)))

omit [Wire] in
def instantiate (deps : Deps) (msg : InstantiateMsg) :
    Call Storage ContractError (Response ContractMsg) := do
  let manager ← mapError .std (ofExcept (deps.addrValidate msg.manager))
  let sink ← mapError .std (ofExcept (deps.addrValidate msg.sink))
  ofExcept (ensureCodeIdExists deps msg.paymentCodeId)
  mapError .std <| saveConfig {
    drand := none
    trustedSources := none
    manager
    price := msg.price
    paymentCodeId := msg.paymentCodeId
    paymentInitialFunds := msg.paymentInitialFunds
    sink
  }
  mapError .std setContractVersion
  pure {}

def migrate : Call Storage StdError (Response ContractMsg) := do
  let config ← loadConfig
  let config :=
    if (config.trustedSources.getD []).isEmpty then
      match config.drand with
      | some drand => { config with trustedSources := some [drand] }
      | none => config
    else config
  saveConfig config
  setContractVersion
  pure { attributes := [("action", "migrate")] }

def executeAddVerifiedRound (env : Env) (info : MessageInfo) (round : Nat) (randomness : Binary)
    (isVerifyingTx : Bool) : Call Storage ContractError (Response ContractMsg) := do
  let config ← mapError .std loadConfig
  ensure (info.sender ∈ config.trustedSources.getD []) .unauthorizedAddVerifiedRound
  let drand ← mapError .std (newDrand env round randomness isVerifyingTx)
  let response : Response ContractMsg :=
    { attributes := [("jobs_processed", Nat.repr drand.jobsProcessed)] }
  pure (response.addMessages drand.msgs)

def executeSetConfig (deps : Deps) (info : MessageInfo) (manager : Option String)
    (price : Option Coin) (drand : Option String) (trustedSources : Option (List String))
    (paymentInitialFunds : Option Coin) : Call Storage ContractError (Response ContractMsg) := do
  let config ← mapError .std loadConfig
  ensure (info.sender = config.manager) .unauthorized
  let manager ← mapError .std <| ofExcept <| match manager with
    | some manager => deps.addrValidate manager
    | none => .ok config.manager
  let drand ← mapError .std <| ofExcept <| match drand with
    | some drand => (deps.addrValidate drand).map some
    | none => .ok config.drand
  let trustedSources ← mapError .std <| ofExcept <| match trustedSources with
    | some sources => sources.mapM deps.addrValidate
    | none => .ok (config.trustedSources.getD [])
  let price := price.getD config.price
  let paymentInitialFunds := match paymentInitialFunds with
    | some funds => some funds
    | none => config.paymentInitialFunds
  mapError .std <| saveConfig {
    manager
    drand
    price
    paymentCodeId := config.paymentCodeId
    paymentInitialFunds
    sink := config.sink
    trustedSources := some trustedSources
  }
  pure {}

def execute (deps : Deps) (env : Env) (info : MessageInfo) :
    ExecuteMsg → Call Storage ContractError (Response ContractMsg)
  | .addVerifiedRound round randomness isVerifyingTx =>
      executeAddVerifiedRound env info round randomness isVerifyingTx
  | .setConfig manager price drandAddr paymentInitialFunds trustedSources =>
      executeSetConfig deps info manager price drandAddr trustedSources paymentInitialFunds

def ibcChannelOpen : IbcChannelOpenMsg → Except ContractError (Option String)
  | .openInit _ => .error .mustBeChainB
  | .openTry channel counterpartyVersion => do
      (checkOrder channel.order).mapError .channelError
      (checkVersion counterpartyVersion).mapError .channelError
      pure (some ibcAppVersion)

def hashChannel (deps : Deps) (channelId : String) : Binary :=
  deps.sha256 (asBytes channelId)

def paymentAddress (deps : Deps) (env : Env) (paymentCodeId : Nat) (channelId : String) :
    Except StdError Addr := do
  let creator ← deps.addrCanonicalize env.contract
  let checksum ← deps.queryWasmCodeInfo paymentCodeId
  let salt := hashChannel deps channelId
  let address ← (deps.instantiate2Address checksum creator salt).mapError fun e =>
    .genericErr ("Cound not generate address: " ++ e)
  deps.addrHumanize address

def ibcChannelConnect (deps : Deps) (env : Env) (msg : IbcChannelConnectMsg) :
    Call Storage ContractError (Response ContractMsg) := do
  let channel ← match msg with
    | .openAck _ _ => fail .mustBeChainB
    | .openConfirm channel => pure channel
  let chanId := channel.channelId
  let config ← mapError .std loadConfig
  let address ← mapError .std (ofExcept (paymentAddress deps env config.paymentCodeId chanId))
  mapError .std (saveCustomer chanId { payment := address, requestedBeacons := 0 })
  let funds := config.paymentInitialFunds.toList
  let instantiatePayment : Msg := .wasmInstantiate2 (some env.contract) config.paymentCodeId
    ("For " ++ chanId) (.instantiatePayment config.sink) funds (hashChannel deps chanId)
  let welcomeTimeout ← ofPanics (env.block.time.plusSeconds welcomePacketLifetime)
  let welcome : Msg := .ibcSendPacket chanId
    (Wire.outPacket.toJsonBinary (.welcome address)) welcomeTimeout
  let priceTimeout ← ofPanics (env.block.time.plusSeconds beaconPricePacketLifetime)
  let beaconPrice : Msg := .ibcSendPacket chanId
    (Wire.outPacket.toJsonBinary
      (.pushBeaconPrice env.block.time config.price.amount config.price.denom)) priceTimeout
  let response : Response ContractMsg := {
    attributes := [("action", "ibc_connect"), ("channel_id", chanId)]
    events := [("ibc", [("channel", "connect")])]
  }
  pure (response.addMessages [instantiatePayment, welcome, beaconPrice])

def ibcChannelClose (msg : IbcChannelCloseMsg) : Call Storage StdError (Response ContractMsg) :=
  pure { attributes := [("action", "ibc_close"), ("channel_id", msg.channel.channelId)] }

def receiveRequestBeacon (env : Env) (channelId : String) (relayer : Addr) (after : Timestamp)
    (origin : Binary) : Call Storage ContractError (Response ContractMsg) := do
  ofExcept (validateOrigin origin)
  let receipt ← mapError .std (route env channelId after origin)
  mapError .std <| requestsLogAdd channelId {
    origin
    tx := (env.block.height, env.transaction)
    sourceId := receipt.sourceId
    queued := receipt.queued
  }
  let customer ← mapError .std (loadCustomer channelId)
  let requestedBeacons ← ofPanics (checkedAdd 64 customer.requestedBeacons 1)
  mapError .std (saveCustomer channelId { customer with requestedBeacons })
  let config ← mapError .std loadConfig
  let amount := config.price.amount
  let denom := config.price.denom
  let amountBurn ← ofPanics (amount.mulFloor 40 100)
  let amountRelayer ← ofPanics (amount.mulFloor 20 100)
  let withoutBurn ← ofPanics (amount.sub amountBurn)
  let amountRest ← ofPanics (withoutBurn.sub amountRelayer)
  let msg : Msg := .wasmExecute customer.payment
    (.pay ⟨denom, amountBurn⟩ ⟨denom, amountRest⟩ (relayer, ⟨denom, amountRelayer⟩)) []
  let response : Response ContractMsg := {
    acknowledgement := some receipt.acknowledgement
    attributes := [("action", "receive_request_beacon")]
  }
  pure (response.addMessages (receipt.msgs ++ [msg]))

def receivePullBeaconPrice (env : Env) : Call Storage ContractError (Response ContractMsg) := do
  let config ← mapError .std loadConfig
  let ack := StdAck.success (Wire.inPacketAck.toJsonBinary
    (.pullBeaconPrice env.block.time config.price.amount config.price.denom))
  pure {
    acknowledgement := some ack
    attributes := [("action", "receive_pull_beacon_price")]
  }

def receivePacket (env : Env) (msg : IbcPacketReceiveMsg) :
    Call Storage ContractError (Response ContractMsg) := do
  let op ← mapError .std (ofExcept (Wire.inPacket.fromJson msg.data))
  match op with
  | .requestBeacon after origin =>
      receiveRequestBeacon env msg.destChannel msg.relayer after origin
  | .pullBeaconPrice => receivePullBeaconPrice env

/-- Infallible for its caller: an error becomes an acknowledgement, and what was
written before the error stays written. -/
def ibcPacketReceive (env : Env) (msg : IbcPacketReceiveMsg) :
    Call Storage Empty (Response ContractMsg) :=
  (receivePacket env msg).orElse fun error => pure {
    acknowledgement := some (.error ("Error processing packet: " ++ error.toString))
    events := [("ibc", [("packet", "receive")])]
  }

def ibcPacketAck (data : Binary) : Call Storage ContractError (Response ContractMsg) := do
  let ack ← mapError .std (ofExcept (Wire.stdAck.fromJson data))
  match ack with
  | .success data => do
      let _ ← mapError .std (ofExcept (Wire.outPacketAck.fromJson data))
      pure { attributes := [("action", "ack"), ("is_error", "false")] }
  | .error err => pure { attributes := [("action", "ack"), ("error", err), ("is_error", "true")] }

def ibcPacketTimeout : Call Storage StdError (Response ContractMsg) :=
  pure { attributes := [("action", "ibc_packet_timeout")] }

end NoisContracts.Gateway
