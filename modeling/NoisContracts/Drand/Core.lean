import NoisContracts.Library.Store
import NoisContracts.Library.Text
import NoisContracts.DrandCommon
import NoisContracts.Protocol

/-!
Executable model of `nois-drand`: its storage, the bots and the entry points. The
signature check of the drand network and SHA-256 are functions of the host.
-/

namespace NoisContracts.Drand

open ContractCall ContractCall.Call OrderedStore

structure Config where
  manager : Addr
  gateway : Option Addr
  minRound : Nat
  incentivePointPrice : Uint128
  incentiveDenom : String
deriving DecidableEq, Repr

structure VerifiedBeacon where
  verified : Timestamp
  randomness : Binary
deriving DecidableEq, Repr

structure StoredSubmission where
  pos : Nat
  time : Timestamp
  height : Nat
  txIndex : Option Nat
deriving DecidableEq, Repr

structure QueriedSubmission where
  bot : Addr
  time : Timestamp
  height : Nat
  txIndex : Option Nat
deriving DecidableEq, Repr

structure Bot where
  moniker : String
  roundsAdded : Nat
  rewardPoints : Nat
deriving DecidableEq, Repr

instance submissionKeyOrder : Std.TransCmp (compare : Nat ×ₗ Addr → Nat ×ₗ Addr → Ordering) :=
  inferInstance

structure Storage where
  contractVersion : Option (String × String)
  config : Option Config
  beacons : Store Nat VerifiedBeacon
  bots : Store Addr Bot
  allowlist : Store Addr Unit
  submissions : Store (Nat ×ₗ Addr) StoredSubmission
  submissionsCount : Store Nat Nat
  incentivizedByGateway : Store Nat Nat

def Storage.empty : Storage := ⟨none, none, ∅, ∅, ∅, ∅, ∅, ∅⟩

inductive ContractError where
  | std (error : StdError)
  | monikerEmpty
  | unauthorized
  | monikerTooLong
  | invalidPubkey
  | roundTooLow (round minRound : Nat)
  | invalidSignature
  | signatureDoesNotMatchState
  | submissionExists
deriving DecidableEq, Repr

def ContractError.toString : ContractError → String
  | .std error => error.toString
  | .monikerEmpty => "Moniker must not be empty."
  | .unauthorized => "Unauthorized."
  | .monikerTooLong => "Moniker exceeds length limit."
  | .invalidPubkey => "Invalid public key"
  | .roundTooLow round minRound =>
      "Round " ++ Nat.repr round ++ " lower than min round " ++ Nat.repr minRound
  | .invalidSignature => "Invalid signature"
  | .signatureDoesNotMatchState => "Signature does not match the contract's state"
  | .submissionExists => "A submission for the same round from the same bot exists already"

structure InstantiateMsg where
  manager : String
  minRound : Nat
  incentivePointPrice : Uint128
  incentiveDenom : String
deriving DecidableEq, Repr

inductive ExecuteMsg where
  | addRound (round : Nat) (signature : Binary)
  | registerBot (moniker : String)
  | setIncentivized (round : Nat)
  | updateAllowlistBots (add remove : List String)
  | setConfig (manager gateway : Option String) (minRound : Option Nat)
      (incentivePointPrice : Option Uint128) (incentiveDenom : Option String)
deriving DecidableEq, Repr

/-- The host of the contract. The public key of the drand network is parsed from fixed
bytes; a parsed key checks a signature of a round, or fails to. -/
structure Host extends Deps where
  fastnetPubkey : Option (Nat → Binary → Option Bool)

def Host.deriveRandomness (host : Host) (signature : Binary) : Binary := host.sha256 signature

def Host.verifies (host : Host) (round : Nat) (signature : Binary) : Bool :=
  match host.fastnetPubkey with
  | some verify => (verify round signature).getD false
  | none => false

/-! The state and the bots. -/

def loadConfig : Call Storage StdError Config := do
  match ← reads Storage.config with
  | some config => pure config
  | none => fail (.notFound "config")

def saveConfig (config : Config) : Call Storage StdError Unit :=
  writes fun storage => { storage with config := some config }

def setContractVersion : Call Storage StdError Unit :=
  writes fun storage => { storage with contractVersion := some ("nois-drand", "0.15.4") }

def loadBeacon (round : Nat) : Call Storage StdError VerifiedBeacon := do
  match ← reads fun storage => storage.beacons[round]? with
  | some beacon => pure beacon
  | none => fail (.notFound "beacons")

def maxMonikerLen : Nat := 20

def validateMoniker (moniker : String) : Except ContractError Unit :=
  if moniker.isEmpty then .error .monikerEmpty
  else if moniker.utf8ByteSize > maxMonikerLen then .error .monikerTooLong
  else .ok ()

inductive Group where
  | a
  | b
deriving DecidableEq, Repr

def group (host : Host) (addr : Addr) : Group :=
  if ((host.sha256 (asBytes addr)).headD 0).toNat % 2 = 0 then .a else .b

def eligibleGroup (round : Nat) : Group := if round % 2 = 0 then .a else .b

def isIncentivizedFor (host : Host) (storage : Storage) (sender : Addr) (round minRound : Nat) :
    Bool :=
  if round < minRound then false
  else if storage.incentivizedByGateway.contains round || isIncentivized round then
    group host sender = eligibleGroup round
  else false

/-! The entry points. -/

def numberOfIncentivesPerRound : Nat := 6

def numberOfSubmissionVerificationPerRound : Nat := 3

def incentivePointsForVerification : Nat := 35

def incentivePointsForFastBot : Nat := 15

def instantiate (deps : Deps) (msg : InstantiateMsg) :
    Call Storage ContractError (Response ContractMsg) := do
  let manager ← mapError .std (ofExcept (deps.addrValidate msg.manager))
  mapError .std <| saveConfig {
    manager
    gateway := none
    minRound := msg.minRound
    incentivePointPrice := msg.incentivePointPrice
    incentiveDenom := msg.incentiveDenom
  }
  mapError .std setContractVersion
  pure {}

def migrate : Call Storage StdError (Response ContractMsg) := do
  setContractVersion
  pure {}

def executeRegisterBot (info : MessageInfo) (moniker : String) :
    Call Storage ContractError (Response ContractMsg) := do
  ofExcept (validateMoniker moniker)
  let stored ← reads fun storage => storage.bots[info.sender]?
  let bot : Bot := match stored with
    | some bot => { bot with moniker }
    | none => { moniker, roundsAdded := 0, rewardPoints := 0 }
  writes fun storage => { storage with bots := storage.bots.insert info.sender bot }
  pure {}

def executeSetIncentivized (info : MessageInfo) (round : Nat) :
    Call Storage ContractError (Response ContractMsg) := do
  let config ← mapError .std loadConfig
  ensure (some info.sender = config.gateway) .unauthorized
  ensure (config.minRound ≤ round) (.roundTooLow round config.minRound)
  writes fun storage =>
    { storage with incentivizedByGateway := storage.incentivizedByGateway.insert round 1 }
  pure {}

def addBots (deps : Deps) : List String → Call Storage StdError Unit
  | [] => pure ()
  | bot :: rest => do
      let addr ← ofExcept (deps.addrValidate bot)
      writes fun storage =>
        if storage.allowlist.contains addr then storage
        else { storage with allowlist := storage.allowlist.insert addr () }
      addBots deps rest

def removeBots (deps : Deps) : List String → Call Storage StdError Unit
  | [] => pure ()
  | bot :: rest => do
      let addr ← ofExcept (deps.addrValidate bot)
      writes fun storage =>
        if storage.allowlist.contains addr then
          { storage with allowlist := storage.allowlist.erase addr }
        else storage
      removeBots deps rest

def executeUpdateAllowlistBots (deps : Deps) (info : MessageInfo) (add remove : List String) :
    Call Storage ContractError (Response ContractMsg) := do
  let config ← mapError .std loadConfig
  ensure (info.sender = config.manager) .unauthorized
  mapError .std (addBots deps add)
  mapError .std (removeBots deps remove)
  pure {}

/-- The check of a signature: the first submissions of a round verify it, the later
ones compare the randomness with the stored one. -/
def checkSignature (host : Host) (round submissionsCount : Nat) (signature : Binary) :
    Call Storage ContractError Unit :=
  if submissionsCount < numberOfSubmissionVerificationPerRound then do
    let verify ← ofExcept (match host.fastnetPubkey with
      | some verify => .ok verify
      | none => .error ContractError.invalidPubkey)
    ensure ((verify round signature).getD false = true) .invalidSignature
  else do
    let beacon ← mapError .std (loadBeacon round)
    ensure (host.deriveRandomness signature = beacon.randomness) .signatureDoesNotMatchState

/-- The points for a submission, before it is known whether the bot is eligible. -/
def submissionPoints (submissionsCount : Nat) : Nat :=
  (if submissionsCount < numberOfSubmissionVerificationPerRound then incentivePointsForVerification
    else 0) +
  (if submissionsCount < numberOfIncentivesPerRound then incentivePointsForFastBot else 0)

def saveSubmission (round : Nat) (sender : Addr) (submission : StoredSubmission) :
    Call Storage ContractError Unit := do
  writes fun storage =>
    { storage with submissions := storage.submissions.insert (toLex (round, sender)) submission }
  writes fun storage =>
    { storage with submissionsCount := storage.submissionsCount.insert round submission.pos }

def rewardBot (sender : Addr) (bot : Option Bot) (rewardPoints : Nat) :
    Call Storage ContractError Unit :=
  match bot with
  | some bot => do
      let roundsAdded ← ofPanics (checkedAdd 64 bot.roundsAdded 1)
      let total ← ofPanics (checkedAdd 64 bot.rewardPoints rewardPoints)
      writes fun storage =>
        { storage with bots := storage.bots.insert sender ⟨bot.moniker, roundsAdded, total⟩ }
  | none => pure ()

/-- The payout for the points, or nothing where the contract cannot pay it in full. -/
def payoutOf (config : Config) (isEligible : Bool) (rewardPoints : Nat) (balances : List Coin) :
    Panics Coin :=
  if isEligible then
    if fits : rewardPoints < 2 ^ 128 then do
      let desiredAmount ← (⟨rewardPoints, fits⟩ : Uint128).mul config.incentivePointPrice
      if desiredAmount.val ≤ (balanceIn config.incentiveDenom balances).val then
        .ok ⟨config.incentiveDenom, desiredAmount⟩
      else .ok ⟨config.incentiveDenom, Uint128.zero⟩
    else .error .overflow
  else .ok ⟨config.incentiveDenom, Uint128.zero⟩

def saveBeaconIfNew (round : Nat) (beacon : VerifiedBeacon) : Call Storage ContractError Unit :=
  writes fun storage =>
    if storage.beacons.contains round then storage
    else { storage with beacons := storage.beacons.insert round beacon }

/-- The checks of a submission, which write nothing. Returns the configuration and the
number of submissions before this one. -/
def checkSubmission (host : Host) (info : MessageInfo) (round : Nat) (signature : Binary) :
    Call Storage ContractError (Config × Nat) := do
  ensure (info.funds = []) (.std (.genericErr "Do not send funds"))
  let config ← mapError .std loadConfig
  ensure (config.minRound ≤ round) (.roundTooLow round config.minRound)
  let submissionsCount ← reads fun storage => storage.submissionsCount[round]?.getD 0
  checkSignature host round submissionsCount signature
  let submitted ← reads fun storage => storage.submissions.contains (toLex (round, info.sender))
  ensure (submitted = false) .submissionExists
  pure (config, submissionsCount)

def executeAddRound (host : Host) (env : Env) (balances : List Coin) (info : MessageInfo)
    (round : Nat) (signature : Binary) : Call Storage ContractError (Response ContractMsg) := do
  let (config, submissionsCount) ← checkSubmission host info round signature
  let randomness := host.deriveRandomness signature
  let isVerifyingTx := decide (submissionsCount < numberOfSubmissionVerificationPerRound)
  let points := submissionPoints submissionsCount
  let bot ← reads fun storage => storage.bots[info.sender]?
  let isAllowlisted ← reads fun storage => storage.allowlist.contains info.sender
  let newCount ← ofPanics (checkedAdd 16 submissionsCount 1)
  saveSubmission round info.sender ⟨newCount, env.block.time, env.block.height, env.transaction⟩
  let verified : List Msg := config.gateway.toList.map fun gateway =>
    .wasmExecute gateway (.addVerifiedRound round randomness isVerifyingTx) []
  let incentivized ← reads fun storage =>
    isIncentivizedFor host storage info.sender round config.minRound
  let isEligible := incentivized && bot.isSome && isAllowlisted && points != 0
  let rewardPoints := if isEligible then points else 0
  rewardBot info.sender bot rewardPoints
  let payout ← ofPanics (payoutOf config isEligible rewardPoints balances)
  let reward : List Msg := if payout.amount.isZero then [] else [.bankSend info.sender [payout]]
  saveBeaconIfNew round ⟨env.block.time, randomness⟩
  let response : Response ContractMsg := {
    attributes := [("round", Nat.repr round),
      ("randomness", String.ofList (TextFormat.writeHex randomness)), ("bot", info.sender),
      ("reward_points", Nat.repr rewardPoints), ("reward_payout", payout.toString)]
  }
  pure (response.addMessages (verified ++ reward))

def executeSetConfig (deps : Deps) (info : MessageInfo) (manager gateway : Option String)
    (minRound : Option Nat) (incentivePointPrice : Option Uint128)
    (incentiveDenom : Option String) : Call Storage ContractError (Response ContractMsg) := do
  let config ← mapError .std loadConfig
  ensure (info.sender = config.manager) .unauthorized
  let gateway ← mapError .std <| ofExcept <| match gateway with
    | some gateway => (deps.addrValidate gateway).map some
    | none => .ok config.gateway
  let manager ← mapError .std <| ofExcept <| match manager with
    | some manager => deps.addrValidate manager
    | none => .ok config.manager
  mapError .std <| saveConfig {
    manager
    gateway
    minRound := minRound.getD config.minRound
    incentivePointPrice := incentivePointPrice.getD config.incentivePointPrice
    incentiveDenom := incentiveDenom.getD config.incentiveDenom
  }
  pure {}

def execute (host : Host) (env : Env) (balances : List Coin) (info : MessageInfo) :
    ExecuteMsg → Call Storage ContractError (Response ContractMsg)
  | .addRound round signature => executeAddRound host env balances info round signature
  | .registerBot moniker => executeRegisterBot info moniker
  | .setIncentivized round => executeSetIncentivized info round
  | .updateAllowlistBots add remove => executeUpdateAllowlistBots host.toDeps info add remove
  | .setConfig manager gateway minRound incentivePointPrice incentiveDenom =>
      executeSetConfig host.toDeps info manager gateway minRound incentivePointPrice incentiveDenom

/-! The queries. -/

def queryIsIncentivized (host : Host) (storage : Storage) (sender : String) (rounds : List Nat) :
    Except StdError (List Bool) := do
  let sender ← host.addrValidate sender
  let config ← match storage.config with
    | some config => .ok config
    | none => .error (.notFound "config")
  pure (rounds.map fun round => isIncentivizedFor host storage sender round config.minRound)

def QueriedSubmission.make (stored : StoredSubmission) (botAddress : Addr) : QueriedSubmission :=
  ⟨botAddress, stored.time, stored.height, stored.txIndex⟩

def querySubmissions (storage : Storage) (round : Nat) : List QueriedSubmission :=
  ((prefixRange storage.submissions round).mergeSort fun first second =>
    decide (first.2.pos ≤ second.2.pos)).map fun entry => .make entry.2 entry.1

end NoisContracts.Drand
