import NoisContracts.Library.Journal
import NoisContracts.Drand.Core

/-!
What the entry points of `nois-drand` do when they return, and the contract on its
chain. Every transaction comes with the balances that the contract can query.
-/

namespace NoisContracts.Drand

open ContractCall ContractCall.Call OrderedStore

theorem loadConfig_eq_ok {storage after : Storage} {config : Config} :
    loadConfig storage = .ok config after ↔ storage.config = some config ∧ storage = after := by
  cases found : storage.config <;> simp [loadConfig, found]

theorem loadConfig_eq_error {storage after : Storage} {cause : StdError} :
    loadConfig storage = .error cause after ↔
      storage.config = none ∧ cause = .notFound "config" ∧ storage = after := by
  cases found : storage.config <;> simp [loadConfig, found, eq_comm]

theorem loadBeacon_eq_ok {round : Nat} {storage after : Storage} {beacon : VerifiedBeacon} :
    loadBeacon round storage = .ok beacon after ↔
      storage.beacons[round]? = some beacon ∧ storage = after := by
  cases found : storage.beacons[round]? <;> simp [loadBeacon, found]

def submissionsCountOf (storage : Storage) (round : Nat) : Nat :=
  storage.submissionsCount[round]?.getD 0

def SignatureAccepted (host : Host) (storage : Storage) (round : Nat) (signature : Binary) : Prop :=
  if submissionsCountOf storage round < numberOfSubmissionVerificationPerRound then
    host.verifies round signature = true
  else
    ∃ beacon, storage.beacons[round]? = some beacon ∧
      host.deriveRandomness signature = beacon.randomness

theorem checkSignature_eq_ok {host : Host} {round : Nat} {signature : Binary}
    {storage after : Storage} {done : Unit} :
    checkSignature host round (submissionsCountOf storage round) signature storage =
      .ok done after ↔
      SignatureAccepted host storage round signature ∧ storage = after := by
  unfold checkSignature SignatureAccepted
  split
  · cases key : host.fastnetPubkey with
    | none => simp [Host.verifies, key]
    | some verify => simp [ensure_eq_ok, Host.verifies, key]
  · simp only [bind_eq_ok, mapError_eq_ok, loadBeacon_eq_ok, ensure_eq_ok]
    constructor
    · rintro ⟨beacon, _, ⟨found, rfl⟩, equal, rfl⟩
      exact ⟨⟨beacon, found, equal⟩, rfl⟩
    · rintro ⟨⟨beacon, found, equal⟩, rfl⟩
      exact ⟨beacon, storage, ⟨found, rfl⟩, equal, rfl⟩

namespace Storage

def recordSubmission (storage : Storage) (round : Nat) (sender : Addr)
    (submission : StoredSubmission) :
    Storage :=
  { storage with
    submissions := storage.submissions.insert (toLex (round, sender)) submission
    submissionsCount := storage.submissionsCount.insert round submission.pos }

def creditBot (storage : Storage) (sender : Addr) (points : Nat) : Storage :=
  match storage.bots[sender]? with
  | some bot =>
      let credited : Bot := ⟨bot.moniker, bot.roundsAdded + 1, bot.rewardPoints + points⟩
      { storage with bots := storage.bots.insert sender credited }
  | none => storage

def keepBeacon (storage : Storage) (round : Nat) (beacon : VerifiedBeacon) : Storage :=
  if storage.beacons.contains round then storage
  else { storage with beacons := storage.beacons.insert round beacon }

end Storage

def eligible (host : Host) (storage : Storage) (config : Config) (sender : Addr) (round : Nat) :
    Bool :=
  isIncentivizedFor host storage sender round config.minRound &&
    storage.bots[sender]?.isSome && storage.allowlist.contains sender &&
    submissionPoints (submissionsCountOf storage round) != 0

def grantedPoints (host : Host) (storage : Storage) (config : Config) (sender : Addr)
    (round : Nat) : Nat :=
  if eligible host storage config sender round then
    submissionPoints (submissionsCountOf storage round)
  else 0

def verifiedMsgs (config : Config) (round : Nat) (randomness : Binary) (isVerifyingTx : Bool) :
    List Msg :=
  config.gateway.toList.map fun gateway =>
    .wasmExecute gateway (.addVerifiedRound round randomness isVerifyingTx) []

def rewardMsgs (sender : Addr) (payout : Coin) : List Msg :=
  if payout.amount.isZero then [] else [.bankSend sender [payout]]

/-- Everything that a successful submission does. -/
structure Added (host : Host) (env : Env) (balances : List Coin) (info : MessageInfo) (round : Nat)
    (signature : Binary) (storage : Storage) (response : Response ContractMsg) (after : Storage)
    (config : Config) (payout : Coin) : Prop where
  unfunded : info.funds = []
  configured : storage.config = some config
  minRound : config.minRound ≤ round
  accepted : SignatureAccepted host storage round signature
  first : storage.submissions[toLex (round, info.sender)]? = none
  counted : submissionsCountOf storage round + 1 < 2 ^ 16
  paid : payoutOf config (eligible host storage config info.sender round)
    (grantedPoints host storage config info.sender round) balances = .ok payout
  messages : response.msgs = verifiedMsgs config round (host.deriveRandomness signature)
    (decide (submissionsCountOf storage round < numberOfSubmissionVerificationPerRound)) ++
      rewardMsgs info.sender payout
  changed : after =
    ((storage.recordSubmission round info.sender ⟨submissionsCountOf storage round + 1,
      env.block.time, env.block.height, env.transaction⟩).creditBot info.sender
      (grantedPoints host storage config info.sender round)).keepBeacon round
      ⟨env.block.time, host.deriveRandomness signature⟩

theorem checkSubmission_ok {host : Host} {info : MessageInfo} {round : Nat} {signature : Binary}
    {storage after : Storage} {checked : Config × Nat}
    (returned : checkSubmission host info round signature storage = .ok checked after) :
    info.funds = [] ∧ storage.config = some checked.1 ∧ checked.1.minRound ≤ round ∧
      SignatureAccepted host storage round signature ∧
      storage.submissions[toLex (round, info.sender)]? = none ∧
      checked.2 = submissionsCountOf storage round ∧ storage = after := by
  simp only [checkSubmission, bind_eq_ok, mapError_eq_ok, loadConfig_eq_ok, ensure_eq_ok,
    reads_eq_ok, pure_eq_ok] at returned
  obtain ⟨_, _, ⟨unfunded, rfl⟩, config, _, ⟨configured, rfl⟩, _, _, ⟨minRound, rfl⟩, count, _,
      ⟨rfl, rfl⟩, _, _, signed, submitted, _, ⟨rfl, rfl⟩, _, _, ⟨absent, rfl⟩, rfl, rfl⟩ := returned
  obtain ⟨accepted, rfl⟩ := checkSignature_eq_ok.mp signed
  exact ⟨unfunded, configured, minRound, accepted, contains_eq_false.mp absent, rfl, rfl⟩

theorem saveSubmission_eq_ok {round : Nat} {sender : Addr} {submission : StoredSubmission}
    {storage after : Storage} {done : Unit} :
    saveSubmission round sender submission storage = .ok done after ↔
      storage.recordSubmission round sender submission = after := by
  simp [saveSubmission, Storage.recordSubmission]

theorem rewardBot_ok {sender : Addr} {bot : Option Bot} {points : Nat} {storage after : Storage}
    {done : Unit} (stored : storage.bots[sender]? = bot)
    (returned : rewardBot sender bot points storage = .ok done after) :
    after = storage.creditBot sender points := by
  cases bot with
  | none =>
      simp only [rewardBot, pure_eq_ok] at returned
      rw [← returned.2, Storage.creditBot, stored]
  | some bot =>
      simp only [rewardBot, bind_eq_ok, ofPanics_eq_ok, checkedAdd_eq_ok, writes_eq_ok] at returned
      obtain ⟨_, _, ⟨⟨_, rfl⟩, rfl⟩, _, _, ⟨⟨_, rfl⟩, rfl⟩, rfl⟩ := returned
      simp only [Storage.creditBot, stored]

def addedAttributes (info : MessageInfo) (round : Nat) (randomness : Binary) (rewardPoints : Nat)
    (payout : Coin) : List (String × String) :=
  [("round", Nat.repr round), ("randomness", String.ofList (TextFormat.writeHex randomness)),
    ("bot", info.sender), ("reward_points", Nat.repr rewardPoints),
    ("reward_payout", payout.toString)]

theorem executeAddRound_ok {host : Host} {env : Env} {balances : List Coin} {info : MessageInfo}
    {round : Nat} {signature : Binary} {storage after : Storage} {response : Response ContractMsg}
    (returned : executeAddRound host env balances info round signature storage =
      .ok response after) :
    ∃ config payout,
      Added host env balances info round signature storage response after config payout ∧
        response.attributes =
          addedAttributes info round (host.deriveRandomness signature)
            (grantedPoints host storage config info.sender round) payout := by
  simp only [executeAddRound, bind_eq_ok, reads_eq_ok, ofPanics_eq_ok, checkedAdd_eq_ok,
    saveSubmission_eq_ok, pure_eq_ok] at returned
  obtain ⟨⟨config, count⟩, _, checked, returned⟩ := returned
  obtain ⟨unfunded, configured, minRound, accepted, first, counts, rfl⟩ :=
    checkSubmission_ok checked
  simp only at counts configured minRound
  subst counts
  obtain ⟨bot, _, ⟨rfl, rfl⟩, listed, _, ⟨rfl, rfl⟩, newCount, _, ⟨⟨counted, rfl⟩, rfl⟩, _,
      recorded, rfl, incentivized, _, ⟨rfl, rfl⟩, _, credited, rewarded, payout, _, ⟨paid, rfl⟩, _,
      _, saved, rfl, rfl⟩ := returned
  have credit : credited =
      (storage.recordSubmission round info.sender ⟨submissionsCountOf storage round + 1,
        env.block.time, env.block.height, env.transaction⟩).creditBot info.sender
        (grantedPoints host storage config info.sender round) :=
    rewardBot_ok rfl rewarded
  subst credit
  refine ⟨config, payout, ⟨unfunded, configured, minRound, accepted, first, counted, paid, ?_, ?_⟩,
    rfl⟩
  · simp only [Response.addMessages, Response.msgs, List.nil_append, SubMsg.map_msg_new]
    rfl
  · simp only [saveBeaconIfNew, writes_eq_ok] at saved
    exact saved.symm

theorem rewardBot_ne_error {sender : Addr} {bot : Option Bot} {points : Nat}
    {storage after : Storage} {cause : ContractError} :
    ¬rewardBot sender bot points storage = .error cause after := by
  cases bot <;>
    simp only [rewardBot, bind_eq_error, ofPanics_ne_error, writes_apply, pure_apply, reduceCtorEq,
      and_false, exists_false, or_false, not_false_eq_true]

/-- A submission is refused by its checks only. -/
theorem executeAddRound_error {host : Host} {env : Env} {balances : List Coin} {info : MessageInfo}
    {round : Nat} {signature : Binary} {storage after : Storage} {cause : ContractError}
    (failed : executeAddRound host env balances info round signature storage = .error cause after) :
    checkSubmission host info round signature storage = .error cause after := by
  simp only [executeAddRound, bind_eq_error, ofPanics_ne_error, rewardBot_ne_error, saveSubmission,
    saveBeaconIfNew, reads_apply, writes_apply, pure_apply, reduceCtorEq, or_false, and_false,
    exists_false] at failed
  exact failed

theorem checkSignature_error {host : Host} {round submissionsCount : Nat} {signature : Binary}
    {storage after : Storage} {cause : ContractError}
    (failed : checkSignature host round submissionsCount signature storage = .error cause after) :
    cause = .invalidPubkey ∨ cause = .invalidSignature ∨ cause = .signatureDoesNotMatchState ∨
      ∃ missing, cause = .std missing := by
  unfold checkSignature at failed
  split at failed
  · simp only [bind_eq_error, ofExcept_eq_error, ensure_eq_error] at failed
    rcases failed with ⟨invalid, _⟩ | ⟨_, _, _, _, rfl, _⟩
    · split at invalid <;> cases invalid
      exact .inl rfl
    · exact .inr (.inl rfl)
  · simp only [bind_eq_error, mapError_eq_error, ensure_eq_error] at failed
    rcases failed with ⟨missing, _, rfl⟩ | ⟨_, _, _, _, rfl, _⟩
    · exact .inr (.inr (.inr ⟨missing, rfl⟩))
    · exact .inr (.inr (.inl rfl))

theorem executeAddRound_roundTooLow {host : Host} {env : Env} {balances : List Coin}
    {info : MessageInfo} {round tooLow minRound : Nat} {signature : Binary}
    {storage after : Storage} {config : Config} (configured : storage.config = some config)
    (high : config.minRound ≤ round) :
    executeAddRound host env balances info round signature storage ≠
      .error (.roundTooLow tooLow minRound) after := by
  intro refused
  have failed := executeAddRound_error refused
  simp only [checkSubmission, bind_eq_error, ensure_eq_error, mapError_eq_error, mapError_eq_ok,
    loadConfig_eq_ok, ensure_eq_ok, reads_apply, pure_apply, reduceCtorEq, false_and, and_false,
    false_or, or_false, exists_false] at failed
  obtain ⟨_, _, ⟨_, rfl⟩, found, _, ⟨stored, rfl⟩, failed⟩ := failed
  rcases failed with ⟨low, _⟩ | ⟨_, _, _, _, _, _, failed⟩
  · rw [configured] at stored
    cases stored
    exact low high
  · rcases checkSignature_error failed with cause | cause | cause | ⟨_, cause⟩ <;> cases cause

structure SameRounds (before after : Storage) : Prop where
  submissions : after.submissions = before.submissions
  submissionsCount : after.submissionsCount = before.submissionsCount
  beacons : after.beacons = before.beacons

theorem addBots_ok {deps : Deps} {bots : List String} {storage after : Storage} {done : Unit}
    (returned : addBots deps bots storage = .ok done after) :
    ∃ allowlist, after = { storage with allowlist } := by
  induction bots generalizing storage with
  | nil =>
      simp only [addBots, pure_eq_ok] at returned
      exact ⟨storage.allowlist, returned.2.symm⟩
  | cons bot rest ih =>
      simp only [addBots, bind_eq_ok, ofExcept_eq_ok, writes_eq_ok] at returned
      obtain ⟨addr, _, ⟨_, rfl⟩, _, _, rfl, returned⟩ := returned
      obtain ⟨allowlist, changed⟩ := ih returned
      refine ⟨allowlist, changed.trans ?_⟩
      split <;> rfl

theorem removeBots_ok {deps : Deps} {bots : List String} {storage after : Storage} {done : Unit}
    (returned : removeBots deps bots storage = .ok done after) :
    ∃ allowlist, after = { storage with allowlist } := by
  induction bots generalizing storage with
  | nil =>
      simp only [removeBots, pure_eq_ok] at returned
      exact ⟨storage.allowlist, returned.2.symm⟩
  | cons bot rest ih =>
      simp only [removeBots, bind_eq_ok, ofExcept_eq_ok, writes_eq_ok] at returned
      obtain ⟨addr, _, ⟨_, rfl⟩, _, _, rfl, returned⟩ := returned
      obtain ⟨allowlist, changed⟩ := ih returned
      refine ⟨allowlist, changed.trans ?_⟩
      split <;> rfl

inductive Action where
  | instantiate (msg : InstantiateMsg)
  | execute (info : MessageInfo) (msg : ExecuteMsg)
  | migrate
deriving DecidableEq, Repr

structure Tx where
  block : BlockInfo
  index : Option Nat
  balances : List Coin
  action : Action
  /-- Whether the chain executes every message of the response. -/
  dispatched : Bool
deriving DecidableEq, Repr

def Tx.env (tx : Tx) (contract : Addr) : Env := ⟨tx.block, tx.index, contract⟩

def perform (host : Host) (contract : Addr) (tx : Tx) :
    Call Storage ContractError (Response ContractMsg) :=
  match tx.action with
  | .instantiate msg => Drand.instantiate host.toDeps msg
  | .execute info msg => Drand.execute host (tx.env contract) tx.balances info msg
  | .migrate => mapError .std Drand.migrate

def admits (storage : Storage) (tx : Tx) : Bool :=
  tx.dispatched && match tx.action with
    | .instantiate _ => storage.config.isNone
    | _ => true

def system (host : Host) (contract : Addr) :
    Journal.System Storage Tx ContractError (Response ContractMsg) :=
  ⟨admits, perform host contract⟩

abbrev World := Journal.World Storage Tx (Response ContractMsg)

def reached (host : Host) (contract : Addr) (txs : List Tx) : World :=
  (system host contract).reached Storage.empty txs

inductive Administered (storage : Storage) : Action → Storage → Prop
  | instantiated {msg : InstantiateMsg} {config : Config} {version : Option (String × String)}
      (detached : config.gateway = none) (minRound : config.minRound = msg.minRound) :
      Administered storage (.instantiate msg)
        { storage with config := some config, contractVersion := version }
  | registered {info : MessageInfo} {moniker : String} {bot : Bot}
      (rounds : bot.roundsAdded = (storage.bots[info.sender]?.map Bot.roundsAdded).getD 0)
      (points : bot.rewardPoints = (storage.bots[info.sender]?.map Bot.rewardPoints).getD 0) :
      Administered storage (.execute info (.registerBot moniker))
        { storage with bots := storage.bots.insert info.sender bot }
  | incentivized {info : MessageInfo} {round : Nat} {config : Config}
      (configured : storage.config = some config) (sender : some info.sender = config.gateway)
      (minRound : config.minRound ≤ round) :
      Administered storage (.execute info (.setIncentivized round))
        { storage with incentivizedByGateway := storage.incentivizedByGateway.insert round 1 }
  | allowlisted {info : MessageInfo} {add remove : List String} {allowlist : Store Addr Unit} :
      Administered storage (.execute info (.updateAllowlistBots add remove))
        { storage with allowlist }
  | configured {info : MessageInfo} {manager gateway : Option String} {minRound : Option Nat}
      {incentivePointPrice : Option Uint128} {incentiveDenom : Option String}
      {config changed : Config} (found : storage.config = some config)
      (sender : info.sender = config.manager)
      (raised : changed.minRound = minRound.getD config.minRound)
      (attached : gateway = none → changed.gateway = config.gateway) :
      Administered storage
        (.execute info (.setConfig manager gateway minRound incentivePointPrice incentiveDenom))
        { storage with config := some changed }
  | migrated {version : Option (String × String)} :
      Administered storage .migrate { storage with contractVersion := version }

theorem perform_administered {host : Host} {contract : Addr} {tx : Tx} {storage after : Storage}
    {response : Response ContractMsg}
    (unrelated : ∀ info round signature, tx.action ≠ .execute info (.addRound round signature))
    (returned : perform host contract tx storage = .ok response after) :
    response.messages = [] ∧ Administered storage tx.action after := by
  cases action : tx.action with
  | instantiate msg =>
      simp only [perform, action, Drand.instantiate, bind_eq_ok, mapError_eq_ok, ofExcept_eq_ok,
        saveConfig, setContractVersion, writes_eq_ok, pure_eq_ok] at returned
      obtain ⟨_, _, ⟨_, rfl⟩, _, _, rfl, _, _, rfl, rfl, rfl⟩ := returned
      exact ⟨rfl, .instantiated rfl rfl⟩
  | execute info msg =>
      simp only [perform, action] at returned
      cases msg with
      | addRound round signature => exact (unrelated info round signature action).elim
      | registerBot moniker =>
          simp only [Drand.execute, executeRegisterBot, bind_eq_ok, ofExcept_eq_ok, reads_eq_ok,
            writes_eq_ok, pure_eq_ok] at returned
          obtain ⟨_, _, ⟨_, rfl⟩, stored, _, ⟨found, rfl⟩, _, _, rfl, rfl, rfl⟩ := returned
          refine ⟨rfl, .registered ?_ ?_⟩
          · rw [found]
            cases stored <;> rfl
          · rw [found]
            cases stored <;> rfl
      | setIncentivized round =>
          simp only [Drand.execute, executeSetIncentivized, bind_eq_ok, mapError_eq_ok,
            loadConfig_eq_ok, ensure_eq_ok, writes_eq_ok, pure_eq_ok] at returned
          obtain ⟨config, _, ⟨configured, rfl⟩, _, _, ⟨sender, rfl⟩, _, _, ⟨minRound, rfl⟩, _, _,
              rfl, rfl, rfl⟩ :=
            returned
          exact ⟨rfl, .incentivized configured sender minRound⟩
      | updateAllowlistBots add remove =>
          simp only [Drand.execute, executeUpdateAllowlistBots, bind_eq_ok, mapError_eq_ok,
            loadConfig_eq_ok, ensure_eq_ok, pure_eq_ok] at returned
          obtain ⟨_, _, ⟨_, rfl⟩, _, _, ⟨_, rfl⟩, _, _, addition, _, _, removal, rfl, rfl⟩ :=
            returned
          obtain ⟨extended, rfl⟩ := addBots_ok addition
          obtain ⟨allowlist, rfl⟩ := removeBots_ok removal
          exact ⟨rfl, .allowlisted⟩
      | setConfig manager gateway minRound incentivePointPrice incentiveDenom =>
          simp only [Drand.execute, executeSetConfig, bind_eq_ok, mapError_eq_ok, loadConfig_eq_ok,
            ensure_eq_ok, ofExcept_eq_ok, saveConfig, writes_eq_ok, pure_eq_ok] at returned
          obtain ⟨config, _, ⟨found, rfl⟩, _, _, ⟨sender, rfl⟩, attached, _, ⟨gateways, rfl⟩, _, _,
              ⟨_, rfl⟩, _, _, rfl, rfl, rfl⟩ := returned
          refine ⟨rfl, .configured found sender rfl ?_⟩
          rintro rfl
          exact (Except.ok.inj gateways).symm
  | migrate =>
      simp only [perform, action, mapError_eq_ok, Drand.migrate, setContractVersion, bind_eq_ok,
        writes_eq_ok, pure_eq_ok] at returned
      obtain ⟨_, _, rfl, rfl, rfl⟩ := returned
      exact ⟨rfl, .migrated⟩

theorem Administered.sameRounds {storage after : Storage} {action : Action}
    (administered : Administered storage action after) : SameRounds storage after := by
  cases administered <;> exact ⟨rfl, rfl, rfl⟩

inductive Effect (host : Host) (env : Env) (balances : List Coin) (storage : Storage) :
    Action → Response ContractMsg → Storage → Prop
  | added {info : MessageInfo} {round : Nat} {signature : Binary} {response : Response ContractMsg}
      {after : Storage} {config : Config} {payout : Coin}
      (submission : Added host env balances info round signature storage response after config
        payout) :
      Effect host env balances storage (.execute info (.addRound round signature)) response after
  | other {action : Action} {response : Response ContractMsg} {after : Storage}
      (unrelated : ∀ info round signature, action ≠ .execute info (.addRound round signature))
      (messages : response.messages = []) (same : SameRounds storage after) :
      Effect host env balances storage action response after

/-- A returning transaction is a submission, or it administers the contract. -/
theorem perform_cases {host : Host} {contract : Addr} {tx : Tx} {storage after : Storage}
    {response : Response ContractMsg}
    (returned : perform host contract tx storage = .ok response after) :
    (∃ info round signature config payout, tx.action = .execute info (.addRound round signature) ∧
      Added host (tx.env contract) tx.balances info round signature storage response after config
        payout ∧
      response.attributes =
        addedAttributes info round (host.deriveRandomness signature)
          (grantedPoints host storage config info.sender round) payout) ∨
      ((∀ info round signature, tx.action ≠ .execute info (.addRound round signature)) ∧
        response.messages = [] ∧ Administered storage tx.action after) := by
  by_cases submits : ∃ info round signature, tx.action = .execute info (.addRound round signature)
  · obtain ⟨info, round, signature, action⟩ := submits
    simp only [perform, action] at returned
    obtain ⟨config, payout, submission, attributes⟩ := executeAddRound_ok returned
    exact .inl ⟨info, round, signature, config, payout, action, submission, attributes⟩
  · have unrelated :
        ∀ info round signature, tx.action ≠ .execute info (.addRound round signature) := by
      intro info round signature action
      exact submits ⟨info, round, signature, action⟩
    exact .inr ⟨unrelated, perform_administered unrelated returned⟩

theorem perform_effect {host : Host} {contract : Addr} {tx : Tx} {storage after : Storage}
    {response : Response ContractMsg}
    (returned : perform host contract tx storage = .ok response after) :
    Effect host (tx.env contract) tx.balances storage tx.action response after := by
  rcases perform_cases returned with
      ⟨info, round, signature, config, payout, action, submission, _⟩ |
      ⟨unrelated, messages, administered⟩
  · rw [action]
    exact .added submission
  · exact .other unrelated messages administered.sameRounds

end NoisContracts.Drand
