import NoisContracts.Library.Journal
import NoisContracts.CosmWasm

/-!
Executable model of `nois-icecube`, the reserve of the incentives. It stakes its coins
for its manager and sends them to one `nois-drand` contract for anybody. What it asks
the staking and the distribution module for is kept as a value.
-/

namespace NoisContracts.Icecube

open ContractCall ContractCall.Call

structure Config where
  manager : Addr
  drand : Option Addr
deriving DecidableEq, Repr

structure Storage where
  contractVersion : Option (String × String)
  config : Option Config
deriving DecidableEq, Repr

def Storage.empty : Storage := ⟨none, none⟩

inductive ContractError where
  | std (error : StdError)
  | unauthorized
  | contractAlreadySet
  | noisDrandAddressUnset
deriving DecidableEq, Repr

def ContractError.toString : ContractError → String
  | .std error => error.toString
  | .unauthorized => "Unauthorized."
  | .contractAlreadySet => "Unauthorized. Contract is already set"
  | .noisDrandAddressUnset =>
      "The nois-drand contract address is still unset. Consider setting that first."

inductive ExecuteMsg where
  | delegate (addr : String) (amount : Uint128)
  | undelegate (addr : String) (amount : Uint128)
  | redelegate (srcAddr destAddr : String) (amount : Uint128)
  | claimRewards (addr : String)
  | setDrandAddr (addr : String)
  | sendFundsToDrand (funds : Coin)
  | setManagerAddr (manager : String)
deriving DecidableEq, Repr

inductive Msg where
  | bankSend (toAddress : String) (amount : List Coin)
  | delegate (validator : String) (amount : Coin)
  | undelegate (validator : String) (amount : Coin)
  | redelegate (srcValidator dstValidator : String) (amount : Coin)
  | withdrawDelegatorReward (validator : String)
deriving DecidableEq, Repr

structure Response where
  messages : List Msg := []
  attributes : List (String × String) := []
deriving DecidableEq, Repr

def stakingDenom : String := "unois"

def loadConfig : Call Storage StdError Config := do
  match ← reads Storage.config with
  | some config => pure config
  | none => fail (.notFound "config")

def saveConfig (config : Config) : Call Storage StdError Unit :=
  writes fun storage => { storage with config := some config }

def setContractVersion : Call Storage StdError Unit :=
  writes fun storage => { storage with contractVersion := some ("nois-icecube", "0.15.4") }

def instantiate (deps : Deps) (manager : String) : Call Storage StdError Response := do
  let manager ← ofExcept (deps.addrValidate manager)
  saveConfig ⟨manager, none⟩
  setContractVersion
  pure {}

def migrate : Call Storage StdError Response := do
  setContractVersion
  pure {}

def executeSendFundsToDrand (funds : Coin) : Call Storage ContractError Response := do
  let config ← mapError .std loadConfig
  match config.drand with
  | none => fail .noisDrandAddressUnset
  | some noisDrandContract =>
      pure {
        messages := [.bankSend noisDrandContract [funds]]
        attributes := [("nois-icecube-sent-amount", funds.toString)] }

/-- The handlers of the manager that ask the staking module for one thing. -/
def executeStaking (info : MessageInfo) (msg : Msg) : Call Storage ContractError Response := do
  let config ← mapError .std loadConfig
  ensure (info.sender = config.manager) .unauthorized
  pure { messages := [msg] }

def executeDelegate (info : MessageInfo) (addr : String) (amount : Uint128) :
    Call Storage ContractError Response :=
  executeStaking info (.delegate addr ⟨stakingDenom, amount⟩)

def executeUndelegate (info : MessageInfo) (addr : String) (amount : Uint128) :
    Call Storage ContractError Response :=
  executeStaking info (.undelegate addr ⟨stakingDenom, amount⟩)

def executeRedelegate (info : MessageInfo) (srcAddr destAddr : String) (amount : Uint128) :
    Call Storage ContractError Response :=
  executeStaking info (.redelegate srcAddr destAddr ⟨stakingDenom, amount⟩)

def executeClaimRewards (addr : String) : Call Storage ContractError Response :=
  pure { messages := [.withdrawDelegatorReward addr] }

def executeSetDrandAddr (deps : Deps) (info : MessageInfo) (addr : String) :
    Call Storage ContractError Response := do
  let config ← mapError .std loadConfig
  ensure (info.sender = config.manager) .unauthorized
  ensure (config.drand = none) .contractAlreadySet
  let noisDrandAddress ← mapError .std (ofExcept (deps.addrValidate addr))
  mapError .std (saveConfig { config with drand := some noisDrandAddress })
  pure { attributes := [("nois-drand-address", noisDrandAddress)] }

def executeSetManagerAddr (deps : Deps) (info : MessageInfo) (manager : String) :
    Call Storage ContractError Response := do
  let config ← mapError .std loadConfig
  ensure (info.sender = config.manager) .unauthorized
  let managerAddr ← mapError .std (ofExcept (deps.addrValidate manager))
  mapError .std (saveConfig { config with manager := managerAddr })
  pure { attributes := [("manager", managerAddr)] }

def execute (deps : Deps) (info : MessageInfo) : ExecuteMsg → Call Storage ContractError Response
  | .sendFundsToDrand funds => executeSendFundsToDrand funds
  | .delegate addr amount => executeDelegate info addr amount
  | .undelegate addr amount => executeUndelegate info addr amount
  | .redelegate srcAddr destAddr amount => executeRedelegate info srcAddr destAddr amount
  | .claimRewards addr => executeClaimRewards addr
  | .setDrandAddr addr => executeSetDrandAddr deps info addr
  | .setManagerAddr manager => executeSetManagerAddr deps info manager

/-! Runs. -/

inductive Action where
  | instantiate (info : MessageInfo) (manager : String)
  | execute (info : MessageInfo) (msg : ExecuteMsg)
  | migrate
deriving DecidableEq, Repr

def perform (deps : Deps) : Action → Call Storage ContractError Response
  | .instantiate _ manager => mapError .std (Icecube.instantiate deps manager)
  | .execute info msg => Icecube.execute deps info msg
  | .migrate => mapError .std Icecube.migrate

def admits (storage : Storage) : Action → Bool
  | .instantiate _ _ => storage.config.isNone
  | _ => true

def system (deps : Deps) : Journal.System Storage Action ContractError Response :=
  ⟨admits, perform deps⟩

abbrev World := Journal.World Storage Action Response

theorem loadConfig_eq_ok {storage after : Storage} {config : Config} :
    loadConfig storage = .ok config after ↔ storage.config = some config ∧ storage = after := by
  cases found : storage.config <;> simp [loadConfig, found]

def Msg.stakes : Msg → Bool
  | .delegate _ amount => amount.denom = stakingDenom
  | .undelegate _ amount => amount.denom = stakingDenom
  | .redelegate _ _ amount => amount.denom = stakingDenom
  | _ => false

/-- Everything that a returning entry point does. -/
inductive Effect (storage : Storage) : Action → Response → Storage → Prop
  | sent {info : MessageInfo} {funds : Coin} {config : Config} {drand : Addr} {response : Response}
      (configured : storage.config = some config) (known : config.drand = some drand)
      (messages : response.messages = [.bankSend drand [funds]]) :
      Effect storage (.execute info (.sendFundsToDrand funds)) response storage
  | staked {info : MessageInfo} {call : ExecuteMsg} {msg : Msg} {config : Config}
      {response : Response} (configured : storage.config = some config)
      (managed : info.sender = config.manager) (stakes : msg.stakes = true)
      (messages : response.messages = [msg]) : Effect storage (.execute info call) response storage
  | claimed {info : MessageInfo} {addr : String} {response : Response}
      (messages : response.messages = [.withdrawDelegatorReward addr]) :
      Effect storage (.execute info (.claimRewards addr)) response storage
  | configured {action : Action} {config : Config} {version : Option (String × String)}
      {response : Response}
      (kept : ∀ previous drand, storage.config = some previous → previous.drand = some drand →
        config.drand = some drand) (messages : response.messages = []) :
      Effect storage action response
        { storage with config := some config, contractVersion := version }
  | migrated {version : Option (String × String)} {response : Response}
      (messages : response.messages = []) :
      Effect storage .migrate response { storage with contractVersion := version }

theorem executeStaking_eq_ok {info : MessageInfo} {msg : Msg} {storage after : Storage}
    {response : Response} (returned : executeStaking info msg storage = .ok response after) :
    ∃ config, storage.config = some config ∧ info.sender = config.manager ∧
      response.messages = [msg] ∧ storage = after := by
  simp only [executeStaking, bind_eq_ok, mapError_eq_ok, loadConfig_eq_ok, ensure_eq_ok, pure_eq_ok]
    at returned
  obtain ⟨config, _, ⟨configured, rfl⟩, _, _, ⟨managed, rfl⟩, rfl, rfl⟩ := returned
  exact ⟨config, configured, managed, rfl, rfl⟩

theorem execute_effect {deps : Deps} {info : MessageInfo} {msg : ExecuteMsg}
    {storage after : Storage} {response : Response}
    (returned : execute deps info msg storage = .ok response after) :
    Effect storage (.execute info msg) response after := by
  cases msg with
  | delegate addr amount =>
      obtain ⟨config, configured, managed, messages, rfl⟩ := executeStaking_eq_ok returned
      exact .staked configured managed (by simp [Msg.stakes]) messages
  | undelegate addr amount =>
      obtain ⟨config, configured, managed, messages, rfl⟩ := executeStaking_eq_ok returned
      exact .staked configured managed (by simp [Msg.stakes]) messages
  | redelegate srcAddr destAddr amount =>
      obtain ⟨config, configured, managed, messages, rfl⟩ := executeStaking_eq_ok returned
      exact .staked configured managed (by simp [Msg.stakes]) messages
  | claimRewards addr =>
      simp only [execute, executeClaimRewards, pure_eq_ok] at returned
      obtain ⟨rfl, rfl⟩ := returned
      exact .claimed rfl
  | setDrandAddr addr =>
      simp only [execute, executeSetDrandAddr, bind_eq_ok, mapError_eq_ok, loadConfig_eq_ok,
        ensure_eq_ok, ofExcept_eq_ok, saveConfig, writes_eq_ok, pure_eq_ok] at returned
      obtain ⟨config, _, ⟨configured, rfl⟩, _, _, ⟨_, rfl⟩, _, _, ⟨unset, rfl⟩, drand, _, ⟨_, rfl⟩,
          _, _, rfl, rfl, rfl⟩ := returned
      refine .configured ?_ rfl
      intro previous earlier found known
      rw [configured] at found
      cases found
      simp [unset] at known
  | sendFundsToDrand funds =>
      simp only [execute, executeSendFundsToDrand, bind_eq_ok, mapError_eq_ok, loadConfig_eq_ok]
        at returned
      obtain ⟨config, _, ⟨configured, rfl⟩, answered⟩ := returned
      cases known : config.drand with
      | none => simp [known] at answered
      | some drand =>
          simp only [known, pure_eq_ok] at answered
          obtain ⟨rfl, rfl⟩ := answered
          exact .sent configured known rfl
  | setManagerAddr manager =>
      simp only [execute, executeSetManagerAddr, bind_eq_ok, mapError_eq_ok, loadConfig_eq_ok,
        ensure_eq_ok, ofExcept_eq_ok, saveConfig, writes_eq_ok, pure_eq_ok] at returned
      obtain ⟨config, _, ⟨configured, rfl⟩, _, _, ⟨_, rfl⟩, manager, _, ⟨_, rfl⟩, _, _, rfl, rfl,
          rfl⟩ := returned
      refine .configured ?_ rfl
      intro previous drand found known
      rw [configured] at found
      cases found
      exact known

theorem perform_effect {deps : Deps} {action : Action} {storage after : Storage}
    {response : Response} (admitted : admits storage action = true)
    (returned : perform deps action storage = .ok response after) :
    Effect storage action response after := by
  cases action with
  | instantiate info manager =>
      simp only [perform, Icecube.instantiate, mapError_eq_ok, bind_eq_ok, ofExcept_eq_ok,
        saveConfig, setContractVersion, writes_eq_ok, pure_eq_ok] at returned
      obtain ⟨_, _, ⟨_, rfl⟩, _, _, rfl, _, _, rfl, rfl, rfl⟩ := returned
      refine .configured ?_ rfl
      intro previous drand found
      simp [admits, found] at admitted
  | execute info msg => exact execute_effect returned
  | migrate =>
      simp only [perform, Icecube.migrate, mapError_eq_ok, bind_eq_ok, setContractVersion,
        writes_eq_ok, pure_eq_ok] at returned
      obtain ⟨_, _, rfl, rfl, rfl⟩ := returned
      exact .migrated rfl

end NoisContracts.Icecube
