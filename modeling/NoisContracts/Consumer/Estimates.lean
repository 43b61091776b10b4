import NoisContracts.Consumer.Core
import NoisContracts.NoisHost

/-!
Executable model of `nois-demo`, a dapp that estimates pi from a beacon, and its runs
next to the proxy. The estimate is computed in `Decimal`, which is a `Uint128` of
atomics with 18 fractional digits; its products are rounded down and panic on overflow.
-/

namespace NoisContracts.Demo

open ContractCall ContractCall.Call OrderedStore

def decimalOne : Nat := 1000000000000000000

/-- The random decimals that the `nois` package derives from a randomness, in the order
in which they are provided. They are below one. -/
structure Randoms where
  decimal : Binary → Nat → Uint128
  below : ∀ randomness position, (decimal randomness position).val < decimalOne

structure Storage where
  noisProxy : Option Addr
  results : Store String Uint128

def Storage.empty : Storage := ⟨none, ∅⟩

inductive ContractError where
  | std (error : StdError)
  | invalidProxyAddress
  | unauthorizedReceive
  | invalidRandomness
deriving DecidableEq, Repr

def ContractError.toString : ContractError → String
  | .std error => error.toString
  | .invalidProxyAddress => "Proxy address is not valid"
  | .unauthorizedReceive => "Unauthorized NoisReceive execution"
  | .invalidRandomness => "Received invalid randomness"

inductive ExecuteMsg where
  | estimatePi (jobId : String)
  | noisReceive (callback : NoisCallback)
deriving DecidableEq, Repr

def decimalMul (left right : Uint128) : Panics Uint128 := left.mulFloor right.val decimalOne

def decimalAdd (left right : Uint128) : Panics Uint128 :=
  if fits : left.val + right.val < 2 ^ 128 then .ok ⟨left.val + right.val, fits⟩
    else .error .overflow

/-- `Decimal::checked_from_ratio` of two `u32`. -/
def decimalFromRatio (numerator denominator : Nat) : Panics Uint128 :=
  if denominator = 0 then .error (.expect "Number of rounds must not ne zero")
  else if fits : numerator * decimalOne / denominator < 2 ^ 128 then
    .ok ⟨numerator * decimalOne / denominator, fits⟩
  else .error (.expect "Input value too low to exceed range")

theorem four_lt : 4 * decimalOne < 2 ^ 128 := by decide

def rounds : Nat := 10000

def insideLoop (decimal : Nat → Uint128) : Nat → Nat → Nat → Panics Nat
  | 0, _, inside => .ok inside
  | left + 1, position, inside => do
      let x := decimal position
      let y := decimal (position + 1)
      let xx ← decimalMul x x
      let yy ← decimalMul y y
      let sum ← decimalAdd xx yy
      if sum.val < decimalOne then
        let more ← checkedAdd 32 inside 1
        insideLoop decimal left (position + 2) more
      else insideLoop decimal left (position + 2) inside

def estimatePi (randoms : Randoms) (randomness : Binary) : Panics Uint128 := do
  let inside ← insideLoop (randoms.decimal randomness) rounds 0 0
  let inCircleRatio ← decimalFromRatio inside rounds
  decimalMul inCircleRatio ⟨4 * decimalOne, four_lt⟩

def loadProxy : Call Storage ContractError Addr := do
  match ← reads Storage.noisProxy with
  | some proxy => pure proxy
  | none => fail (.std (.notFound "nois_proxy"))

def instantiate (deps : Deps) (noisProxy : String) :
    Call Storage ContractError (Response Proxy.ExecuteMsg) := do
  let noisProxyAddr ← ofExcept
    ((deps.addrValidate noisProxy).mapError fun _ => .invalidProxyAddress)
  writes fun storage => { storage with noisProxy := some noisProxyAddr }
  pure { attributes := [("action", "instantiate"), ("nois_proxy", noisProxy)] }

def executeEstimatePi (info : MessageInfo) (jobId : String) :
    Call Storage ContractError (Response Proxy.ExecuteMsg) := do
  let noisProxy ← loadProxy
  let response : Response Proxy.ExecuteMsg := {}
  pure (response.addMessages [.wasmExecute noisProxy (.getNextRandomness jobId) info.funds])

def executeReceive (randoms : Randoms) (info : MessageInfo) (callback : NoisCallback) :
    Call Storage ContractError (Response Proxy.ExecuteMsg) := do
  let proxy ← loadProxy
  ensure (info.sender = proxy) .unauthorizedReceive
  ensure (callback.randomness.length = 32) .invalidRandomness
  let estimatedPi ← ofPanics (estimatePi randoms callback.randomness)
  writes fun storage =>
    { storage with results := storage.results.insert callback.jobId estimatedPi }
  pure {}

def execute (randoms : Randoms) (info : MessageInfo) :
    ExecuteMsg → Call Storage ContractError (Response Proxy.ExecuteMsg)
  | .estimatePi jobId => executeEstimatePi info jobId
  | .noisReceive callback => executeReceive randoms info callback

inductive Action where
  | instantiate (info : MessageInfo) (noisProxy : String)
  | execute (info : MessageInfo) (msg : ExecuteMsg)
deriving DecidableEq, Repr

structure Tx where
  block : BlockInfo
  index : Option Nat
  action : Action
deriving DecidableEq, Repr

def perform (randoms : Randoms) (deps : Deps) (tx : Tx) :
    Call Storage ContractError (Response Proxy.ExecuteMsg) :=
  match tx.action with
  | .instantiate _ noisProxy => instantiate deps noisProxy
  | .execute info msg => execute randoms info msg

def admits (storage : Storage) (tx : Tx) : Bool :=
  match tx.action with
  | .instantiate _ _ => storage.noisProxy.isNone
  | .execute _ _ => true

def system (randoms : Randoms) (deps : Deps) :
    Journal.System Storage Tx ContractError (Response Proxy.ExecuteMsg) :=
  ⟨admits, perform randoms deps⟩

abbrev World := Journal.World Storage Tx (Response Proxy.ExecuteMsg)

/-! The estimate. -/

end NoisContracts.Demo

namespace NoisContracts.Consumer

open ContractCall ContractCall.Call OrderedStore Network Demo

/-- Where the stored estimates and the messages of the contract come from. -/
structure Estimated (randoms : Randoms) (world : Demo.World) : Prop where
  results : ∀ (jobId : String) estimate, world.storage.results[jobId]? = some estimate →
    ∃ entry ∈ world.log, ∃ info answer, entry.1.action = .execute info (.noisReceive answer) ∧
      world.storage.noisProxy = some info.sender ∧ answer.jobId = jobId ∧
      answer.randomness.length = 32 ∧ estimatePi randoms answer.randomness = .ok estimate
  requests : ∀ entry ∈ world.log, ∀ target msg funds, .wasmExecute target msg funds ∈ entry.2.msgs →
    ∃ info jobId, entry.1.action = .execute info (.estimatePi jobId) ∧
      msg = .getNextRandomness jobId

section

variable {randoms : Randoms} {deps : Deps} {world : Demo.World} {tx : Demo.Tx}
  {response : Response Proxy.ExecuteMsg} {after : Demo.Storage}

theorem loadProxy_eq_ok {storage final : Demo.Storage} {proxy : Addr} :
    Demo.loadProxy storage = .ok proxy final ↔
      storage.noisProxy = some proxy ∧ final = storage := by
  unfold Demo.loadProxy
  cases found : storage.noisProxy <;> simp [found, eq_comm]

theorem Estimated.commit (estimated : Estimated randoms world)
    (admitted : Demo.admits world.storage tx = true)
    (returned : Demo.perform randoms deps tx world.storage = .ok response after) :
    Estimated randoms (world.commit tx response after) := by
  have results
      (proxy : ∀ known, world.storage.noisProxy = some known → after.noisProxy = some known)
      {jobId : String} {estimate : Uint128}
      (stored : world.storage.results[jobId]? = some estimate) :
      ∃ entry ∈ (world.commit tx response after).log,
        ∃ info answer, entry.1.action = .execute info (.noisReceive answer) ∧
          after.noisProxy = some info.sender ∧ answer.jobId = jobId ∧
          answer.randomness.length = 32 ∧ estimatePi randoms answer.randomness = .ok estimate := by
    obtain ⟨entry, member, info, answer, action, known, rest⟩ :=
      estimated.results jobId estimate stored
    exact ⟨entry, List.mem_append_left _ member, info, answer, action, proxy _ known, rest⟩
  have requests
      (sent : ∀ target msg funds, .wasmExecute target msg funds ∈ response.msgs →
        ∃ info jobId, tx.action = .execute info (.estimatePi jobId) ∧
          msg = .getNextRandomness jobId) :
      ∀ entry ∈ (world.commit tx response after).log,
        ∀ target msg funds, .wasmExecute target msg funds ∈ entry.2.msgs →
          ∃ info jobId, entry.1.action = .execute info (.estimatePi jobId) ∧
            msg = .getNextRandomness jobId := by
    intro entry member
    rw [Journal.World.commit_log, List.mem_append, List.mem_singleton] at member
    rcases member with earlier | rfl
    · exact estimated.requests entry earlier
    · exact sent
  unfold Demo.perform at returned
  cases action : tx.action with
  | instantiate info noisProxy =>
      simp only [action, Demo.instantiate, bind_eq_ok, ofExcept_eq_ok, writes_eq_ok, pure_eq_ok]
        at returned
      obtain ⟨proxy, _, ⟨_, rfl⟩, _, _, rfl, rfl, rfl⟩ := returned
      refine ⟨fun jobId estimate stored => results ?_ stored, requests (by simp [Response.msgs])⟩
      intro known found
      simp [Demo.admits, action, found] at admitted
  | execute info msg =>
      cases msg with
      | estimatePi jobId =>
          simp only [action, Demo.execute, executeEstimatePi, bind_eq_ok, loadProxy_eq_ok,
            pure_eq_ok] at returned
          obtain ⟨proxy, _, ⟨_, rfl⟩, rfl, rfl⟩ := returned
          refine ⟨fun other estimate stored => results (fun _ => id) stored, requests ?_⟩
          intro target msg funds sent
          simp only [Response.addMessages, Response.msgs, List.nil_append, SubMsg.map_msg_new,
            List.mem_singleton, CosmosMsg.wasmExecute.injEq] at sent
          exact ⟨info, jobId, action, sent.2.1⟩
      | noisReceive answer =>
          simp only [action, Demo.execute, executeReceive, bind_eq_ok, loadProxy_eq_ok,
            ensure_eq_ok, ofPanics_eq_ok, writes_eq_ok, pure_eq_ok] at returned
          obtain ⟨proxy, _, ⟨known, rfl⟩, _, _, ⟨sender, rfl⟩, _, _, ⟨length, rfl⟩, estimate, _,
              ⟨computed, rfl⟩, _, _, rfl, rfl, rfl⟩ := returned
          refine ⟨?_, requests (by simp [Response.msgs])⟩
          intro jobId other stored
          simp only [Journal.World.commit_storage, get_insert] at stored
          by_cases same : answer.jobId = jobId
          · rw [if_pos same] at stored
            cases stored
            exact ⟨(tx, {}), List.mem_append_right _ (List.mem_singleton.mpr rfl), info, answer,
              action, sender ▸ known, same, length, computed⟩
          · rw [if_neg same] at stored
            exact results (fun _ => id) stored

end

section

variable [Wire]

end

end NoisContracts.Consumer
