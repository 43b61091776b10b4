import NoisContracts.Gateway.Accounting
import NoisContracts.Drand.Submissions

/-!
The gateway and the drand contract on one chain. A transaction of one contract
carries its messages to the other one with it: `AddVerifiedRound` from the drand
contract to the gateway and `SetIncentivized` from the gateway to the drand contract.
If such a message fails, nothing of the transaction is kept. Nobody else sends from
the address of a contract.
-/

namespace NoisContracts.NoisChain

structure Chain where
  host : Drand.Host
  gateway : Addr
  drand : Addr

structure World where
  gateway : Gateway.World
  drand : Drand.World

def World.initial : World := ⟨Gateway.World.initial, ⟨Drand.Storage.empty, []⟩⟩

inductive Tx where
  | gateway (tx : Gateway.Tx)
  | drand (tx : Drand.Tx)

def Chain.isContract (chain : Chain) (sender : Addr) : Bool :=
  sender = chain.gateway || sender = chain.drand

/-- Whether the transaction comes from an account and not from one of the contracts. -/
def Chain.external (chain : Chain) : Tx → Bool
  | .gateway tx => match tx.action with
      | .execute info _ => !chain.isContract info.sender
      | _ => true
  | .drand tx => match tx.action with
      | .execute info _ => !chain.isContract info.sender
      | _ => true

def Chain.gatewayCall (chain : Chain) (tx : Drand.Tx) : Msg → Option Gateway.Tx
  | .wasmExecute contract (.addVerifiedRound round randomness isVerifyingTx) funds =>
      if contract = chain.gateway then
        some ⟨tx.block, tx.index,
          .execute ⟨chain.drand, funds⟩ (.addVerifiedRound round randomness isVerifyingTx), true⟩
      else none
  | _ => none

def Chain.drandCall (chain : Chain) (tx : Gateway.Tx) : Msg → Option Drand.Tx
  | .wasmExecute contract (.setIncentivized round) funds =>
      if contract = chain.drand then
        some
          ⟨tx.block, tx.index, [], .execute ⟨chain.gateway, funds⟩ (.setIncentivized round), true⟩
      else none
  | _ => none

def drandMsgs (world : Drand.World) : List Msg :=
  (world.log.getLast?.map fun entry => entry.2.msgs).getD []

def Chain.drandAttempt (chain : Chain) : Drand.World → Drand.Tx → Option Drand.World :=
  (Drand.system chain.host chain.drand).attempt

theorem drand_extends {chain : Chain} {world next : Drand.World} {txs : List Drand.Tx}
    (projects : ∃ earlier, world = Drand.reached chain.host chain.drand earlier)
    (committed : txs.foldlM chain.drandAttempt world = some next) :
    ∃ all, next = Drand.reached chain.host chain.drand all := by
  obtain ⟨earlier, rfl⟩ := projects
  refine ⟨earlier ++ txs, ?_⟩
  rw [Drand.reached, Journal.System.reached, Runs.run_append]
  exact (Runs.run_of_foldlM committed).symm

section

variable [Wire]

def Chain.gatewayAttempt (chain : Chain) : Gateway.World → Gateway.Tx → Option Gateway.World :=
  Gateway.attempt chain.host.toDeps chain.gateway

def attempt (chain : Chain) (world : World) (tx : Tx) : Option World :=
  if chain.external tx then
    match tx with
    | .gateway tx => do
        let gateway ← chain.gatewayAttempt world.gateway tx
        let drand ← (gateway.lastMsgs.filterMap (chain.drandCall tx)).foldlM chain.drandAttempt
          world.drand
        some ⟨gateway, drand⟩
    | .drand tx => do
        let drand ← chain.drandAttempt world.drand tx
        let gateway ← ((drandMsgs drand).filterMap (chain.gatewayCall tx)).foldlM
          chain.gatewayAttempt world.gateway
        some ⟨gateway, drand⟩
  else none

def reached (chain : Chain) (txs : List Tx) : World := Runs.run (attempt chain) World.initial txs

inductive Step (chain : Chain) (world : World) : World → Prop
  | gateway {tx : Gateway.Tx} {gateway : Gateway.World} {drand : Drand.World}
      (external : chain.external (.gateway tx) = true)
      (committed : chain.gatewayAttempt world.gateway tx = some gateway)
      (calls :
        (gateway.lastMsgs.filterMap (chain.drandCall tx)).foldlM chain.drandAttempt world.drand =
          some drand) : Step chain world ⟨gateway, drand⟩
  | drand {tx : Drand.Tx} {gateway : Gateway.World} {drand : Drand.World}
      (external : chain.external (.drand tx) = true)
      (committed : chain.drandAttempt world.drand tx = some drand)
      (calls :
        ((drandMsgs drand).filterMap (chain.gatewayCall tx)).foldlM chain.gatewayAttempt
          world.gateway =
          some gateway) : Step chain world ⟨gateway, drand⟩

theorem attempt_gateway {chain : Chain} {world next : World} {tx : Gateway.Tx}
    (committed : attempt chain world (.gateway tx) = some next) :
    chain.external (.gateway tx) = true ∧
      ∃ gateway drand, chain.gatewayAttempt world.gateway tx = some gateway ∧
        (gateway.lastMsgs.filterMap (chain.drandCall tx)).foldlM chain.drandAttempt world.drand =
          some drand ∧
        next = ⟨gateway, drand⟩ := by
  unfold attempt at committed
  split at committed
  · rename_i external
    obtain ⟨gateway, first, committed⟩ := Option.bind_eq_some_iff.mp committed
    obtain ⟨drand, calls, committed⟩ := Option.bind_eq_some_iff.mp committed
    exact ⟨external, gateway, drand, first, calls, (Option.some.inj committed).symm⟩
  · cases committed

theorem attempt_drand {chain : Chain} {world next : World} {tx : Drand.Tx}
    (committed : attempt chain world (.drand tx) = some next) :
    chain.external (.drand tx) = true ∧
      ∃ gateway drand, chain.drandAttempt world.drand tx = some drand ∧
        ((drandMsgs drand).filterMap (chain.gatewayCall tx)).foldlM chain.gatewayAttempt
          world.gateway =
          some gateway ∧
        next = ⟨gateway, drand⟩ := by
  unfold attempt at committed
  split at committed
  · rename_i external
    obtain ⟨drand, first, committed⟩ := Option.bind_eq_some_iff.mp committed
    obtain ⟨gateway, calls, committed⟩ := Option.bind_eq_some_iff.mp committed
    exact ⟨external, gateway, drand, first, calls, (Option.some.inj committed).symm⟩
  · cases committed

theorem attempt_step {chain : Chain} {world next : World} {tx : Tx}
    (committed : attempt chain world tx = some next) : Step chain world next := by
  cases tx with
  | gateway tx =>
      obtain ⟨external, gateway, drand, first, calls, rfl⟩ := attempt_gateway committed
      exact .gateway external first calls
  | drand tx =>
      obtain ⟨external, gateway, drand, first, calls, rfl⟩ := attempt_drand committed
      exact .drand external first calls

structure Projects (chain : Chain) (world : World) : Prop where
  gateway : ∃ txs, world.gateway = Gateway.reached chain.host.toDeps chain.gateway txs
  drand : ∃ txs, world.drand = Drand.reached chain.host chain.drand txs

theorem projects_initial (chain : Chain) : Projects chain World.initial :=
  ⟨⟨[], rfl⟩, ⟨[], rfl⟩⟩

theorem gateway_extends {chain : Chain} {world next : Gateway.World} {txs : List Gateway.Tx}
    (projects : ∃ earlier, world = Gateway.reached chain.host.toDeps chain.gateway earlier)
    (committed : txs.foldlM chain.gatewayAttempt world = some next) :
    ∃ all, next = Gateway.reached chain.host.toDeps chain.gateway all := by
  obtain ⟨earlier, rfl⟩ := projects
  refine ⟨earlier ++ txs, ?_⟩
  rw [Gateway.reached, Runs.run_append]
  exact (Runs.run_of_foldlM committed).symm

theorem Projects.step {chain : Chain} {world next : World} (projects : Projects chain world)
    (step : Step chain world next) : Projects chain next := by
  cases step with
  | @gateway tx gateway drand external committed calls =>
      have alone : [tx].foldlM chain.gatewayAttempt world.gateway = some gateway := by
        simpa using committed
      exact ⟨gateway_extends projects.gateway alone, drand_extends projects.drand calls⟩
  | @drand tx gateway drand external committed calls =>
      have alone : [tx].foldlM chain.drandAttempt world.drand = some drand := by
        simpa using committed
      exact ⟨gateway_extends projects.gateway calls, drand_extends projects.drand alone⟩

theorem reached_projects (chain : Chain) (txs : List Tx) : Projects chain (reached chain txs) := by
  refine Runs.run_invariant ?_ txs _ (projects_initial chain)
  intro world tx next projects committed
  exact projects.step (attempt_step committed)

end

end NoisContracts.NoisChain
