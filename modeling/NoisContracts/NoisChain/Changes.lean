import NoisContracts.Gateway.Queues
import NoisContracts.NoisChain.Core

/-!
What a committed transaction changes in the two contracts: a transaction of the
gateway with its calls of the drand contract, a submission with its verified round,
or another transaction of the drand contract, which sends nothing.
-/

namespace NoisContracts.NoisChain

open OrderedStore
open Gateway (QueueStep Registered Accounts)
open Drand (Added Administered)

@[simp] theorem drandMsgs_commit (world : Drand.World) (tx : Drand.Tx)
    (response : Response ContractMsg) (after : Drand.Storage) :
    drandMsgs (world.commit tx response after) = response.msgs := by
  simp [drandMsgs]

theorem drandCall_eq_some {chain : Chain} {tx : Gateway.Tx} {msg : Msg} {call : Drand.Tx}
    (called : chain.drandCall tx msg = some call) :
    ∃ round funds, msg = .wasmExecute chain.drand (.setIncentivized round) funds ∧
      call = ⟨tx.block, tx.index, [],
        .execute ⟨chain.gateway, funds⟩ (.setIncentivized round), true⟩ := by
  unfold Chain.drandCall at called
  split at called
  · rename_i contract round funds
    split at called
    · rename_i same
      cases called
      exact ⟨round, funds, by rw [same], rfl⟩
    · cases called
  · cases called

theorem gatewayCall_eq_some {chain : Chain} {tx : Drand.Tx} {msg : Msg} {call : Gateway.Tx}
    (called : chain.gatewayCall tx msg = some call) :
    ∃ round randomness isVerifyingTx funds,
      msg = .wasmExecute chain.gateway (.addVerifiedRound round randomness isVerifyingTx) funds ∧
        call = ⟨tx.block, tx.index,
          .execute ⟨chain.drand, funds⟩ (.addVerifiedRound round randomness isVerifyingTx),
          true⟩ := by
  unfold Chain.gatewayCall at called
  split at called
  · rename_i contract round randomness isVerifyingTx funds
    split at called
    · rename_i same
      cases called
      exact ⟨round, randomness, isVerifyingTx, funds, by rw [same], rfl⟩
    · cases called
  · cases called

theorem drandAttempt_incentivized {chain : Chain} {world next : Drand.World} {call : Drand.Tx}
    {info : MessageInfo} {round : Nat}
    (action : call.action = .execute info (.setIncentivized round))
    (committed : chain.drandAttempt world call = some next) :
    ∃ config, world.storage.config = some config ∧ config.minRound ≤ round ∧
      next.storage = { world.storage with
        incentivizedByGateway := world.storage.incentivizedByGateway.insert round 1 } := by
  obtain ⟨_, response, after, returned, rfl⟩ := Journal.System.attempt_eq_some.mp committed
  obtain ⟨_, administered⟩ := Drand.perform_administered (by simp [action]) returned
  rw [action] at administered
  cases administered with
  | incentivized configured sender minRound => exact ⟨_, configured, minRound, rfl⟩

theorem drandCalls_sameRounds {chain : Chain} {tx : Gateway.Tx} {msgs : List Msg}
    {world next : Drand.World}
    (calls : (msgs.filterMap (chain.drandCall tx)).foldlM chain.drandAttempt world = some next) :
    Drand.SameRounds world.storage next.storage := by
  refine @Runs.foldlM_invariant _ _ chain.drandAttempt
    (fun state => Drand.SameRounds world.storage state.storage) _ _ _ ?_ ⟨rfl, rfl, rfl⟩ calls
  intro before call after member same committed
  obtain ⟨msg, _, called⟩ := List.mem_filterMap.mp member
  obtain ⟨round, funds, _, rfl⟩ := drandCall_eq_some called
  obtain ⟨_, _, _, storage⟩ := drandAttempt_incentivized rfl committed
  rw [storage]
  exact ⟨same.submissions, same.submissionsCount, same.beacons⟩

section

variable [Wire]

theorem gatewayAttempt_queueStep {chain : Chain} {world next : Gateway.World} {tx : Gateway.Tx}
    (projects : ∃ txs, world = Gateway.reached chain.host.toDeps chain.gateway txs)
    (committed : chain.gatewayAttempt world tx = some next) :
    ∃ response storage, next = world.commit tx response storage ∧
      QueueStep world tx response storage := by
  obtain ⟨txs, rfl⟩ := projects
  obtain ⟨response, storage, effect, admitted, rfl⟩ := Gateway.attempt_effect committed
  have registered := Gateway.reached_registered chain.host.toDeps chain.gateway txs
  have accounts := Gateway.reached_accounts chain.host.toDeps chain.gateway txs
  exact ⟨response, storage, rfl, Gateway.effect_queueStep registered accounts admitted effect⟩

inductive Change (chain : Chain) (world : World) : Tx → World → Prop
  | gateway {tx : Gateway.Tx} {response : Response ContractMsg} {storage : Gateway.Storage}
      {drand : Drand.World} (external : chain.external (.gateway tx) = true)
      (step : QueueStep world.gateway tx response storage)
      (calls :
        (response.msgs.filterMap (chain.drandCall tx)).foldlM chain.drandAttempt world.drand =
          some drand) :
      Change chain world (.gateway tx) ⟨world.gateway.commit tx response storage, drand⟩
  | added {tx : Drand.Tx} {info : MessageInfo} {round : Nat} {signature : Binary}
      {response : Response ContractMsg} {after : Drand.Storage} {config : Drand.Config}
      {payout : Coin} {gateway : Gateway.World}
      (action : tx.action = .execute info (.addRound round signature))
      (submission : Added chain.host (tx.env chain.drand) tx.balances info round signature
        world.drand.storage response after config payout)
      (calls :
        (response.msgs.filterMap (chain.gatewayCall tx)).foldlM chain.gatewayAttempt world.gateway =
          some gateway) :
      Change chain world (.drand tx) ⟨gateway, world.drand.commit tx response after⟩
  | administered {tx : Drand.Tx} {response : Response ContractMsg} {after : Drand.Storage}
      (admitted : Drand.admits world.drand.storage tx = true)
      (changed : Administered world.drand.storage tx.action after) :
      Change chain world (.drand tx) ⟨world.gateway, world.drand.commit tx response after⟩

theorem attempt_change {chain : Chain} {world next : World} {tx : Tx}
    (projects : Projects chain world) (committed : attempt chain world tx = some next) :
    Change chain world tx next := by
  cases tx with
  | gateway tx =>
      obtain ⟨external, gateway, drand, first, calls, rfl⟩ := attempt_gateway committed
      obtain ⟨response, storage, rfl, step⟩ := gatewayAttempt_queueStep projects.gateway first
      rw [Gateway.World.lastMsgs_commit] at calls
      exact .gateway external step calls
  | drand tx =>
      obtain ⟨_, gateway, drand, first, calls, rfl⟩ := attempt_drand committed
      obtain ⟨admitted, response, after, returned, rfl⟩ := Journal.System.attempt_eq_some.mp first
      rw [drandMsgs_commit] at calls
      rcases Drand.perform_cases returned with
          ⟨info, round, signature, config, payout, action, submission, _⟩ | ⟨_, messages, changed⟩
      · exact .added action submission calls
      · simp only [Response.msgs, messages, List.map_nil, List.filterMap_nil, List.foldlM_nil,
          Option.pure_def, Option.some.injEq] at calls
        subst calls
        exact .administered admitted changed

theorem Change.verified {chain : Chain} {world : World} {tx : Drand.Tx} {info : MessageInfo}
    {round : Nat} {signature : Binary} {response : Response ContractMsg} {after : Drand.Storage}
    {config : Drand.Config} {payout : Coin} {gateway : Gateway.World}
    (projects : Projects chain world)
    (submission : Added chain.host (tx.env chain.drand) tx.balances info round signature
      world.drand.storage response after config payout)
    (attached : config.gateway = some chain.gateway)
    (calls :
      (response.msgs.filterMap (chain.gatewayCall tx)).foldlM chain.gatewayAttempt world.gateway =
        some gateway) :
    ∃ call answer storage, gateway = world.gateway.commit call answer storage ∧
      QueueStep world.gateway call answer storage ∧
      call.action =
        .execute ⟨chain.drand, []⟩ (.addVerifiedRound round (chain.host.deriveRandomness signature)
          (decide (Drand.submissionsCountOf world.drand.storage round <
            Drand.numberOfSubmissionVerificationPerRound))) := by
  have unpaid : (Drand.rewardMsgs info.sender payout).filterMap (chain.gatewayCall tx) = [] := by
    unfold Drand.rewardMsgs
    split <;> rfl
  rw [submission.messages, List.filterMap_append, unpaid, List.append_nil] at calls
  simp only [Drand.verifiedMsgs, attached, Option.toList_some, List.map_cons, List.map_nil,
    List.filterMap_cons, Chain.gatewayCall, if_true, List.filterMap_nil, List.foldlM_cons,
    List.foldlM_nil, Option.pure_def, Option.bind_eq_bind, Option.bind_fun_some] at calls
  obtain ⟨answer, storage, same, step⟩ := gatewayAttempt_queueStep projects.gateway calls
  exact ⟨_, answer, storage, same, step, rfl⟩

end

end NoisContracts.NoisChain
