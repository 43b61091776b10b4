import NoisContracts.Gateway.Customers
import NoisContracts.NoisChain.Agreement
import NoisContracts.NoisChain.Changes

/-!
Incentives for the queued rounds. A request that has to wait for its round makes the
gateway mark the round in the drand contract, in the same transaction. The bots are
then paid for the round and their submissions are not too low for the drand contract,
as long as nobody raises its minimum.
-/

namespace NoisContracts.NoisChain

open OrderedStore
open Gateway (QueueStep)
open Drand (Added Administered)

def Marked (storage : Drand.Storage) (round : Nat) : Prop :=
  ∃ config, storage.config = some config ∧ config.minRound ≤ round ∧
    storage.incentivizedByGateway.contains round = true

theorem Marked.mono {before after : Drand.Storage} {round : Nat} (marked : Marked before round)
    (config : after.config = before.config)
    (keeps : before.incentivizedByGateway.contains round = true →
      after.incentivizedByGateway.contains round = true) : Marked after round := by
  obtain ⟨found, configured, minRound, contained⟩ := marked
  exact ⟨found, config.trans configured, minRound, keeps contained⟩

theorem contains_mark {rounds : Store Nat Nat} {round other : Nat}
    (contained : rounds.contains other = true) : (rounds.insert round 1).contains other = true := by
  simp [contained]

theorem drandCalls_keep {chain : Chain} {tx : Gateway.Tx} {msgs : List Msg}
    {world next : Drand.World}
    (calls : (msgs.filterMap (chain.drandCall tx)).foldlM chain.drandAttempt world = some next) :
    next.storage.config = world.storage.config ∧
      ∀ round, world.storage.incentivizedByGateway.contains round = true →
        next.storage.incentivizedByGateway.contains round = true := by
  refine @Runs.foldlM_invariant _ _ chain.drandAttempt
    (fun state => state.storage.config = world.storage.config ∧ ∀ round,
      world.storage.incentivizedByGateway.contains round = true →
        state.storage.incentivizedByGateway.contains round = true)
    _ _ _ ?_ ⟨rfl, fun _ contained => contained⟩ calls
  rintro before call after member ⟨config, keeps⟩ committed
  obtain ⟨msg, _, called⟩ := List.mem_filterMap.mp member
  obtain ⟨round, funds, _, rfl⟩ := drandCall_eq_some called
  obtain ⟨_, _, _, storage⟩ := drandAttempt_incentivized rfl committed
  rw [storage]
  exact ⟨config, fun other contained => contains_mark (keeps other contained)⟩

/-- The message of the gateway either marks the round or reverts the transaction. -/
theorem drandCalls_marked {chain : Chain} {tx : Gateway.Tx} {msgs : List Msg}
    {world next : Drand.World} {round : Nat} {funds : List Coin}
    (calls : (msgs.filterMap (chain.drandCall tx)).foldlM chain.drandAttempt world = some next)
    (member : .wasmExecute chain.drand (.setIncentivized round) funds ∈ msgs) :
    Marked next.storage round := by
  obtain ⟨earlier, later, rfl⟩ := List.append_of_mem member
  rw [List.filterMap_append, List.foldlM_append] at calls
  obtain ⟨before, _, calls⟩ := Option.bind_eq_some_iff.mp calls
  have called : chain.drandCall tx (.wasmExecute chain.drand (.setIncentivized round) funds) =
      some ⟨tx.block, tx.index, [], .execute ⟨chain.gateway, funds⟩ (.setIncentivized round),
        true⟩ := by
    simp [Chain.drandCall]
  rw [List.filterMap_cons_some called, List.foldlM_cons] at calls
  obtain ⟨middle, first, calls⟩ := Option.bind_eq_some_iff.mp calls
  obtain ⟨config, configured, minRound, storage⟩ := drandAttempt_incentivized rfl first
  obtain ⟨sameConfig, keeps⟩ := drandCalls_keep calls
  refine ⟨config, ?_, minRound, keeps round ?_⟩
  · rw [sameConfig, storage, configured]
  · rw [storage]
    simp

theorem Marked.added {host : Drand.Host} {env : Env} {balances : List Coin} {info : MessageInfo}
    {round other : Nat} {signature : Binary} {storage after : Drand.Storage}
    {response : Response ContractMsg} {config : Drand.Config} {payout : Coin}
    (marked : Marked storage other)
    (added : Added host env balances info round signature storage response after config payout) :
    Marked after other := by
  have kept : after.config = storage.config ∧
      after.incentivizedByGateway = storage.incentivizedByGateway := by
    rw [added.changed]
    unfold Drand.Storage.keepBeacon Drand.Storage.creditBot Drand.Storage.recordSubmission
    split <;> split <;> exact ⟨rfl, rfl⟩
  refine marked.mono kept.1 ?_
  intro contained
  rw [kept.2, contained]

theorem Marked.administered {storage after : Drand.Storage} {tx : Drand.Tx} {round : Nat}
    (marked : Marked storage round) (changed : Administered storage tx.action after)
    (admitted : Drand.admits storage tx = true)
    (kept : ∀ before later, storage.config = some before → after.config = some later →
      later.minRound ≤ before.minRound) : Marked after round := by
  obtain ⟨action, same⟩ : ∃ action, tx.action = action := ⟨_, rfl⟩
  rw [same] at changed
  cases changed with
  | instantiated detached minRound =>
      -- the contract exists already
      obtain ⟨config, configured, _⟩ := marked
      simp [Drand.admits, same, configured] at admitted
  | registered rounds points => exact marked.mono rfl fun contained => contained
  | incentivized configured sender minRound => exact marked.mono rfl contains_mark
  | allowlisted => exact marked.mono rfl fun contained => contained
  | configured found sender raised attached =>
      obtain ⟨config, configured, minRound, contained⟩ := marked
      have lowered := kept _ _ configured rfl
      exact ⟨_, rfl, le_trans lowered minRound, contained⟩
  | migrated => exact marked.mono rfl fun contained => contained

theorem isIncentivizedFor_marked {host : Drand.Host} {storage : Drand.Storage}
    {round minRound : Nat} (high : minRound ≤ round)
    (contained : storage.incentivizedByGateway.contains round = true) (sender : Addr) :
    Drand.isIncentivizedFor host storage sender round minRound =
      decide (Drand.group host sender = Drand.eligibleGroup round) := by
  rw [Drand.isIncentivizedFor, if_neg (Nat.not_lt.mpr high), contained]
  simp

def QueuesMarked (world : World) : Prop :=
  ∀ round, world.gateway.storage.queue round ≠ [] → Marked world.drand.storage round

theorem queuesMarked_initial : QueuesMarked World.initial := by
  intro round waiting
  exact (waiting rfl).elim

/-- What the bots see of a round that somebody waits for. -/
structure Submittable (host : Drand.Host) (storage : Drand.Storage) (round : Nat) : Prop where
  marked : storage.incentivizedByGateway.contains round = true
  high : ∃ config, storage.config = some config ∧ config.minRound ≤ round
  accepted : ∀ env balances info signature tooLow minRound after,
    Drand.execute host env balances info (.addRound round signature) storage ≠
      .error (.roundTooLow tooLow minRound) after
  eligible : ∀ sender addr, host.addrValidate sender = .ok addr →
    Drand.queryIsIncentivized host storage sender [round] =
      .ok [decide (Drand.group host addr = Drand.eligibleGroup round)]

theorem Marked.submittable {storage : Drand.Storage} {round : Nat} (marked : Marked storage round)
    (host : Drand.Host) : Submittable host storage round := by
  obtain ⟨config, configured, high, contained⟩ := marked
  refine ⟨contained, ⟨config, configured, high⟩, ?_, ?_⟩
  · intro env balances info signature tooLow minRound after
    exact Drand.executeAddRound_roundTooLow configured high
  · intro sender addr valid
    simp only [Drand.queryIsIncentivized, valid, configured, List.map_cons, List.map_nil]
    exact congrArg (fun answer => Except.ok [answer]) (isIncentivizedFor_marked high contained addr)

section

variable [Wire]

def requestsBeacon : Tx → Bool
  | .gateway tx =>
      match tx.action with
      | .packetReceive msg =>
          match Wire.inPacket.fromJson msg.data with
          | .ok (.requestBeacon _ _) => true
          | _ => false
      | _ => false
  | .drand _ => false

/-- The gateway knows the drand contract when a request arrives. -/
def linked (chain : Chain) (world : World) (tx : Tx) : Bool :=
  !requestsBeacon tx || world.gateway.storage.config.bind Gateway.Config.drand = some chain.drand

/-- The transaction does not raise the minimum of the drand contract. -/
def keepsMinRound (chain : Chain) (world : World) (tx : Tx) : Bool :=
  match world.drand.storage.config, (Runs.settle (attempt chain) world tx).drand.storage.config with
  | some before, some after => after.minRound ≤ before.minRound
  | _, _ => true

theorem requestsBeacon_of_queued {tx : Gateway.Tx} {response : Response ContractMsg} {round : Nat}
    {job : Gateway.Job} (queued : Gateway.Entry.queuedFor round ⟨tx, response⟩ = some job) :
    requestsBeacon (.gateway tx) = true := by
  unfold Gateway.Entry.queuedFor at queued
  split at queued
  · unfold Gateway.Entry.acceptedFor at queued
    split at queued
    · rename_i msg action
      split at queued
      · rename_i base origin data decoded answer
        change tx.action = .packetReceive msg at action
        simp only [requestsBeacon, action, decoded]
      · cases queued
    · cases queued
  · cases queued

theorem linked_message {chain : Chain} {world : World} {tx : Tx} {config : Gateway.Config}
    (round : Nat) (links : linked chain world tx = true) (requests : requestsBeacon tx = true)
    (configured : world.gateway.storage.config = some config) :
    .wasmExecute chain.drand (.setIncentivized round) [] ∈
      Gateway.incentivizeMsgs config round := by
  have known : config.drand = some chain.drand := by
    simpa [linked, requests, configured] using links
  simp [Gateway.incentivizeMsgs, known]

theorem gatewayCalls_shrink {chain : Chain} {tx : Drand.Tx} {msgs : List Msg}
    {world next : Gateway.World}
    (projects : ∃ txs, world = Gateway.reached chain.host.toDeps chain.gateway txs)
    (calls : (msgs.filterMap (chain.gatewayCall tx)).foldlM chain.gatewayAttempt world = some next)
    (round : Nat) (waiting : next.storage.queue round ≠ []) : world.storage.queue round ≠ [] := by
  have shrinks : (∃ txs, next = Gateway.reached chain.host.toDeps chain.gateway txs) ∧
      (next.storage.queue round ≠ [] → world.storage.queue round ≠ []) := by
    refine @Runs.foldlM_invariant _ _ chain.gatewayAttempt
      (fun state => (∃ txs, state = Gateway.reached chain.host.toDeps chain.gateway txs) ∧
        (state.storage.queue round ≠ [] → world.storage.queue round ≠ []))
      _ _ _ ?_ ⟨projects, fun waits => waits⟩ calls
    rintro before call after member ⟨projected, shorter⟩ committed
    obtain ⟨msg, _, called⟩ := List.mem_filterMap.mp member
    have alone : [call].foldlM chain.gatewayAttempt before = some after := by simpa using committed
    refine ⟨gateway_extends projected alone, ?_⟩
    obtain ⟨verified, randomness, isVerifyingTx, funds, _, rfl⟩ := gatewayCall_eq_some called
    obtain ⟨response, storage, rfl, step⟩ := gatewayAttempt_queueStep projected committed
    intro waits
    apply shorter
    cases step with
    | steady unverified => cases unverified
    | pushed msg base config job action => cases action
    | drained info released randomness isVerifyingTx config action configured trusted archive queue
        =>
        rw [Gateway.World.commit, queue round] at waits
        split at waits
        · rename_i same
          subst same
          intro empty
          exact waits (by rw [empty, List.drop_nil])
        · exact waits
  exact shrinks.2 waiting

theorem QueuesMarked.step {chain : Chain} {world next : World} {tx : Tx}
    (marked : QueuesMarked world) (projects : Projects chain world)
    (links : linked chain world tx = true) (keeps : keepsMinRound chain world tx = true)
    (committed : attempt chain world tx = some next) : QueuesMarked next := by
  have lowered : ∀ before later, world.drand.storage.config = some before →
      next.drand.storage.config = some later → later.minRound ≤ before.minRound := by
    intro before later configured changed
    simpa [keepsMinRound, Runs.settle_of_some committed, configured, changed] using keeps
  intro round waiting
  cases attempt_change projects committed with
  | @gateway tx response storage drand external step calls =>
      obtain ⟨config, contains⟩ := drandCalls_keep calls
      have remains (was : world.gateway.storage.queue round ≠ []) : Marked drand.storage round :=
        (marked round was).mono config (contains round)
      cases step with
      | steady unverified archive queue enqueued released =>
          rw [Gateway.World.commit, queue round] at waiting
          exact remains waiting
      | pushed msg base config job action missing archive queue released enqueued configured
          incentivized =>
          rw [Gateway.World.commit, queue round] at waiting
          by_cases same : roundNumber base = round
          · subst same
            have queued := enqueued (roundNumber base)
            rw [if_pos rfl, Option.toList_eq_singleton_iff] at queued
            have message :=
              linked_message (roundNumber base) links (requestsBeacon_of_queued queued) configured
            exact drandCalls_marked calls (incentivized _ message)
          · rw [if_neg same, List.append_nil] at waiting
            exact remains waiting
      | drained info released randomness isVerifyingTx config action configured trusted archive
          queue =>
          rw [Gateway.World.commit, queue round] at waiting
          apply remains
          split at waiting
          · rename_i same
            subst same
            intro empty
            exact waiting (by rw [empty, List.drop_nil])
          · exact waiting
  | added action submission calls =>
      exact (marked round (gatewayCalls_shrink projects.gateway calls round waiting)).added
        submission
  | administered admitted changed =>
      exact (marked round waiting).administered changed admitted lowered

theorem reached_queuesMarked (chain : Chain) (txs : List Tx)
    (along : Runs.Along (attempt chain) (fun world tx => linked chain world tx = true ∧
      keepsMinRound chain world tx = true) World.initial txs) :
    QueuesMarked (reached chain txs) := by
  have invariant := @Runs.run_invariant_along _ _ (attempt chain) _
    (fun world => Projects chain world ∧ QueuesMarked world) ?_ txs World.initial
    ⟨projects_initial chain, queuesMarked_initial⟩ along
  · exact invariant.2
  · rintro world tx next ⟨links, keeps⟩ ⟨projects, marked⟩ committed
    exact ⟨projects.step (attempt_step committed), marked.step projects links keeps committed⟩

/-- A request for a round below the minimum goes no further than the archive. -/
theorem low_request_refused {chain : Chain} {world next : World} {tx : Gateway.Tx}
    {msg : IbcPacketReceiveMsg} {base : Timestamp} {origin : Binary}
    (projects : Projects chain world) (action : tx.action = .packetReceive msg)
    (decoded : Wire.inPacket.fromJson msg.data = .ok (.requestBeacon base origin))
    (links : linked chain world (.gateway tx) = true)
    (missing : world.gateway.storage.archive[roundNumber base]? = none)
    (low : ∀ config, world.drand.storage.config = some config → roundNumber base < config.minRound)
    (committed : attempt chain world (.gateway tx) = some next) :
    next.gateway.requests = world.gateway.requests := by
  obtain ⟨_, gateway, drand, first, calls, rfl⟩ := attempt_gateway committed
  obtain ⟨txs, same⟩ := projects.gateway
  have registered := Gateway.reached_registered chain.host.toDeps chain.gateway txs
  rw [← same] at registered
  obtain ⟨response, storage, effect, admitted, rfl⟩ := Gateway.attempt_effect first
  rw [Gateway.World.lastMsgs_commit] at calls
  rcases Gateway.billing_kinds registered admitted effect with unbilled |
    ⟨received, accepted, source, receives, decodes, admittedRequest⟩ | ⟨channel, connects, _⟩
  · rw [Gateway.World.requests_commit, unbilled.request, Option.toList_none, List.append_nil]
  · rw [action] at receives
    cases receives
    rw [decoded] at decodes
    cases decodes
    obtain ⟨config, configured, routes⟩ := admittedRequest.routes
    rcases routes with ⟨⟨randomness, archived⟩, _⟩ | ⟨_, _, messages⟩
    · rw [missing] at archived
      cases archived
    · have requests : requestsBeacon (.gateway tx) = true := by
        simp only [requestsBeacon, action, decoded]
      have message := linked_message (roundNumber base) links requests configured
      obtain ⟨found, stored, high, _⟩ := drandCalls_marked calls (messages _ message)
      rw [(drandCalls_keep calls).1] at stored
      exact (Nat.not_le.mpr (low found stored) high).elim
  · rw [action] at connects
    cases connects

theorem reached_submittable (chain : Chain) (txs : List Tx)
    (along : Runs.Along (attempt chain) (fun world tx => linked chain world tx = true ∧
      keepsMinRound chain world tx = true) World.initial txs) :
    (∀ round, (reached chain txs).gateway.storage.queue round ≠ [] →
      Submittable chain.host (reached chain txs).drand.storage round) ∧
    ∀ earlier later tx msg base origin, txs = earlier ++ .gateway tx :: later →
      tx.action = .packetReceive msg →
      Wire.inPacket.fromJson msg.data = .ok (.requestBeacon base origin) →
      (reached chain earlier).gateway.storage.archive[roundNumber base]? = none →
      (∀ config, (reached chain earlier).drand.storage.config = some config →
        roundNumber base < config.minRound) →
      (reached chain (earlier ++ [.gateway tx])).gateway.requests =
        (reached chain earlier).gateway.requests := by
  refine ⟨?_, ?_⟩
  · intro round waiting
    exact (reached_queuesMarked chain txs along round waiting).submittable chain.host
  · rintro earlier later tx msg base origin rfl action decoded missing low
    obtain ⟨_, ⟨links, _⟩, _⟩ := Runs.along_append.mp along
    change linked chain (reached chain earlier) (.gateway tx) = true at links
    have projects := reached_projects chain earlier
    rw [reached, Runs.run_append, Runs.run_cons, Runs.run_nil]
    change (Runs.settle (attempt chain) (reached chain earlier) (.gateway tx)).gateway.requests = _
    refine @Runs.settle_invariant _ _ _
      (fun world : World => world.gateway.requests = (reached chain earlier).gateway.requests) _ _
      rfl ?_
    intro next committed
    exact low_request_refused projects action decoded links missing low committed

end

section

attribute [local instance] jsonWire

theorem reached_submittable_served :
    (reached fastnet servedRequest.dropLast).gateway.storage.queue 72780 ≠ [] ∧
      Submittable fastnet.host (reached fastnet servedRequest.dropLast).drand.storage 72780 := by
  have waiting : (reached fastnet servedRequest.dropLast).gateway.storage.queue 72780 ≠ [] := by
    decide +kernel
  exact ⟨waiting,
    (reached_submittable fastnet servedRequest.dropLast (by decide +kernel)).1 72780 waiting⟩

end

end NoisContracts.NoisChain
