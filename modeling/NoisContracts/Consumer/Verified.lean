import NoisContracts.Consumer.Dice
import NoisContracts.NoisChain.Agreement

/-!
The whole way of a beacon. Bots submit signatures to the drand contract, the drand
contract checks them and calls the gateway on its chain, the gateway sends the beacon
over the channel, and the proxy on the other chain calls the dapp. The contracts of a
chain call each other within one transaction, as before.
-/

namespace NoisContracts.Consumer.Verified

open OrderedStore Network
open NoisChain (Chain Archived HasRandomness trustsOnly)

/-- The contracts of the two chains. -/
structure Deployment where
  chain : Chain
  gatewayChannel : String
  proxyDeps : Deps
  proxy : Addr
  proxyChannel : String

def Deployment.link (deployment : Deployment) : Link :=
  ⟨deployment.proxyDeps, deployment.proxy, deployment.proxyChannel, deployment.chain.host.toDeps,
    deployment.chain.gateway, deployment.gatewayChannel⟩

structure World (σ τ : Type) where
  consumer : Consumer.World σ τ
  drand : Drand.World

/-- The contracts of the chain of the gateway. -/
def World.nois {σ τ : Type} (world : World σ τ) : NoisChain.World :=
  ⟨world.consumer.exchange.network.gateway, world.drand⟩

inductive Event (τ : Type) where
  | consumer (event : Consumer.Event τ)
  | drand (tx : Drand.Tx)

/-- The transaction that an event makes at the gateway. -/
def gatewayTx {τ : Type} (link : Link) : Consumer.Event τ → Option Gateway.Tx
  | .exchange event _ _ =>
      match event.call with
      | .gateway tx => some tx
      | .relayToGateway relay => some (relay.gatewayTx link)
      | _ => none
  | .dapp _ _ => none

section

variable [Wire] {σ τ ε : Type} (deployment : Deployment) (dapp : Dapp σ τ ε)

def initial : World σ τ := ⟨Consumer.initial dapp, ⟨Drand.Storage.empty, []⟩⟩

/-- The drand contract calls the gateway. -/
def callGateway (world : Consumer.World σ τ) (call : Gateway.Tx) : Option (Consumer.World σ τ) :=
  Consumer.attempt deployment.link dapp world (.exchange (.between (.gateway call)) [] true)

def attempt (world : World σ τ) : Event τ → Option (World σ τ)
  | .consumer event =>
      match gatewayTx deployment.link event with
      | none =>
          (Consumer.attempt deployment.link dapp world.consumer event).map
            fun consumer => { world with consumer }
      | some tx =>
          if deployment.chain.external (.gateway tx) then do
            let consumer ← Consumer.attempt deployment.link dapp world.consumer event
            let msgs := consumer.exchange.network.gateway.lastMsgs
            let drand ← (msgs.filterMap (deployment.chain.drandCall tx)).foldlM
              deployment.chain.drandAttempt world.drand
            some ⟨consumer, drand⟩
          else none
  | .drand tx =>
      if deployment.chain.external (.drand tx) then do
        let drand ← deployment.chain.drandAttempt world.drand tx
        let consumer
          ← ((NoisChain.drandMsgs drand).filterMap (deployment.chain.gatewayCall tx)).foldlM
          (callGateway deployment dapp) world.consumer
        some ⟨consumer, drand⟩
      else none

def reached (events : List (Event τ)) : World σ τ :=
  Runs.run (attempt deployment dapp) (initial dapp) events

end

section

variable [Wire] {σ τ ε : Type} {link : Link} {dapp : Dapp σ τ ε}

theorem exchange_gateway {world next : Exchange.World} {event : Exchange.Event}
    (committed : Exchange.attempt link world event = some next) (balances : List Coin)
    (gas : Bool) :
    gatewayTx link (.exchange event balances gas : Consumer.Event τ) = none ∧
      next.network.gateway = world.network.gateway ∨
      ∃ tx, gatewayTx link (.exchange event balances gas : Consumer.Event τ) = some tx ∧
        Gateway.attempt link.gatewayDeps link.gateway world.network.gateway tx =
          some next.network.gateway := by
  obtain ⟨_, network, called, rfl⟩ := Exchange.attempt_eq_some.mp committed
  have settled : (world.settle network event).network.gateway = network.gateway := by
    cases event with
    | between event => cases event <;> rfl
    | _ => rfl
  rw [settled]
  cases call : event.call with
  | proxy tx =>
      rw [call] at called
      obtain ⟨_, response, after, step⟩ := attempt_proxy called
      exact .inl ⟨by simp [gatewayTx, call], by rw [step.next_eq]⟩
  | relayToProxy relay =>
      rw [call] at called
      obtain ⟨_, response, after, step⟩ := attempt_relayToProxy called
      exact .inl ⟨by simp [gatewayTx, call], by rw [step.next_eq]⟩
  | gateway tx =>
      rw [call] at called
      obtain ⟨_, response, after, step⟩ := attempt_gateway called
      exact .inr ⟨tx, by simp [gatewayTx, call], by rw [step.next_eq]; exact step.committed⟩
  | relayToGateway relay =>
      rw [call] at called
      obtain ⟨_, response, after, step⟩ := attempt_relayToGateway called
      exact .inr ⟨relay.gatewayTx link, by simp [gatewayTx, call],
        by rw [step.next_eq]; exact step.committed⟩

theorem dispatch_gateway {world next : Consumer.World σ τ} {tx : τ} {balances : List Coin}
    {sub : SubMsg Proxy.ExecuteMsg}
    (dispatched : dispatch link dapp tx balances world sub = some next) :
    next.exchange.network.gateway = world.exchange.network.gateway := by
  unfold dispatch at dispatched
  split at dispatched
  · split at dispatched
    · obtain ⟨exchange, committed, rfl⟩ := Option.map_eq_some_iff.mp dispatched
      rcases @exchange_gateway _ τ link _ _ _ committed [] true with ⟨_, same⟩ | ⟨tx, made, _⟩
      · exact same
      · cases made
    · cases dispatched
      rfl
  · cases dispatched
    rfl

theorem callDapp_gateway {world next : Consumer.World σ τ} {tx : τ} {balances : List Coin}
    (called : callDapp link dapp tx balances world = some next) :
    next.exchange.network.gateway = world.exchange.network.gateway := by
  obtain ⟨own, _, dispatched⟩ := Option.bind_eq_some_iff.mp called
  have start : (⟨world.exchange, own⟩ : Consumer.World σ τ).exchange.network.gateway =
      world.exchange.network.gateway := rfl
  refine @Runs.foldlM_invariant _ _ (dispatch link dapp tx balances)
    (fun other => other.exchange.network.gateway = world.exchange.network.gateway) _ _ _ ?_ start
    dispatched
  intro before sub after _ same stepped
  exact (dispatch_gateway stepped).trans same

theorem callback_gateway {world next : Consumer.World σ τ} {block : BlockInfo} {index : Option Nat}
    {balances : List Coin} {gas : Bool} {sub : SubMsg ContractMsg}
    (called : callback link dapp block index balances gas world sub = some next) :
    next.exchange.network.gateway = world.exchange.network.gateway := by
  have kept {cause : String} (replied : failed sub cause world = some next) : next = world := by
    unfold failed at replied
    split at replied
    · cases replied
    · split at replied <;> cases replied
      rfl
  unfold callback at called
  split at called
  · split at called
    · simp only at called
      split at called
      · rename_i after heard
        cases called
        split at heard
        · exact callDapp_gateway heard
        · cases heard
      · rw [kept called]
    · cases called
      rfl
  · cases called
    rfl

/-- What an event of the consumer side does to the gateway. -/
theorem consumer_gateway {world next : Consumer.World σ τ} {event : Consumer.Event τ}
    (committed : Consumer.attempt link dapp world event = some next) :
    gatewayTx link event = none ∧ next.exchange.network.gateway = world.exchange.network.gateway ∨
      ∃ tx, gatewayTx link event = some tx ∧
        Gateway.attempt link.gatewayDeps link.gateway world.exchange.network.gateway tx =
          some next.exchange.network.gateway := by
  cases event with
  | dapp tx balances =>
      simp only [Consumer.attempt, Option.ite_none_left_eq_some] at committed
      exact .inl ⟨rfl, callDapp_gateway committed.2⟩
  | exchange event balances gas =>
      simp only [Consumer.attempt, Option.ite_none_left_eq_some] at committed
      obtain ⟨exchange, exchanged, called⟩ := Option.bind_eq_some_iff.mp committed.2
      have same : next.exchange.network.gateway = exchange.network.gateway := by
        cases event with
        | between event =>
            cases event with
            | relayToProxy relay =>
                refine @Runs.foldlM_invariant _ _
                  (callback link dapp relay.block relay.index balances gas)
                  (fun other => other.exchange.network.gateway = exchange.network.gateway) _ _ _ ?_
                  rfl called
                intro before sub after _ same stepped
                exact (callback_gateway stepped).trans same
            | _ =>
                cases called
                rfl
        | _ =>
            cases called
            rfl
      rw [same]
      exact exchange_gateway exchanged balances gas

variable {deployment : Deployment}

theorem callGateway_gateway {world next : Consumer.World σ τ} {call : Gateway.Tx}
    (committed : callGateway deployment dapp world call = some next) :
    deployment.chain.gatewayAttempt world.exchange.network.gateway call =
      some next.exchange.network.gateway := by
  rcases consumer_gateway committed with ⟨made, _⟩ | ⟨tx, made, called⟩
  · cases made
  · cases made
    exact called

theorem callGateway_all {calls : List Gateway.Tx} {world next : Consumer.World σ τ}
    (committed : calls.foldlM (callGateway deployment dapp) world = some next) :
    calls.foldlM deployment.chain.gatewayAttempt world.exchange.network.gateway =
      some next.exchange.network.gateway := by
  induction calls generalizing world with
  | nil =>
      cases committed
      rfl
  | cons call calls ih =>
      rw [List.foldlM_cons] at committed ⊢
      obtain ⟨middle, first, rest⟩ := Option.bind_eq_some_iff.mp committed
      exact Option.bind_eq_some_iff.mpr ⟨_, callGateway_gateway first, ih rest⟩

/-- The chain of the gateway takes a step of its own, or it stays as it is. -/
theorem attempt_nois {world next : World σ τ} {event : Event τ}
    (committed : attempt deployment dapp world event = some next) :
    next.nois = world.nois ∨ NoisChain.Step deployment.chain world.nois next.nois := by
  cases event with
  | consumer event =>
      simp only [attempt] at committed
      split at committed
      · rename_i none
        obtain ⟨consumer, stepped, rfl⟩ := Option.map_eq_some_iff.mp committed
        rcases consumer_gateway stepped with ⟨_, same⟩ | ⟨tx, made, _⟩
        · exact .inl (by simp [World.nois, same])
        · exact absurd (none.symm.trans made) (by simp)
      · rename_i tx made
        simp only [Option.ite_none_right_eq_some] at committed
        obtain ⟨external, committed⟩ := committed
        obtain ⟨consumer, stepped, committed⟩ := Option.bind_eq_some_iff.mp committed
        obtain ⟨drand, calls, committed⟩ := Option.bind_eq_some_iff.mp committed
        cases committed
        rcases consumer_gateway stepped with ⟨none, _⟩ | ⟨other, same, called⟩
        · exact absurd (none.symm.trans made) (by simp)
        · cases Option.some.inj (same.symm.trans made)
          exact .inr (.gateway external called calls)
  | drand tx =>
      simp only [attempt, Option.ite_none_right_eq_some] at committed
      obtain ⟨external, committed⟩ := committed
      obtain ⟨drand, stepped, committed⟩ := Option.bind_eq_some_iff.mp committed
      obtain ⟨consumer, calls, committed⟩ := Option.bind_eq_some_iff.mp committed
      cases committed
      exact .inr (.drand external stepped (callGateway_all calls))

theorem attempt_linked {world next : World σ τ} {event : Event τ}
    (linked : Linked deployment.link dapp world.consumer)
    (committed : attempt deployment dapp world event = some next) :
    Linked deployment.link dapp next.consumer := by
  cases event with
  | consumer event =>
      simp only [attempt] at committed
      split at committed
      · obtain ⟨consumer, stepped, rfl⟩ := Option.map_eq_some_iff.mp committed
        exact linked.attempt stepped
      · simp only [Option.ite_none_right_eq_some] at committed
        obtain ⟨consumer, stepped, committed⟩ := Option.bind_eq_some_iff.mp committed.2
        obtain ⟨drand, _, committed⟩ := Option.bind_eq_some_iff.mp committed
        cases committed
        exact linked.attempt stepped
  | drand tx =>
      simp only [attempt, Option.ite_none_right_eq_some] at committed
      obtain ⟨drand, _, committed⟩ := Option.bind_eq_some_iff.mp committed.2
      obtain ⟨consumer, calls, committed⟩ := Option.bind_eq_some_iff.mp committed
      cases committed
      refine @Runs.foldlM_invariant _ _ (callGateway deployment dapp) (Linked deployment.link dapp)
        _ _ _ ?_ linked calls
      intro before call after _ linked stepped
      exact linked.attempt stepped

/-- What holds in all runs in which the gateway trusts the drand contract only. -/
structure Authentic (deployment : Deployment) (dapp : Dapp σ τ ε) (world : World σ τ) : Prop where
  linked : Linked deployment.link dapp world.consumer
  projects : NoisChain.Projects deployment.chain world.nois
  archived : Archived world.nois.drand.storage.beacons world.nois.gateway

theorem Authentic.step {world next : World σ τ} {event : Event τ}
    (authentic : Authentic deployment dapp world) (unique : deployment.chain.host.UniqueSignatures)
    (trusts : trustsOnly deployment.chain world.nois = true)
    (committed : attempt deployment dapp world event = some next) :
    Authentic deployment dapp next := by
  have linked := attempt_linked authentic.linked committed
  rcases attempt_nois committed with same | step
  · exact ⟨linked, same ▸ authentic.projects, same ▸ authentic.archived⟩
  · exact ⟨linked, authentic.projects.step step,
      (authentic.archived.step authentic.projects unique trusts step).1⟩

/-- The gateway trusts nobody but the drand contract at any time of the run. -/
def TrustsDrand (deployment : Deployment) (dapp : Dapp σ τ ε) (events : List (Event τ)) : Prop :=
  Runs.Along (attempt deployment dapp)
    (fun world _ => trustsOnly deployment.chain world.nois = true) (initial dapp) events

theorem reached_authentic {events : List (Event τ)}
    (unique : deployment.chain.host.UniqueSignatures)
    (trusted : TrustsDrand deployment dapp events) :
    Authentic deployment dapp (reached deployment dapp events) := by
  refine @Runs.run_invariant_along _ _ (attempt deployment dapp) _ (Authentic deployment dapp) ?_
    events _ ?_ trusted
  · intro world event next trusts authentic committed
    exact authentic.step unique trusts committed
  · refine ⟨⟨⟨[], rfl⟩, ⟨[], rfl⟩, ?_, ?_⟩, NoisChain.projects_initial _,
      NoisChain.archived_initial _⟩
    · intro entry member
      cases member
    · intro call member
      cases member

/-- The randomness of an answer is the hash of a signature of the round that its request
asked for. A bot has submitted the signature and the drand contract has checked it. All
answers with this round have the randomness that the gateway has archived. -/
structure VerifiedAnswer (deployment : Deployment) (world : World σ τ) (request : Proxy.Request)
    (answer : NoisCallback) (round : Nat) (signature : Binary) : Prop where
  asked : roundAfter request.after = .ok round
  published : timeOfRound round = .ok answer.published
  randomness : answer.randomness = deployment.chain.host.deriveRandomness signature
  verified : deployment.chain.host.verifies round signature = true
  archived : world.nois.gateway.storage.archive[round]? = some answer.randomness
  submitted :
    ∃ entry ∈ world.drand.log, ∃ info, entry.1.action = .execute info (.addRound round signature)

theorem Authentic.verified {world : World σ τ} (authentic : Authentic deployment dapp world)
    {request : Proxy.Request} {answer : NoisCallback}
    (answers : Answers world.consumer.exchange.network request dapp.address answer) :
    ∃ round signature, VerifiedAnswer deployment world request answer round signature := by
  obtain ⟨round, asked, sent⟩ := answers.beacon
  obtain ⟨before, entry, earlier, _, delivery, sends, source, _, same⟩ := sent.archived
  have listed : entry ∈ world.nois.gateway.log := earlier.subset (by simp)
  obtain ⟨other, delivers⟩ := authentic.archived.delivered entry listed delivery sends
  have rounds := Gateway.sourceIdOf_injective (delivers.sourceId.symm.trans source)
  subst rounds
  obtain ⟨beacon, stored, value⟩ := authentic.archived.archived other _ delivers.randomness
  obtain ⟨txs, reached⟩ := authentic.projects.drand
  rw [reached] at stored
  obtain ⟨submission, bot, signature, checked⟩ :=
    Drand.reached_verifiedBy _ _ txs other beacon stored
  rw [← reached] at checked
  obtain ⟨funds, action⟩ := checked.submits
  refine ⟨other, signature, asked, sent.time, ?_, checked.verified, same ▸ delivers.randomness,
    submission, checked.listed, ⟨bot, funds⟩, action⟩
  rw [← same, ← value, checked.randomness]

/-- Whatever happens on the two chains: a dapp takes callbacks for its own requests only,
and the randomness of each one is the hash of a verified signature of drand. -/
theorem callbacks_verified (deployment : Deployment) (dapp : Dapp σ τ ε) (events : List (Event τ))
    (unique : deployment.chain.host.UniqueSignatures)
    (trusted : TrustsDrand deployment dapp events) :
    ∀ call ∈ (reached deployment dapp events).consumer.dapp.log,
      dapp.sender call.1 = some deployment.proxy →
        ∃ block index answer request asked round signature,
          call.1 = dapp.receive block index ⟨deployment.proxy, []⟩ answer ∧
            Asked deployment.link dapp (reached deployment dapp events).consumer request asked ∧
            request.jobId = answer.jobId ∧
            VerifiedAnswer deployment (reached deployment dapp events) request answer round
              signature := by
  intro call member calls
  have authentic := reached_authentic unique trusted
  obtain ⟨block, index, answer, request, asked, received, made, answers⟩ :=
    authentic.linked.answers member calls
  obtain ⟨round, signature, verified⟩ := authentic.verified answers
  exact ⟨block, index, answer, request, asked, round, signature, received, made, answers.jobId,
    verified⟩

end

section

attribute [local instance] jsonWire

def signature : Binary := List.replicate 48 9

/-- A host with a key that accepts one signature, for round 1438270. -/
def deployment : Deployment where
  chain :=
    { host :=
        { NoisHost.deps with
          sha256 :=
            fun data => if data = signature then List.replicate 32 7 else NoisHost.sha256 data
          fastnetPubkey := some fun round checked =>
            some (decide (round = 1438270 ∧ checked = signature)) }
      gateway := NoisHost.gateway
      drand := NoisHost.drand }
  gatewayChannel := channelLink.gatewayChannel
  proxyDeps := channelLink.proxyDeps
  proxy := channelLink.proxy
  proxyChannel := channelLink.proxyChannel

theorem deployment_uniqueSignatures : deployment.chain.host.UniqueSignatures := by
  intro round first second firstVerified secondVerified
  simp only [Drand.Host.verifies, deployment, Option.getD_some, decide_eq_true_eq]
    at firstVerified secondVerified
  rw [firstVerified.2, secondVerified.2]

def drandTx (action : Drand.Action) : Event Monitoring.Tx :=
  .drand ⟨Proxy.startBlock, some 7, [], action, true⟩

/-- The run of the dice, with a bot that submits the round in place of the trusted source. -/
def submittedRun : List (Event Monitoring.Tx) :=
  (diceRun.take 7).map .consumer ++
    [drandTx (.instantiate ⟨NoisHost.manager, 72750, ⟨30000, by decide⟩, "unois"⟩),
      drandTx (.execute ⟨NoisHost.manager, []⟩
        (.setConfig none (some NoisHost.gateway) none none none))] ++
    ((diceRun.drop 7).take 3).map .consumer ++
    [drandTx (.execute ⟨"bot", []⟩ (.addRound 1438270 signature))] ++
    (diceRun.drop 11).map .consumer

def dice : Dapp Monitoring.Storage Monitoring.Tx Monitoring.ContractError :=
  monitoring Monitoring.sumDice NoisHost.deps Proxy.dapp

theorem submittedRun_facts :
    Runs.Along (attempt deployment dice)
      (fun world _ => trustsOnly deployment.chain world.nois = true) (initial dice) submittedRun ∧
      ((reached deployment dice submittedRun).consumer.dapp.log.any fun call =>
        dice.sender call.1 = some deployment.proxy) = true := by
  decide +kernel

theorem callbacks_verified_dice :
    ∃ call ∈ (reached deployment dice submittedRun).consumer.dapp.log,
      ∃ block index answer request asked round signature,
        call.1 = dice.receive block index ⟨deployment.proxy, []⟩ answer ∧
          Asked deployment.link dice (reached deployment dice submittedRun).consumer request asked ∧
          request.jobId = answer.jobId ∧
          VerifiedAnswer deployment (reached deployment dice submittedRun) request answer round
            signature := by
  obtain ⟨trusted, answered⟩ := submittedRun_facts
  obtain ⟨call, member, calls⟩ := List.any_eq_true.mp answered
  exact ⟨call, member,
    callbacks_verified deployment dice submittedRun deployment_uniqueSignatures trusted call member
      (of_decide_eq_true calls)⟩

end

end NoisContracts.Consumer.Verified
