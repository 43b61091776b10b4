import NoisContracts.Network.Exchange

/-!
A dapp on the chain of the proxy. It runs next to the exchange of the proxy and the
gateway: its messages to the proxy are executed in the same transaction, and the proxy
calls it back when it receives a beacon. Such a callback is a submessage with a reply on
error, so what fails in the dapp does not revert the packet. Nobody holds the keys of the
dapp and of the proxy, so only the dapp itself calls the proxy under its address, and only
the proxy calls the dapp under the address of the proxy.
-/

namespace NoisContracts.Consumer

open ContractCall ContractCall.Call Matching Network

/-- A contract that may send messages to the proxy and takes its callbacks. -/
structure Dapp (σ τ ε : Type) where
  address : Addr
  start : σ
  system : Journal.System σ τ ε (Response Proxy.ExecuteMsg)
  block : τ → BlockInfo
  index : τ → Option Nat
  sender : τ → Option Addr
  receive : BlockInfo → Option Nat → MessageInfo → NoisCallback → τ

structure World (σ τ : Type) where
  exchange : Exchange.World
  dapp : Journal.World σ τ (Response Proxy.ExecuteMsg)

inductive Event (τ : Type) where
  /-- A callback that comes with the event may run out of gas. -/
  | exchange (event : Exchange.Event) (balances : List Coin) (gas : Bool)
  | dapp (tx : τ) (balances : List Coin)
deriving DecidableEq, Repr

def proxySender : Proxy.Action → Option Addr
  | .execute info _ => some info.sender
  | _ => none

def callsProxyAs (address : Addr) (event : Exchange.Event) : Bool :=
  match event.call with
  | .proxy tx => proxySender tx.action = some address
  | _ => false

def lastMessages {σ τ μ : Type} (world : Journal.World σ τ (Response μ)) : List (SubMsg μ) :=
  (world.log.getLast?.map fun entry => entry.2.messages).getD []

@[simp] theorem lastMessages_commit {σ τ μ : Type} (world : Journal.World σ τ (Response μ)) (tx : τ)
    (response : Response μ) (after : σ) :
    lastMessages (world.commit tx response after) = response.messages := by
  simp [lastMessages]

section

variable [Wire] {σ τ ε : Type} (link : Link) (dapp : Dapp σ τ ε)

def initial : World σ τ := ⟨Exchange.World.initial, ⟨dapp.start, []⟩⟩

def dispatch (tx : τ) (balances : List Coin) (world : World σ τ) :
    SubMsg Proxy.ExecuteMsg → Option (World σ τ) := fun sub =>
  match sub.msg with
  | .wasmExecute target msg funds =>
      if target = link.proxy then
        (Exchange.attempt link world.exchange
          (.between (.proxy ⟨dapp.block tx, dapp.index tx, balances,
            .execute ⟨dapp.address, funds⟩ msg, true⟩))).map fun exchange => { world with exchange }
      else some world
  | _ => some world

def callDapp (tx : τ) (balances : List Coin) (world : World σ τ) : Option (World σ τ) := do
  let called ← dapp.system.attempt world.dapp tx
  (lastMessages called).foldlM (dispatch link dapp tx balances) { world with dapp := called }

/-- What becomes of the transaction when a submessage of the proxy fails. -/
def failed (sub : SubMsg ContractMsg) (cause : String) (world : World σ τ) : Option (World σ τ) :=
  match sub.replyOn with
  | .never => none
  | .error =>
      match Proxy.reply ⟨sub.id, .err cause⟩ world.exchange.network.proxy.storage with
      | .ok _ _ => some world
      | .error _ _ => none
      | .panic _ => none

def callback (block : BlockInfo) (index : Option Nat) (balances : List Coin) (gas : Bool)
    (world : World σ τ) (sub : SubMsg ContractMsg) : Option (World σ τ) :=
  match sub.msg with
  | .wasmExecute target (.noisReceive answer) funds =>
      if target = dapp.address then
        let called := if gas then
          callDapp link dapp (dapp.receive block index ⟨link.proxy, funds⟩ answer) balances world
            else none
        match called with
        | some next => some next
        | none => failed sub "failed" world
      else some world
  | _ => some world

def attempt (world : World σ τ) : Event τ → Option (World σ τ)
  | .exchange event balances gas =>
      if callsProxyAs dapp.address event then none
      else (Exchange.attempt link world.exchange event).bind fun exchange =>
        match event with
        | .between (.relayToProxy relay) =>
            (lastMessages exchange.network.proxy).foldlM
              (callback link dapp relay.block relay.index balances gas) { world with exchange }
        | _ => some { world with exchange }
  | .dapp tx balances =>
      if dapp.sender tx = some link.proxy then none else callDapp link dapp tx balances world

def reached (events : List (Event τ)) : World σ τ :=
  Runs.run (attempt link dapp) (initial dapp) events

end

section

variable [Wire]

/-- Everything that the proxy asks for when it receives a packet: at most one callback,
with a reply on error. -/
theorem packetReceive_messages {msg : IbcPacketReceiveMsg} {storage after : Proxy.Storage}
    {response : Response ContractMsg}
    (returned : Proxy.ibcPacketReceive msg storage = .ok response after) :
    response.messages = [] ∨
      ∃ target answer gasLimit, response.messages =
        [⟨Proxy.replayIdCallback, .wasmExecute target (.noisReceive answer) [], gasLimit,
          .error⟩] := by
  simp only [Proxy.ibcPacketReceive, orElse_eq_ok, pure_eq_ok] at returned
  rcases returned with received | ⟨cause, middle, failed, rfl, rfl⟩
  · simp only [Proxy.receivePacket, bind_eq_ok, mapError_eq_ok, ofExcept_eq_ok] at received
    obtain ⟨packet, _, ⟨decoded, rfl⟩, handled⟩ := received
    cases packet with
    | deliverBeacon sourceId published randomness origin =>
        simp only [Proxy.receiveDeliverBeacon, bind_eq_ok, pure_eq_ok] at handled
        obtain ⟨config, _, _, origin, _, _, rfl, _⟩ := handled
        exact .inr ⟨_, _, _, rfl⟩
    | welcome payment =>
        simp only [Proxy.receiveWelcome, bind_eq_ok, pure_eq_ok] at handled
        obtain ⟨_, _, _, _, _, _, rfl, _⟩ := handled
        exact .inl rfl
    | pushBeaconPrice timestamp amount denom =>
        simp only [Proxy.receivePushBeaconPrice, bind_eq_ok, pure_eq_ok] at handled
        obtain ⟨_, _, _, rfl, _⟩ := handled
        exact .inl rfl
  · exact .inl rfl

/-- What an event of the exchange adds to the journal of the proxy. -/
theorem exchange_proxy {link : Link} {world next : Exchange.World} {event : Exchange.Event}
    (committed : Exchange.attempt link world event = some next) :
    next.network.proxy = world.network.proxy ∨
      ∃ tx response after,
        Proxy.perform link.proxyDeps link.proxy tx world.network.proxy.storage =
          .ok response after ∧
          next.network.proxy = world.network.proxy.commit tx response after ∧
          (event.call = .proxy tx ∨
            ∃ relay, event = .between (.relayToProxy relay) ∧ tx = relay.proxyTx link) := by
  obtain ⟨_, network, called, rfl⟩ := Exchange.attempt_eq_some.mp committed
  have settled : (world.settle network event).network.proxy = network.proxy := by
    cases event with
    | between event => cases event <;> rfl
    | _ => rfl
  rw [settled]
  cases call : event.call with
  | proxy tx =>
      rw [call] at called
      obtain ⟨_, response, after, step⟩ := attempt_proxy called
      exact .inr
        ⟨tx, response, after, Exchange.ProxyStep.returned step, by rw [step.next_eq], .inl rfl⟩
  | gateway tx =>
      rw [call] at called
      obtain ⟨_, response, after, step⟩ := attempt_gateway called
      exact .inl (by rw [step.next_eq])
  | relayToGateway relay =>
      rw [call] at called
      obtain ⟨_, response, after, step⟩ := attempt_relayToGateway called
      exact .inl (by rw [step.next_eq])
  | relayToProxy relay =>
      rw [call] at called
      obtain ⟨_, response, after, step⟩ := attempt_relayToProxy called
      refine .inr ⟨_, response, after, Exchange.ProxyStep.returned step, by rw [step.next_eq],
        .inr ⟨relay, ?_, rfl⟩⟩
      cases event with
      | between event =>
          cases call
          rfl
      | _ => cases call

theorem exchange_keeps {link : Link} {world next : Exchange.World} {event : Exchange.Event}
    {entry : Proxy.Tx × Response ContractMsg}
    (committed : Exchange.attempt link world event = some next)
    (earlier : entry ∈ world.network.proxy.log) : entry ∈ next.network.proxy.log := by
  rcases exchange_proxy committed with same | ⟨tx, response, after, _, same, _⟩
  · exact same ▸ earlier
  · rw [same, Journal.World.commit_log]
    exact List.mem_append_left _ earlier

variable {σ τ ε : Type} {link : Link} {dapp : Dapp σ τ ε}

/-- The dapp and the proxy have called each other as their journals say. -/
structure Linked (link : Link) (dapp : Dapp σ τ ε) (world : World σ τ) : Prop where
  exchanged : ∃ events, world.exchange = Exchange.reached link events
  ran : ∃ txs, world.dapp = dapp.system.reached dapp.start txs
  asked :
    ∀ entry ∈ world.exchange.network.proxy.log, proxySender entry.1.action = some dapp.address →
      ∃ call ∈ world.dapp.log, ∃ msg funds, entry.1.action = .execute ⟨dapp.address, funds⟩ msg ∧
        .wasmExecute link.proxy msg funds ∈ call.2.msgs ∧ entry.1.block = dapp.block call.1
  heard : ∀ call ∈ world.dapp.log, dapp.sender call.1 = some link.proxy →
    ∃ entry ∈ world.exchange.network.proxy.log,
      ∃ answer, Proxy.callbackOf entry = some (dapp.address, answer) ∧
        call.1 = dapp.receive entry.1.block entry.1.index ⟨link.proxy, []⟩ answer

theorem exchanged_append {world next : Exchange.World} {event : Exchange.Event}
    (exchanged : ∃ events, world = Exchange.reached link events)
    (committed : Exchange.attempt link world event = some next) :
    ∃ events, next = Exchange.reached link events := by
  obtain ⟨events, rfl⟩ := exchanged
  refine ⟨events ++ [event], ?_⟩
  unfold Exchange.reached at committed ⊢
  rw [Runs.run_append]
  exact (Runs.settle_of_some committed).symm

/-- An event of the exchange that does not call the proxy as the dapp. -/
theorem Linked.exchange {world : World σ τ} {next : Exchange.World} {event : Exchange.Event}
    (linked : Linked link dapp world) (others : callsProxyAs dapp.address event = false)
    (committed : Exchange.attempt link world.exchange event = some next) :
    Linked link dapp { world with exchange := next } := by
  refine ⟨exchanged_append linked.exchanged committed, linked.ran, ?_, ?_⟩
  · intro entry member calls
    rcases exchange_proxy committed with same | ⟨tx, response, after, returned, same, source⟩
    · exact linked.asked entry (same ▸ member) calls
    · simp only [same, Journal.World.commit_log, List.mem_append, List.mem_singleton] at member
      rcases member with earlier | rfl
      · exact linked.asked entry earlier calls
      · rcases source with call | ⟨relay, rfl, rfl⟩
        · simp [callsProxyAs, call, calls] at others
        · cases calls
  · intro call member calls
    obtain ⟨entry, earlier, rest⟩ := linked.heard call member calls
    exact ⟨entry, exchange_keeps committed earlier, rest⟩

theorem Linked.dispatch {world next : World σ τ} {tx : τ} {response : Response Proxy.ExecuteMsg}
    {balances : List Coin} {sub : SubMsg Proxy.ExecuteMsg} (linked : Linked link dapp world)
    (called : (tx, response) ∈ world.dapp.log) (listed : sub ∈ response.messages)
    (dispatched : dispatch link dapp tx balances world sub = some next) :
    Linked link dapp next ∧ next.dapp = world.dapp := by
  unfold Consumer.dispatch at dispatched
  split at dispatched
  · rename_i target msg funds same
    split at dispatched
    · rename_i proxy
      obtain ⟨exchange, committed, rfl⟩ := Option.map_eq_some_iff.mp dispatched
      refine ⟨⟨exchanged_append linked.exchanged committed, linked.ran, ?_, ?_⟩, rfl⟩
      · intro entry member calls
        rcases exchange_proxy committed with kept | ⟨sent, answer, after, returned, kept, source⟩
        · exact linked.asked entry (kept ▸ member) calls
        · simp only [kept, Journal.World.commit_log, List.mem_append, List.mem_singleton] at member
          rcases member with earlier | rfl
          · exact linked.asked entry earlier calls
          · rcases source with call | ⟨relay, other, _⟩
            · cases call
              refine ⟨(tx, response), called, msg, funds, rfl, ?_, rfl⟩
              rw [← proxy, ← same]
              exact List.mem_map_of_mem listed
            · cases other
      · intro call member calls
        obtain ⟨entry, earlier, rest⟩ := linked.heard call member calls
        exact ⟨entry, exchange_keeps committed earlier, rest⟩
    · cases dispatched
      exact ⟨linked, rfl⟩
  · cases dispatched
    exact ⟨linked, rfl⟩

/-- A call of the dapp, with all that it sends to the proxy. -/
theorem Linked.callDapp {world next : World σ τ} {tx : τ} {balances : List Coin}
    (linked : Linked link dapp world)
    (entitled : dapp.sender tx = some link.proxy →
      ∃ entry ∈ world.exchange.network.proxy.log,
        ∃ answer, Proxy.callbackOf entry = some (dapp.address, answer) ∧
          tx = dapp.receive entry.1.block entry.1.index ⟨link.proxy, []⟩ answer)
    (called : callDapp link dapp tx balances world = some next) : Linked link dapp next := by
  obtain ⟨own, committed, dispatched⟩ := Option.bind_eq_some_iff.mp called
  have ran : ∃ txs, own = dapp.system.reached dapp.start txs := by
    obtain ⟨txs, same⟩ := linked.ran
    refine ⟨txs ++ [tx], ?_⟩
    rw [same] at committed
    unfold Journal.System.reached at committed ⊢
    rw [Runs.run_append]
    exact (Runs.settle_of_some committed).symm
  obtain ⟨_, response, after, _, rfl⟩ := Journal.System.attempt_eq_some.mp committed
  rw [lastMessages_commit] at dispatched
  have start : Linked link dapp { world with dapp := world.dapp.commit tx response after } := by
    refine ⟨linked.exchanged, ran, ?_, ?_⟩
    · intro entry member calls
      obtain ⟨call, earlier, rest⟩ := linked.asked entry member calls
      exact ⟨call, List.mem_append_left _ earlier, rest⟩
    · intro call member calls
      rw [Journal.World.commit_log, List.mem_append, List.mem_singleton] at member
      rcases member with earlier | rfl
      · exact linked.heard call earlier calls
      · exact entitled calls
  have both := @Runs.foldlM_invariant _ _ (Consumer.dispatch link dapp tx balances)
    (fun world => Linked link dapp world ∧ (tx, response) ∈ world.dapp.log) _ _ _ (by
      intro before sub later listed holds stepped
      obtain ⟨kept, same⟩ := holds.1.dispatch holds.2 listed stepped
      exact ⟨kept, same ▸ holds.2⟩) ⟨start, by simp⟩ dispatched
  exact both.1

/-- A received packet is in the journal of the proxy, with the callback that it asks for. -/
theorem exchange_relay {world next : Exchange.World} {relay : Relay}
    (committed : Exchange.attempt link world (.between (.relayToProxy relay)) = some next) :
    ∃ response after,
      next.network.proxy = world.network.proxy.commit (relay.proxyTx link) response after ∧
        (response.messages = [] ∨
          ∃ target answer gasLimit, response.messages =
            [⟨Proxy.replayIdCallback, .wasmExecute target (.noisReceive answer) [], gasLimit,
              .error⟩]) := by
  obtain ⟨_, network, called, rfl⟩ := Exchange.attempt_eq_some.mp committed
  obtain ⟨_, response, after, step⟩ := attempt_relayToProxy called
  refine ⟨response, after, by simp [Exchange.World.settle, step.next_eq], ?_⟩
  exact packetReceive_messages (mapError_eq_ok.mp (Exchange.ProxyStep.returned step))

/-- The dapp takes a callback, or the world stays as it was before the callback. -/
theorem callback_cases (link : Link) (dapp : Dapp σ τ ε) (relay : Relay) (balances : List Coin)
    (gas : Bool) (world : World σ τ) (target : Addr) (answer : NoisCallback)
    (gasLimit : Option Nat) :
    let sub : SubMsg ContractMsg :=
      ⟨Proxy.replayIdCallback, .wasmExecute target (.noisReceive answer) [], gasLimit, .error⟩
    callback link dapp relay.block relay.index balances gas world sub = some world ∨
      target = dapp.address ∧ ∃ next, callDapp link dapp
        (dapp.receive relay.block relay.index ⟨link.proxy, []⟩ answer) balances world = some next ∧
          callback link dapp relay.block relay.index balances gas world sub = some next := by
  have replied (sub : SubMsg ContractMsg) (cause : String) (id : sub.id = Proxy.replayIdCallback)
      (replyOn : sub.replyOn = .error) : failed sub cause world = some world := by
    have returned :
        ∃ response, Proxy.reply ⟨sub.id, .err cause⟩ world.exchange.network.proxy.storage =
          .ok response world.exchange.network.proxy.storage := by
      simp only [Proxy.reply, bind_eq_ok, ensure_eq_ok, pure_eq_ok]
      exact ⟨_, (), _, ⟨id, rfl⟩, rfl, rfl⟩
    obtain ⟨response, returned⟩ := returned
    simp only [failed, replyOn, returned]
  simp only [callback]
  by_cases own : target = dapp.address
  · cases gas with
    | false => simp [own, replied]
    | true =>
        cases heard : callDapp link dapp
          (dapp.receive relay.block relay.index ⟨link.proxy, []⟩ answer) balances world with
        | none => simp [own, replied]
        | some next => simp [own]
  · simp [own]

theorem Linked.relay {world next : World σ τ} {exchange : Exchange.World} {relay : Relay}
    {balances : List Coin} {gas : Bool} (linked : Linked link dapp world)
    (committed : Exchange.attempt link world.exchange (.between (.relayToProxy relay)) =
      some exchange)
    (called :
      (lastMessages exchange.network.proxy).foldlM
        (callback link dapp relay.block relay.index balances gas) { world with exchange } =
        some next) : Linked link dapp next := by
  have delivered := linked.exchange rfl committed
  obtain ⟨response, after, same, none | ⟨target, answer, gasLimit, messages⟩⟩ :=
    exchange_relay committed
  · rw [same, lastMessages_commit, none] at called
    cases called
    exact delivered
  · rw [same, lastMessages_commit, messages] at called
    simp only [List.foldlM_cons, List.foldlM_nil, bind_pure] at called
    rcases callback_cases link dapp relay balances gas { world with exchange } target answer
        gasLimit with
      kept | ⟨rfl, heard, accepted, kept⟩
    · rw [kept] at called
      cases called
      exact delivered
    · rw [kept] at called
      cases called
      refine delivered.callDapp
        (fun _ => ⟨(relay.proxyTx link, response), by simp [same], answer, ?_, rfl⟩) accepted
      simp [Proxy.callbackOf, Relay.proxyTx, Response.msgs, messages, Proxy.noisReceive]

theorem Linked.attempt {world next : World σ τ} {event : Event τ} (linked : Linked link dapp world)
    (committed : attempt link dapp world event = some next) : Linked link dapp next := by
  cases event with
  | exchange event balances gas =>
      simp only [Consumer.attempt, Option.ite_none_left_eq_some, Bool.not_eq_true] at committed
      obtain ⟨others, committed⟩ := committed
      obtain ⟨exchange, exchanged, called⟩ := Option.bind_eq_some_iff.mp committed
      cases event with
      | between event =>
          cases event with
          | relayToProxy relay => exact linked.relay exchanged called
          | _ =>
              cases called
              exact linked.exchange others exchanged
      | _ =>
          cases called
          exact linked.exchange others exchanged
  | dapp tx balances =>
      simp only [Consumer.attempt, Option.ite_none_left_eq_some] at committed
      exact linked.callDapp (fun calls => (committed.1 calls).elim) committed.2

theorem reached_linked (link : Link) (dapp : Dapp σ τ ε) (events : List (Event τ)) :
    Linked link dapp (reached link dapp events) := by
  refine Runs.run_invariant (fun _ _ _ linked committed => linked.attempt committed) events _ ?_
  refine ⟨⟨[], rfl⟩, ⟨[], rfl⟩, ?_, ?_⟩
  · intro entry member
    cases member
  · intro call member
    cases member

/-- A request of the dapp for which a callback was meant. -/
structure Asked (link : Link) (dapp : Dapp σ τ ε) (world : World σ τ) (request : Proxy.Request)
    (call : τ × Response Proxy.ExecuteMsg) : Prop where
  called : call ∈ world.dapp.log
  sent : ∃ entry ∈ world.exchange.network.proxy.log,
    ∃ msg funds, entry.1.action = .execute ⟨dapp.address, funds⟩ msg ∧
      .wasmExecute link.proxy msg funds ∈ call.2.msgs ∧ entry.1.block = dapp.block call.1 ∧
      Proxy.requestOf entry = some request

theorem requestOf_sender {entry : Proxy.Tx × Response ContractMsg} {request : Proxy.Request}
    (requested : Proxy.requestOf entry = some request) :
    proxySender entry.1.action = some request.sender := by
  unfold Proxy.requestOf at requested
  split at requested
  · rename_i info after jobId action
    cases requested
    rw [action]
    rfl
  · rename_i info jobId action
    obtain ⟨after, _, rfl⟩ := Option.map_eq_some_iff.mp requested
    rw [action]
    rfl
  · cases requested

/-- Every callback of the proxy answers a request in its journal. -/
theorem exchange_answers {world : Exchange.World}
    (exchanged : ∃ events, world = Exchange.reached link events)
    {entry : Proxy.Tx × Response ContractMsg} {contract : Addr} {answer : NoisCallback}
    (member : entry ∈ world.network.proxy.log)
    (told : Proxy.callbackOf entry = some (contract, answer)) :
    ∃ asked ∈ world.network.proxy.log, ∃ request, Proxy.requestOf asked = some request ∧
      Answers world.network request contract answer := by
  obtain ⟨events, rfl⟩ := exchanged
  obtain ⟨calls, covers⟩ := Exchange.reached_covered link events
  have flow := reached_flow link calls
  have sourced := reached_sourced link calls
  obtain ⟨txs, same⟩ := (Network.reached_projects link calls).proxy
  have journaled : Proxy.Journaled (Network.reached link calls).proxy :=
    same ▸ Proxy.reached_journaled link.proxyDeps link.proxy txs
  generalize Network.reached link calls = whole at covers flow sourced journaled
  rw [← covers.proxy] at member ⊢
  have key : callbackKey entry = some (⟨contract, answer.jobId⟩, roundAt answer.published) := by
    simp [callbackKey, told]
  -- there are no more callbacks of a key than requests of it
  have enough :=
    flow.balanced whole.proxy.log (List.prefix_refl _)
      (⟨contract, answer.jobId⟩, roundAt answer.published)
  have called := tally_pos member key
  obtain ⟨asked, earlier, found⟩ := exists_of_tally_pos (Nat.lt_of_lt_of_le called enough)
  obtain ⟨request, requested, _⟩ := Option.map_eq_some_iff.mp found
  have answers :=
    answers_of_key sourced journaled earlier member requested told (found.trans key.symm)
  refine ⟨asked, earlier, request, requested, answers.sender, answers.jobId, answers.later,
    answers.soon, answers.first, ?_, ?_⟩
  · rw [← covers.gateway]
    exact answers.beacon
  · rw [← covers.proxy]
    exact answers.next

/-- What the dapp takes from the proxy answers a request that the dapp has made itself. -/
theorem Linked.answers {world : World σ τ} {call : τ × Response Proxy.ExecuteMsg}
    (linked : Linked link dapp world) (member : call ∈ world.dapp.log)
    (calls : dapp.sender call.1 = some link.proxy) :
    ∃ block index answer request asked, call.1 = dapp.receive block index ⟨link.proxy, []⟩ answer ∧
      Asked link dapp world request asked ∧
      Answers world.exchange.network request dapp.address answer := by
  obtain ⟨entry, logged, answer, told, same⟩ := linked.heard call member calls
  obtain ⟨asked, earlier, request, requested, answers⟩ :=
    exchange_answers linked.exchanged logged told
  obtain ⟨own, called, msg, funds, action, sent, block⟩ := linked.asked asked earlier
    ((requestOf_sender requested).trans (congrArg some answers.sender))
  exact ⟨_, _, answer, request, own, same,
    ⟨called, asked, earlier, msg, funds, action, sent, block, requested⟩, answers⟩

/-- Whatever a dapp does, and whatever its callback fails on: it takes callbacks for its
own requests only, and it does not keep the proxy from receiving a packet. -/
theorem callbacks_answer_and_never_block (link : Link) (dapp : Dapp σ τ ε)
    (events : List (Event τ)) :
    (∀ call ∈ (reached link dapp events).dapp.log, dapp.sender call.1 = some link.proxy →
      ∃ block index answer request asked,
        call.1 = dapp.receive block index ⟨link.proxy, []⟩ answer ∧
          Asked link dapp (reached link dapp events) request asked ∧
          Answers (reached link dapp events).exchange.network request dapp.address answer) ∧
      ∀ (relay : Relay) (balances : List Coin) (gas : Bool),
        (attempt link dapp (reached link dapp events)
          (.exchange (.between (.relayToProxy relay)) balances gas)).isSome =
          (Exchange.attempt link (reached link dapp events).exchange
            (.between (.relayToProxy relay))).isSome := by
  refine ⟨fun call member calls => (reached_linked link dapp events).answers member calls, ?_⟩
  intro relay balances gas
  generalize reached link dapp events = world
  cases committed : Exchange.attempt link world.exchange (.between (.relayToProxy relay)) with
  | none => simp [attempt, committed]
  | some exchange =>
      obtain ⟨response, after, same, none | ⟨target, answer, gasLimit, messages⟩⟩ :=
        exchange_relay committed
      · simp [attempt, callsProxyAs, Exchange.Event.call, committed, same, none]
      · rcases callback_cases link dapp relay balances gas { world with exchange } target answer
            gasLimit with
          kept | ⟨_, heard, _, kept⟩
        · simp [attempt, callsProxyAs, Exchange.Event.call, committed, same, messages, kept]
        · simp [attempt, callsProxyAs, Exchange.Event.call, committed, same, messages, kept]

end

end NoisContracts.Consumer
