import NoisContracts.Library.Run
import NoisContracts.Gateway.Effects
import NoisContracts.NoisHost

/-!
The gateway on its chain. A transaction calls one entry point. It commits if the
call returns a response and the chain dispatches the messages of the response;
otherwise the storage is as before. The chain instantiates a contract once and
delivers packets on channels whose handshake has succeeded. The log of a world
holds the committed transactions with their responses, oldest first.
-/

namespace NoisContracts.Gateway

open ContractCall ContractCall.Call OrderedStore

inductive Action where
  | instantiate (msg : InstantiateMsg)
  | execute (info : MessageInfo) (msg : ExecuteMsg)
  | migrate
  | channelOpen (msg : IbcChannelOpenMsg)
  | channelConnect (msg : IbcChannelConnectMsg)
  | channelClose (msg : IbcChannelCloseMsg)
  | packetReceive (msg : IbcPacketReceiveMsg)
  | packetAck (acknowledgement : Binary)
  | packetTimeout
deriving DecidableEq, Repr

structure Tx where
  block : BlockInfo
  index : Option Nat
  action : Action
  /-- Whether the chain executes every message of the response. -/
  dispatched : Bool
deriving DecidableEq, Repr

def Tx.env (tx : Tx) (contract : Addr) : Env := ⟨tx.block, tx.index, contract⟩

structure Entry where
  tx : Tx
  response : Response ContractMsg

structure World where
  storage : Storage
  connected : List String
  opened : List String
  log : List Entry

def World.initial : World := ⟨Storage.empty, [], [], []⟩

def World.admits (world : World) : Action → Bool
  | .instantiate _ => world.storage.config.isNone
  | .packetReceive msg => world.connected.contains msg.destChannel
  | _ => true

def connectedBy : Action → List String
  | .channelConnect msg => [msg.channel.channelId]
  | _ => []

def openedAfter (opened : List String) : Action → List String
  | .channelConnect msg => msg.channel.channelId :: opened
  | .channelClose msg => opened.filter (· ≠ msg.channel.channelId)
  | _ => opened

def World.commit (world : World) (tx : Tx) (response : Response ContractMsg) (after : Storage) :
    World :=
  { storage := after
    connected := world.connected ++ connectedBy tx.action
    opened := openedAfter world.opened tx.action
    log := world.log ++ [⟨tx, response⟩] }

def World.lastMsgs (world : World) : List Msg :=
  (world.log.getLast?.map fun entry => entry.response.msgs).getD []

@[simp] theorem World.lastMsgs_commit (world : World) (tx : Tx) (response : Response ContractMsg)
    (after : Storage) : (world.commit tx response after).lastMsgs = response.msgs := by
  simp [World.lastMsgs, World.commit]

def Action.configures : Action → Bool
  | .instantiate _ => true
  | .execute _ (.setConfig _ _ _ _ _) => true
  | .migrate => true
  | _ => false

def Action.idles : Action → Bool
  | .channelOpen _ => true
  | .channelClose _ => true
  | .packetAck _ => true
  | .packetTimeout => true
  | _ => false

theorem World.admits_packet {world : World} {msg : IbcPacketReceiveMsg} :
    world.admits (.packetReceive msg) = true ↔ msg.destChannel ∈ world.connected := by
  simp [World.admits]

theorem Action.connectedBy_of_configures {action : Action} (configures : action.configures = true) :
    connectedBy action = [] := by
  cases action <;> simp_all [connectedBy, Action.configures]

theorem Action.connectedBy_of_idles {action : Action} (idles : action.idles = true) :
    connectedBy action = [] := by
  cases action <;> simp_all [connectedBy, Action.idles]

def openingBlock : BlockInfo := ⟨1000, ⟨1680000000000000000, by decide⟩⟩

def requestTime : Timestamp := ⟨1680000005000000000, by decide⟩

def opening : List Tx :=
  let unois : Coin := ⟨"unois", ⟨1000000, NoisHost.million_lt⟩⟩
  let channel : IbcChannel := ⟨"channel-0", .unordered, "nois-v7"⟩
  [⟨openingBlock, some 0, .instantiate ⟨unois, NoisHost.manager, 1, none, NoisHost.sink⟩, true⟩,
    ⟨openingBlock, some 1, .execute ⟨NoisHost.manager, []⟩
      (.setConfig none none (some NoisHost.drand) none (some [NoisHost.drand])), true⟩,
    ⟨openingBlock, some 2, .channelOpen (.openTry channel "nois-v7"), true⟩,
    ⟨openingBlock, some 3, .channelConnect (.openConfirm channel), true⟩]

variable [Wire]

def perform (deps : Deps) (env : Env) : Action → Call Storage ContractError (Response ContractMsg)
  | .instantiate msg => Gateway.instantiate deps msg
  | .execute info msg => Gateway.execute deps env info msg
  | .migrate => mapError .std Gateway.migrate
  | .channelOpen msg => do
      let _ ← ofExcept (ibcChannelOpen msg)
      pure {}
  | .channelConnect msg => ibcChannelConnect deps env msg
  | .channelClose msg => mapError .std (ibcChannelClose msg)
  | .packetReceive msg => mapError (fun never => nomatch never) (ibcPacketReceive env msg)
  | .packetAck acknowledgement => ibcPacketAck acknowledgement
  | .packetTimeout => mapError .std ibcPacketTimeout

def attempt (deps : Deps) (contract : Addr) (world : World) (tx : Tx) : Option World :=
  if world.admits tx.action ∧ tx.dispatched then
    match perform deps (tx.env contract) tx.action world.storage with
    | .ok response after => some (world.commit tx response after)
    | .error _ _ => none
    | .panic _ => none
  else none

def reached (deps : Deps) (contract : Addr) (txs : List Tx) : World :=
  Runs.run (attempt deps contract) World.initial txs

theorem attempt_eq_some {deps : Deps} {contract : Addr} {world next : World} {tx : Tx} :
    attempt deps contract world tx = some next ↔
      world.admits tx.action = true ∧ tx.dispatched = true ∧
        ∃ response after,
          perform deps (tx.env contract) tx.action world.storage = .ok response after ∧
            world.commit tx response after = next := by
  unfold attempt
  split
  · rename_i admitted
    cases perform deps (tx.env contract) tx.action world.storage <;> simp [admitted]
  · rename_i refused
    simp only [reduceCtorEq, false_iff]
    rintro ⟨admitted, dispatched, _⟩
    exact refused ⟨admitted, dispatched⟩

/-- Everything that a returning entry point does. -/
inductive Effect (deps : Deps) (env : Env) (storage : Storage) :
    Action → Response ContractMsg → Storage → Prop
  | configured {action : Action} {config : Config} {version : Option (String × String)}
      {response : Response ContractMsg}
      (configures : action.configures = true)
      (kept : ∀ previous, storage.config = some previous →
        config.paymentCodeId = previous.paymentCodeId ∧ config.sink = previous.sink)
      (messages : response.messages = []) (acknowledgement : response.acknowledgement = none) :
      Effect deps env storage action response
        { storage with config := some config, contractVersion := version }
  | idle {action : Action} {response : Response ContractMsg} (idles : action.idles = true)
      (messages : response.messages = []) (acknowledgement : response.acknowledgement = none) :
      Effect deps env storage action response storage
  | connected {channel : IbcChannel} {response : Response ContractMsg} {after : Storage}
      (connects : Connects deps env channel.channelId storage response after) :
      Effect deps env storage (.channelConnect (.openConfirm channel)) response after
  | received {msg : IbcPacketReceiveMsg} {response : Response ContractMsg} {after : Storage}
      (receives : Received env msg storage response after) :
      Effect deps env storage (.packetReceive msg) response after
  | verified {info : MessageInfo} {round : Nat} {randomness : Binary} {isVerifyingTx : Bool}
      {config : Config} {drand : NewDrand} {after : Storage}
      (configured : storage.config = some config)
      (trusted : info.sender ∈ config.trustedSources.getD [])
      (processed : newDrand env round randomness isVerifyingTx storage = .ok drand after) :
      Effect deps env storage (.execute info (.addVerifiedRound round randomness isVerifyingTx))
        { messages := drand.msgs.map SubMsg.new
          attributes := [("jobs_processed", Nat.repr drand.jobsProcessed)] } after

theorem perform_effect {deps : Deps} {env : Env} {action : Action} {storage after : Storage}
    {response : Response ContractMsg}
    (once : ∀ msg, action = .instantiate msg → storage.config = none)
    (returned : perform deps env action storage = .ok response after) :
    Effect deps env storage action response after := by
  cases action with
  | instantiate msg =>
      obtain ⟨manager, sink, _, _, rfl, rfl⟩ := instantiate_ok returned
      refine .configured rfl ?_ rfl rfl
      intro previous configured
      simp [once msg rfl] at configured
  | execute info msg =>
      cases msg with
      | addVerifiedRound round randomness isVerifyingTx =>
          obtain ⟨config, drand, configured, trusted, processed, rfl⟩ :=
            executeAddVerifiedRound_ok returned
          exact .verified configured trusted processed
      | setConfig manager price drandAddr paymentInitialFunds trustedSources =>
          obtain ⟨config, changed, configured, _, rfl, rfl, _, sameCode, sameSink⟩ :=
            executeSetConfig_ok returned
          refine .configured rfl ?_ rfl rfl
          intro previous found
          rw [configured] at found
          cases found
          exact ⟨sameCode, sameSink⟩
  | migrate =>
      obtain ⟨config, changed, configured, rfl, rfl, change⟩ :=
        migrate_ok (mapError_eq_ok.mp returned)
      refine .configured rfl ?_ rfl rfl
      intro previous found
      rw [configured] at found
      cases found
      rcases change with rfl | ⟨drand, _, _, rfl⟩
      · exact ⟨rfl, rfl⟩
      · exact ⟨rfl, rfl⟩
  | channelOpen msg =>
      simp only [perform, bind_eq_ok, ofExcept_eq_ok, pure_eq_ok] at returned
      obtain ⟨_, _, ⟨_, rfl⟩, rfl, rfl⟩ := returned
      exact .idle rfl rfl rfl
  | channelConnect msg =>
      obtain ⟨channel, rfl, connects⟩ := ibcChannelConnect_ok returned
      exact .connected connects
  | channelClose msg =>
      simp only [perform, mapError_eq_ok, ibcChannelClose, pure_eq_ok] at returned
      obtain ⟨rfl, rfl⟩ := returned
      exact .idle rfl rfl rfl
  | packetReceive msg => exact .received (ibcPacketReceive_ok (mapError_eq_ok.mp returned))
  | packetAck acknowledgement =>
      simp only [perform, ibcPacketAck, bind_eq_ok, mapError_eq_ok, ofExcept_eq_ok] at returned
      obtain ⟨ack, _, ⟨_, rfl⟩, returned⟩ := returned
      cases ack with
      | success data =>
          simp only [bind_eq_ok, mapError_eq_ok, ofExcept_eq_ok, pure_eq_ok] at returned
          obtain ⟨_, _, ⟨_, rfl⟩, rfl, rfl⟩ := returned
          exact .idle rfl rfl rfl
      | error err =>
          simp only [pure_eq_ok] at returned
          obtain ⟨rfl, rfl⟩ := returned
          exact .idle rfl rfl rfl
  | packetTimeout =>
      simp only [perform, mapError_eq_ok, ibcPacketTimeout, pure_eq_ok] at returned
      obtain ⟨rfl, rfl⟩ := returned
      exact .idle rfl rfl rfl

theorem attempt_effect {deps : Deps} {contract : Addr} {world next : World} {tx : Tx}
    (committed : attempt deps contract world tx = some next) :
    ∃ response after, Effect deps (tx.env contract) world.storage tx.action response after ∧
      world.admits tx.action = true ∧ next = world.commit tx response after := by
  obtain ⟨admitted, _, response, after, returned, rfl⟩ := attempt_eq_some.mp committed
  refine ⟨response, after, perform_effect ?_ returned, admitted, rfl⟩
  intro msg same
  simpa [World.admits, same] using admitted

theorem reached_invariant {deps : Deps} {contract : Addr} {holds : World → Prop}
    (initially : holds World.initial)
    (step : ∀ world tx response after, holds world → world.admits tx.action = true →
      Effect deps (tx.env contract) world.storage tx.action response after →
      holds (world.commit tx response after))
    (txs : List Tx) : holds (reached deps contract txs) := by
  refine Runs.run_invariant ?_ txs World.initial initially
  intro world tx next before committed
  obtain ⟨response, after, effect, admitted, rfl⟩ := attempt_effect committed
  exact step world tx response after before admitted effect

/-- Every channel that packets can arrive on has a customer, and a contract with
channels has its configuration. -/
structure Registered (world : World) : Prop where
  configured : ∀ channel ∈ world.connected, ∃ config, world.storage.config = some config
  customers :
    ∀ channel ∈ world.connected, ∃ customer, world.storage.customers[channel]? = some customer

theorem Accepted.frame {env : Env} {channelId : String} {relayer : Addr} {base : Timestamp}
    {origin : Binary} {storage after : Storage} {response : Response ContractMsg}
    (accepted : Accepted env channelId relayer base origin storage response after) :
    after.config = storage.config ∧ after.archive = storage.archive ∧
      ∃ customer, storage.customers[channelId]? = some customer ∧
        after.customers = storage.customers.insert channelId
          { customer with requestedBeacons := customer.requestedBeacons + 1 } := by
  cases accepted with
  | @intro receipt routed customer config short route known counted configured =>
      obtain ⟨config_eq, customers_eq, _, archive_eq⟩ := route_config route
      refine ⟨config_eq, archive_eq, customer, known, ?_⟩
      simp [Storage.setCustomer, Storage.logRequest, customers_eq]

theorem Drains.frame {env : Env} {round : Nat} {randomness : Binary} {storage after : Storage}
    {jobs : List Job} {msgs : List Msg}
    (drains : Drains env round randomness storage jobs msgs after) :
    after.config = storage.config ∧ after.customers = storage.customers ∧
      after.requestsLog = storage.requestsLog ∧ after.archive = storage.archive ∧
      after.lastJobId = storage.lastJobId := by
  induction drains with
  | stop storage => exact ⟨rfl, rfl, rfl, rfl, rfl⟩
  | next first counted time deadline rest ih => exact ih

theorem Registered.received_failure {world : World} {env : Env} {msg : IbcPacketReceiveMsg}
    {cause : ContractError} {after : Storage} (registered : Registered world)
    (connected : msg.destChannel ∈ world.connected)
    (failed : receivePacket env msg world.storage = .error cause after) :
    world.storage = after ∧
      ((∃ undecoded, Wire.inPacket.fromJson msg.data = .error undecoded ∧ cause = .std undecoded) ∨
        ∃ base origin, Wire.inPacket.fromJson msg.data = .ok (.requestBeacon base origin) ∧
          maxOriginLen < origin.length ∧ cause = .originTooLong) := by
  obtain ⟨config, configured⟩ := registered.configured _ connected
  obtain ⟨customer, known⟩ := registered.customers _ connected
  exact receivePacket_eq_error known configured failed

theorem effect_config {deps : Deps} {env : Env} {world : World} {tx : Tx}
    {response : Response ContractMsg} {after : Storage} (registered : Registered world)
    (admitted : world.admits tx.action = true)
    (effect : Effect deps env world.storage tx.action response after)
    (other : tx.action.configures = false) : after.config = world.storage.config := by
  generalize action_eq : tx.action = action at effect
  cases effect with
  | configured configures =>
      rw [action_eq, configures] at other
      cases other
  | idle idles messages acknowledgement => rfl
  | connected connects =>
      cases connects with
      | intro => rfl
  | received receives =>
      cases receives with
      | request decoded accepted => exact accepted.frame.1
      | price decoded found => rfl
      | failure failed =>
          rw [action_eq, World.admits_packet] at admitted
          rw [← (registered.received_failure admitted failed).1]
  | verified found trusted processed =>
      obtain ⟨_, _, jobs, drains, _⟩ := newDrand_ok processed
      exact drains.frame.1

theorem Registered.commit {deps : Deps} {env : Env} {world : World} {tx : Tx}
    {response : Response ContractMsg} {after : Storage} (registered : Registered world)
    (admitted : world.admits tx.action = true)
    (effect : Effect deps env world.storage tx.action response after) :
    Registered (world.commit tx response after) := by
  -- only connecting adds a channel; every other effect keeps the customers' keys
  have keep (connected : connectedBy tx.action = [])
      (configs : ∀ config, world.storage.config = some config →
        ∃ changed, after.config = some changed)
      (known :
        ∀ (channel : String) (customer : Customer),
          world.storage.customers[channel]? = some customer →
            ∃ changed, after.customers[channel]? = some changed) :
      Registered (world.commit tx response after) := by
    refine ⟨?_, ?_⟩
    · intro channel member
      simp only [World.commit, connected, List.append_nil] at member
      obtain ⟨config, configured⟩ := registered.configured channel member
      exact configs config configured
    · intro channel member
      simp only [World.commit, connected, List.append_nil] at member
      obtain ⟨customer, found⟩ := registered.customers channel member
      exact known channel customer found
  generalize action_eq : tx.action = action at effect
  cases effect with
  | configured configures kept =>
      exact keep (action_eq ▸ Action.connectedBy_of_configures configures) (fun _ _ => ⟨_, rfl⟩)
        fun channel customer found => ⟨customer, found⟩
  | idle idles =>
      exact keep (action_eq ▸ Action.connectedBy_of_idles idles)
        (fun config found => ⟨config, found⟩) fun channel customer found => ⟨customer, found⟩
  | @connected channel response after connects =>
      cases connects with
      | intro configured derived welcomeDeadline priceDeadline =>
          refine ⟨fun _ _ => ⟨_, configured⟩, ?_⟩
          intro other member
          simp only [World.commit, Storage.setCustomer, get_insert]
          by_cases same : channel.channelId = other
          · exact ⟨_, if_pos same⟩
          · simp only [World.commit, action_eq, connectedBy, IbcChannelConnectMsg.channel,
              List.mem_append, List.mem_singleton] at member
            rcases member with earlier | latest
            · obtain ⟨customer, found⟩ := registered.customers other earlier
              exact ⟨customer, by simpa [same] using found⟩
            · exact (same latest.symm).elim
  | @received msg response after receives =>
      have connected : connectedBy tx.action = [] := by simp [action_eq, connectedBy]
      cases receives with
      | request decoded accepted =>
          obtain ⟨config_eq, _, customer, found, customers_eq⟩ := accepted.frame
          refine keep connected (fun config found => ⟨config, config_eq ▸ found⟩) ?_
          intro channel stored present
          rw [customers_eq, get_insert]
          split
          · exact ⟨_, rfl⟩
          · exact ⟨stored, present⟩
      | price =>
          exact keep connected (fun config found => ⟨config, found⟩)
            fun _ stored found => ⟨stored, found⟩
      | failure failed =>
          rw [action_eq, World.admits_packet] at admitted
          obtain ⟨rfl, _⟩ := registered.received_failure admitted failed
          exact keep connected (fun config found => ⟨config, found⟩)
            fun _ stored found => ⟨stored, found⟩
  | verified configured trusted processed =>
      obtain ⟨_, _, jobs, drains, _⟩ := newDrand_ok processed
      obtain ⟨config_eq, customers_eq, _⟩ := drains.frame
      refine keep (by simp [action_eq, connectedBy])
        (fun config found => ⟨config, config_eq ▸ found⟩) ?_
      intro channel stored found
      exact ⟨stored, customers_eq ▸ found⟩

/-- The invariant rule for reachable worlds, with the registration at hand. -/
theorem reached_invariant_registered {deps : Deps} {contract : Addr} {holds : World → Prop}
    (initially : holds World.initial)
    (step : ∀ world tx response after, Registered world → holds world →
      world.admits tx.action = true →
      Effect deps (tx.env contract) world.storage tx.action response after →
      holds (world.commit tx response after))
    (txs : List Tx) : holds (reached deps contract txs) := by
  have both : Registered (reached deps contract txs) ∧ holds (reached deps contract txs) := by
    refine @reached_invariant _ deps contract (fun world => Registered world ∧ holds world)
      ⟨⟨by simp [World.initial], by simp [World.initial]⟩, initially⟩ ?_ txs
    intro world tx response after before admitted effect
    exact ⟨before.1.commit admitted effect,
      step world tx response after before.1 before.2 admitted effect⟩
  exact both.2

theorem reached_registered (deps : Deps) (contract : Addr) (txs : List Tx) :
    Registered (reached deps contract txs) := by
  refine reached_invariant ⟨by simp [World.initial], by simp [World.initial]⟩ ?_ txs
  intro world tx response after registered admitted effect
  exact registered.commit admitted effect

end NoisContracts.Gateway
