import NoisContracts.NoisHost
import NoisContracts.ProtocolJson
import NoisContracts.Proxy.Effects

/-!
The channel to the gateway. Anybody may start handshakes, and several of them may be
under way at the same time. The first one to complete is the channel of the proxy until
the other side closes it; the completion of every other one fails.
-/

namespace NoisContracts.Proxy

open ContractCall ContractCall.Call OrderedStore

/-- The open channels after a callback that has succeeded. -/
def openedAfter (opened : List String) : Action → List String
  | .channelConnect msg => msg.channel.channelId :: opened
  | .channelClose msg => opened.filter (· ≠ msg.channel.channelId)
  | _ => opened

def opened (world : World) : List String :=
  world.log.foldl (fun channels entry => openedAfter channels entry.1.action) []

@[simp] theorem opened_commit (world : World) (tx : Tx) (response : Response ContractMsg)
    (after : Storage) :
    opened (world.commit tx response after) = openedAfter (opened world) tx.action := by
  simp [opened]

def closesOpen (world : World) (tx : Tx) : Bool :=
  match tx.action with
  | .channelClose msg => (opened world).contains msg.channel.channelId
  | _ => true

def Action.handshakes : Action → Bool
  | .channelConnect _ => true
  | .channelClose _ => true
  | _ => false

theorem openedAfter_other {opened : List String} {action : Action}
    (other : action.handshakes = false) : openedAfter opened action = opened := by
  cases action <;> simp_all [openedAfter, Action.handshakes]

def ExecuteMsg.requests : ExecuteMsg → Bool
  | .getNextRandomness _ => true
  | .getRandomnessAfter _ _ => true
  | _ => false

theorem Action.handshakes_of_sets {action : Action} {change : SetConfig}
    (sets : action.sets = some change) : action.handshakes = false := by
  cases action <;> simp_all [Action.sets, Action.handshakes]

theorem Action.handshakes_of_withdraws {action : Action} (withdraws : action.withdraws = true) :
    action.handshakes = false := by
  cases action <;> simp_all [Action.withdraws, Action.handshakes]

theorem Action.handshakes_of_idles {action : Action} (idles : action.idles = true) :
    action.handshakes = false := by
  cases action <;> simp_all [Action.idles, Action.handshakes]

theorem admitted_channel {info : MessageInfo} {config : Config} {storage : Storage}
    {after : Timestamp} {jobId : String} {channel : Option String} :
    Admitted info config { storage with gatewayChannel := channel } after jobId ↔
      Admitted info config storage after jobId := by
  constructor <;> exact fun admitted =>
    ⟨admitted.short, admitted.paid, admitted.allowed, admitted.early, admitted.late⟩

section

variable [Wire]

theorem Action.handshakes_of_price {action : Action} {info : PriceInfo}
    (carries : action.price = some info) : action.handshakes = false := by
  cases action <;> simp_all [Action.price, Action.handshakes]

/-- Only the handshakes touch the stored channel. -/
theorem effect_gatewayChannel {deps : Deps} {env : Env} {storage after : Storage} {action : Action}
    {response : Response ContractMsg} (effect : Effect deps env storage action response after) :
    (action.handshakes = false ∧ after.gatewayChannel = storage.gatewayChannel) ∨
      (∃ channel version, action = .channelConnect (.openAck channel version) ∧
        storage.gatewayChannel = none ∧ after.gatewayChannel = some channel.channelId) ∨
      ∃ channel, action = .channelClose (.closeConfirm channel) ∧ after.gatewayChannel = none := by
  cases effect with
  | instantiated => exact .inl ⟨rfl, rfl⟩
  | requested request =>
      refine .inl ⟨rfl, ?_⟩
      cases request.asked <;> rfl
  | configured sets => exact .inl ⟨Action.handshakes_of_sets sets, rfl⟩
  | withdrawn withdraws => exact .inl ⟨Action.handshakes_of_withdraws withdraws, rfl⟩
  | allowlisted => exact .inl ⟨rfl, rfl⟩
  | migrated => exact .inl ⟨rfl, rfl⟩
  | @connected channel version response free messages =>
      exact .inr (.inl ⟨channel, version, rfl, free, rfl⟩)
  | @closed channel response messages => exact .inr (.inr ⟨channel, rfl, rfl⟩)
  | delivered => exact .inl ⟨rfl, rfl⟩
  | welcomed => exact .inl ⟨rfl, rfl⟩
  | priced carries => exact .inl ⟨Action.handshakes_of_price carries, rfl⟩
  | idle idles => exact .inl ⟨Action.handshakes_of_idles idles, rfl⟩

def ChannelStored (world : World) : Prop := opened world = world.storage.gatewayChannel.toList

theorem ChannelStored.step {deps : Deps} {contract : Addr} {world next : World} {tx : Tx}
    (stored : ChannelStored world) (closes : closesOpen world tx = true)
    (committed : attempt deps contract world tx = some next) : ChannelStored next := by
  obtain ⟨_, response, after, effect, rfl⟩ := attempt_effect committed
  unfold ChannelStored at stored ⊢
  rw [opened_commit, Journal.World.commit_storage]
  rcases effect_gatewayChannel effect with ⟨other, same⟩ |
      ⟨channel, version, action, free, connected⟩ | ⟨channel, action, closed⟩
  · rw [openedAfter_other other, same, stored]
  · rw [action, connected, openedAfter, stored, free]
    rfl
  · rw [closed, action, openedAfter, stored]
    simp only [closesOpen, action, stored, List.contains_eq_mem, decide_eq_true_eq,
      Option.mem_toList] at closes
    have known : world.storage.gatewayChannel = some channel.channelId := closes
    simp [known, IbcChannelCloseMsg.channel]

theorem reached_channelStored (deps : Deps) (contract : Addr) (txs : List Tx)
    (along : Runs.Along (attempt deps contract) (fun world tx => closesOpen world tx = true)
      ⟨Storage.empty, []⟩ txs) :
    ChannelStored (reached deps contract txs) := by
  refine @Runs.run_invariant_along _ _ (attempt deps contract) _ ChannelStored ?_ txs _ rfl along
  intro world tx next closes stored committed
  exact stored.step closes committed

theorem effect_packets {deps : Deps} {env : Env} {storage after : Storage} {action : Action}
    {response : Response ContractMsg} (effect : Effect deps env storage action response after)
    {channel : String} {data : Binary} {timeout : Timestamp}
    (sent : .ibcSendPacket channel data timeout ∈ response.msgs) :
    storage.gatewayChannel = some channel := by
  have silent (messages : response.messages = []) : storage.gatewayChannel = some channel := by
    simp [Response.msgs, messages] at sent
  cases effect with
  | instantiated named years messages => exact silent messages
  | @requested info msg response final config after jobId current request =>
      obtain ⟨transfers, deadline, transferred, _, messages⟩ := request.sent
      rw [messages, List.mem_append, List.mem_singleton] at sent
      rcases sent with paid | sent
      · obtain ⟨_, _, _, _, _, _, same⟩ := transferMsgs_ok transferred paid
        cases same
      · cases sent
        exact request.connected
  | configured sets configured authorized named messages => exact silent messages
  | withdrawn withdraws authorized unsent => exact (unsent channel data timeout sent).elim
  | allowlisted configured authorized messages => exact silent messages
  | migrated configured limited messages => exact silent messages
  | connected free messages => exact silent messages
  | closed messages => exact silent messages
  | delivered decoded originated callback =>
      rw [callback] at sent
      simp at sent
  | welcomed decoded configured acknowledged messages => exact silent messages
  | priced carries messages => exact silent messages
  | idle idles refused messages => exact silent messages

theorem executeGetRandomnessImpl_unset {env : Env} {info : MessageInfo} {action : String}
    {config : Config} {after : Timestamp} {jobId : String} {storage : Storage}
    (unset : storage.gatewayChannel = none) (admitted : Admitted info config storage after jobId) :
    executeGetRandomnessImpl env info action config after jobId storage =
      .error .unsetChannel storage := by
  have checked : checkRequest info config after jobId storage = .ok () storage :=
    checkRequest_eq_ok.mpr ⟨admitted, rfl⟩
  simp [executeGetRandomnessImpl, checked, getGatewayChannel, unset]

theorem execute_unset {deps : Deps} {env : Env} {balances : List Coin} {info : MessageInfo}
    {msg : ExecuteMsg} {storage final : Storage} {channel : String}
    {response : Response ContractMsg} (unset : storage.gatewayChannel = none)
    (requests : msg.requests = true)
    (returned : execute deps env balances info msg { storage with gatewayChannel := some channel } =
      .ok response final) :
    ∃ after, execute deps env balances info msg storage = .error .unsetChannel after := by
  cases msg with
  | getRandomnessAfter after jobId =>
      obtain ⟨config, _, request⟩ := executeGetRandomnessAfter_ok returned
      have loaded : mapError ContractError.std loadConfig storage = .ok config storage :=
        mapError_eq_ok.mpr (loadConfig_eq_ok.mpr ⟨request.configured, rfl⟩)
      refine ⟨storage, ?_⟩
      simp only [execute, executeGetRandomnessAfter, bind_apply, loaded, andThen_ok]
      exact executeGetRandomnessImpl_unset unset (admitted_channel.mp request.admitted)
  | getNextRandomness jobId =>
      obtain ⟨config, after, _, request⟩ := executeGetNextRandomness_ok returned
      have loaded : mapError ContractError.std loadConfig storage = .ok config storage :=
        mapError_eq_ok.mpr (loadConfig_eq_ok.mpr ⟨request.configured, rfl⟩)
      have admitted := admitted_channel.mp request.admitted
      cases request.asked with
      | next clock margin =>
          have calculated :
              mapError ContractError.std (calculateAfter (.blockTime env.block.time)) storage =
                .ok after storage := by
            rw [mapError_eq_ok, calculateAfter, ofPanics_eq_ok]
            exact ⟨Timestamp.plusNanos_eq_ok.mpr margin, rfl⟩
          refine ⟨storage, ?_⟩
          simp only [execute, executeGetNextRandomness, bind_apply, loaded, andThen_ok, clock,
            Bool.false_eq_true, if_false, calculated]
          exact executeGetRandomnessImpl_unset unset admitted
      | @test next _ detached stepped =>
          have calculated : mapError ContractError.std (calculateAfter .test) storage =
              .ok (storage.testModeNextAfter.getD testModeNextAfterInit)
                { storage with testModeNextAfter := some next } := by
            refine mapError_eq_ok.mpr ?_
            simp [calculateAfter, stepped]
          refine ⟨{ storage with testModeNextAfter := some next }, ?_⟩
          simp only [execute, executeGetNextRandomness, bind_apply, loaded, andThen_ok, detached,
            if_true, calculated]
          exact executeGetRandomnessImpl_unset unset
            ⟨admitted.short, admitted.paid, admitted.allowed, admitted.early, admitted.late⟩
  | setConfig change => cases requests
  | withdraw denom amount address => cases requests
  | updateAllowlist add remove => cases requests

theorem requested_packet {deps : Deps} {env : Env} {balances : List Coin} {info : MessageInfo}
    {msg : ExecuteMsg} {storage after : Storage} {response : Response ContractMsg}
    (requests : msg.requests = true)
    (returned : execute deps env balances info msg storage = .ok response after) :
    ∃ config time jobId channel,
      Requested env info msg storage response after config time jobId channel := by
  cases msg with
  | getNextRandomness jobId =>
      obtain ⟨config, time, channel, request⟩ := executeGetNextRandomness_ok returned
      exact ⟨config, time, jobId, channel, request⟩
  | getRandomnessAfter time jobId =>
      obtain ⟨config, channel, request⟩ := executeGetRandomnessAfter_ok returned
      exact ⟨config, time, jobId, channel, request⟩
  | setConfig change => cases requests
  | withdraw denom amount address => cases requests
  | updateAllowlist add remove => cases requests

/-- The gateway channel and the open channels of a world. -/
structure OneChannel (deps : Deps) (contract : Addr) (world : World) : Prop where
  stored : ∀ channel, world.storage.gatewayChannel = some channel ↔ channel ∈ opened world
  single : (opened world).length ≤ 1
  closed : ∀ tx next channel, attempt deps contract world tx = some next → channel ∈ opened world →
    channel ∉ opened next → ∃ closing, tx.action = .channelClose (.closeConfirm closing) ∧
      closing.channelId = channel
  sent : ∀ tx response after channel data timeout,
    perform deps contract tx world.storage = .ok response after →
    .ibcSendPacket channel data timeout ∈ response.msgs → opened world = [channel]
  requested : ∀ env balances info msg response after, msg.requests = true →
    execute deps env balances info msg world.storage = .ok response after →
    ∃ channel time jobId timeout, requestMsg info channel time jobId timeout ∈ response.msgs
  unset : opened world = [] → ∀ env balances info msg channel response after, msg.requests = true →
    execute deps env balances info msg { world.storage with gatewayChannel := some channel } =
      .ok response after →
    ∃ failed, execute deps env balances info msg world.storage = .error .unsetChannel failed

theorem ChannelStored.oneChannel {world : World} (stored : ChannelStored world) (deps : Deps)
    (contract : Addr) : OneChannel deps contract world := by
  have channels : opened world = world.storage.gatewayChannel.toList := stored
  refine ⟨?_, ?_, ?_, ?_, ?_, ?_⟩
  · intro channel
    rw [channels, Option.mem_toList]
  · rw [channels]
    cases world.storage.gatewayChannel <;> simp
  · intro tx next channel committed before after
    obtain ⟨_, response, storage, effect, rfl⟩ := attempt_effect committed
    rw [opened_commit] at after
    rcases effect_gatewayChannel effect with ⟨other, _⟩ | ⟨connected, version, action, _⟩ |
        ⟨closing, action, _⟩
    · rw [openedAfter_other other] at after
      exact (after before).elim
    · rw [action] at after
      exact (after (List.mem_cons_of_mem _ before)).elim
    · refine ⟨closing, action, ?_⟩
      rw [action, openedAfter, List.mem_filter, not_and, decide_eq_true_eq, not_not] at after
      exact (after before).symm
  · intro tx response after channel data timeout returned sent
    rw [channels, effect_packets (perform_effect returned) sent]
    rfl
  · intro env balances info msg response after requests returned
    obtain ⟨config, time, jobId, channel, request⟩ := requested_packet requests returned
    obtain ⟨transfers, timeout, _, _, messages⟩ := request.sent
    refine ⟨channel, time, jobId, timeout, ?_⟩
    rw [messages]
    exact List.mem_append_right _ List.mem_cons_self
  · intro closed env balances info msg channel response after requests returned
    have unset : world.storage.gatewayChannel = none := by simpa [channels] using closed
    exact execute_unset unset requests returned

theorem reached_oneChannel (deps : Deps) (contract : Addr) (txs : List Tx)
    (along : Runs.Along (attempt deps contract) (fun world tx => closesOpen world tx = true)
      ⟨Storage.empty, []⟩ txs) :
    OneChannel deps contract (reached deps contract txs) :=
  (reached_channelStored deps contract txs along).oneChannel deps contract

end

section

attribute [local instance] jsonWire

def dapp : Addr := "dapp"

def proxyContract : Addr := "proxy"

def startBlock : BlockInfo := ⟨100, ⟨1682000000000000000, by decide⟩⟩

def unoisx (amount : Nat) (fits : amount < 2 ^ 128) : Coin := ⟨"unoisx", ⟨amount, fits⟩⟩

def setup : List Tx :=
  let denom : IbcDenom :=
    ⟨"channel-98", "ibc/CB480EB3697F39DB828D9EFA021ABE681BFCD72E23894019B8DDB1AB94039081"⟩
  let msg : InstantiateMsg :=
    ⟨[unoisx 1000000 NoisHost.million_lt], some NoisHost.manager, none, 500000, .ibcPay denom, none,
      none⟩
  let channel : IbcChannel := ⟨"channel-0", .unordered, "nois-v7"⟩
  [⟨startBlock, some 0, [], .instantiate msg, true⟩,
    ⟨startBlock, some 1, [], .channelOpen (.openInit channel), true⟩,
    ⟨startBlock, some 2, [], .channelConnect (.openAck channel "nois-v7"), true⟩]

def closing (channelId : String) : Tx :=
  ⟨startBlock, some 3, [], .channelClose (.closeConfirm ⟨channelId, .unordered, "nois-v7"⟩), true⟩

def connecting (channelId : String) : Tx :=
  ⟨startBlock, some 4, [], .channelConnect (.openAck ⟨channelId, .unordered, "nois-v7"⟩ "nois-v7"),
    true⟩

theorem reached_oneChannel_reconnected :
    opened (reached NoisHost.deps proxyContract
      (setup ++ [connecting "channel-1", closing "channel-0", connecting "channel-2"])) =
      ["channel-2"] ∧
      OneChannel NoisHost.deps proxyContract (reached NoisHost.deps proxyContract
        (setup ++ [connecting "channel-1", closing "channel-0", connecting "channel-2"])) := by
  refine ⟨by decide +kernel, ?_⟩
  exact reached_oneChannel NoisHost.deps proxyContract _ (by decide +kernel)

end

end NoisContracts.Proxy
