import NoisContracts.Proxy.Writers

/-!
Whom the proxy pays. The gateway creates a payment contract for every channel and
announces it in a `Welcome` packet on that channel. The proxy keeps the address that was
announced last, also when the channel is closed.
-/

namespace NoisContracts.Proxy

open ContractCall ContractCall.Call OrderedStore

def Action.connects : Action → Option String
  | .channelConnect msg => some msg.channel.channelId
  | _ => none

def everConnected (world : World) : List String :=
  world.log.filterMap fun entry => entry.1.action.connects

section

variable [Wire]

def welcomeOf (tx : Tx) (response : Response ContractMsg) : Option (String × String) :=
  match tx.action, response.acknowledgement with
  | .packetReceive msg, some (.success _) =>
      tx.action.welcome.map fun payment => (msg.destChannel, payment)
  | _, _ => none

def welcomes (world : World) : List (String × String) :=
  world.log.filterMap fun entry => welcomeOf entry.1 entry.2

def announced (world : World) (channel : String) : Option String :=
  Runs.lastWrite
    (fun welcome : String × String => if welcome.1 = channel then some welcome.2 else none)
    (welcomes world)

/-- IBC never uses a channel id again and delivers packets on open channels only. -/
def ibcRules (world : World) (tx : Tx) : Bool :=
  closesOpen world tx && match tx.action with
    | .channelConnect msg => !(everConnected world).contains msg.channel.channelId
    | .packetReceive msg => (opened world).contains msg.destChannel
    | _ => true

/-- No `SetConfig` names the payment contract. -/
def keepsPayment (deps : Deps) (contract : Addr) (world : World) (tx : Tx) : Bool :=
  (tx.action.sets.bind SetConfig.payment).isNone || (attempt deps contract world tx).isNone

theorem welcomeOf_other {tx : Tx} {response : Response ContractMsg}
    (other : ∀ msg, tx.action ≠ .packetReceive msg) : welcomeOf tx response = none := by
  unfold welcomeOf
  split
  · rename_i msg data received acknowledged
    exact (other msg received).elim
  · rfl

/-- The payment address changes with an accepted `Welcome` packet and with nothing else. -/
theorem effect_payment {deps : Deps} {env : Env} {storage after : Storage} {tx : Tx}
    {response : Response ContractMsg} (admitted : admits storage tx = true)
    (unset : tx.action.sets.bind SetConfig.payment = none)
    (effect : Effect deps env storage tx.action response after) :
    after.config.bind Config.payment =
      (welcomeOf tx response).elim (storage.config.bind Config.payment)
        fun welcome => some welcome.2 := by
  generalize taken : tx.action = action at effect unset
  have steady (other : ∀ msg, action ≠ .packetReceive msg)
      (same : after.config.bind Config.payment = storage.config.bind Config.payment) :
      after.config.bind Config.payment =
        (welcomeOf tx response).elim (storage.config.bind Config.payment)
          fun welcome => some welcome.2 := by
    rw [welcomeOf_other (taken ▸ other), same]
    rfl
  have silent (same : after.config.bind Config.payment = storage.config.bind Config.payment)
      (quiet : tx.action.welcome = none) :
      after.config.bind Config.payment =
        (welcomeOf tx response).elim (storage.config.bind Config.payment)
          fun welcome => some welcome.2 := by
    have nothing : welcomeOf tx response = none := by
      unfold welcomeOf
      split
      · rw [quiet]
        rfl
      · rfl
    rw [nothing, same]
    rfl
  cases effect with
  | instantiated =>
      have fresh : storage.config = none := by
        simpa [admits, taken] using (Bool.and_eq_true_iff.mp admitted).2
      exact steady (by simp) (by simp [fresh, Config.initial])
  | requested request =>
      refine steady (by simp) ?_
      cases request.asked <;> rfl
  | @configured _ change config manager response sets configured authorized named messages =>
      rw [sets, Option.bind_some] at unset
      refine steady ?_ (by simp [configured, Config.update, unset])
      rintro msg rfl
      cases sets
  | withdrawn withdraws =>
      refine steady ?_ rfl
      rintro msg rfl
      cases withdraws
  | allowlisted => exact steady (by simp) rfl
  | migrated configured => exact steady (by simp) (by simp [configured])
  | connected => exact steady (by simp) rfl
  | closed => exact steady (by simp) rfl
  | delivered decoded => exact silent rfl (by simp [taken, Action.welcome, decoded])
  | welcomed decoded configured acknowledged =>
      obtain ⟨data, acknowledgement⟩ := acknowledged
      simp [welcomeOf, taken, acknowledgement, Action.welcome, decoded]
  | @priced _ info response carries messages =>
      refine silent ?_ ?_
      · cases configured : storage.config with
        | none => rfl
        | some config =>
            simp only [Option.map_some, Option.bind_some, reprice_eq]
            rfl
      · rw [taken]
        exact Action.welcome_of_price carries
  | idle idles refused =>
      by_cases received : ∃ msg, action = .packetReceive msg
      · obtain ⟨msg, rfl⟩ := received
        obtain ⟨text, acknowledgement⟩ := refused msg rfl
        simp [welcomeOf, taken, acknowledgement]
      · exact steady (fun msg same => received ⟨msg, same⟩) rfl

@[simp] theorem welcomes_commit (world : World) (tx : Tx) (response : Response ContractMsg)
    (after : Storage) :
    welcomes (world.commit tx response after) =
      welcomes world ++ (welcomeOf tx response).toList := by
  cases accepted : welcomeOf tx response <;> simp [welcomes, accepted]

omit [Wire] in
@[simp] theorem everConnected_commit (world : World) (tx : Tx) (response : Response ContractMsg)
    (after : Storage) :
    everConnected (world.commit tx response after) =
      everConnected world ++ tx.action.connects.toList := by
  cases connects : tx.action.connects <;> simp [everConnected, connects]

theorem welcomeOf_channel {tx : Tx} {response : Response ContractMsg} {welcome : String × String}
    (accepted : welcomeOf tx response = some welcome) :
    ∃ msg, tx.action = .packetReceive msg ∧ msg.destChannel = welcome.1 := by
  unfold welcomeOf at accepted
  split at accepted
  · rename_i msg data received acknowledged
    obtain ⟨payment, _, rfl⟩ := Option.map_eq_some_iff.mp accepted
    exact ⟨msg, received, rfl⟩
  · cases accepted

/-- The proxy knows the address that was announced last. If the current channel was
welcomed, this is the address announced on it. -/
structure PaysCurrent (world : World) : Prop where
  stored : ChannelStored world
  payment : world.storage.config.bind Config.payment = (welcomes world).getLast?.map Prod.snd
  known : ∀ welcome ∈ welcomes world, welcome.1 ∈ everConnected world
  connected : ∀ channel, world.storage.gatewayChannel = some channel → channel ∈ everConnected world
  current : ∀ channel, world.storage.gatewayChannel = some channel →
    (∃ welcome ∈ welcomes world, welcome.1 = channel) →
    ∃ payment, (welcomes world).getLast? = some (channel, payment)

theorem PaysCurrent.welcomed {world : World} {tx : Tx} {response : Response ContractMsg}
    {welcome : String × String} (pays : PaysCurrent world) (rules : ibcRules world tx = true)
    (accepted : welcomeOf tx response = some welcome) :
    world.storage.gatewayChannel = some welcome.1 := by
  obtain ⟨msg, received, channel⟩ := welcomeOf_channel accepted
  have channels : opened world = world.storage.gatewayChannel.toList := pays.stored
  have onOpen : msg.destChannel ∈ opened world := by
    simpa [ibcRules, received, List.contains_eq_mem] using (Bool.and_eq_true_iff.mp rules).2
  rw [channels, Option.mem_toList, channel] at onOpen
  exact onOpen

theorem PaysCurrent.step {deps : Deps} {contract : Addr} {world next : World} {tx : Tx}
    (pays : PaysCurrent world) (rules : ibcRules world tx = true)
    (keeps : keepsPayment deps contract world tx = true)
    (committed : attempt deps contract world tx = some next) : PaysCurrent next := by
  have stored := pays.stored.step (Bool.and_eq_true_iff.mp rules).1 committed
  have unset : tx.action.sets.bind SetConfig.payment = none := by
    simpa [keepsPayment, committed] using keeps
  obtain ⟨admitted, response, after, effect, rfl⟩ := attempt_effect committed
  have payment := effect_payment admitted unset effect
  refine ⟨stored, ?_, ?_, ?_, ?_⟩
  · rw [welcomes_commit, Journal.World.commit_storage, payment, pays.payment]
    cases welcomeOf tx response <;> simp
  · intro welcome member
    rw [welcomes_commit, List.mem_append, Option.mem_toList] at member
    rw [everConnected_commit, List.mem_append]
    rcases member with before | accepted
    · exact .inl (pays.known welcome before)
    · exact .inl (pays.connected _ (pays.welcomed rules accepted))
  · intro channel holds
    rw [everConnected_commit, List.mem_append]
    rcases effect_gatewayChannel effect with ⟨_, same⟩ | ⟨opening, version, action, _, connected⟩ |
        ⟨_, _, closed⟩
    · exact .inl (pays.connected channel (same ▸ holds))
    · rw [Journal.World.commit_storage, connected] at holds
      cases holds
      exact .inr (by simp [action, Action.connects, IbcChannelConnectMsg.channel])
    · rw [Journal.World.commit_storage, closed] at holds
      cases holds
  · rintro channel holds ⟨welcome, member, same⟩
    rw [welcomes_commit] at member ⊢
    cases accepted : welcomeOf tx response with
    | some latest =>
        have here := pays.welcomed rules accepted
        obtain ⟨msg, received, _⟩ := welcomeOf_channel accepted
        rcases effect_gatewayChannel effect with ⟨_, kept⟩ | ⟨_, _, action, _⟩ | ⟨_, action, _⟩
        · rw [Journal.World.commit_storage, kept, here] at holds
          cases holds
          exact ⟨latest.2, by simp⟩
        · rw [received] at action
          cases action
        · rw [received] at action
          cases action
    | none =>
        simp only [accepted, Option.toList_none, List.append_nil] at member ⊢
        rcases effect_gatewayChannel effect with ⟨_, kept⟩ |
            ⟨opening, version, action, _, connected⟩ | ⟨_, _, closed⟩
        · exact pays.current channel (kept ▸ holds) ⟨welcome, member, same⟩
        · -- a fresh channel has not been welcomed
          rw [Journal.World.commit_storage, connected] at holds
          cases holds
          have fresh : opening.channelId ∉ everConnected world := by
            simpa [ibcRules, action, IbcChannelConnectMsg.channel]
              using (Bool.and_eq_true_iff.mp rules).2
          exact (fresh (same ▸ pays.known welcome member)).elim
        · rw [Journal.World.commit_storage, closed] at holds
          cases holds

theorem reached_paysCurrent (deps : Deps) (contract : Addr) (txs : List Tx)
    (along : Runs.Along (attempt deps contract)
      (fun world tx => ibcRules world tx = true ∧ keepsPayment deps contract world tx = true)
      ⟨Storage.empty, []⟩ txs) : PaysCurrent (reached deps contract txs) := by
  refine @Runs.run_invariant_along _ _ (attempt deps contract) _ PaysCurrent ?_ txs _ ?_ along
  · rintro world tx next ⟨rules, keeps⟩ pays committed
    exact pays.step rules keeps committed
  · refine ⟨rfl, rfl, ?_, ?_, ?_⟩
    · intro welcome member
      cases member
    · intro channel holds
      cases holds
    · intro channel holds
      cases holds

theorem announced_of_last {world : World} {channel payment : String}
    (last : (welcomes world).getLast? = some (channel, payment)) :
    announced world channel = some payment := by
  obtain ⟨before, split⟩ := List.getLast?_eq_some_iff.mp last
  simp [announced, Runs.lastWrite, split]

theorem effect_transfer {deps : Deps} {env : Env} {storage after : Storage} {action : Action}
    {response : Response ContractMsg} (effect : Effect deps env storage action response after)
    {channel ics20Channel toAddress : String} {data : Binary} {timeout deadline : Timestamp}
    {amount : Coin} {memo : Option String}
    (sent : .ibcSendPacket channel data timeout ∈ response.msgs)
    (paid : .ibcTransfer ics20Channel toAddress amount deadline memo ∈ response.msgs) :
    storage.gatewayChannel = some channel ∧
      storage.config.bind Config.payment = some toAddress := by
  refine ⟨effect_packets effect sent, ?_⟩
  have silent (messages : response.messages = []) : False := by
    simp [Response.msgs, messages] at sent
  cases effect with
  | @requested info msg response final config after jobId current request =>
      obtain ⟨transfers, expires, transferred, _, messages⟩ := request.sent
      rw [messages, List.mem_append, List.mem_singleton] at paid
      rcases paid with paid | asked
      · obtain ⟨_, payment, _, _, known, _, same⟩ := transferMsgs_ok transferred paid
        cases same
        simp [request.configured, known]
      · cases asked
  | withdrawn withdraws authorized unsent => exact (unsent channel data timeout sent).elim
  | delivered decoded originated callback =>
      rw [callback] at sent
      simp at sent
  | instantiated named years messages => exact (silent messages).elim
  | configured sets configured authorized named messages => exact (silent messages).elim
  | allowlisted configured authorized messages => exact (silent messages).elim
  | migrated configured limited messages => exact (silent messages).elim
  | connected free messages => exact (silent messages).elim
  | closed messages => exact (silent messages).elim
  | welcomed decoded configured acknowledged messages => exact (silent messages).elim
  | priced carries messages => exact (silent messages).elim
  | idle idles refused messages => exact (silent messages).elim

theorem PaysCurrent.transfer {deps : Deps} {contract : Addr} {world : World} {tx : Tx}
    {response : Response ContractMsg} {after : Storage} (pays : PaysCurrent world)
    (returned : perform deps contract tx world.storage = .ok response after)
    {channel ics20Channel toAddress : String} {data : Binary} {timeout deadline : Timestamp}
    {amount : Coin} {memo : Option String}
    (sent : .ibcSendPacket channel data timeout ∈ response.msgs)
    (paid : .ibcTransfer ics20Channel toAddress amount deadline memo ∈ response.msgs)
    (welcomed : ∃ welcome ∈ welcomes world, welcome.1 = channel) :
    announced world channel = some toAddress := by
  obtain ⟨here, payment⟩ := effect_transfer (perform_effect returned) sent paid
  obtain ⟨announcedPayment, last⟩ := pays.current channel here welcomed
  have known := pays.payment
  rw [payment, last] at known
  cases known
  exact announced_of_last last

/-- A request that is sent after the `Welcome` packet of its channel pays the contract
that was announced on this channel. -/
theorem transfer_to_welcomed (deps : Deps) (contract : Addr) (txs : List Tx) (tx : Tx)
    (along : Runs.Along (attempt deps contract)
      (fun world tx => ibcRules world tx = true ∧ keepsPayment deps contract world tx = true)
      ⟨Storage.empty, []⟩ txs)
    (response : Response ContractMsg) (after : Storage)
    (returned : perform deps contract tx (reached deps contract txs).storage = .ok response after)
    (channel : String) (data : Binary) (timeout : Timestamp)
    (sent : .ibcSendPacket channel data timeout ∈ response.msgs)
    (ics20Channel toAddress : String) (amount : Coin) (deadline : Timestamp) (memo : Option String)
    (paid : .ibcTransfer ics20Channel toAddress amount deadline memo ∈ response.msgs)
    (welcomed : ∃ welcome ∈ welcomes (reached deps contract txs), welcome.1 = channel) :
    announced (reached deps contract txs) channel = some toAddress :=
  (reached_paysCurrent deps contract txs along).transfer returned sent paid welcomed

end

section

attribute [local instance] jsonWire

def welcoming (channelId payment : String) : Tx :=
  ⟨startBlock, some 5, [],
    .packetReceive
      {data := Wire.outPacket.toJsonBinary (.welcome payment), destChannel := channelId,
        relayer := "relayer"}, true⟩

def requesting : Tx :=
  ⟨startBlock, some 6, [],
    .execute ⟨dapp, [unoisx 1000000 NoisHost.million_lt]⟩ (.getNextRandomness "job"), true⟩

def replaced : List Tx :=
  setup ++ [welcoming "channel-0" "payment-0", pushed startPrice startBlock, closing "channel-0",
    connecting "channel-1"]

def PaysFor (deps : Deps) (contract : Addr) (world : World) (tx : Tx) (channel toAddress : String) :
    Prop :=
  ∃ response after, perform deps contract tx world.storage = .ok response after ∧
    (∃ data timeout, .ibcSendPacket channel data timeout ∈ response.msgs) ∧
    ∃ ics20Channel amount deadline memo, .ibcTransfer ics20Channel toAddress amount deadline memo ∈
      response.msgs

def paysFor (deps : Deps) (contract : Addr) (world : World) (tx : Tx) (channel toAddress : String) :
    Bool :=
  match perform deps contract tx world.storage with
  | .ok response _ =>
      (response.msgs.any fun msg => match msg with
        | .ibcSendPacket used _ _ => used = channel
        | _ => false) &&
      response.msgs.any fun msg => match msg with
        | .ibcTransfer _ paid _ _ _ => paid = toAddress
        | _ => false
  | _ => false

theorem paysFor_of_eq_true {deps : Deps} {contract : Addr} {world : World} {tx : Tx}
    {channel toAddress : String} (pays : paysFor deps contract world tx channel toAddress = true) :
    PaysFor deps contract world tx channel toAddress := by
  unfold paysFor at pays
  split at pays
  · rename_i response after returned
    obtain ⟨sends, transfers⟩ := Bool.and_eq_true_iff.mp pays
    obtain ⟨packet, sent, onChannel⟩ := List.any_eq_true.mp sends
    obtain ⟨transfer, paid, toPayment⟩ := List.any_eq_true.mp transfers
    refine ⟨response, after, returned, ?_, ?_⟩
    · cases packet with
      | ibcSendPacket used data timeout =>
          obtain rfl : used = channel := by simpa using onChannel
          exact ⟨data, timeout, sent⟩
      | _ => cases onChannel
    · cases transfer with
      | ibcTransfer ics20Channel address amount deadline memo =>
          obtain rfl : address = toAddress := by simpa using toPayment
          exact ⟨ics20Channel, amount, deadline, memo, paid⟩
      | _ => cases toPayment
  · cases pays

theorem transfer_to_closed_channel :
    Runs.Along (attempt NoisHost.deps proxyContract)
      (fun world tx => ibcRules world tx = true ∧
        keepsPayment NoisHost.deps proxyContract world tx = true) ⟨Storage.empty, []⟩
      (replaced ++ [requesting]) ∧
      PaysFor NoisHost.deps proxyContract (reached NoisHost.deps proxyContract replaced) requesting
        "channel-1" "payment-0" ∧
      announced (reached NoisHost.deps proxyContract replaced) "channel-0" = some "payment-0" ∧
      announced (reached NoisHost.deps proxyContract replaced) "channel-1" = none := by
  refine ⟨by decide +kernel, paysFor_of_eq_true (by decide +kernel), by decide +kernel,
    by decide +kernel⟩

theorem transfer_to_welcomed_reconnected :
    ∃ toAddress,
      PaysFor NoisHost.deps proxyContract
        (reached NoisHost.deps proxyContract (replaced ++ [welcoming "channel-1" "payment-1"]))
        requesting "channel-1" toAddress ∧
        announced
          (reached NoisHost.deps proxyContract (replaced ++ [welcoming "channel-1" "payment-1"]))
          "channel-1" =
          some toAddress := by
  have pays : PaysFor NoisHost.deps proxyContract
      (reached NoisHost.deps proxyContract (replaced ++ [welcoming "channel-1" "payment-1"]))
      requesting "channel-1" "payment-1" :=
    paysFor_of_eq_true (by decide +kernel)
  refine ⟨"payment-1", pays, ?_⟩
  obtain ⟨response, after, returned, ⟨data, timeout, sent⟩, ics20Channel, amount, deadline, memo,
      paid⟩ := pays
  exact transfer_to_welcomed NoisHost.deps proxyContract
    (replaced ++ [welcoming "channel-1" "payment-1"]) requesting (by decide +kernel) response after
    returned "channel-1" data timeout sent ics20Channel "payment-1" amount deadline memo paid
    (by decide +kernel)

end

end NoisContracts.Proxy
