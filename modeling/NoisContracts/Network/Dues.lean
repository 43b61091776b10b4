import NoisContracts.Network.Exchange
import NoisContracts.Proxy.Payments

/-!
What the proxy pays the gateway. The gateway names the payment contract of a channel and
the price of a beacon in two packets when the handshake of the channel ends, and the
proxy pays with an IBC transfer for every request.
-/

namespace NoisContracts.Network.Exchange

open ContractCall ContractCall.Call OrderedStore Gateway Proxy

/-- The address of the customer that the gateway charges for the requests of the channel. -/
def ChargedOn (link : Link) (world : Network.World) (payment : String) : Prop :=
  ∃ customer, world.gateway.storage.customers[link.gatewayChannel]? = some customer ∧
    customer.payment = payment

def leavesDues (change : SetConfig) : Bool := change.payment.isNone && change.noisBeaconPrice.isNone

def Event.leavesDues : Event → Bool
  | .between (.proxy tx) => tx.action.sets.all Exchange.leavesDues
  | _ => true

section

variable [Wire]

/-- The price of the gateway at the time when it has confirmed the channel. -/
def Announced (link : Link) (log : List Entry) (time : Timestamp) (price : Coin) : Prop :=
  ∃ txs entry config channel,
    (Gateway.reached link.gatewayDeps link.gateway txs).log ++ [entry] <+: log ∧
      (Gateway.reached link.gatewayDeps link.gateway txs).storage.config = some config ∧
      config.price = price ∧ entry.tx.action = .channelConnect (.openConfirm channel) ∧
      channel.channelId = link.gatewayChannel ∧ entry.tx.block.time = time

theorem Announced.mono {link : Link} {log longer : List Entry} {time : Timestamp} {price : Coin}
    (announced : Announced link log time price) (extended : log <+: longer) :
    Announced link longer time price := by
  obtain ⟨txs, entry, config, channel, earlier, rest⟩ := announced
  exact ⟨txs, entry, config, channel, earlier.trans extended, rest⟩

/-- What a call does to the payment contract and the price that the proxy knows. -/
theorem effect_dues {deps : Deps} {env : Env} {storage after : Proxy.Storage} {tx : Proxy.Tx}
    {response : Response ContractMsg} {changed : Proxy.Config}
    (kept : tx.action.sets.all leavesDues = true)
    (effect : Proxy.Effect deps env storage tx.action response after)
    (stored : after.config = some changed) :
    (changed.payment = none ∧ changed.noisBeaconPrice = .zero) ∨
      ∃ config, storage.config = some config ∧
        (changed.payment = config.payment ∨
          ∃ payment, tx.action.welcome = some payment ∧ changed.payment = some payment) ∧
        ((changed.noisBeaconPrice = config.noisBeaconPrice ∧
          changed.noisBeaconPriceUpdated = config.noisBeaconPriceUpdated) ∨
          ∃ info, tx.action.price = some info ∧ info.denom = "unois" ∧
            changed.noisBeaconPrice = info.amount ∧
            changed.noisBeaconPriceUpdated = info.timestamp) := by
  have steady (same : storage.config = some changed) :
      ∃ config, storage.config = some config ∧
        (changed.payment = config.payment ∨
          ∃ payment, tx.action.welcome = some payment ∧ changed.payment = some payment) ∧
        ((changed.noisBeaconPrice = config.noisBeaconPrice ∧
          changed.noisBeaconPriceUpdated = config.noisBeaconPriceUpdated) ∨
          ∃ info, tx.action.price = some info ∧ info.denom = "unois" ∧
            changed.noisBeaconPrice = info.amount ∧
            changed.noisBeaconPriceUpdated = info.timestamp) :=
    ⟨changed, same, .inl rfl, .inl ⟨rfl, rfl⟩⟩
  generalize tx.action = action at effect kept steady
  cases effect with
  | instantiated =>
      cases stored
      exact .inl ⟨rfl, rfl⟩
  | requested request => exact .inr (steady (by cases request.asked <;> exact stored))
  | @configured _ change config manager _ sets configured =>
      cases stored
      have left : change.payment = none ∧ change.noisBeaconPrice = none := by
        simpa [sets, leavesDues] using kept
      exact .inr ⟨config, configured, .inl (by simp [Config.update, left.1]),
        .inl ⟨by simp [Config.update, left.2], by simp [Config.update, left.2]⟩⟩
  | withdrawn => exact .inr (steady stored)
  | allowlisted => exact .inr (steady stored)
  | migrated configured =>
      cases stored
      exact .inr ⟨_, configured, .inl rfl, .inl ⟨rfl, rfl⟩⟩
  | connected => exact .inr (steady stored)
  | closed => exact .inr (steady stored)
  | delivered => exact .inr (steady stored)
  | @welcomed msg payment config response decoded configured =>
      cases stored
      exact .inr ⟨config, configured, .inr ⟨payment, by simp [Action.welcome, decoded], rfl⟩,
        .inl ⟨rfl, rfl⟩⟩
  | @priced _ info response carries =>
      obtain ⟨config, configured, rfl⟩ := Option.map_eq_some_iff.mp stored
      refine .inr ⟨config, configured, ?_, ?_⟩
      · rw [reprice_eq]
        exact .inl rfl
      · unfold Config.reprice
        by_cases accepted : config.accepts info = true
        · rw [if_pos accepted]
          exact .inr ⟨info, carries, (Config.accepts_iff.mp accepted).1, rfl, rfl⟩
        · rw [if_neg accepted]
          exact .inl ⟨rfl, rfl⟩
  | idle => exact .inr (steady stored)

theorem withdraw_silent {deps : Deps} {contract : Addr} {tx : Proxy.Tx}
    {storage after : Proxy.Storage} {response : Response ContractMsg}
    (withdraws : tx.action.withdraws = true)
    (returned : Proxy.perform deps contract tx storage = .ok response after)
    (channel target : String) (coin : Coin) (timeout : Timestamp) (memo : Option String) :
    .ibcTransfer channel target coin timeout memo ∉ response.msgs := by
  unfold Proxy.perform at returned
  unfold Action.withdraws at withdraws
  split at withdraws
  · rename_i info denom amount address action
    simp only [action, Proxy.execute, executeWithdraw, withdrawUnchecked, bind_eq_ok, pure_eq_ok]
      at returned
    obtain ⟨_, _, _, _, _, _, rfl, _⟩ := returned
    simp [Response.addMessages, Response.msgs]
  · rename_i denom amount address action
    simp only [action, sudoEntry, sudoWithdraw, withdrawUnchecked, bind_eq_ok, pure_eq_ok]
      at returned
    obtain ⟨_, _, _, rfl, _⟩ := returned
    simp [Response.addMessages, Response.msgs]
  · rename_i denom amount action
    simp only [action, sudoEntry, sudoWithdrawToCommunityPool, withdrawToCommunityPoolUnchecked,
      pure_eq_ok] at returned
    obtain ⟨rfl, _⟩ := returned
    simp [Response.addMessages, Response.msgs]
  · cases withdraws

/-- A transfer of the proxy pays the price that it knows to the contract that it knows. -/
theorem perform_transfer {deps : Deps} {contract : Addr} {tx : Proxy.Tx}
    {storage after : Proxy.Storage} {response : Response ContractMsg} {channel target : String}
    {coin : Coin} {timeout : Timestamp} {memo : Option String}
    (returned : Proxy.perform deps contract tx storage = .ok response after)
    (sent : .ibcTransfer channel target coin timeout memo ∈ response.msgs) :
    ∃ config, storage.config = some config ∧ config.payment = some target ∧
      config.noisBeaconPrice.isZero = false ∧ coin.amount = config.noisBeaconPrice := by
  have silent (messages : response.messages = []) : False := by
    simp [Response.msgs, messages] at sent
  have effect := Proxy.perform_effect returned
  generalize taken : tx.action = action at effect
  cases effect with
  | instantiated named years messages => exact (silent messages).elim
  | @requested info msg response final config time jobId requestChannel request =>
      obtain ⟨transfers, deadline, transferred, _, messages⟩ := request.sent
      rw [messages, List.mem_append, List.mem_singleton] at sent
      rcases sent with paid | asked
      · obtain ⟨unoisDenom, payment, _, _, known, nonzero, transfer⟩ :=
          transferMsgs_ok transferred paid
        cases transfer
        exact ⟨config, request.configured, known, nonzero, rfl⟩
      · cases asked
  | configured sets configured authorized named messages => exact (silent messages).elim
  | withdrawn withdraws => exact (withdraw_silent (taken ▸ withdraws) returned _ _ _ _ _ sent).elim
  | allowlisted configured authorized messages => exact (silent messages).elim
  | migrated configured limited messages => exact (silent messages).elim
  | connected free messages => exact (silent messages).elim
  | closed messages => exact (silent messages).elim
  | delivered decoded originated callback =>
      rw [callback, List.mem_singleton] at sent
      cases sent
  | welcomed decoded configured acknowledged messages => exact (silent messages).elim
  | priced carries messages => exact (silent messages).elim
  | idle idles refused messages => exact (silent messages).elim

theorem Drains.beacons {env : Env} {round : Nat} {randomness : Binary}
    {storage after : Gateway.Storage} {jobs : List Job} {msgs : List Msg}
    (drains : Drains env round randomness storage jobs msgs after) :
    ∀ msg ∈ msgs, ∃ job published timeout, msg =
      deliverBeaconMsg job published timeout randomness := by
  induction drains with
  | stop storage => simp
  | next first counted time deadline rest ih =>
      intro msg member
      rcases List.mem_cons.mp member with rfl | later
      · exact ⟨_, _, _, rfl⟩
      · exact ih msg later

/-- A packet that is not a beacon is sent when a channel is confirmed. -/
theorem effect_announces {deps : Deps} {env : Env} {storage after : Gateway.Storage}
    {action : Gateway.Action} {response : Response ContractMsg} {sender : String} {data : Binary}
    {timeout : Timestamp} {packet : OutPacket}
    (effect : Gateway.Effect deps env storage action response after)
    (sent : .ibcSendPacket sender data timeout ∈ response.msgs)
    (decoded : Wire.outPacket.fromJson data = .ok packet)
    (other : ∀ sourceId published randomness origin, packet ≠
      .deliverBeacon sourceId published randomness origin) :
    ∃ channel, action = .channelConnect (.openConfirm channel) ∧
      Connects deps env channel.channelId storage response after := by
  have beacon (job : Job) (published deadline : Timestamp) (randomness : Binary)
      (same : CosmosMsg.ibcSendPacket sender data timeout =
        deliverBeaconMsg job published deadline randomness) :
      False := by
    cases same
    rw [Wire.outPacket.fromJson_toJsonBinary] at decoded
    cases decoded
    exact other _ _ _ _ rfl
  cases effect with
  | configured configures kept messages => simp [Response.msgs, messages] at sent
  | idle idles messages => simp [Response.msgs, messages] at sent
  | @connected channel response after connects => exact ⟨channel, rfl, connects⟩
  | received receives =>
      cases receives with
      | request decoded accepted =>
          cases accepted with
          | intro short route known counted configured =>
              cases route with
              | processed =>
                  simp only [Response.msgs, SubMsg.map_msg_new, List.mem_append, List.mem_singleton]
                    at sent
                  rcases sent with sent | paid
                  · exact (beacon _ _ _ _ sent).elim
                  · simp [payMsg] at paid
              | @queued config =>
                  simp only [Response.msgs, SubMsg.map_msg_new, List.mem_append, List.mem_singleton]
                    at sent
                  rcases sent with sent | paid
                  · cases drand : config.drand <;> simp [incentivizeMsgs, drand] at sent
                  · simp [payMsg] at paid
      | price decoded configured => simp [Response.msgs] at sent
      | failure failed => simp [Response.msgs, failureResponse] at sent
  | verified configured trusted processed =>
      obtain ⟨_, _, jobs, drains, _⟩ := newDrand_ok processed
      rw [Response.msgs, SubMsg.map_msg_new] at sent
      obtain ⟨job, published, deadline, same⟩ := Drains.beacons drains _ sent
      exact (beacon _ _ _ _ same).elim

/-- The payment contract of a channel stays the same, also if the channel is confirmed again. -/
theorem GatewayStep.chargedOn {link : Link} {world next : Network.World} {tx : Gateway.Tx}
    {toGateway : List Binary} {response : Response ContractMsg} {after : Gateway.Storage}
    {payment : String} (step : GatewayStep link world tx toGateway next response after)
    (projects : Projects link world) (nextProjects : Projects link next)
    (charged : ChargedOn link world payment) : ChargedOn link next payment := by
  obtain ⟨customer, found, rfl⟩ := charged
  obtain ⟨txs, same⟩ := projects.gateway
  have registered : Registered world.gateway :=
    same ▸ reached_registered link.gatewayDeps link.gateway txs
  have derived : Derived link.gatewayDeps link.gateway world.gateway :=
    same ▸ reached_derived link.gatewayDeps link.gateway txs
  obtain ⟨nextTxs, nextSame⟩ := nextProjects.gateway
  have nextDerived : Derived link.gatewayDeps link.gateway next.gateway :=
    nextSame ▸ reached_derived link.gatewayDeps link.gateway nextTxs
  obtain ⟨effect, admitted⟩ := GatewayStep.effect step
  have stored : ∃ later, next.gateway.storage.customers[link.gatewayChannel]? = some later := by
    rw [step.next_eq]
    rcases billing_kinds registered admitted effect with unbilled |
      ⟨msg, base, origin, action, decoded, accepted⟩ | ⟨opened, action, connects⟩
    · exact ⟨customer, by simpa [Gateway.World.commit, unbilled.customers] using found⟩
    · obtain ⟨payer, known, customers, _⟩ := accepted.bill
      simp only [Gateway.World.commit, customers, get_insert]
      split
      · exact ⟨_, rfl⟩
      · exact ⟨customer, found⟩
    · cases connects with
      | intro =>
          simp only [Gateway.World.commit, Storage.setCustomer, get_insert]
          split
          · exact ⟨_, rfl⟩
          · exact ⟨customer, found⟩
  obtain ⟨later, kept⟩ := stored
  obtain ⟨config, configured, address⟩ := derived _ _ found
  obtain ⟨changed, nextConfigured, nextAddress⟩ := nextDerived _ _ kept
  obtain ⟨_, current, codeId⟩ := effect_paymentCodeId registered admitted effect configured
  have stays : next.gateway.storage.config = after.config := by rw [step.next_eq]; rfl
  rw [stays, current] at nextConfigured
  cases nextConfigured
  refine ⟨later, kept, ?_⟩
  have first := address ⟨openingBlock, none, link.gateway⟩ rfl
  have second := nextAddress ⟨openingBlock, none, link.gateway⟩ rfl
  rw [codeId, first] at second
  exact (Except.ok.inj second).symm

theorem ProxyStep.toProxy {link : Link} {world next : Network.World} {tx : Proxy.Tx}
    {toProxy : List Binary} {response : Response ContractMsg} {after : Proxy.Storage}
    (step : ProxyStep link world tx toProxy next response after) : next.toProxy = toProxy := by
  rw [step.next_eq]

structure Agreed (link : Link) (world : World) : Prop where
  welcome : ∀ data ∈ world.network.toProxy,
    ∀ payment, Wire.outPacket.fromJson data = .ok (.welcome payment) →
      ChargedOn link world.network payment
  price : ∀ data ∈ world.network.toProxy, ∀ timestamp amount denom,
    Wire.outPacket.fromJson data = .ok (.pushBeaconPrice timestamp amount denom) →
    Announced link world.network.gateway.log timestamp ⟨denom, amount⟩
  payment : ∀ config payment, world.network.proxy.storage.config = some config →
    config.payment = some payment → ChargedOn link world.network payment
  current : ∀ config, world.network.proxy.storage.config = some config →
    config.noisBeaconPrice = .zero ∨
      Announced link world.network.gateway.log config.noisBeaconPriceUpdated
        ⟨"unois", config.noisBeaconPrice⟩
  transfers : ∀ entry ∈ world.network.proxy.log, ∀ channel target coin timeout memo,
    .ibcTransfer channel target coin timeout memo ∈ entry.2.msgs →
      ChargedOn link world.network target ∧
        ∃ time, Announced link world.network.gateway.log time ⟨"unois", coin.amount⟩

/-- A proxy that has not taken up a packet yet takes over what the packets of the channel say. -/
theorem Agreed.proxyStep {link : Link} {world : World} {network : Network.World} {tx : Proxy.Tx}
    {toProxy : List Binary} {response : Response ContractMsg} {after : Proxy.Storage}
    (agreed : Agreed link world)
    (step : ProxyStep link world.network tx toProxy network response after)
    (kept : tx.action.sets.all leavesDues = true)
    (remaining : ∀ data ∈ toProxy, data ∈ world.network.toProxy)
    (brought : ∀ msg, tx.action = .packetReceive msg → msg.data ∈ world.network.toProxy)
    (unpriced : ∀ data, tx.action = .packetAck data → tx.action.price = none) (next : World)
    (same : next.network.proxy = network.proxy) (gateway : next.network.gateway = network.gateway)
    (fewer : ∀ data ∈ next.network.toProxy, data ∈ toProxy) : Agreed link next := by
  have unchanged : next.network.gateway = world.network.gateway := by rw [gateway, step.next_eq]
  have charged (payment : String) (before : ChargedOn link world.network payment) :
      ChargedOn link next.network payment := by
    unfold ChargedOn
    rw [unchanged]
    exact before
  have stored : next.network.proxy.storage = after := by rw [same, step.next_eq]; rfl
  refine ⟨?_, ?_, ?_, ?_, ?_⟩
  · intro data member payment decoded
    exact charged payment (agreed.welcome data (remaining data (fewer data member)) payment decoded)
  · intro data member timestamp amount denom decoded
    rw [unchanged]
    exact agreed.price data (remaining data (fewer data member)) timestamp amount denom decoded
  · intro changed payment configured known
    rw [stored] at configured
    rcases effect_dues kept step.effect configured with ⟨none, _⟩ | ⟨config, before, payments, _⟩
    · rw [none] at known
      cases known
    · rcases payments with unmoved | ⟨welcomed, announces, named⟩
      · exact charged payment (agreed.payment config payment before (unmoved ▸ known))
      · rw [named] at known
        cases known
        cases action : tx.action with
        | packetReceive msg =>
            rw [action, Action.welcome] at announces
            split at announces
            · rename_i decoded
              cases announces
              exact charged _ (agreed.welcome msg.data (brought msg action) _ decoded)
            · cases announces
        | _ => simp [action, Action.welcome] at announces
  · intro changed configured
    rw [stored] at configured
    rw [unchanged]
    rcases effect_dues kept step.effect configured with ⟨_, zero⟩ | ⟨config, before, _, prices⟩
    · exact .inl zero
    · rcases prices with ⟨price, time⟩ | ⟨info, carries, native, price, time⟩
      · rw [price, time]
        exact agreed.current config before
      · refine .inr ?_
        rw [price, time, ← native]
        cases action : tx.action with
        | packetReceive msg =>
            rw [action, Action.price] at carries
            split at carries
            · rename_i decoded
              cases carries
              exact agreed.price msg.data (brought msg action) _ _ _ decoded
            · cases carries
        | packetAck data =>
            rw [unpriced data action] at carries
            cases carries
        | _ => simp [action, Action.price] at carries
  · intro entry member channel target coin timeout memo sent
    rw [same, step.next_eq, Journal.World.commit_log, List.mem_append, List.mem_singleton] at member
    rw [unchanged]
    rcases member with earlier | rfl
    · obtain ⟨paid, priced⟩ := agreed.transfers entry earlier channel target coin timeout memo sent
      exact ⟨charged target paid, priced⟩
    · obtain ⟨config, configured, paid, nonzero, amount⟩ :=
        perform_transfer (ProxyStep.returned step) sent
      refine ⟨charged target (agreed.payment config target configured paid), ?_⟩
      rcases agreed.current config configured with zero | announced
      · rw [zero] at nonzero
        cases nonzero
      · exact ⟨_, amount ▸ announced⟩

theorem Agreed.gatewayStep {link : Link} {world : World} {network : Network.World} {tx : Gateway.Tx}
    {toGateway : List Binary} {response : Response ContractMsg} {after : Gateway.Storage}
    (agreed : Agreed link world)
    (step : GatewayStep link world.network tx toGateway network response after)
    (projects : Projects link world.network) (nextProjects : Projects link network) (next : World)
    (proxy : next.network.proxy = network.proxy) (same : next.network.gateway = network.gateway)
    (fewer : ∀ data ∈ next.network.toProxy, data ∈ network.toProxy) : Agreed link next := by
  obtain ⟨effect, admitted⟩ := GatewayStep.effect step
  have unchanged : next.network.proxy = world.network.proxy := by rw [proxy, step.next_eq]
  have log : network.gateway.log = world.network.gateway.log ++ [⟨tx, response⟩] := by
    rw [step.next_eq]; rfl
  have extended : world.network.gateway.log <+: next.network.gateway.log := by
    rw [same, log]
    exact List.prefix_append _ _
  have charged (payment : String) (before : ChargedOn link world.network payment) :
      ChargedOn link next.network payment := by
    have kept := GatewayStep.chargedOn step projects nextProjects before
    unfold ChargedOn at kept ⊢
    rwa [same]
  -- a packet was in flight before, or the channel is confirmed now
  have fresh (data : Binary) (packet : OutPacket) (member : data ∈ next.network.toProxy)
      (decoded : Wire.outPacket.fromJson data = .ok packet)
      (other : ∀ sourceId published randomness origin, packet ≠
        .deliverBeacon sourceId published randomness origin) :
      data ∈ world.network.toProxy ∨
        ∃ channel timeout, tx.action = .channelConnect (.openConfirm channel) ∧
          Connects link.gatewayDeps (tx.env link.gateway) channel.channelId
            world.network.gateway.storage response after ∧
          .ibcSendPacket link.gatewayChannel data timeout ∈ response.msgs := by
    have listed := fewer data member
    rw [step.next_eq, List.mem_append] at listed
    refine listed.imp_right fun sent => ?_
    obtain ⟨msg, listed, packeted⟩ := List.mem_filterMap.mp sent
    unfold packetOn at packeted
    split at packeted
    · rename_i sender bytes timeout
      rw [Option.ite_none_right_eq_some] at packeted
      obtain ⟨rfl, equal⟩ := packeted
      cases equal
      obtain ⟨channel, action, connects⟩ := effect_announces effect listed decoded other
      exact ⟨channel, timeout, action, connects, listed⟩
    · cases packeted
  refine ⟨?_, ?_, ?_, ?_, ?_⟩
  · intro data member payment decoded
    rcases fresh data _ member decoded (by simp) with earlier |
        ⟨channel, timeout, action, connects, sent⟩
    · exact charged payment (agreed.welcome data earlier payment decoded)
    · cases connects with
      | intro configured derived welcomeDeadline priceDeadline =>
          simp only [Response.msgs, SubMsg.map_msg_new, List.mem_cons, reduceCtorEq, false_or,
            List.not_mem_nil, or_false, CosmosMsg.ibcSendPacket.injEq] at sent
          rcases sent with ⟨opened, rfl, _⟩ | ⟨_, rfl, _⟩
          · rw [Wire.outPacket.fromJson_toJsonBinary] at decoded
            cases decoded
            refine ⟨⟨payment, 0⟩, ?_, rfl⟩
            rw [same, step.next_eq]
            simp [Gateway.World.commit, Storage.setCustomer, opened]
          · rw [Wire.outPacket.fromJson_toJsonBinary] at decoded
            cases decoded
  · intro data member timestamp amount denom decoded
    rcases fresh data _ member decoded (by simp) with earlier |
        ⟨channel, timeout, action, connects, sent⟩
    · exact (agreed.price data earlier timestamp amount denom decoded).mono extended
    · obtain ⟨entry, logged, taken⟩ :
          ∃ entry : Entry, network.gateway.log = world.network.gateway.log ++ [entry] ∧
            entry.tx = tx := ⟨_, log, rfl⟩
      cases connects with
      | @intro config address welcomeTimeout priceTimeout configured derived welcomeDeadline
          priceDeadline =>
          simp only [Response.msgs, SubMsg.map_msg_new, List.mem_cons, reduceCtorEq, false_or,
            List.not_mem_nil, or_false, CosmosMsg.ibcSendPacket.injEq] at sent
          rcases sent with ⟨_, rfl, _⟩ | ⟨opened, rfl, _⟩
          · rw [Wire.outPacket.fromJson_toJsonBinary] at decoded
            cases decoded
          · rw [Wire.outPacket.fromJson_toJsonBinary] at decoded
            cases decoded
            obtain ⟨txs, reach⟩ := projects.gateway
            refine ⟨txs, entry, config, channel, ?_, reach ▸ configured, rfl, taken ▸ action,
              opened.symm, ?_⟩
            · rw [same, logged, reach]
            · rw [taken]
              rfl
  · intro config payment configured known
    rw [unchanged] at configured
    exact charged payment (agreed.payment config payment configured known)
  · intro config configured
    rw [unchanged] at configured
    exact (agreed.current config configured).imp_right fun announced => announced.mono extended
  · intro entry member channel target coin timeout memo sent
    rw [unchanged] at member
    obtain ⟨paid, time, priced⟩ :=
      agreed.transfers entry member channel target coin timeout memo sent
    exact ⟨charged target paid, time, priced.mono extended⟩

theorem ProxyReads.unpriced {data : Binary} (reads : ProxyReads data) :
    Action.price (.packetAck data) = none := by
  rcases reads with ⟨text, decoded⟩ | ⟨inner, sourceId, decoded, read | read⟩
  · simp [Action.price, decoded]
  · simp [Action.price, decoded, read]
  · simp [Action.price, decoded, read]

end

section

attribute [local instance] jsonWire

end

end NoisContracts.Network.Exchange
