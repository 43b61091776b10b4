import NoisContracts.Proxy.Channels

/-!
The requests and the callbacks of a proxy, read off its journal. A request is a
committed `GetNextRandomness` or `GetRandomnessAfter`, and a callback is the
`NoisReceive` message of a committed packet.
-/

namespace NoisContracts.Proxy

open ContractCall ContractCall.Call

structure Request where
  sender : Addr
  jobId : String
  after : Timestamp
  /-- The block time of a `GetNextRandomness`. -/
  next : Option Timestamp
deriving DecidableEq, Repr

def noisReceive : Msg → Option (Addr × NoisCallback)
  | .wasmExecute contract (.noisReceive callback) _ => some (contract, callback)
  | _ => none

def callbackOf (entry : Tx × Response ContractMsg) : Option (Addr × NoisCallback) :=
  match entry.1.action with
  | .packetReceive _ => entry.2.msgs.findSome? noisReceive
  | _ => none

theorem effect_testMode {deps : Deps} {env : Env} {tx : Tx} {storage after : Storage}
    {config : Config} {response : Response ContractMsg} [Wire]
    (configured : storage.config = some config) (admitted : admits storage tx = true)
    (effect : Effect deps env storage tx.action response after) :
    ∃ changed, after.config = some changed ∧ changed.testMode = config.testMode := by
  generalize taken : tx.action = action at effect
  cases effect with
  | instantiated => simp [admits, taken, configured] at admitted
  | requested request => exact ⟨config, by cases request.asked <;> exact configured, rfl⟩
  | configured sets stored =>
      rw [configured] at stored
      cases stored
      exact ⟨_, rfl, rfl⟩
  | withdrawn => exact ⟨config, configured, rfl⟩
  | allowlisted => exact ⟨config, configured, rfl⟩
  | migrated stored =>
      rw [configured] at stored
      cases stored
      exact ⟨_, rfl, rfl⟩
  | connected => exact ⟨config, configured, rfl⟩
  | closed => exact ⟨config, configured, rfl⟩
  | delivered => exact ⟨config, configured, rfl⟩
  | welcomed decoded stored =>
      rw [configured] at stored
      cases stored
      exact ⟨_, rfl, rfl⟩
  | @priced _ info =>
      refine ⟨config.reprice info, by simp [configured], ?_⟩
      unfold Config.reprice
      split <;> rfl
  | idle => exact ⟨config, configured, rfl⟩

variable [Wire]

def packetAfter : Msg → Option Timestamp
  | .ibcSendPacket _ data _ =>
      match Wire.inPacket.fromJson data with
      | .ok (.requestBeacon after _) => some after
      | _ => none
  | _ => none

def requestOf (entry : Tx × Response ContractMsg) : Option Request :=
  match entry.1.action with
  | .execute info (.getRandomnessAfter after jobId) => some ⟨info.sender, jobId, after, none⟩
  | .execute info (.getNextRandomness jobId) =>
      (entry.2.msgs.findSome? packetAfter).map fun after =>
        ⟨info.sender, jobId, after, some entry.1.block.time⟩
  | _ => none

theorem requestOf_or_callbackOf (entry : Tx × Response ContractMsg) :
    requestOf entry = none ∨ callbackOf entry = none := by
  unfold requestOf callbackOf
  cases entry.1.action <;> simp

theorem Requested.packetAfter {env : Env} {info : MessageInfo} {msg : ExecuteMsg}
    {storage final : Storage} {response : Response ContractMsg} {config : Config}
    {after : Timestamp} {jobId channel : String}
    (request : Requested env info msg storage response final config after jobId channel) :
    response.msgs.findSome? Proxy.packetAfter = some after := by
  obtain ⟨transfers, timeout, transferred, _, messages⟩ := request.sent
  have unread : transfers.findSome? Proxy.packetAfter = none := by
    rw [List.findSome?_eq_none_iff]
    intro msg member
    obtain ⟨_, _, _, _, _, _, rfl⟩ := transferMsgs_ok transferred member
    rfl
  rw [messages, List.findSome?_append, unread]
  simp [Proxy.packetAfter, requestMsg, Wire.inPacket.fromJson_toJsonBinary]

theorem Requested.requestOf {contract : Addr} {tx : Tx} {info : MessageInfo} {msg : ExecuteMsg}
    {storage final : Storage} {response : Response ContractMsg} {config : Config}
    {after : Timestamp} {jobId channel : String} (action : tx.action = .execute info msg)
    (request : Requested (tx.env contract) info msg storage response final config after jobId
      channel) :
    ∃ next, Proxy.requestOf (tx, response) = some ⟨info.sender, jobId, after, next⟩ ∧
      ∀ time, next = some time → config.testMode = false →
        time.nanos + safetyMargin = after.nanos := by
  have packet := request.packetAfter
  cases asked : request.asked with
  | after => exact ⟨none, by simp [Proxy.requestOf, action], by simp⟩
  | next clock margin =>
      refine ⟨some tx.block.time, by simp [Proxy.requestOf, action, packet], ?_⟩
      rintro time ⟨⟩ _
      exact margin
  | test detached stepped =>
      refine ⟨some tx.block.time, by simp [Proxy.requestOf, action, packet], ?_⟩
      intro time _ clock
      rw [detached] at clock
      cases clock

/-- What a committed transaction sends and calls: a request sends one packet, a
delivered beacon makes one callback, and nothing else does either. -/
theorem effect_traffic {deps : Deps} {contract : Addr} {tx : Tx} {storage final : Storage}
    {response : Response ContractMsg}
    (effect : Effect deps (tx.env contract) storage tx.action response final) :
    (∃ info msg config after jobId channel, tx.action = .execute info msg ∧
      Requested (tx.env contract) info msg storage response final config after jobId channel) ∨
      (∃ msg sourceId published randomness data origin, tx.action = .packetReceive msg ∧
        Wire.outPacket.fromJson msg.data = .ok (.deliverBeacon sourceId published randomness data) ∧
        Wire.origin.fromJson data = .ok origin ∧
        response.msgs =
          [.wasmExecute origin.sender (.noisReceive ⟨origin.jobId, published, randomness⟩) []]) ∨
      ∀ msg ∈ response.msgs, (∀ channel data timeout, msg ≠ .ibcSendPacket channel data timeout) ∧
        ∀ called call funds, msg ≠ .wasmExecute called call funds := by
  have silent (messages : response.messages = []) :
      ∀ msg ∈ response.msgs, (∀ channel data timeout, msg ≠ .ibcSendPacket channel data timeout) ∧
        ∀ called call funds, msg ≠ .wasmExecute called call funds := by
    simp [Response.msgs, messages]
  generalize taken : tx.action = action at effect
  cases effect with
  | instantiated named years messages => exact .inr (.inr (silent messages))
  | @requested info msg response final config after jobId channel request =>
      exact .inl ⟨info, msg, config, after, jobId, channel, rfl, request⟩
  | configured sets configured authorized named messages => exact .inr (.inr (silent messages))
  | withdrawn withdraws authorized unsent uncalled =>
      refine .inr (.inr fun msg member => ⟨?_, ?_⟩)
      · rintro channel data timeout rfl
        exact unsent channel data timeout member
      · rintro called call funds rfl
        exact uncalled called call funds member
  | allowlisted configured authorized messages => exact .inr (.inr (silent messages))
  | migrated configured limited messages => exact .inr (.inr (silent messages))
  | connected free messages => exact .inr (.inr (silent messages))
  | closed messages => exact .inr (.inr (silent messages))
  | @delivered msg sourceId published randomness data origin response decoded originated callback =>
      exact .inr (.inl ⟨msg, sourceId, published, randomness, data, origin, rfl, decoded,
        originated, callback⟩)
  | welcomed decoded configured acknowledged messages => exact .inr (.inr (silent messages))
  | priced carries messages => exact .inr (.inr (silent messages))
  | idle idles refused messages => exact .inr (.inr (silent messages))

theorem effect_callbacks {deps : Deps} {contract : Addr} {tx : Tx} {storage final : Storage}
    {response : Response ContractMsg}
    (effect : Effect deps (tx.env contract) storage tx.action response final) :
    response.msgs.filterMap noisReceive = (callbackOf (tx, response)).toList := by
  rcases effect_traffic effect with ⟨info, msg, config, after, jobId, channel, action, request⟩ |
    ⟨msg, sourceId, published, randomness, data, origin, action, _, _, messages⟩ | silent
  · obtain ⟨transfers, timeout, transferred, _, messages⟩ := request.sent
    have uncalled : transfers.filterMap noisReceive = [] := by
      rw [List.filterMap_eq_nil_iff]
      intro msg member
      obtain ⟨_, _, _, _, _, _, rfl⟩ := transferMsgs_ok transferred member
      rfl
    rw [messages, List.filterMap_append, uncalled]
    simp [callbackOf, action, requestMsg, noisReceive]
  · simp [callbackOf, action, messages, noisReceive]
  · have uncalled (msg : Msg) (member : msg ∈ response.msgs) : noisReceive msg = none := by
      unfold noisReceive
      split
      · exact ((silent _ member).2 _ _ _ rfl).elim
      · rfl
    have unread : callbackOf (tx, response) = none := by
      unfold callbackOf
      split
      · exact List.findSome?_eq_none_iff.mpr uncalled
      · rfl
    rw [List.filterMap_eq_nil_iff.mpr uncalled, unread]
    rfl

structure Journaled (world : World) : Prop where
  callbacks : ∀ entry ∈ world.log, entry.2.msgs.filterMap noisReceive = (callbackOf entry).toList
  clocked :
    ∀ entry ∈ world.log, ∀ request time, requestOf entry = some request → request.next = some time →
      ∃ config, world.storage.config = some config ∧
        (config.testMode = false → time.nanos + safetyMargin = request.after.nanos)

theorem requestOf_requested {deps : Deps} {contract : Addr} {tx : Tx} {storage final : Storage}
    {response : Response ContractMsg} {request : Request}
    (returned : perform deps contract tx storage = .ok response final)
    (read : requestOf (tx, response) = some request) :
    ∃ info msg config after jobId channel, tx.action = .execute info msg ∧
      Requested (tx.env contract) info msg storage response final config after jobId channel := by
  unfold requestOf at read
  split at read
  · rename_i info after jobId action
    simp only at action
    simp only [perform, action] at returned
    obtain ⟨config, time, id, channel, requested⟩ := requested_packet rfl returned
    exact ⟨info, _, config, time, id, channel, action, requested⟩
  · rename_i info jobId action
    simp only at action
    simp only [perform, action] at returned
    obtain ⟨config, time, id, channel, requested⟩ := requested_packet rfl returned
    exact ⟨info, _, config, time, id, channel, action, requested⟩
  · cases read

theorem reached_journaled (deps : Deps) (contract : Addr) (txs : List Tx) :
    Journaled (reached deps contract txs) := by
  refine Journal.System.reached_invariant ⟨by simp, by simp⟩ ?_ txs
  intro world tx response after journaled admitted returned
  have effect := perform_effect returned
  refine ⟨?_, ?_⟩
  · intro entry member
    rw [Journal.World.commit_log, List.mem_append, List.mem_singleton] at member
    rcases member with earlier | rfl
    · exact journaled.callbacks entry earlier
    · exact effect_callbacks effect
  · intro entry member request time read next
    rw [Journal.World.commit_log, List.mem_append, List.mem_singleton] at member
    rw [Journal.World.commit_storage]
    rcases member with earlier | rfl
    · obtain ⟨config, configured, clock⟩ := journaled.clocked entry earlier request time read next
      obtain ⟨changed, kept, same⟩ := effect_testMode configured admitted effect
      exact ⟨changed, kept, fun untested => clock (same ▸ untested)⟩
    · obtain ⟨info, msg, config, asked, jobId, channel, action, requested⟩ :=
        requestOf_requested returned read
      obtain ⟨clock, found, margin⟩ := requested.requestOf action
      rw [read] at found
      cases found
      obtain ⟨changed, kept, same⟩ := effect_testMode requested.configured admitted effect
      exact ⟨changed, kept, fun untested => margin time next (same ▸ untested)⟩

end NoisContracts.Proxy
