import NoisContracts.Gateway.Accounting

/-!
The beacons that the gateway delivers. Every delivery carries the randomness that is
archived for the round of its source, and the time at which that round is published.
-/

namespace NoisContracts.Gateway

open ContractCall ContractCall.Call OrderedStore

/-- A `DeliverBeacon` packet with the channel it is sent on. -/
structure Delivery where
  channel : String
  sourceId : String
  published : Timestamp
  randomness : Binary
  origin : Binary
deriving DecidableEq, Repr

def Delivery.job (delivery : Delivery) : Job :=
  ⟨delivery.sourceId, delivery.channel, delivery.origin⟩

variable [Wire]

def deliveryOf : Msg → Option Delivery
  | .ibcSendPacket channel data _ =>
      match Wire.outPacket.fromJson data with
      | .ok (.deliverBeacon sourceId published randomness origin) =>
          some ⟨channel, sourceId, published, randomness, origin⟩
      | _ => none
  | _ => none

@[simp] theorem deliveryOf_deliverBeaconMsg (job : Job) (published timeout : Timestamp)
    (randomness : Binary) : deliveryOf (deliverBeaconMsg job published timeout randomness) =
      some ⟨job.channel, job.sourceId, published, randomness, job.origin⟩ := by
  simp [deliveryOf, deliverBeaconMsg, Wire.outPacket.fromJson_toJsonBinary]

theorem deliveryOf_job (msg : Msg) : (deliveryOf msg).map Delivery.job = sentJob msg := by
  cases msg with
  | ibcSendPacket channel data timeout =>
      simp only [deliveryOf, sentJob]
      cases Wire.outPacket.fromJson data with
      | error cause => rfl
      | ok packet => cases packet <;> rfl
  | _ => rfl

structure DeliversRound (archive : Store Nat Binary) (round : Nat) (delivery : Delivery) :
    Prop where
  sourceId : delivery.sourceId = sourceIdOf round
  published : timeOfRound round = .ok delivery.published
  randomness : archive[round]? = some delivery.randomness

theorem Drains.deliveries {env : Env} {round : Nat} {randomness : Binary} {storage after : Storage}
    {jobs : List Job} {msgs : List Msg}
    (drains : Drains env round randomness storage jobs msgs after) {delivery : Delivery}
    (delivered : delivery ∈ msgs.filterMap deliveryOf) :
    delivery.job ∈ jobs ∧ timeOfRound round = .ok delivery.published ∧
      delivery.randomness = randomness := by
  induction drains with
  | stop storage => simp at delivered
  | @next storage after id job published timeout jobs msgs first counted time deadline rest ih =>
      simp only [List.filterMap_cons, deliveryOf_deliverBeaconMsg, List.mem_cons] at delivered
      rcases delivered with rfl | later
      · exact ⟨List.mem_cons_self, time, rfl⟩
      · obtain ⟨member, published, same⟩ := ih later
        exact ⟨List.mem_cons_of_mem _ member, published, same⟩

theorem Accepted.deliveries {env : Env} {channelId : String} {relayer : Addr} {base : Timestamp}
    {origin : Binary} {storage after : Storage} {response : Response ContractMsg}
    (accepted : Accepted env channelId relayer base origin storage response after)
    {delivery : Delivery} (delivered : delivery ∈ response.msgs.filterMap deliveryOf) :
    DeliversRound storage.archive (roundNumber base) delivery := by
  cases accepted with
  | intro short route known counted configured =>
      have unsent (customer : Addr) (price : Coin) :
          deliveryOf (payMsg customer price relayer) = none := by
        simp [deliveryOf, payMsg]
      rw [Response.msgs, SubMsg.map_msg_new, List.filterMap_append, List.mem_append] at delivered
      cases route with
      | processed archived counted time deadline =>
          simp only [List.filterMap_cons, List.filterMap_nil, deliveryOf_deliverBeaconMsg, unsent,
            List.mem_singleton, List.not_mem_nil, or_false] at delivered
          subst delivered
          exact ⟨rfl, time, archived⟩
      | @queued config missing small free found =>
          have unrouted :
              (incentivizeMsgs config (roundNumber base)).filterMap deliveryOf = [] := by
            cases drand : config.drand <;> simp [incentivizeMsgs, drand, deliveryOf]
          simp [unrouted, unsent] at delivered

/-- The randomness that an action archives for a round. -/
def Action.archives (round : Nat) : Action → Option Binary
  | .execute _ (.addVerifiedRound verified randomness _) =>
      if verified = round then some randomness else none
  | _ => none

theorem effect_archive {deps : Deps} {env : Env} {world : World} {tx : Tx}
    {response : Response ContractMsg} {after : Storage} (registered : Registered world)
    (admitted : world.admits tx.action = true)
    (effect : Effect deps env world.storage tx.action response after) :
    ((∀ round, tx.action.archives round = none) ∧ after.archive = world.storage.archive) ∨
      ∃ info round randomness isVerifyingTx config,
        tx.action = .execute info (.addVerifiedRound round randomness isVerifyingTx) ∧
        world.storage.config = some config ∧ info.sender ∈ config.trustedSources.getD [] ∧
        after.archive = world.storage.archive.insert round randomness := by
  generalize action_eq : tx.action = action at effect
  cases effect with
  | configured configures =>
      refine .inl ⟨fun round => ?_, rfl⟩
      unfold Action.configures at configures
      split at configures <;> first | rfl | cases configures
  | idle idles =>
      refine .inl ⟨fun round => ?_, rfl⟩
      unfold Action.idles at idles
      split at idles <;> first | rfl | cases idles
  | connected connects =>
      cases connects with
      | intro => exact .inl ⟨fun _ => rfl, rfl⟩
  | received receives =>
      cases receives with
      | request decoded accepted => exact .inl ⟨fun _ => rfl, accepted.frame.2.1⟩
      | price => exact .inl ⟨fun _ => rfl, rfl⟩
      | failure failed =>
          rw [action_eq, World.admits_packet] at admitted
          obtain ⟨rfl, _⟩ := registered.received_failure admitted failed
          exact .inl ⟨fun _ => rfl, rfl⟩
  | @verified info round randomness isVerifyingTx config drand after configured trusted processed =>
      obtain ⟨_, _, jobs, drains, _⟩ := newDrand_ok processed
      exact .inr ⟨info, round, randomness, isVerifyingTx, config, rfl, configured, trusted,
        drains.frame.2.2.2.1⟩

theorem effect_deliveries {deps : Deps} {env : Env} {world : World} {tx : Tx}
    {response : Response ContractMsg} {after : Storage} (registered : Registered world)
    (accounts : Accounts world) (admitted : world.admits tx.action = true)
    (effect : Effect deps env world.storage tx.action response after) {delivery : Delivery}
    (delivered : delivery ∈ response.msgs.filterMap deliveryOf) :
    ∃ round, DeliversRound after.archive round delivery := by
  have sent : delivery.job ∈ response.msgs.filterMap sentJob := by
    obtain ⟨msg, member, decoded⟩ := List.mem_filterMap.mp delivered
    refine List.mem_filterMap.mpr ⟨msg, member, ?_⟩
    rw [← deliveryOf_job, decoded]
    rfl
  rcases effect_kinds registered admitted effect with ⟨silent, _⟩ |
    ⟨msg, base, origin, action, decoded, accepted⟩ |
    ⟨info, round, randomness, isVerifyingTx, drand, action, processed, messages⟩
  · rw [silent.unsent] at sent
    simp at sent
  · rw [accepted.frame.2.1]
    exact ⟨roundNumber base, accepted.deliveries delivered⟩
  · obtain ⟨_, _, jobs, drains, _⟩ := newDrand_ok processed
    rw [messages] at delivered
    obtain ⟨member, published, same⟩ := drains.deliveries delivered
    have queued : delivery.job ∈ world.storage.queue round := by
      have split : world.storage.queue round = jobs ++ after.queue round := drains.queue
      rw [split]
      exact List.mem_append_left _ member
    simp only [Storage.queue, List.mem_map, Prod.exists] at queued
    obtain ⟨id, stored, listed, equal⟩ := queued
    have source := (accounts.ids round id stored (mem_prefixRange.mp listed)).2.2
    refine ⟨round, ?_, published, ?_⟩
    · rw [equal] at source
      exact source
    · rw [drains.frame.2.2.2.1, same]
      simp [Storage.setArchive]

def archivedBy (log : List Entry) (round : Nat) : Option Binary :=
  Runs.lastWrite (fun entry => entry.tx.action.archives round) log

/-- The archive and the deliveries of a world against its log: what a transaction
delivers is what the log up to it archives. -/
structure Traced (world : World) : Prop where
  archive : ∀ round : Nat, world.storage.archive[round]? = archivedBy world.log round
  delivered : ∀ before entry, before ++ [entry] <+: world.log →
    ∀ delivery ∈ entry.response.msgs.filterMap deliveryOf, ∃ round,
      delivery.sourceId = sourceIdOf round ∧ timeOfRound round = .ok delivery.published ∧
        archivedBy (before ++ [entry]) round = some delivery.randomness

theorem Traced.commit {deps : Deps} {env : Env} {world : World} {tx : Tx}
    {response : Response ContractMsg} {after : Storage} (traced : Traced world)
    (registered : Registered world) (accounts : Accounts world)
    (admitted : world.admits tx.action = true)
    (effect : Effect deps env world.storage tx.action response after) :
    Traced (world.commit tx response after) := by
  have archive (round : Nat) :
      after.archive[round]? = archivedBy (world.log ++ [⟨tx, response⟩]) round := by
    rw [archivedBy, Runs.lastWrite_append, ← archivedBy, ← traced.archive]
    rcases effect_archive registered admitted effect with ⟨unwritten, same⟩ |
      ⟨info, verified, randomness, isVerifyingTx, config, action, _, _, inserted⟩
    · simp [unwritten, same]
    · rw [inserted, get_insert, action, Action.archives]
      split <;> simp
  refine ⟨archive, ?_⟩
  intro before entry earlier delivery delivered
  rcases List.prefix_concat_iff.mp earlier with last | earlier
  · obtain ⟨rfl, same⟩ := List.append_inj' last rfl
    cases same
    obtain ⟨round, delivers⟩ := effect_deliveries registered accounts admitted effect delivered
    exact ⟨round, delivers.sourceId, delivers.published, by rw [← archive, delivers.randomness]⟩
  · exact traced.delivered before entry earlier delivery delivered

theorem reached_traced (deps : Deps) (contract : Addr) (txs : List Tx) :
    Traced (reached deps contract txs) := by
  have both : Accounts (reached deps contract txs) ∧ Traced (reached deps contract txs) := by
    refine @reached_invariant_registered _ deps contract
      (fun world => Accounts world ∧ Traced world) ?_ ?_ txs
    · refine ⟨accounts_initial, fun round => ?_, ?_⟩
      · simp [World.initial, Storage.empty, archivedBy, Runs.lastWrite]
      · intro before entry earlier
        simp [World.initial] at earlier
    · intro world tx response after registered kept admitted effect
      obtain ⟨accounts, traced⟩ := kept
      exact ⟨accounts.commit_effect registered admitted effect,
        traced.commit registered accounts admitted effect⟩
  exact both.2

end NoisContracts.Gateway
