import NoisContracts.Library.Register
import NoisContracts.Proxy.Channels

/-!
The price of a beacon, which the proxy learns from the gateway. The packets are not
ordered, so the price is a register: an info replaces it unless the price is newer. The
manager can set a price as well; it gets the block time of the consumer chain.
-/

namespace NoisContracts.Proxy

open ContractCall ContractCall.Call OrderedStore
open Register (Stamped)

instance : LinearOrder Timestamp :=
  LinearOrder.lift' Timestamp.nanos fun _ _ same => Timestamp.ext same

def Config.price (config : Config) : Stamped Timestamp Uint128 :=
  ⟨config.noisBeaconPriceUpdated, config.noisBeaconPrice⟩

def Config.withPrice (config : Config) (price : Stamped Timestamp Uint128) : Config :=
  { config with noisBeaconPrice := price.value, noisBeaconPriceUpdated := price.time }

/-- What an info writes; foreign denoms are ignored. -/
def PriceInfo.stamped (info : PriceInfo) : Option (Stamped Timestamp Uint128) :=
  if info.denom = "unois" then some ⟨info.timestamp, info.amount⟩ else none

theorem reprice_eq (config : Config) (info : PriceInfo) :
    config.reprice info =
      config.withPrice (Register.writeAll config.price info.stamped.toList) := by
  unfold Config.reprice PriceInfo.stamped
  by_cases native : info.denom = "unois"
  · by_cases recent : config.noisBeaconPriceUpdated.nanos ≤ info.timestamp.nanos
    · have written : Register.write config.price ⟨info.timestamp, info.amount⟩ =
          ⟨info.timestamp, info.amount⟩ := if_pos recent
      rw [if_pos (Config.accepts_iff.mpr ⟨native, recent⟩), if_pos native]
      simp only [Option.toList_some, Register.writeAll, List.foldl_cons, List.foldl_nil, written]
      rfl
    · have kept : Register.write config.price ⟨info.timestamp, info.amount⟩ = config.price :=
        if_neg recent
      have refused : ¬config.accepts info = true :=
        fun accepted => recent (Config.accepts_iff.mp accepted).2
      rw [if_neg refused, if_pos native]
      simp only [Option.toList_some, Register.writeAll, List.foldl_cons, List.foldl_nil, kept]
      rfl
  · have refused : ¬config.accepts info = true :=
      fun accepted => native (Config.accepts_iff.mp accepted).1
    rw [if_neg refused, if_neg native]
    rfl

theorem repriceAll_eq (config : Config) (infos : List PriceInfo) :
    infos.foldl Config.reprice config =
      config.withPrice (Register.writeAll config.price (infos.filterMap PriceInfo.stamped)) := by
  induction infos generalizing config with
  | nil => rfl
  | cons info rest ih =>
      have split : (info :: rest).filterMap PriceInfo.stamped =
          info.stamped.toList ++ rest.filterMap PriceInfo.stamped := by
        cases written : info.stamped <;> simp [written]
      rw [List.foldl_cons, ih, reprice_eq, split, Register.writeAll, Register.writeAll,
        Register.writeAll, List.foldl_append]
      rfl

theorem updateNoisBeaconPrice_eq {info : PriceInfo} {storage : Storage} {config : Config}
    (configured : storage.config = some config) :
    updateNoisBeaconPrice info.timestamp info.amount info.denom storage =
      .ok () { storage with config := some (config.reprice info) } := by
  have loaded : mapError ContractError.std loadConfig storage = .ok config storage :=
    mapError_eq_ok.mpr (loadConfig_eq_ok.mpr ⟨configured, rfl⟩)
  have unchanged : { storage with config := some config } = storage := by rw [← configured]
  unfold updateNoisBeaconPrice
  by_cases native : info.denom = "unois"
  · rw [if_neg (not_not.mpr native), bind_apply, loaded, andThen_ok]
    by_cases stale : info.timestamp.nanos < config.noisBeaconPriceUpdated.nanos
    · have ignored : config.accepts info = false := by simp [Config.accepts, stale]
      rw [if_pos stale, Config.reprice, ignored]
      simp [unchanged]
    · have applied : config.accepts info = true :=
        Config.accepts_iff.mpr ⟨native, Nat.not_lt.mp stale⟩
      rw [if_neg stale, Config.reprice, applied]
      exact mapError_eq_ok.mpr rfl
  · have ignored : config.accepts info = false := by simp [Config.accepts, native]
    rw [if_pos native, Config.reprice, ignored]
    simp [unchanged]

structure Priced (config : Config) (infos : List PriceInfo) (final : Config) : Prop where
  kept : final = { config with
    noisBeaconPrice := final.noisBeaconPrice
    noisBeaconPriceUpdated := final.noisBeaconPriceUpdated }
  newest : (∃ info ∈ infos, info.denom = "unois" ∧
    (∀ other ∈ infos, other.denom = "unois" → other.timestamp.nanos ≤ info.timestamp.nanos) ∧
    config.noisBeaconPriceUpdated.nanos ≤ info.timestamp.nanos ∧
    final.noisBeaconPrice = info.amount ∧ final.noisBeaconPriceUpdated = info.timestamp) ∨
    ((∀ other ∈ infos, other.denom = "unois" →
      other.timestamp.nanos < config.noisBeaconPriceUpdated.nanos) ∧
      final = config)
  increased : config.noisBeaconPriceUpdated.nanos ≤ final.noisBeaconPriceUpdated.nanos

theorem PriceInfo.mem_stamped {infos : List PriceInfo} {written : Stamped Timestamp Uint128} :
    written ∈ infos.filterMap PriceInfo.stamped ↔
      ∃ info ∈ infos, info.denom = "unois" ∧ ⟨info.timestamp, info.amount⟩ = written := by
  simp only [List.mem_filterMap, PriceInfo.stamped, Option.ite_none_right_eq_some,
    Option.some.injEq]

theorem repriceAll_priced (config : Config) (infos : List PriceInfo) :
    Priced config infos (infos.foldl Config.reprice config) := by
  rw [repriceAll_eq]
  refine ⟨rfl, ?_, Register.le_time_writeAll config.price _⟩
  rcases Register.writeAll_newest config.price (infos.filterMap PriceInfo.stamped) with
    ⟨member, later, newest⟩ | ⟨same, older⟩
  · obtain ⟨info, known, native, written⟩ := PriceInfo.mem_stamped.mp member
    rw [← written] at later newest ⊢
    refine .inl ⟨info, known, native, ?_, later, rfl, rfl⟩
    intro other otherKnown otherNative
    exact newest _ (PriceInfo.mem_stamped.mpr ⟨other, otherKnown, otherNative, rfl⟩)
  · rw [same]
    refine .inr ⟨?_, rfl⟩
    intro other otherKnown otherNative
    exact older _ (PriceInfo.mem_stamped.mpr ⟨other, otherKnown, otherNative, rfl⟩)

/-- Infos of one time agree on the price. -/
def Agree (infos : List PriceInfo) : Prop :=
  ∀ first ∈ infos, ∀ second ∈ infos, first.denom = "unois" → second.denom = "unois" →
    first.timestamp = second.timestamp → first.amount = second.amount

theorem repriceAll_congr {config : Config} {first second : List PriceInfo} (agree : Agree first)
    (same : ∀ info, info ∈ first ↔ info ∈ second) :
    first.foldl Config.reprice config = second.foldl Config.reprice config := by
  have consistent : Register.Consistent (first.filterMap PriceInfo.stamped) := by
    intro one oneMember two twoMember time
    obtain ⟨oneInfo, oneKnown, oneNative, rfl⟩ := PriceInfo.mem_stamped.mp oneMember
    obtain ⟨twoInfo, twoKnown, twoNative, rfl⟩ := PriceInfo.mem_stamped.mp twoMember
    exact agree oneInfo oneKnown twoInfo twoKnown oneNative twoNative time
  rw [repriceAll_eq, repriceAll_eq, Register.writeAll_congr consistent]
  intro written
  simp only [PriceInfo.mem_stamped, same]

section

variable [Wire]

theorem perform_price {deps : Deps} {contract : Addr} {tx : Tx} {storage : Storage}
    {config : Config} {info : PriceInfo} (configured : storage.config = some config)
    (carries : tx.action.price = some info) :
    ∃ response, perform deps contract tx storage =
      .ok response { storage with config := some (config.reprice info) } := by
  have updated := @updateNoisBeaconPrice_eq info storage config configured
  unfold perform
  cases action : tx.action with
  | packetReceive msg =>
      rw [action, Action.price] at carries
      split at carries
      · rename_i timestamp amount denom decoded
        cases carries
        let response : Response ContractMsg := {
          acknowledgement := some (.success (Wire.outPacketAck.toJsonBinary .pushBeaconPrice))
          attributes := [("action", "receive_push_beacon_price")]
        }
        refine ⟨response, mapError_eq_ok.mpr (orElse_eq_ok.mpr (.inl ?_))⟩
        simp only [receivePacket, bind_eq_ok, mapError_eq_ok, ofExcept_eq_ok]
        refine ⟨_, storage, ⟨decoded, rfl⟩, ?_⟩
        simp only [receivePushBeaconPrice, bind_eq_ok, pure_eq_ok]
        exact ⟨(), _, updated, rfl, rfl⟩
      · cases carries
  | packetAck acknowledgement =>
      rw [action, Action.price] at carries
      split at carries
      · rename_i data acknowledged
        split at carries
        · rename_i timestamp amount denom decoded
          cases carries
          let response : Response ContractMsg :=
            {attributes :=
              [("action", "ibc_packet_ack"), ("ack_type", "beacon_price"), ("is_error", "false")]}
          simp only [ibcPacketAck, bind_eq_ok, mapError_eq_ok, ofExcept_eq_ok]
          refine ⟨response, _, storage, ⟨acknowledged, rfl⟩, ?_⟩
          simp only [bind_eq_ok, mapError_eq_ok, ofExcept_eq_ok]
          refine ⟨_, storage, ⟨decoded, rfl⟩, ?_⟩
          simp only [bind_eq_ok, pure_eq_ok]
          exact ⟨(), _, updated, _, _, ⟨rfl, rfl⟩, rfl, rfl⟩
        · cases carries
      · cases carries
  | _ => simp [action, Action.price] at carries

def bringsPrice (tx : Tx) : Bool := tx.dispatched && tx.action.price.isSome

def pricesOf (txs : List Tx) : List PriceInfo := txs.filterMap fun tx => tx.action.price

theorem run_prices {deps : Deps} {contract : Addr} {world : World} {config : Config} (txs : List Tx)
    (configured : world.storage.config = some config) (brings : ∀ tx ∈ txs, bringsPrice tx = true) :
    (Runs.run (attempt deps contract) world txs).storage =
      { world.storage with config := some ((pricesOf txs).foldl Config.reprice config) } := by
  induction txs generalizing world config with
  | nil => simp [pricesOf, ← configured]
  | cons tx txs ih =>
      have first := brings tx List.mem_cons_self
      simp only [bringsPrice, Bool.and_eq_true, Option.isSome_iff_exists] at first
      obtain ⟨dispatched, info, carries⟩ := first
      obtain ⟨response, returned⟩ := @perform_price _ deps contract tx _ _ _ configured carries
      have admitted : admits world.storage tx = true := by
        unfold admits
        rw [dispatched]
        cases action : tx.action <;> simp_all [Action.price]
      have committed : attempt deps contract world tx = some (world.commit tx response
          { world.storage with config := some (config.reprice info) }) :=
        Journal.System.attempt_eq_some.mpr ⟨admitted, response, _, returned, rfl⟩
      rw [Runs.run_cons, Runs.settle_of_some committed, ih rfl fun other member =>
        brings other (List.mem_cons_of_mem tx member)]
      simp [pricesOf, carries]

def configAfter (deps : Deps) (contract : Addr) (world : World) (txs : List Tx) : Option Config :=
  (Runs.run (attempt deps contract) world txs).storage.config

theorem configAfter_prices {deps : Deps} {contract : Addr} {world : World} {config : Config}
    (txs : List Tx) (configured : world.storage.config = some config)
    (brings : ∀ tx ∈ txs, bringsPrice tx = true) :
    configAfter deps contract world txs = some ((pricesOf txs).foldl Config.reprice config) := by
  rw [configAfter, run_prices txs configured brings]

theorem prices_order_independent (deps : Deps) (contract : Addr) (world : World) (config : Config)
    (first second : List Tx) (configured : world.storage.config = some config)
    (firstBrings : ∀ tx ∈ first, bringsPrice tx = true)
    (secondBrings : ∀ tx ∈ second, bringsPrice tx = true)
    (same : ∀ info, info ∈ pricesOf first ↔ info ∈ pricesOf second)
    (agree : Agree (pricesOf first)) :
    configAfter deps contract world first = configAfter deps contract world second ∧
      (∃ final, configAfter deps contract world first = some final ∧
        Priced config (pricesOf first) final) ∧
      ∀ earlier later, first = earlier ++ later →
        ∃ before final, configAfter deps contract world earlier = some before ∧
          configAfter deps contract world first = some final ∧
          before.noisBeaconPriceUpdated.nanos ≤ final.noisBeaconPriceUpdated.nanos := by
  have ends := @configAfter_prices _ deps contract world config first configured firstBrings
  refine ⟨?_, ⟨_, ends, repriceAll_priced config (pricesOf first)⟩, ?_⟩
  · rw [ends, configAfter_prices second configured secondBrings, repriceAll_congr agree same]
  · rintro earlier later rfl
    have brings : ∀ tx ∈ earlier, bringsPrice tx = true := fun tx member =>
      firstBrings tx (List.mem_append_left later member)
    refine ⟨_, _, configAfter_prices earlier configured brings, ends, ?_⟩
    have split : pricesOf (earlier ++ later) = pricesOf earlier ++ pricesOf later :=
      List.filterMap_append
    rw [split, List.foldl_append]
    exact (repriceAll_priced _ _).increased

def priceTime (world : World) : Nat :=
  (world.storage.config.map fun config => config.noisBeaconPriceUpdated.nanos).getD 0

/-- A price that the manager sets does not move the time of the price back. -/
def keepsPriceTime (deps : Deps) (contract : Addr) (world : World) (tx : Tx) : Bool :=
  match tx.action.sets with
  | some change => change.noisBeaconPrice.isNone || priceTime world ≤ tx.block.time.nanos ||
      (attempt deps contract world tx).isNone
  | none => true

theorem priceTime_step {deps : Deps} {contract : Addr} {world next : World} {tx : Tx}
    (keeps : keepsPriceTime deps contract world tx = true)
    (committed : attempt deps contract world tx = some next) :
    priceTime world ≤ priceTime next := by
  obtain ⟨admitted, response, after, effect, same⟩ := attempt_effect committed
  rw [same]
  have steady (config : after.config = world.storage.config) :
      priceTime world ≤ priceTime (world.commit tx response after) := by
    simp [priceTime, config]
  generalize taken : tx.action = action at effect
  cases effect with
  | instantiated =>
      have fresh : world.storage.config = none := by
        simpa [admits, taken] using (Bool.and_eq_true_iff.mp admitted).2
      simp [priceTime, fresh]
  | requested request =>
      apply steady
      cases request.asked <;> rfl
  | @configured _ change config manager response sets configured authorized named messages =>
      simp only [keepsPriceTime, taken, sets, committed, Option.isNone_some, Bool.or_false,
        Bool.or_eq_true, Option.isNone_iff_eq_none, decide_eq_true_eq, priceTime, configured,
        Option.map_some, Option.getD_some] at keeps
      simp only [priceTime, configured, Option.map_some, Option.getD_some,
        Journal.World.commit_storage]
      rcases keeps with unpriced | later
      · simp [Config.update, unpriced]
      · simp only [Config.update]
        split
        · exact later
        · exact Nat.le_refl _
  | withdrawn => exact steady rfl
  | allowlisted => exact steady rfl
  | migrated configured => simp [priceTime, configured]
  | connected => exact steady rfl
  | closed => exact steady rfl
  | delivered => exact steady rfl
  | welcomed decoded configured => simp [priceTime, configured]
  | @priced _ info response carries messages =>
      cases configured : world.storage.config with
      | none => simp [priceTime, configured]
      | some config =>
          have increased := (repriceAll_priced config [info]).increased
          simpa [priceTime, configured] using increased
  | idle => exact steady rfl

theorem priceTime_run {deps : Deps} {contract : Addr} {world : World} (txs : List Tx)
    (along :
      Runs.Along (attempt deps contract)
        (fun state tx => keepsPriceTime deps contract state tx = true) world txs) :
    priceTime world ≤ priceTime (Runs.run (attempt deps contract) world txs) := by
  refine @Runs.run_invariant_along _ _ (attempt deps contract) _
    (fun state => priceTime world ≤ priceTime state) ?_ txs world (Nat.le_refl _) along
  intro state tx next keeps later committed
  exact Nat.le_trans later (priceTime_step keeps committed)

def Applies (world : World) (tx : Tx) (info : PriceInfo) : Prop :=
  tx.action.price = some info ∧ info.denom = "unois" ∧
    ∃ config, world.storage.config = some config ∧ config.noisBeaconPrice = info.amount ∧
      config.noisBeaconPriceUpdated = info.timestamp

theorem Applies.priceTime {world : World} {tx : Tx} {info : PriceInfo}
    (applies : Applies world tx info) : priceTime world = info.timestamp.nanos := by
  obtain ⟨_, _, config, configured, _, updated⟩ := applies
  simp [Proxy.priceTime, configured, updated]

theorem applies_of_price {world : World} {tx : Tx} {info : PriceInfo}
    (carries : tx.action.price = some info) (native : info.denom = "unois")
    (price : world.storage.config.map Config.price = some ⟨info.timestamp, info.amount⟩) :
    Applies world tx info := by
  obtain ⟨config, configured, same⟩ := Option.map_eq_some_iff.mp price
  exact ⟨carries, native, config, configured, congrArg Stamped.value same,
    congrArg Stamped.time same⟩

theorem no_stale_price (deps : Deps) (contract : Addr) (earlier between later : List Tx)
    (first second : Tx) (older newer : PriceInfo)
    (along :
      Runs.Along (attempt deps contract)
        (fun world tx => keepsPriceTime deps contract world tx = true) ⟨Storage.empty, []⟩
        (earlier ++ first :: between ++ second :: later))
    (firstApplies : Applies (reached deps contract (earlier ++ [first])) first older)
    (secondApplies :
      Applies (reached deps contract (earlier ++ first :: between ++ [second])) second newer) :
    older.timestamp.nanos ≤ newer.timestamp.nanos := by
  rw [← firstApplies.priceTime, ← secondApplies.priceTime]
  have regroup : earlier ++ first :: between ++ second :: later =
      (earlier ++ [first]) ++ ((between ++ [second]) ++ later) := by simp
  have final : reached deps contract (earlier ++ first :: between ++ [second]) =
      Runs.run (attempt deps contract) (reached deps contract (earlier ++ [first]))
        (between ++ [second]) := by
    have whole : earlier ++ first :: between ++ [second] =
        (earlier ++ [first]) ++ (between ++ [second]) := by
      simp
    rw [whole]
    exact Runs.run_append _ _ _ _
  rw [regroup, Runs.along_append] at along
  rw [final]
  exact priceTime_run (between ++ [second]) (Runs.along_append.mp along.2).1

end

section

attribute [local instance] jsonWire

def seconds (count : Nat) (fits : count * 1000000000 < 2 ^ 64) : Timestamp :=
  ⟨count * 1000000000, fits⟩

def infoAt (count amount : Nat) (fits : count * 1000000000 < 2 ^ 64) (small : amount < 2 ^ 128) :
    PriceInfo :=
  ⟨seconds count fits, ⟨amount, small⟩, "unois"⟩

def pushed (info : PriceInfo) (block : BlockInfo) : Tx :=
  ⟨block, some 0, [], .packetReceive
    { data := Wire.outPacket.toJsonBinary (.pushBeaconPrice info.timestamp info.amount info.denom)
      destChannel := "channel-0"
      relayer := "relayer" }, true⟩

def pulled (info : PriceInfo) (block : BlockInfo) : Tx :=
  ⟨block, some 0, [], .packetAck (Wire.stdAck.toJsonBinary (.success (Wire.inPacketAck.toJsonBinary
    (.pullBeaconPrice info.timestamp info.amount info.denom)))), true⟩

theorem pushed_price (info : PriceInfo) (block : BlockInfo) :
    (pushed info block).action.price = some info := by
  simp only [pushed, Action.price, Json.fromJson_toJsonBinary]

theorem pulled_price (info : PriceInfo) (block : BlockInfo) :
    (pulled info block).action.price = some info := by
  simp only [pulled, Action.price, Json.fromJson_toJsonBinary]

theorem bringsPrice_pushed (info : PriceInfo) (block : BlockInfo) :
    bringsPrice (pushed info block) = true := by
  rw [bringsPrice, pushed_price]
  rfl

theorem bringsPrice_pulled (info : PriceInfo) (block : BlockInfo) :
    bringsPrice (pulled info block) = true := by
  rw [bringsPrice, pulled_price]
  rfl

def startPrice : PriceInfo := infoAt 1682000000 1000000 (by decide) NoisHost.million_lt

def laterPrice : PriceInfo := infoAt 1682000010 2000000 (by decide) (by decide)

theorem prices_order_independent_swapped :
    configAfter NoisHost.deps proxyContract (reached NoisHost.deps proxyContract setup)
      [pushed startPrice startBlock, pulled laterPrice startBlock] =
      configAfter NoisHost.deps proxyContract (reached NoisHost.deps proxyContract setup)
        [pulled laterPrice startBlock, pushed startPrice startBlock,
          pushed laterPrice startBlock] := by
  have present : (reached NoisHost.deps proxyContract setup).storage.config.isSome = true := by
    decide +kernel
  obtain ⟨config, configured⟩ := Option.isSome_iff_exists.mp present
  have first : pricesOf [pushed startPrice startBlock, pulled laterPrice startBlock] =
      [startPrice, laterPrice] := by simp [pricesOf, pushed_price, pulled_price]
  have second : pricesOf
      [pulled laterPrice startBlock, pushed startPrice startBlock, pushed laterPrice startBlock] =
      [laterPrice, startPrice, laterPrice] := by
    simp [pricesOf, pushed_price, pulled_price]
  refine (prices_order_independent NoisHost.deps proxyContract _ config _ _ configured ?_ ?_ ?_
    ?_).1
  · simp only [List.forall_mem_cons, bringsPrice_pushed, bringsPrice_pulled, true_and]
    exact List.forall_mem_nil _
  · simp only [List.forall_mem_cons, bringsPrice_pushed, bringsPrice_pulled, true_and]
    exact List.forall_mem_nil _
  · intro info
    rw [first, second]
    clear first second configured present
    generalize startPrice = one
    generalize laterPrice = two
    simp only [List.mem_cons, List.not_mem_nil, or_false]
    tauto
  · rw [first]
    unfold Agree
    decide +kernel

def managerPrice : Tx :=
  ⟨⟨101, seconds 1682000005 (by decide)⟩, some 0, [], .execute ⟨NoisHost.manager, []⟩
    (.setConfig ⟨none, none, none, some ⟨3000000, by decide⟩, none, none, none, none, none⟩), true⟩

def stalePrice : PriceInfo := infoAt 1682000007 1500000 (by decide) (by decide)

theorem stale_price_applied :
    Applies (reached NoisHost.deps proxyContract (setup ++ [pushed laterPrice startBlock]))
      (pushed laterPrice startBlock) laterPrice ∧
      Applies
        (reached NoisHost.deps proxyContract (setup ++ pushed laterPrice startBlock ::
          [managerPrice] ++ [pushed stalePrice managerPrice.block]))
        (pushed stalePrice managerPrice.block) stalePrice ∧
      stalePrice.timestamp.nanos < laterPrice.timestamp.nanos := by
  refine ⟨applies_of_price (pushed_price _ _) rfl (by decide +kernel), ?_, by decide⟩
  exact applies_of_price (pushed_price _ _) rfl (by decide +kernel)

theorem no_stale_price_pushed :
    Applies (reached NoisHost.deps proxyContract (setup ++ [pushed startPrice startBlock]))
        (pushed startPrice startBlock) startPrice ∧
      startPrice.timestamp.nanos ≤ laterPrice.timestamp.nanos := by
  have first :
      Applies (reached NoisHost.deps proxyContract (setup ++ [pushed startPrice startBlock]))
        (pushed startPrice startBlock) startPrice :=
    applies_of_price (pushed_price _ _) rfl (by decide +kernel)
  have second : Applies
      (reached NoisHost.deps proxyContract (setup ++ pushed startPrice startBlock ::
        [managerPrice] ++ [pushed laterPrice managerPrice.block]))
      (pushed laterPrice managerPrice.block) laterPrice :=
    applies_of_price (pushed_price _ _) rfl (by decide +kernel)
  exact ⟨first,
    no_stale_price NoisHost.deps proxyContract setup [managerPrice] [] _ _ _ _ (by decide +kernel)
      first second⟩

end

end NoisContracts.Proxy
