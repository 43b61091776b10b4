import NoisContracts.Proxy.Prices

/-!
Who writes the configuration of the proxy. The manager in force and the governance of the
chain write the fields that a `SetConfig` carries, a `Welcome` packet writes the payment
address and a price info the price. Every field holds what was written to it last.
-/

namespace NoisContracts.Proxy

open ContractCall ContractCall.Call OrderedStore

inductive Write where
  | config (change : SetConfig) (time : Timestamp)
  | welcome (payment : String)
  | price (info : PriceInfo)

def Config.write (config : Config) : Write → Config
  | .config change time => config.update change time (change.manager.or config.manager)
  | .welcome payment => { config with payment := some payment }
  | .price info => config.reprice info

def Write.set {α : Type} (field : SetConfig → Option α) : Write → Option α
  | .config change _ => field change
  | _ => none

def Write.payment : Write → Option String
  | .config change _ => change.payment
  | .welcome payment => some payment
  | .price _ => none

def entitled (world : World) (tx : Tx) : Option SetConfig :=
  match tx.action with
  | .execute info (.setConfig change) =>
      if world.storage.config.bind Config.manager = some info.sender then some change else none
  | .governance (.setConfig change) => some change
  | _ => none

structure Written (config : Config) (write : Write) (after : Config) : Prop where
  testMode : after.testMode = config.testMode
  manager : after.manager = (write.set SetConfig.manager).or config.manager
  prices : after.prices = (write.set SetConfig.prices).getD config.prices
  callbackGasLimit :
    after.callbackGasLimit = (write.set SetConfig.callbackGasLimit).getD config.callbackGasLimit
  mode : after.mode = (write.set SetConfig.mode).getD config.mode
  allowlistEnabled : after.allowlistEnabled.getD false =
    (write.set SetConfig.allowlistEnabled).getD (config.allowlistEnabled.getD false)
  minAfter : after.minAfter = (write.set SetConfig.minAfter).or config.minAfter
  maxAfter : after.maxAfter = (write.set SetConfig.maxAfter).or config.maxAfter
  payment : after.payment = write.payment.or config.payment

theorem Config.write_written (config : Config) (write : Write) :
    Written config write (config.write write) := by
  cases write with
  | config change time => constructor <;> rfl
  | welcome payment => constructor <;> rfl
  | price info =>
      rw [Config.write, reprice_eq]
      constructor <;> rfl

/-- Each field against the writes since `instantiate`. -/
structure LastWriters (msg : InstantiateMsg) (minAfter maxAfter : Timestamp) (writes : List Write)
    (config : Config) : Prop where
  testMode : config.testMode = msg.testMode.getD false
  manager : config.manager = (Runs.lastWrite (Write.set SetConfig.manager) writes).or msg.manager
  prices : config.prices = (Runs.lastWrite (Write.set SetConfig.prices) writes).getD msg.prices
  callbackGasLimit : config.callbackGasLimit =
    (Runs.lastWrite (Write.set SetConfig.callbackGasLimit) writes).getD msg.callbackGasLimit
  mode : config.mode = (Runs.lastWrite (Write.set SetConfig.mode) writes).getD msg.mode
  allowlistEnabled : config.allowlistEnabled =
    some ((Runs.lastWrite (Write.set SetConfig.allowlistEnabled) writes).getD
      (msg.allowlistEnabled.getD false))
  minAfter :
    config.minAfter = some ((Runs.lastWrite (Write.set SetConfig.minAfter) writes).getD minAfter)
  maxAfter :
    config.maxAfter = some ((Runs.lastWrite (Write.set SetConfig.maxAfter) writes).getD maxAfter)
  payment : config.payment = Runs.lastWrite Write.payment writes

def Config.complete (config : Config) : Bool :=
  config.allowlistEnabled.isSome && config.minAfter.isSome && config.maxAfter.isSome

theorem Config.complete_iff {config : Config} :
    config.complete = true ↔ config.allowlistEnabled.isSome = true ∧ config.minAfter.isSome = true ∧
      config.maxAfter.isSome = true := by
  simp [Config.complete, and_assoc]

theorem Config.write_complete {config : Config} (complete : config.complete = true)
    (write : Write) : (config.write write).complete = true := by
  obtain ⟨allowlist, early, late⟩ := Config.complete_iff.mp complete
  have written := config.write_written write
  refine Config.complete_iff.mpr ⟨?_, ?_, ?_⟩
  · cases write with
    | config change time => rfl
    | welcome payment => exact allowlist
    | price info =>
        rw [Config.write, reprice_eq]
        exact allowlist
  · simp [written.minAfter, early]
  · simp [written.maxAfter, late]

theorem writes_complete {config : Config} (complete : config.complete = true)
    (writes : List Write) : (writes.foldl Config.write config).complete = true := by
  induction writes generalizing config with
  | nil => exact complete
  | cons write rest ih => exact ih (Config.write_complete complete write)

theorem lastWriters_initial (msg : InstantiateMsg) (minAfter maxAfter : Timestamp)
    (writes : List Write) :
    LastWriters msg minAfter maxAfter writes
      (writes.foldl Config.write (Config.initial msg msg.manager minAfter maxAfter)) := by
  have written := Config.write_written
  generalize start : Config.initial msg msg.manager minAfter maxAfter = initial
  have complete : (writes.foldl Config.write initial).complete = true :=
    writes_complete (start ▸ rfl) writes
  obtain ⟨allowlist, _, _⟩ := Config.complete_iff.mp complete
  have allowlisted :=
    @Runs.foldl_lastWrite _ _ _ _ (fun config : Config => config.allowlistEnabled.getD false)
    _ (fun config write => (written config write).allowlistEnabled) initial writes
  have early :=
    Runs.foldl_lastWrite_or (fun config write => (written config write).minAfter) initial writes
  have late :=
    Runs.foldl_lastWrite_or (fun config write => (written config write).maxAfter) initial writes
  have paid :=
    Runs.foldl_lastWrite_or (fun config write => (written config write).payment) initial writes
  have untested := @Runs.foldl_lastWrite _ _ _ _ Config.testMode (fun _ => none)
    (fun config write => (written config write).testMode) initial writes
  have unwritten : Runs.lastWrite (fun _ : Write => (none : Option Bool)) writes = none := by
    simp [Runs.lastWrite]
  subst start
  refine ⟨?_, ?_, ?_, ?_, ?_, ?_, ?_, ?_, ?_⟩
  · rw [untested, unwritten]
    rfl
  · exact Runs.foldl_lastWrite_or (fun config write => (written config write).manager) _ writes
  · exact Runs.foldl_lastWrite (fun config write => (written config write).prices) _ writes
  · exact Runs.foldl_lastWrite (fun config write => (written config write).callbackGasLimit) _
      writes
  · exact Runs.foldl_lastWrite (fun config write => (written config write).mode) _ writes
  · obtain ⟨enabled, stored⟩ := Option.isSome_iff_exists.mp allowlist
    rw [stored, Option.getD_some] at allowlisted
    rw [stored, allowlisted]
    rfl
  · rw [early]
    exact Option.or_some
  · rw [late]
    exact Option.or_some
  · rw [paid]
    exact Option.or_none

section

variable [Wire]

def Action.welcome : Action → Option String
  | .packetReceive msg =>
      match Wire.outPacket.fromJson msg.data with
      | .ok (.welcome payment) => some payment
      | _ => none
  | _ => none

def writesOf (world : World) (tx : Tx) : List Write :=
  (entitled world tx).toList.map (.config · tx.block.time) ++
    tx.action.welcome.toList.map .welcome ++ tx.action.price.toList.map .price

theorem perform_welcome {deps : Deps} {contract : Addr} {tx : Tx} {storage : Storage}
    {config : Config} {payment : String} (configured : storage.config = some config)
    (announces : tx.action.welcome = some payment) :
    ∃ response, perform deps contract tx storage =
      .ok response { storage with config := some { config with payment := some payment } } := by
  unfold perform
  cases action : tx.action with
  | packetReceive msg =>
      rw [action, Action.welcome] at announces
      split at announces
      · rename_i announced decoded
        cases announces
        let response : Response ContractMsg := {
          acknowledgement := some (.success (Wire.outPacketAck.toJsonBinary .welcome))
          attributes := [("action", "receive_welcome")]
        }
        refine ⟨response, mapError_eq_ok.mpr (orElse_eq_ok.mpr (.inl ?_))⟩
        simp only [receivePacket, bind_eq_ok, mapError_eq_ok, ofExcept_eq_ok]
        refine ⟨_, storage, ⟨decoded, rfl⟩, ?_⟩
        simp only [receiveWelcome, bind_eq_ok, mapError_eq_ok, loadConfig_eq_ok, saveConfig,
          writes_eq_ok, pure_eq_ok]
        exact ⟨config, storage, ⟨configured, rfl⟩, (), _, rfl, rfl, rfl⟩
      · cases announces
  | _ => simp [action, Action.welcome] at announces

theorem Action.welcome_of_price {action : Action} {info : PriceInfo}
    (carries : action.price = some info) : action.welcome = none := by
  cases action with
  | packetReceive msg =>
      rw [Action.price] at carries
      split at carries
      · rename_i decoded
        simp [Action.welcome, decoded]
      · cases carries
  | _ => rfl

theorem writesOf_price {world : World} {tx : Tx} {info : PriceInfo}
    (carries : tx.action.price = some info) : writesOf world tx = [.price info] := by
  have unset : entitled world tx = none := by
    cases action : tx.action with
    | packetReceive msg => simp [entitled, action]
    | packetAck acknowledgement => simp [entitled, action]
    | _ => simp [action, Action.price] at carries
  simp [writesOf, unset, Action.welcome_of_price carries, carries]

theorem writesOf_welcome {world : World} {tx : Tx} {payment : String}
    (announces : tx.action.welcome = some payment) : writesOf world tx = [.welcome payment] := by
  cases action : tx.action with
  | packetReceive msg =>
      rw [action, Action.welcome] at announces
      split at announces
      · rename_i decoded
        cases announces
        simp [writesOf, entitled, action, Action.welcome, Action.price, decoded]
      · cases announces
  | _ => simp [action, Action.welcome] at announces

theorem writesOf_entitled {world : World} {tx : Tx} (unpriced : tx.action.price = none)
    (silent : tx.action.welcome = none) :
    writesOf world tx = (entitled world tx).toList.map (.config · tx.block.time) := by
  simp [writesOf, unpriced, silent]

theorem effect_writes {deps : Deps} {contract : Addr} {world : World} {tx : Tx} {config : Config}
    {response : Response ContractMsg} {after : Storage}
    (validated : ∀ text addr, deps.addrValidate text = .ok addr → addr = text)
    (configured : world.storage.config = some config) (complete : config.complete = true)
    (admitted : admits world.storage tx = true) (unpriced : tx.action.price = none)
    (silent : tx.action.welcome = none)
    (effect : Effect deps (tx.env contract) world.storage tx.action response after) :
    after.config =
      some (((entitled world tx).toList.map (Write.config · tx.block.time)).foldl Config.write
        config) := by
  generalize taken : tx.action = action at effect unpriced silent
  have kept (other : entitled world tx = none) (same : after.config = world.storage.config) :
      after.config =
        some (((entitled world tx).toList.map (Write.config · tx.block.time)).foldl Config.write
          config) := by
    rw [other, same, configured]
    rfl
  cases effect with
  | instantiated => simp [admits, taken, configured] at admitted
  | requested request =>
      have same : after.config = world.storage.config := by cases request.asked <;> rfl
      refine kept ?_ same
      unfold entitled
      cases request.asked <;> simp [taken]
  | @configured _ change found manager response sets stored authorized named messages =>
      rw [configured] at stored
      cases stored
      have allowed : entitled world tx = some change := by
        unfold Action.sets at sets
        unfold entitled
        split at sets
        · rename_i info asked
          cases sets
          simp [taken, configured, authorized info _ rfl]
        · cases sets
          simp [taken]
        · cases sets
      have manages : manager = change.manager.or config.manager := by
        unfold OptionalManager at named
        cases asked : change.manager with
        | none => simpa [asked] using named
        | some text =>
            simp only [asked] at named
            obtain ⟨addr, valid, rfl⟩ := named
            rw [validated text addr valid]
            rfl
      rw [allowed, manages]
      rfl
  | withdrawn withdraws =>
      refine kept ?_ rfl
      unfold Action.withdraws at withdraws
      unfold entitled
      split at withdraws <;> simp_all
  | allowlisted => exact kept (by simp [entitled, taken]) rfl
  | @migrated found maxAfter version response stored limited messages =>
      refine kept (by simp [entitled, taken]) ?_
      rw [configured] at stored
      cases stored
      obtain ⟨allowlist, early, late⟩ := Config.complete_iff.mp complete
      obtain ⟨enabled, enabledIs⟩ := Option.isSome_iff_exists.mp allowlist
      obtain ⟨lower, lowerIs⟩ := Option.isSome_iff_exists.mp early
      obtain ⟨upper, upperIs⟩ := Option.isSome_iff_exists.mp late
      rw [upperIs] at limited
      rw [← Except.ok.inj limited, configured, lowerIs, enabledIs, Option.getD_some,
        Option.getD_some, ← lowerIs, ← upperIs, ← enabledIs]
  | connected => exact kept (by simp [entitled, taken]) rfl
  | closed => exact kept (by simp [entitled, taken]) rfl
  | delivered => exact kept (by simp [entitled, taken]) rfl
  | welcomed decoded => simp [Action.welcome, decoded] at silent
  | priced carries =>
      rw [carries] at unpriced
      cases unpriced
  | idle idles =>
      refine kept ?_ rfl
      unfold Action.idles at idles
      unfold entitled
      split at idles <;> simp_all

theorem attempt_writes {deps : Deps} {contract : Addr} {world next : World} {tx : Tx}
    {config : Config} (validated : ∀ text addr, deps.addrValidate text = .ok addr → addr = text)
    (configured : world.storage.config = some config) (complete : config.complete = true)
    (committed : attempt deps contract world tx = some next) :
    next.storage.config = some ((writesOf world tx).foldl Config.write config) := by
  obtain ⟨admitted, response, after, returned, rfl⟩ := Journal.System.attempt_eq_some.mp committed
  change perform deps contract tx world.storage = .ok response after at returned
  cases carries : tx.action.price with
  | some info =>
      obtain ⟨answer, priced⟩ := @perform_price _ deps contract tx _ _ _ configured carries
      rw [priced] at returned
      cases returned
      rw [writesOf_price carries]
      rfl
  | none =>
      cases announces : tx.action.welcome with
      | some payment =>
          obtain ⟨answer, welcomed⟩ :=
            @perform_welcome _ deps contract tx _ _ _ configured announces
          rw [welcomed] at returned
          cases returned
          rw [writesOf_welcome announces]
          rfl
      | none =>
          rw [writesOf_entitled carries announces]
          exact effect_writes validated configured complete admitted carries announces
            (perform_effect returned)

structure Restricted (deps : Deps) (contract : Addr) (world : World) : Prop where
  price : ∀ tx next, attempt deps contract world tx = some next →
    (∀ change, entitled world tx = some change → change.noisBeaconPrice = none) →
    tx.action.price = none →
    next.storage.config.map Config.price = world.storage.config.map Config.price
  unmanaged : world.storage.config.bind Config.manager = none →
    ∀ tx info msg response after, tx.action = .execute info msg →
      perform deps contract tx world.storage = .ok response after →
      after.config = world.storage.config ∧ after.allowlist = world.storage.allowlist ∧
        ∀ sent ∈ response.msgs, sent.isBank = false

theorem perform_unmanaged {deps : Deps} {contract : Addr} {world : World} {tx : Tx}
    {info : MessageInfo} {msg : ExecuteMsg} {response : Response ContractMsg} {after : Storage}
    (unmanaged : world.storage.config.bind Config.manager = none)
    (executes : tx.action = .execute info msg)
    (returned : perform deps contract tx world.storage = .ok response after) :
    after.config = world.storage.config ∧ after.allowlist = world.storage.allowlist ∧
      ∀ sent ∈ response.msgs, sent.isBank = false := by
  have effect := perform_effect returned
  rw [executes] at effect
  have managed {config : Config} (configured : world.storage.config = some config)
      (authorized : config.manager = some info.sender) : False := by
    simp [configured, authorized] at unmanaged
  cases effect with
  | requested request =>
      obtain ⟨transfers, timeout, transferred, _, messages⟩ := request.sent
      refine ⟨by cases request.asked <;> rfl, by cases request.asked <;> rfl, ?_⟩
      intro sent member
      rw [messages, List.mem_append, List.mem_singleton] at member
      rcases member with paid | asked
      · obtain ⟨_, _, _, _, _, _, rfl⟩ := transferMsgs_ok transferred paid
        rfl
      · rw [asked]
        rfl
  | configured sets configured authorized =>
      exact (managed configured (authorized info msg rfl)).elim
  | withdrawn withdraws authorized =>
      obtain ⟨config, configured, manages⟩ := authorized info msg rfl
      exact (managed configured manages).elim
  | allowlisted configured authorized => exact (managed configured authorized).elim
  | priced carries => cases carries
  | idle idles => cases idles

theorem writes_price {world : World} {tx : Tx} (config : Config)
    (unset : ∀ change, entitled world tx = some change → change.noisBeaconPrice = none)
    (unpriced : tx.action.price = none) :
    ((writesOf world tx).foldl Config.write config).price = config.price := by
  cases announces : tx.action.welcome with
  | some payment =>
      rw [writesOf_welcome announces]
      rfl
  | none =>
      rw [writesOf_entitled unpriced announces]
      cases allowed : entitled world tx with
      | none => rfl
      | some change => simp [Config.write, Config.update, Config.price, unset change allowed]

def Complete (world : World) : Prop :=
  ∃ config, world.storage.config = some config ∧ config.complete = true

theorem run_writes {deps : Deps} {contract : Addr} {world : World} {initial : Config}
    (txs : List Tx) (validated : ∀ text addr, deps.addrValidate text = .ok addr → addr = text)
    (configured : world.storage.config = some initial) (complete : initial.complete = true) :
    (Runs.run (attempt deps contract) world txs).storage.config =
      some ((Runs.observed (attempt deps contract) writesOf world txs).foldl Config.write
        initial) := by
  have observed :=
    @Runs.run_observed _ _ _ _ (attempt deps contract) (fun _ _ => True) Complete writesOf
      (fun state => state.storage.config.getD initial) Config.write ?_ txs world
      ⟨initial, configured, complete⟩ (Runs.along_of_forall (fun _ _ => trivial) world txs)
  · obtain ⟨⟨config, found, _⟩, folded⟩ := observed
    rw [found, Option.getD_some, configured, Option.getD_some] at folded
    rw [found, folded]
  · rintro state tx next - ⟨config, found, whole⟩ committed
    have written := attempt_writes validated found whole committed
    refine ⟨⟨_, written, writes_complete whole _⟩, ?_⟩
    rw [written, found]
    rfl

theorem restricted {deps : Deps} {contract : Addr} {world : World}
    (validated : ∀ text addr, deps.addrValidate text = .ok addr → addr = text)
    (complete : Complete world) : Restricted deps contract world := by
  obtain ⟨config, configured, whole⟩ := complete
  refine ⟨?_, ?_⟩
  · intro tx next committed unset unpriced
    rw [attempt_writes validated configured whole committed, configured, Option.map_some,
      Option.map_some, writes_price config unset unpriced]
  · intro unmanaged tx info msg response after executes returned
    exact perform_unmanaged unmanaged executes returned

theorem instantiate_config {deps : Deps} {contract : Addr} {world created : World} {start : Tx}
    {msg : InstantiateMsg}
    (validated : ∀ text addr, deps.addrValidate text = .ok addr → addr = text)
    (instantiates : start.action = .instantiate msg)
    (committed : attempt deps contract world start = some created) :
    ∃ maxAfter, start.block.time.plusSeconds tenYearsS = .ok maxAfter ∧
      created.storage.config = some (Config.initial msg msg.manager start.block.time maxAfter) := by
  obtain ⟨_, response, after, effect, rfl⟩ := attempt_effect committed
  rw [instantiates] at effect
  cases effect with
  | @instantiated _ manager maxAfter _ _ _ named years messages =>
      refine ⟨maxAfter, years, ?_⟩
      have manages : manager = msg.manager := by
        unfold OptionalManager at named
        cases asked : msg.manager with
        | none => simpa [asked] using named
        | some text =>
            simp only [asked] at named
            obtain ⟨addr, valid, rfl⟩ := named
            rw [validated text addr valid]
      rw [manages]
      rfl
  | configured sets => cases sets
  | withdrawn withdraws => cases withdraws
  | priced carries => cases carries
  | idle idles => cases idles

theorem last_entitled_writer (deps : Deps) (contract : Addr) (start : Tx) (msg : InstantiateMsg)
    (created : World) (txs : List Tx)
    (validated : ∀ text addr, deps.addrValidate text = .ok addr → addr = text)
    (instantiates : start.action = .instantiate msg)
    (committed : attempt deps contract ⟨Storage.empty, []⟩ start = some created) :
    ∃ maxAfter config, start.block.time.plusSeconds tenYearsS = .ok maxAfter ∧
      (Runs.run (attempt deps contract) created txs).storage.config = some config ∧
      LastWriters msg start.block.time maxAfter
        (Runs.observed (attempt deps contract) writesOf created txs) config ∧
      Restricted deps contract (Runs.run (attempt deps contract) created txs) := by
  obtain ⟨maxAfter, years, configured⟩ := instantiate_config validated instantiates committed
  have final := @run_writes _ deps contract created _ txs validated configured rfl
  refine ⟨maxAfter, _, years, final, lastWriters_initial msg _ maxAfter _, ?_⟩
  exact restricted validated ⟨_, final, writes_complete rfl _⟩

end

section

attribute [local instance] jsonWire

def creation : Tx :=
  ⟨startBlock, some 0, [],
    .instantiate ⟨[unoisx 1000000 NoisHost.million_lt], some NoisHost.manager, none, 500000,
      .funded, none, none⟩, true⟩

def handover : List Tx :=
  [⟨startBlock, some 5, [], .execute ⟨NoisHost.manager, []⟩
      (.setConfig ⟨some dapp, none, none, none, none, none, some true, none, none⟩), true⟩,
    ⟨startBlock, some 6, [], .execute ⟨NoisHost.manager, []⟩
      (.setConfig ⟨none, none, some "payment", none, none, none, none, none, none⟩), true⟩,
    ⟨startBlock, some 7, [], .execute ⟨dapp, []⟩
      (.setConfig ⟨none, none, none, none, some 7, none, none, none, none⟩), true⟩]

theorem last_entitled_writer_handover :
    ∃ config,
      configAfter NoisHost.deps proxyContract (reached NoisHost.deps proxyContract [creation])
        handover =
        some config ∧
        config.manager = some dapp ∧ config.payment = none ∧ config.callbackGasLimit = 7 ∧
        config.allowlistEnabled = some true := by
  have validated : ∀ text addr, NoisHost.deps.addrValidate text = .ok addr → addr = text := by
    intro text addr valid
    cases valid
    rfl
  have present :
      (attempt NoisHost.deps proxyContract ⟨Storage.empty, []⟩ creation).isSome = true := by
    decide +kernel
  obtain ⟨created, committed⟩ := Option.isSome_iff_exists.mp present
  have start : reached NoisHost.deps proxyContract [creation] = created :=
    Runs.settle_of_some committed
  rw [← start] at committed
  obtain ⟨maxAfter, config, _, final, writers, _⟩ :=
    last_entitled_writer NoisHost.deps proxyContract creation _ _ handover validated rfl committed
  refine ⟨config, final, ?_, ?_, ?_, ?_⟩
  · rw [writers.manager]
    decide +kernel
  · rw [writers.payment]
    decide +kernel
  · rw [writers.callbackGasLimit]
    decide +kernel
  · rw [writers.allowlistEnabled]
    decide +kernel

end

end NoisContracts.Proxy
