import NoisContracts.Gateway.Accounting
import NoisContracts.ProtocolJson

/-!
The sources whose rounds the gateway believes. The manager lists them. Nothing else
touches the list, except for a migration: where the list is empty, it makes the drand
contract the only source, as before version 0.14.
-/

namespace NoisContracts.Gateway

open ContractCall ContractCall.Call OrderedStore

def Storage.trusted (storage : Storage) : List Addr :=
  (storage.config.bind Config.trustedSources).getD []

def Action.lists : Action → Option (List String)
  | .execute _ (.setConfig _ _ _ _ trustedSources) => trustedSources
  | _ => none

def sourcesAfter (listed : List Addr) (migrations : List (Option Addr)) : List Addr :=
  if listed = [] then (migrations.findSome? id).toList else listed

def sourcesAfterOne (listed : List Addr) (drand : Option Addr) : List Addr :=
  if listed = [] then drand.toList else listed

theorem sourcesAfter_eq (listed : List Addr) (migrations : List (Option Addr)) :
    sourcesAfter listed migrations = migrations.foldl sourcesAfterOne listed := by
  induction migrations generalizing listed with
  | nil =>
      unfold sourcesAfter
      split
      · rename_i empty
        simp [empty]
      · rfl
  | cons drand rest ih =>
      rw [List.foldl_cons, ← ih]
      by_cases empty : listed = []
      · cases drand <;> simp [sourcesAfter, sourcesAfterOne, empty]
      · simp [sourcesAfter, sourcesAfterOne, empty]

theorem executeSetConfig_trusted {deps : Deps} {info : MessageInfo} {manager : Option String}
    {price : Option Coin} {drand : Option String} {trustedSources : Option (List String)}
    {paymentInitialFunds : Option Coin} {storage after : Storage} {response : Response ContractMsg}
    (returned : executeSetConfig deps info manager price drand trustedSources paymentInitialFunds
      storage = .ok response after) :
    match trustedSources with
    | some listed => listed.mapM deps.addrValidate = .ok after.trusted
    | none => after.trusted = storage.trusted := by
  simp only [executeSetConfig, bind_eq_ok, mapError_eq_ok, loadConfig_eq_ok, ensure_eq_ok,
    ofExcept_eq_ok, saveConfig, writes_eq_ok, pure_eq_ok] at returned
  obtain ⟨config, _, ⟨configured, rfl⟩, _, _, ⟨_, rfl⟩, _, _, ⟨_, rfl⟩, _, _, ⟨_, rfl⟩, sources, _,
    ⟨validated, rfl⟩, _, _, rfl, _, rfl⟩ := returned
  cases trustedSources with
  | some listed => exact validated
  | none =>
      cases validated
      simp [Storage.trusted, configured]

theorem mapM_addrValidate {deps : Deps}
    (validated : ∀ text addr, deps.addrValidate text = .ok addr → addr = text)
    {listed sources : List String} (valid : listed.mapM deps.addrValidate = .ok sources) :
    sources = listed := by
  induction listed generalizing sources with
  | nil =>
      simp only [List.mapM_nil] at valid
      cases valid
      rfl
  | cons text texts ih =>
      simp only [List.mapM_cons, except_bind_eq_ok] at valid
      obtain ⟨addr, first, addrs, rest, valid⟩ := valid
      cases valid
      rw [validated text addr first, ih rest]

theorem migrate_trusted {storage after : Storage} {response : Response ContractMsg}
    (returned : migrate storage = .ok response after) :
    after.trusted = sourcesAfterOne storage.trusted (storage.config.bind Config.drand) := by
  simp only [migrate, bind_eq_ok, loadConfig_eq_ok, saveConfig, setContractVersion, writes_eq_ok,
    pure_eq_ok] at returned
  obtain ⟨config, _, ⟨configured, rfl⟩, _, _, rfl, _, _, rfl, _, rfl⟩ := returned
  have before : storage.trusted = config.trustedSources.getD [] := by
    simp [Storage.trusted, configured]
  rw [before, configured]
  by_cases empty : config.trustedSources.getD [] = []
  · simp only [Storage.trusted, empty, List.isEmpty_nil, if_true, sourcesAfterOne, Option.bind_some]
    cases drand : config.drand with
    | none => simpa [drand] using empty
    | some source => simp
  · have listed : (config.trustedSources.getD []).isEmpty = false := by simpa using empty
    simp only [Storage.trusted, listed, Bool.false_eq_true, if_false, sourcesAfterOne, empty,
      Option.bind_some]

section

variable [Wire]

/-- The round is not refused for its sender. -/
def Authorized (env : Env) (info : MessageInfo) (round : Nat) (randomness : Binary)
    (isVerifyingTx : Bool) (storage : Storage) : Prop :=
  ∀ after, executeAddVerifiedRound env info round randomness isVerifyingTx storage ≠
    .error .unauthorizedAddVerifiedRound after

theorem authorized_iff {env : Env} {info : MessageInfo} {round : Nat} {randomness : Binary}
    {isVerifyingTx : Bool} {storage : Storage} {config : Config}
    (configured : storage.config = some config) :
    Authorized env info round randomness isVerifyingTx storage ↔ info.sender ∈ storage.trusted := by
  have trusted : storage.trusted = config.trustedSources.getD [] := by
    simp [Storage.trusted, configured]
  have refused (after : Storage) :
      executeAddVerifiedRound env info round randomness isVerifyingTx storage =
        .error .unauthorizedAddVerifiedRound after ↔
        info.sender ∉ storage.trusted ∧ storage = after := by
    simp only [executeAddVerifiedRound, bind_eq_error, mapError_eq_error, mapError_eq_ok,
      ensure_eq_error, ensure_eq_ok, loadConfig_eq_ok, pure_apply, reduceCtorEq, and_false,
      exists_false, or_false, false_or, true_and]
    refine ⟨?_, ?_⟩
    · rintro ⟨found, _, ⟨stored, rfl⟩, unlisted, rfl⟩
      rw [configured] at stored
      cases stored
      rw [trusted]
      exact ⟨unlisted, rfl⟩
    · rintro ⟨unlisted, rfl⟩
      rw [trusted] at unlisted
      exact ⟨config, storage, ⟨configured, rfl⟩, unlisted, rfl⟩
  unfold Authorized
  refine ⟨?_, ?_⟩
  · intro passes
    by_contra unlisted
    exact passes storage ((refused storage).mpr ⟨unlisted, rfl⟩)
  · intro listed after failed
    exact ((refused after).mp failed).1 listed

theorem effect_trusted {deps : Deps} {contract : Addr} {world next : World} {tx : Tx}
    (registered : Registered world) (unlisted : tx.action.lists = none)
    (other : tx.action ≠ .migrate) (committed : attempt deps contract world tx = some next) :
    next.storage.trusted = world.storage.trusted := by
  by_cases configures : tx.action.configures = true
  · obtain ⟨admitted, _, response, after, returned, rfl⟩ := attempt_eq_some.mp committed
    change after.trusted = _
    generalize tx.action = action at *
    cases action with
    | instantiate msg =>
        obtain ⟨manager, sink, _, _, _, rfl⟩ := instantiate_ok returned
        have fresh : world.storage.config = none := by simpa [World.admits] using admitted
        simp [Storage.trusted, fresh]
    | execute info msg =>
        cases msg with
        | addVerifiedRound round randomness isVerifyingTx => cases configures
        | setConfig manager price drandAddr paymentInitialFunds trustedSources =>
            cases unlisted
            exact @executeSetConfig_trusted deps info manager price drandAddr none
              paymentInitialFunds _ _ _ returned
    | migrate => exact (other rfl).elim
    | channelOpen msg => cases configures
    | channelConnect msg => cases configures
    | channelClose msg => cases configures
    | packetReceive msg => cases configures
    | packetAck acknowledgement => cases configures
    | packetTimeout => cases configures
  · obtain ⟨response, after, effect, admitted, rfl⟩ := attempt_effect committed
    have same := effect_config registered admitted effect (Bool.not_eq_true _ ▸ configures)
    simp [Storage.trusted, World.commit, same]

theorem attempt_configured {deps : Deps} {contract : Addr} {world next : World} {tx : Tx}
    (registered : Registered world) (configured : ∃ config, world.storage.config = some config)
    (committed : attempt deps contract world tx = some next) :
    ∃ config, next.storage.config = some config := by
  obtain ⟨response, after, effect, admitted, rfl⟩ := attempt_effect committed
  by_cases configures : tx.action.configures = true
  · generalize tx.action = action at effect configures
    cases effect with
    | configured _ kept messages acknowledgement => exact ⟨_, rfl⟩
    | idle idles => exact configured
    | connected connects => cases configures
    | received receives => cases configures
    | verified found trusted processed => cases configures
  · obtain ⟨config, found⟩ := configured
    exact ⟨config,
      (effect_config registered admitted effect (Bool.not_eq_true _ ▸ configures)).trans found⟩

def migrated (world : World) (tx : Tx) : List (Option Addr) :=
  if tx.action = .migrate then [world.storage.config.bind Config.drand] else []

def migrations (deps : Deps) (contract : Addr) : World → List Tx → List (Option Addr) :=
  Runs.observed (attempt deps contract) migrated

def keepsList (deps : Deps) (contract : Addr) (world : World) (tx : Tx) : Bool :=
  tx.action.lists = none || (attempt deps contract world tx).isNone

theorem attempt_trusted {deps : Deps} {contract : Addr} {world next : World} {tx : Tx}
    (registered : Registered world) (keeps : keepsList deps contract world tx = true)
    (committed : attempt deps contract world tx = some next) :
    next.storage.trusted = (migrated world tx).foldl sourcesAfterOne world.storage.trusted := by
  by_cases migrates : tx.action = .migrate
  · obtain ⟨_, _, response, after, returned, rfl⟩ := attempt_eq_some.mp committed
    rw [migrates] at returned
    rw [migrated, if_pos migrates]
    exact migrate_trusted (mapError_eq_ok.mp returned)
  · have unlisted : tx.action.lists = none := by simpa [keepsList, committed] using keeps
    rw [effect_trusted registered unlisted migrates committed, migrated, if_neg migrates]
    rfl

theorem run_trusted {deps : Deps} {contract : Addr} {world : World} (txs : List Tx)
    (registered : Registered world) (configured : ∃ config, world.storage.config = some config)
    (along : Runs.Along (attempt deps contract)
      (fun state tx => keepsList deps contract state tx = true) world txs) :
    (∃ config, (Runs.run (attempt deps contract) world txs).storage.config = some config) ∧
      (Runs.run (attempt deps contract) world txs).storage.trusted =
        sourcesAfter world.storage.trusted (migrations deps contract world txs) := by
  have observed := @Runs.run_observed _ _ _ _ (attempt deps contract) _
    (fun state => Registered state ∧ ∃ config, state.storage.config = some config) migrated
    (fun state => state.storage.trusted) sourcesAfterOne ?_ txs world ⟨registered, configured⟩ along
  · rw [sourcesAfter_eq]
    exact ⟨observed.1.2, observed.2⟩
  · rintro state tx next keeps ⟨known, before⟩ committed
    obtain ⟨response, after, effect, admitted, same⟩ := attempt_effect committed
    exact ⟨⟨same ▸ known.commit admitted effect, attempt_configured known before committed⟩,
      attempt_trusted known keeps committed⟩

theorem listed_trusted {deps : Deps} {contract : Addr} {world next : World} {tx : Tx}
    {listed : List String}
    (validated : ∀ text addr, deps.addrValidate text = .ok addr → addr = text)
    (lists : tx.action.lists = some listed)
    (committed : attempt deps contract world tx = some next) :
    (∃ config, next.storage.config = some config) ∧ next.storage.trusted = listed := by
  obtain ⟨_, _, response, after, returned, rfl⟩ := attempt_eq_some.mp committed
  unfold Action.lists at lists
  split at lists
  · rename_i info manager price drandAddr paymentInitialFunds trustedSources action
    subst lists
    rw [action] at returned
    change executeSetConfig deps info manager price drandAddr (some listed) paymentInitialFunds
      world.storage =
      .ok response after at returned
    obtain ⟨config, changed, _, _, _, stored, _⟩ := executeSetConfig_ok returned
    have sources := executeSetConfig_trusted returned
    exact ⟨⟨changed, congrArg Storage.config stored⟩, mapM_addrValidate validated sources⟩
  · cases lists

theorem listed_sources_stay (deps : Deps) (contract : Addr) (earlier later : List Tx) (tx : Tx)
    (listed : List String)
    (validated : ∀ text addr, deps.addrValidate text = .ok addr → addr = text)
    (lists : tx.action.lists = some listed)
    (committed : (attempt deps contract (reached deps contract earlier) tx).isSome = true)
    (along :
      Runs.Along (attempt deps contract) (fun world tx => keepsList deps contract world tx = true)
        (reached deps contract (earlier ++ [tx])) later) (env : Env) (info : MessageInfo)
    (round : Nat) (randomness : Binary) (isVerifyingTx : Bool) :
    Authorized env info round randomness isVerifyingTx
      (reached deps contract (earlier ++ tx :: later)).storage ↔
      info.sender ∈
        sourcesAfter listed
          (migrations deps contract (reached deps contract (earlier ++ [tx])) later) := by
  obtain ⟨next, committed⟩ := Option.isSome_iff_exists.mp committed
  have start : reached deps contract (earlier ++ [tx]) = next := by
    rw [reached, Runs.run_append, Runs.run_cons, Runs.run_nil]
    exact Runs.settle_of_some committed
  have final : reached deps contract (earlier ++ tx :: later) =
      Runs.run (attempt deps contract) next later := by
    rw [← start, reached, reached, Runs.run_append, Runs.run_append]
    rfl
  have registered : Registered next := start ▸ reached_registered deps contract (earlier ++ [tx])
  rw [start] at along ⊢
  obtain ⟨configured, trusted⟩ := listed_trusted validated lists committed
  obtain ⟨⟨config, found⟩, sources⟩ := run_trusted later registered configured along
  rw [final, authorized_iff found, sources, trusted]

end

section

attribute [local instance] jsonWire

def removal : Tx :=
  ⟨openingBlock, some 4, .execute ⟨NoisHost.manager, []⟩ (.setConfig none none none none (some [])),
    true⟩

def migration : Tx := ⟨openingBlock, some 5, .migrate, true⟩

theorem listed_sources_stay_removed :
    let final :=
      (reached NoisHost.deps NoisHost.gateway (opening ++ removal :: [migration])).storage
    Authorized (migration.env NoisHost.gateway) ⟨NoisHost.drand, []⟩ 771603 [1, 2, 3] true final ∧
      ¬Authorized (migration.env NoisHost.gateway) ⟨NoisHost.manager, []⟩ 771603 [1, 2, 3] true
        final := by
  have validated : ∀ text addr, NoisHost.deps.addrValidate text = .ok addr → addr = text := by
    intro text addr valid
    cases valid
    rfl
  have stays :=
    listed_sources_stay NoisHost.deps NoisHost.gateway opening [migration] removal [] validated rfl
      (by decide +kernel) (by decide +kernel) (migration.env NoisHost.gateway)
  refine ⟨(stays ⟨NoisHost.drand, []⟩ 771603 [1, 2, 3] true).mpr (by decide +kernel), ?_⟩
  exact (not_congr (stays ⟨NoisHost.manager, []⟩ 771603 [1, 2, 3] true)).mpr (by decide +kernel)

/-- A source that the manager has removed passes the check again after a migration. -/
theorem migration_restores_source :
    removal.action.lists = some [] ∧
      (attempt NoisHost.deps NoisHost.gateway (reached NoisHost.deps NoisHost.gateway opening)
        removal).isSome ∧
      migration.action.lists = none ∧
      Authorized (migration.env NoisHost.gateway) ⟨NoisHost.drand, []⟩ 771603 [1, 2, 3] true
        (reached NoisHost.deps NoisHost.gateway (opening ++ [removal, migration])).storage := by
  refine ⟨rfl, by decide +kernel, rfl, ?_⟩
  have configured : (reached NoisHost.deps NoisHost.gateway
      (opening ++ [removal, migration])).storage.config.isSome = true := by decide +kernel
  obtain ⟨config, found⟩ := Option.isSome_iff_exists.mp configured
  rw [authorized_iff found]
  decide +kernel

end

end NoisContracts.Gateway
