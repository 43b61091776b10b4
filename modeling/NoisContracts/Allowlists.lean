import NoisContracts.Library.Roster
import NoisContracts.Drand.Effects
import NoisContracts.Proxy.Requests

/-!
The allowlists of the proxy and of nois-drand. Both contracts add before they remove, so
an address in both lists of an update is removed, and both reject an update with an
address that the chain does not accept. The proxy reads its list before it sends a
request, when the list is enabled.
-/

namespace NoisContracts

open ContractCall ContractCall.Call OrderedStore Roster

def ValidAddresses (deps : Deps) (texts : List String) : Prop :=
  ∀ text ∈ texts, ∃ addr, deps.addrValidate text = .ok addr

def addresses (deps : Deps) (texts : List String) : List Addr :=
  texts.filterMap fun text => (deps.addrValidate text).toOption

theorem validAddresses_append {deps : Deps} {first second : List String} :
    ValidAddresses deps (first ++ second) ↔
      ValidAddresses deps first ∧ ValidAddresses deps second := by
  simp only [ValidAddresses, List.mem_append, or_imp, forall_and]

section

variable {σ τ ε ρ : Type} {deps : Deps}

/-- A loop that validates addresses and makes one change for each of them. -/
structure Visits (deps : Deps) (change : σ → Addr → σ) (loop : List String → Call σ StdError Unit) :
    Prop where
  done : loop [] = pure ()
  next : ∀ text rest, loop (text :: rest) = do
    let addr ← ofExcept (deps.addrValidate text)
    writes fun storage => change storage addr
    loop rest

theorem Visits.valid {change : σ → Addr → σ} {loop : List String → Call σ StdError Unit}
    (visits : Visits deps change loop) {texts : List String} (valid : ValidAddresses deps texts)
    (storage : σ) : loop texts storage = .ok () ((addresses deps texts).foldl change storage) := by
  induction texts generalizing storage with
  | nil => rw [visits.done, pure_apply, addresses, List.filterMap_nil, List.foldl_nil]
  | cons text rest ih =>
      obtain ⟨addr, named⟩ := valid text List.mem_cons_self
      have later :=
        ih (fun other member => valid other (List.mem_cons_of_mem text member))
          (change storage addr)
      rw [visits.next, bind_apply, named, ofExcept_ok, andThen_ok, bind_apply, writes_apply,
        andThen_ok, later]
      simp [addresses, named, Except.toOption]

theorem Visits.invalid {change : σ → Addr → σ} {loop : List String → Call σ StdError Unit}
    (visits : Visits deps change loop) {texts : List String} (invalid : ¬ValidAddresses deps texts)
    (storage : σ) : Fails (loop texts) storage := by
  induction texts generalizing storage with
  | nil =>
      refine (invalid ?_).elim
      intro text member
      cases member
  | cons text rest ih =>
      cases named : deps.addrValidate text with
      | error cause => exact ⟨cause, storage, by simp [visits.next, named]⟩
      | ok addr =>
          have later : ¬ValidAddresses deps rest := by
            intro valid
            apply invalid
            intro other member
            rcases List.mem_cons.mp member with rfl | member
            · exact ⟨addr, named⟩
            · exact valid other member
          obtain ⟨cause, after, failed⟩ := ih later (change storage addr)
          exact ⟨cause, after, by simp [visits.next, named, failed]⟩

/-- The loops of an update, one after the other. -/
structure UpdateLoops (deps : Deps) (has : σ → Addr → Bool)
    (adds removes : List String → Call σ StdError Unit) : Prop where
  adding : ∃ change, Visits deps change adds ∧
    ∀ storage added addr, has (change storage added) addr =
      (decide (added = addr) || has storage addr)
  removing : ∃ change, Visits deps change removes ∧
    ∀ storage removed addr, has (change storage removed) addr =
      (decide (removed ≠ addr) && has storage addr)

theorem UpdateLoops.added {has : σ → Addr → Bool}
    {adds removes : List String → Call σ StdError Unit} (loops : UpdateLoops deps has adds removes)
    {add : List String} {storage after : σ} (returned : adds add storage = .ok () after)
    (addr : Addr) : has after addr = (decide (addr ∈ addresses deps add) || has storage addr) := by
  obtain ⟨insert, adding, inserts⟩ := loops.adding
  by_cases valid : ValidAddresses deps add
  · rw [adding.valid valid] at returned
    cases returned
    exact foldl_insert inserts storage _ addr
  · obtain ⟨_, _, failed⟩ := adding.invalid valid storage
    rw [failed] at returned
    cases returned

theorem UpdateLoops.valid {has : σ → Addr → Bool}
    {adds removes : List String → Call σ StdError Unit} (loops : UpdateLoops deps has adds removes)
    {add remove : List String} (valid : ValidAddresses deps (add ++ remove)) (storage : σ) :
    ∃ middle after, adds add storage = .ok () middle ∧ removes remove middle = .ok () after ∧
      members (has after) =
        Update.apply ⟨addresses deps add, addresses deps remove⟩ (members (has storage)) := by
  obtain ⟨_, adding, _⟩ := loops.adding
  obtain ⟨erase, removing, erases⟩ := loops.removing
  obtain ⟨validAdd, validRemove⟩ := validAddresses_append.mp valid
  have returned := adding.valid validAdd storage
  have added := loops.added returned
  refine ⟨_, _, returned, removing.valid validRemove _, ?_⟩
  ext addr
  simp only [members, Update.apply, Set.mem_ofPred_eq, Set.mem_sdiff, Set.mem_union,
    foldl_erase erases, added, Bool.and_eq_true, Bool.or_eq_true, decide_eq_true_eq]
  tauto

theorem UpdateLoops.invalid {has : σ → Addr → Bool}
    {adds removes : List String → Call σ StdError Unit} (loops : UpdateLoops deps has adds removes)
    {add remove : List String} (invalid : ¬ValidAddresses deps (add ++ remove)) (storage : σ) :
    Fails (adds add) storage ∨
      ∃ middle, adds add storage = .ok () middle ∧ Fails (removes remove) middle := by
  obtain ⟨_, adding, _⟩ := loops.adding
  obtain ⟨_, removing, _⟩ := loops.removing
  by_cases valid : ValidAddresses deps add
  · refine .inr ⟨_, adding.valid valid storage, removing.invalid ?_ _⟩
    intro removed
    exact invalid (validAddresses_append.mpr ⟨valid, removed⟩)
  · exact .inl (adding.invalid valid storage)

structure AllowlistUpdate where
  sender : Addr
  add : List String
  remove : List String

/-- A contract with an allowlist: who updates it, the call for it and the two queries. -/
structure Allowlisting (σ τ ε ρ : Type) where
  system : Journal.System σ τ ε ρ
  start : σ
  installed : σ → Bool
  manager : σ → Option Addr
  has : σ → Addr → Bool
  installs : τ → Option (List String)
  updates : τ → Option AllowlistUpdate
  queryAllowlist : σ → List Addr
  queryIsAllowlisted : σ → String → Except StdError Bool

namespace Allowlisting

def keeper (contract : Allowlisting σ τ ε ρ) (deps : Deps) : Keeper σ τ ε ρ Addr where
  system := contract.system
  start := contract.start
  listed := contract.has
  installed := contract.installed
  installs tx := (contract.installs tx).map (addresses deps)
  updates tx := (contract.updates tx).map fun update =>
    ⟨addresses deps update.add, addresses deps update.remove⟩

def reached (contract : Allowlisting σ τ ε ρ) (txs : List τ) : Journal.World σ τ ρ :=
  contract.system.reached contract.start txs

/-- The manager is entitled to an update, and the chain accepts every address in it. -/
def Entitled (contract : Allowlisting σ τ ε ρ) (deps : Deps) (storage : σ)
    (update : AllowlistUpdate) : Prop :=
  contract.manager storage = some update.sender ∧ ValidAddresses deps (update.add ++ update.remove)

/-- An update is a set operation or changes nothing, and the journal decides who is listed. -/
structure Sound (contract : Allowlisting σ τ ε ρ) (deps : Deps) : Prop where
  updated :
    ∀ storage tx update, contract.updates tx = some update → contract.Entitled deps storage update →
      ∃ response after, contract.system.perform tx storage = .ok response after ∧
        members (contract.has after) =
          (members (contract.has storage) ∪ {addr | addr ∈ addresses deps update.add}) \
            {addr | addr ∈ addresses deps update.remove}
  refused : ∀ world tx update, contract.updates tx = some update →
    ¬contract.Entitled deps world.storage update →
    Fails (contract.system.perform tx) world.storage ∧
      Runs.settle contract.system.attempt world tx = world
  history : ∀ txs addr, contract.has (contract.reached txs).storage addr =
    ((contract.keeper deps).lastVerdict (contract.reached txs).log addr).getD
      ((contract.keeper deps).initially (contract.reached txs).log addr)
  listedOnce : ∀ storage, (contract.queryAllowlist storage).Nodup ∧
    ∀ addr, addr ∈ contract.queryAllowlist storage ↔ contract.has storage addr = true
  asked : ∀ storage text, contract.queryIsAllowlisted storage text =
    (deps.addrValidate text).map fun addr => decide (addr ∈ contract.queryAllowlist storage)

/-- What the calls of the contract do to the allowlist, one at a time. -/
structure Implemented (contract : Allowlisting σ τ ε ρ) (deps : Deps) : Prop where
  uninstalled : contract.installed contract.start = false
  unlisted : ∀ addr, contract.has contract.start addr = false
  exclusive : ∀ {tx initial}, contract.installs tx = some initial → contract.updates tx = none
  stays : ∀ {tx storage response after}, contract.system.perform tx storage = .ok response after →
    contract.installed storage = true → contract.installed after = true
  managed :
    ∀ {storage addr}, contract.manager storage = some addr → contract.installed storage = true
  installation : ∀ {tx storage response after initial}, contract.installs tx = some initial →
    contract.system.admits storage tx = true →
    contract.system.perform tx storage = .ok response after →
    contract.installed storage = false ∧ contract.installed after = true ∧
      ∀ addr, contract.has after addr = true ↔
        addr ∈ addresses deps initial ∨ contract.has storage addr = true
  updated : ∀ {tx storage update}, contract.updates tx = some update →
    contract.Entitled deps storage update →
    ∃ response after, contract.system.perform tx storage = .ok response after ∧
      members (contract.has after) =
        Update.apply ⟨addresses deps update.add, addresses deps update.remove⟩
          (members (contract.has storage))
  refused : ∀ {tx storage update}, contract.updates tx = some update →
    ¬contract.Entitled deps storage update → Fails (contract.system.perform tx) storage
  other : ∀ {tx storage response after}, contract.installs tx = none → contract.updates tx = none →
    contract.system.perform tx storage = .ok response after →
    contract.has after = contract.has storage

theorem Implemented.lawful {contract : Allowlisting σ τ ε ρ}
    (implemented : contract.Implemented deps) : (contract.keeper deps).Lawful where
  uninstalled := implemented.uninstalled
  unlisted := implemented.unlisted
  exclusive installs := by
    obtain ⟨initial, found, _⟩ := Option.map_eq_some_iff.mp installs
    exact Option.map_eq_none_iff.mpr (implemented.exclusive found)
  stays := implemented.stays
  installation installs := by
    obtain ⟨initial, found, rfl⟩ := Option.map_eq_some_iff.mp installs
    exact implemented.installation found
  update := by
    intro tx storage response after merged updates returned
    obtain ⟨update, found, rfl⟩ := Option.map_eq_some_iff.mp updates
    by_cases entitled : contract.Entitled deps storage update
    · obtain ⟨_, _, performed, applied⟩ := implemented.updated found entitled
      change contract.system.perform tx storage = _ at returned
      rw [performed] at returned
      cases returned
      exact ⟨implemented.managed entitled.1, applied⟩
    · obtain ⟨_, _, failed⟩ := implemented.refused found entitled
      change contract.system.perform tx storage = _ at returned
      rw [failed] at returned
      cases returned
  other installs updates :=
    implemented.other (Option.map_eq_none_iff.mp installs) (Option.map_eq_none_iff.mp updates)

theorem Implemented.sound {contract : Allowlisting σ τ ε ρ}
    (implemented : contract.Implemented deps)
    (listedOnce : ∀ storage, (contract.queryAllowlist storage).Nodup ∧
      ∀ addr, addr ∈ contract.queryAllowlist storage ↔ contract.has storage addr = true)
    (asked : ∀ storage text, contract.queryIsAllowlisted storage text =
      (deps.addrValidate text).map (contract.has storage)) : contract.Sound deps where
  updated _ _ _ updates entitled := implemented.updated updates entitled
  refused world tx update updates unentitled := by
    obtain ⟨cause, after, failed⟩ := implemented.refused updates unentitled
    refine ⟨⟨cause, after, failed⟩, ?_⟩
    have reverted : contract.system.attempt world tx = none := by
      unfold Journal.System.attempt
      split
      · rw [failed]
      · rfl
    rw [Runs.settle, reverted, Option.getD_none]
  history txs := (implemented.lawful.reached txs).listed
  listedOnce := listedOnce
  asked storage text := by
    have agrees :
        (fun addr => decide (addr ∈ contract.queryAllowlist storage)) = contract.has storage := by
      funext addr
      rw [Bool.eq_iff_iff, decide_eq_true_eq, (listedOnce storage).2]
    rw [asked, agrees]

end Allowlisting

theorem keys_listedOnce {ν : Type} (store : Store Addr ν) : (store.toList.map Prod.fst).Nodup ∧
    ∀ addr, addr ∈ store.toList.map Prod.fst ↔ store.contains addr = true := by
  refine ⟨keys_nodup store, ?_⟩
  intro addr
  rw [mem_keys, contains_eq_true]

end

namespace Proxy

def queryAllowlist (storage : Storage) : List Addr := storage.allowlist.toList.map Prod.fst

def queryIsAllowlisted (deps : Deps) (storage : Storage) (addr : String) :
    Except StdError Bool := do
  let addr ← deps.addrValidate addr
  pure (storage.allowlist.contains addr)

theorem queryIsAllowlisted_eq (deps : Deps) (storage : Storage) (addr : String) :
    queryIsAllowlisted deps storage addr =
      (deps.addrValidate addr).map storage.allowlist.contains := by
  unfold queryIsAllowlisted
  cases deps.addrValidate addr <;> rfl

def allowlisting [Wire] (deps : Deps) (contract : Addr) :
    Allowlisting Storage Tx ContractError (Response ContractMsg) where
  system := system deps contract
  start := Storage.empty
  installed storage := storage.config.isSome
  manager storage := storage.config.bind Config.manager
  has storage := storage.allowlist.contains
  installs tx := match tx.action with
    | .instantiate msg => some (msg.allowlist.getD [])
    | _ => none
  updates tx := match tx.action with
    | .execute info (.updateAllowlist add remove) => some ⟨info.sender, add, remove⟩
    | _ => none
  queryAllowlist := queryAllowlist
  queryIsAllowlisted := queryIsAllowlisted deps

theorem addToAllowlist_visits (deps : Deps) :
    Visits deps
      (fun storage addr =>
        { storage with allowlist := storage.allowlist.insert addr allowlistMarker })
      (addToAllowlist deps) where
  done := rfl
  next _ _ := rfl

theorem removeFromAllowlist_visits (deps : Deps) :
    Visits deps (fun storage addr => { storage with allowlist := storage.allowlist.erase addr })
      (removeFromAllowlist deps) where
  done := rfl
  next _ _ := rfl

theorem updateLoops (deps : Deps) : UpdateLoops deps (fun storage => storage.allowlist.contains)
    (addToAllowlist deps) (removeFromAllowlist deps) where
  adding := ⟨_, addToAllowlist_visits deps, fun _ _ _ => contains_insert _ _ _ _⟩
  removing := ⟨_, removeFromAllowlist_visits deps, fun _ _ _ => contains_erase _ _ _⟩

theorem ensureManager_managed {info : MessageInfo} {storage : Storage}
    (managed : storage.config.bind Config.manager = some info.sender) :
    ensureManager info storage = .ok () storage := by
  obtain ⟨config, configured, named⟩ := Option.bind_eq_some_iff.mp managed
  exact ensureManager_eq_ok.mpr ⟨⟨config, configured, named⟩, rfl⟩

theorem executeUpdateAllowlist_valid {deps : Deps} {info : MessageInfo} {add remove : List String}
    {storage : Storage} (managed : storage.config.bind Config.manager = some info.sender)
    (valid : ValidAddresses deps (add ++ remove)) :
    ∃ response after, executeUpdateAllowlist deps info add remove storage = .ok response after ∧
      members after.allowlist.contains = Update.apply ⟨addresses deps add, addresses deps remove⟩
        (members storage.allowlist.contains) := by
  obtain ⟨middle, after, added, removed, applied⟩ := (updateLoops deps).valid valid storage
  refine ⟨{ attributes := [("action", "execute_update_allowlist")] }, after, ?_, applied⟩
  have updated : updateAllowlistUnchecked deps add remove storage = .ok () after :=
    bind_eq_ok.mpr ⟨_, _, added, removed⟩
  exact bind_eq_ok.mpr
    ⟨_, _, ensureManager_managed managed, bind_eq_ok.mpr ⟨_, _, mapError_eq_ok.mpr updated, rfl⟩⟩

theorem ensureManager_fails {info : MessageInfo} {storage : Storage}
    (unmanaged : storage.config.bind Config.manager ≠ some info.sender) :
    Fails (ensureManager info) storage := by
  cases configured : storage.config with
  | none => exact (Fails.mapError ⟨_, _, loadConfig_eq_error.mpr ⟨configured, rfl, rfl⟩⟩ _).bind _
  | some config =>
      rw [configured, Option.bind_some] at unmanaged
      exact .later (mapError_eq_ok.mpr (loadConfig_eq_ok.mpr ⟨configured, rfl⟩))
        ⟨_, _, ensure_eq_error.mpr ⟨unmanaged, rfl, rfl⟩⟩

theorem executeUpdateAllowlist_fails {deps : Deps} {info : MessageInfo} {add remove : List String}
    {storage : Storage}
    (refused :
      ¬(storage.config.bind Config.manager = some info.sender ∧
        ValidAddresses deps (add ++ remove))) :
    Fails (executeUpdateAllowlist deps info add remove) storage := by
  by_cases managed : storage.config.bind Config.manager = some info.sender
  · have invalid : ¬ValidAddresses deps (add ++ remove) := fun valid => refused ⟨managed, valid⟩
    refine .later (ensureManager_managed managed) ((Fails.mapError ?_ _).bind _)
    rcases (updateLoops deps).invalid invalid storage with failed | ⟨middle, added, failed⟩
    · exact failed.bind _
    · exact .later added failed
  · exact (ensureManager_fails managed).bind _

theorem instantiate_allowlist {deps : Deps} {env : Env} {msg : InstantiateMsg}
    {storage after : Storage} {response : Response ContractMsg}
    (returned : instantiate deps env msg storage = .ok response after) :
    after.config.isSome = true ∧
      ∀ addr, after.allowlist.contains addr = true ↔
        addr ∈ addresses deps (msg.allowlist.getD []) ∨ storage.allowlist.contains addr = true := by
  simp only [instantiate, bind_eq_ok, ofExcept_eq_ok, ofPanics_eq_ok, saveConfig,
    setContractVersion, writes_eq_ok, pure_eq_ok] at returned
  obtain ⟨_, _, ⟨_, rfl⟩, _, _, ⟨_, rfl⟩, _, _, rfl, _, _, added, _, _, rfl, _, rfl⟩ := returned
  have listed := (updateLoops deps).added added
  obtain ⟨allowlist, rfl⟩ := addToAllowlist_ok added
  refine ⟨rfl, ?_⟩
  intro addr
  have here : allowlist.contains addr = _ := listed addr
  rw [here, Bool.or_eq_true, decide_eq_true_eq]

theorem effect_allowlist [Wire] {deps : Deps} {env : Env} {action : Action}
    {storage after : Storage} {response : Response ContractMsg}
    (installs : ∀ msg, action ≠ .instantiate msg)
    (updates : ∀ info add remove, action ≠ .execute info (.updateAllowlist add remove))
    (effect : Effect deps env storage action response after) :
    after.allowlist = storage.allowlist := by
  cases effect with
  | instantiated => exact (installs _ rfl).elim
  | requested request => cases request.asked <;> rfl
  | allowlisted => exact (updates _ _ _ rfl).elim
  | configured => rfl
  | withdrawn => rfl
  | migrated => rfl
  | connected => rfl
  | closed => rfl
  | delivered => rfl
  | welcomed => rfl
  | priced => rfl
  | idle => rfl

theorem effect_configured [Wire] {deps : Deps} {env : Env} {action : Action}
    {storage after : Storage} {response : Response ContractMsg}
    (effect : Effect deps env storage action response after)
    (configured : storage.config.isSome = true) : after.config.isSome = true := by
  cases effect with
  | instantiated => rfl
  | requested request => cases request.asked <;> exact configured
  | allowlisted => exact configured
  | configured => rfl
  | withdrawn => exact configured
  | migrated => rfl
  | connected => exact configured
  | closed => exact configured
  | delivered => exact configured
  | welcomed => rfl
  | priced => simpa using configured
  | idle => exact configured

section

variable [Wire] {deps : Deps} {contract : Addr} {tx : Tx}

theorem allowlisting_installs {initial : List String}
    (installs : (allowlisting deps contract).installs tx = some initial) :
    ∃ msg : InstantiateMsg, tx.action = .instantiate msg ∧ msg.allowlist.getD [] = initial := by
  simp only [allowlisting] at installs
  split at installs
  · rename_i msg action
    exact ⟨msg, action, Option.some.inj installs⟩
  · cases installs

theorem allowlisting_updates {update : AllowlistUpdate}
    (updates : (allowlisting deps contract).updates tx = some update) :
    ∃ info : MessageInfo, tx.action = .execute info (.updateAllowlist update.add update.remove) ∧
      info.sender = update.sender := by
  simp only [allowlisting] at updates
  split at updates
  · rename_i info add remove action
    cases updates
    exact ⟨info, action, rfl⟩
  · cases updates

theorem allowlisting_implemented (deps : Deps) (contract : Addr) :
    (allowlisting deps contract).Implemented deps where
  uninstalled := rfl
  unlisted _ := rfl
  exclusive := by
    intro tx initial installs
    obtain ⟨msg, action, _⟩ := allowlisting_installs installs
    simp [allowlisting, action]
  stays returned := effect_configured (perform_effect returned)
  managed := by
    intro storage addr manager
    obtain ⟨config, configured, _⟩ := Option.bind_eq_some_iff.mp manager
    exact Option.isSome_iff_exists.mpr ⟨config, configured⟩
  installation := by
    intro tx storage response after initial installs admitted returned
    obtain ⟨msg, action, rfl⟩ := allowlisting_installs installs
    change admits storage tx = true at admitted
    change perform deps contract tx storage = _ at returned
    simp only [admits, action, Bool.and_eq_true, Option.isNone_iff_eq_none] at admitted
    simp only [perform, action, mapError_eq_ok] at returned
    obtain ⟨configured, listed⟩ := instantiate_allowlist returned
    refine ⟨?_, configured, listed⟩
    simp [allowlisting, admitted.2]
  updated := by
    intro tx storage update updates entitled
    obtain ⟨info, action, sender⟩ := allowlisting_updates updates
    obtain ⟨managed, valid⟩ := entitled
    rw [← sender] at managed
    obtain ⟨response, after, returned, applied⟩ := executeUpdateAllowlist_valid managed valid
    refine ⟨response, after, ?_, applied⟩
    change perform deps contract tx storage = _
    simp only [perform, action]
    exact returned
  refused := by
    intro tx storage update updates unentitled
    obtain ⟨info, action, sender⟩ := allowlisting_updates updates
    rw [Allowlisting.Entitled, ← sender] at unentitled
    change Fails (perform deps contract tx) storage
    simp only [perform, action]
    exact executeUpdateAllowlist_fails unentitled
  other := by
    intro tx storage response after installs updates returned
    have effect : Effect deps (tx.env contract) storage tx.action response after :=
      perform_effect returned
    change after.allowlist.contains = storage.allowlist.contains
    rw [effect_allowlist ?_ ?_ effect]
    · intro msg action
      simp [allowlisting, action] at installs
    · intro info add remove action
      simp [allowlisting, action] at updates

/-- A request leaves the proxy only for a member of the enabled list. -/
def Gated (deps : Deps) (contract : Addr) : Prop :=
  ∀ tx storage response after config channel data timeout,
    perform deps contract tx storage = .ok response after → storage.config = some config →
      config.allowlistEnabled = some true → .ibcSendPacket channel data timeout ∈ response.msgs →
      ∃ info msg time jobId, tx.action = .execute info msg ∧
        data =
          Wire.inPacket.toJsonBinary
            (.requestBeacon time (Wire.origin.toJsonBinary ⟨info.sender, jobId⟩)) ∧
        info.sender ∈ queryAllowlist storage

theorem perform_gated (deps : Deps) (contract : Addr) : Gated deps contract := by
  intro tx storage response after config channel data timeout returned configured enabled sent
  rcases effect_traffic (perform_effect returned) with request | delivery | silent
  · obtain ⟨info, msg, found, time, jobId, connected, action, request⟩ := request
    have allowed := request.admitted.allowed
    rw [request.configured] at configured
    cases configured
    obtain ⟨transfers, deadline, transferred, _, messages⟩ := request.sent
    rw [messages, List.mem_append, List.mem_singleton] at sent
    rcases sent with transfer | packet
    · obtain ⟨_, _, _, _, _, _, other⟩ := transferMsgs_ok transferred transfer
      cases other
    · cases packet
      refine ⟨info, msg, time, jobId, action, rfl, ?_⟩
      rw [queryAllowlist, (keys_listedOnce _).2]
      exact allowed (by rw [enabled, Option.getD_some])
  · obtain ⟨_, _, _, _, _, _, _, _, _, messages⟩ := delivery
    rw [messages] at sent
    simp at sent
  · exact ((silent _ sent).1 _ _ _ rfl).elim

end

end Proxy

namespace Drand

def queryAllowlist (storage : Storage) : List Addr := storage.allowlist.toList.map Prod.fst

def queryIsAllowlisted (deps : Deps) (storage : Storage) (bot : String) : Except StdError Bool := do
  let botAddr ← deps.addrValidate bot
  let listed := storage.allowlist.contains botAddr
  pure listed

theorem queryIsAllowlisted_eq (deps : Deps) (storage : Storage) (bot : String) :
    queryIsAllowlisted deps storage bot =
      (deps.addrValidate bot).map storage.allowlist.contains := by
  unfold queryIsAllowlisted
  cases deps.addrValidate bot <;> rfl

/-- The allowlist of nois-drand for the host. It starts empty. -/
def allowlisting (host : Host) (contract : Addr) :
    Allowlisting Storage Tx ContractError (Response ContractMsg) where
  system := system host contract
  start := Storage.empty
  installed storage := storage.config.isSome
  manager storage := storage.config.map Config.manager
  has storage := storage.allowlist.contains
  installs tx := match tx.action with
    | .instantiate _ => some []
    | _ => none
  updates tx := match tx.action with
    | .execute info (.updateAllowlistBots add remove) => some ⟨info.sender, add, remove⟩
    | _ => none
  queryAllowlist := queryAllowlist
  queryIsAllowlisted := queryIsAllowlisted host.toDeps

theorem addBots_visits (deps : Deps) : Visits deps
    (fun storage addr => if storage.allowlist.contains addr then storage
      else { storage with allowlist := storage.allowlist.insert addr () }) (addBots deps) where
  done := rfl
  next _ _ := rfl

theorem removeBots_visits (deps : Deps) : Visits deps
    (fun storage addr => if storage.allowlist.contains addr then
      { storage with allowlist := storage.allowlist.erase addr }
        else storage) (removeBots deps) where
  done := rfl
  next _ _ := rfl

/-- Skipping what is listed already, or not listed, makes no difference to the members. -/
theorem updateLoops (deps : Deps) : UpdateLoops deps (fun storage => storage.allowlist.contains)
    (addBots deps) (removeBots deps) where
  adding := by
    refine ⟨_, addBots_visits deps, ?_⟩
    intro storage added addr
    split
    · rename_i listed
      by_cases same : added = addr
      · simp [← same, listed]
      · simp [same]
    · exact contains_insert _ _ _ _
  removing := by
    refine ⟨_, removeBots_visits deps, ?_⟩
    intro storage removed addr
    split
    · exact contains_erase _ _ _
    · rename_i unlisted
      rw [Bool.not_eq_true] at unlisted
      by_cases same : removed = addr
      · simp only [← same, unlisted, Bool.and_false]
      · simp [same]

theorem executeUpdateAllowlistBots_valid {deps : Deps} {info : MessageInfo}
    {add remove : List String} {storage : Storage}
    (managed : storage.config.map Config.manager = some info.sender)
    (valid : ValidAddresses deps (add ++ remove)) :
    ∃ response after, executeUpdateAllowlistBots deps info add remove storage = .ok response after ∧
      members after.allowlist.contains =
        Update.apply ⟨addresses deps add, addresses deps remove⟩
          (members storage.allowlist.contains) := by
  obtain ⟨middle, after, added, removed, applied⟩ := (updateLoops deps).valid valid storage
  obtain ⟨config, configured, named⟩ := Option.map_eq_some_iff.mp managed
  refine ⟨{}, after, ?_, applied⟩
  simp only [executeUpdateAllowlistBots, bind_eq_ok, mapError_eq_ok, loadConfig_eq_ok, ensure_eq_ok,
    pure_eq_ok]
  exact ⟨config, storage, ⟨configured, rfl⟩, (), storage, ⟨named.symm, rfl⟩, (), middle, added, (),
    after, removed, trivial, rfl⟩

theorem executeUpdateAllowlistBots_fails {deps : Deps} {info : MessageInfo}
    {add remove : List String} {storage : Storage}
    (refused :
      ¬(storage.config.map Config.manager = some info.sender ∧
        ValidAddresses deps (add ++ remove))) :
    Fails (executeUpdateAllowlistBots deps info add remove) storage := by
  cases configured : storage.config with
  | none =>
      exact Fails.bind
        ⟨_, _, mapError_eq_error.mpr ⟨_, loadConfig_eq_error.mpr ⟨configured, rfl, rfl⟩, rfl⟩⟩ _
  | some config =>
      rw [configured, Option.map_some, Option.some.injEq] at refused
      refine .later (mapError_eq_ok.mpr (loadConfig_eq_ok.mpr ⟨configured, rfl⟩)) ?_
      by_cases managed : info.sender = config.manager
      · have invalid : ¬ValidAddresses deps (add ++ remove) :=
          fun valid => refused ⟨managed.symm, valid⟩
        have passed : (ensure (info.sender = config.manager) .unauthorized :
            Call Storage ContractError Unit) storage =
            .ok () storage :=
          ensure_eq_ok.mpr ⟨managed, rfl⟩
        refine .later passed ?_
        rcases (updateLoops deps).invalid invalid storage with failed | ⟨middle, added, failed⟩
        · exact (failed.mapError _).bind _
        · exact .later (mapError_eq_ok.mpr added) ((failed.mapError _).bind _)
      · exact Fails.bind ⟨_, _, ensure_eq_error.mpr ⟨managed, rfl, rfl⟩⟩ _

theorem Added.sameSettings {host : Host} {env : Env} {balances : List Coin} {info : MessageInfo}
    {round : Nat} {signature : Binary} {storage after : Storage} {response : Response ContractMsg}
    {config : Config} {payout : Coin}
    (added : Added host env balances info round signature storage response after config payout) :
    after.config = storage.config ∧ after.allowlist = storage.allowlist := by
  have credited (before : Storage) (points : Nat) :
      (before.creditBot info.sender points).config = before.config ∧
        (before.creditBot info.sender points).allowlist = before.allowlist := by
    unfold Storage.creditBot
    split <;> exact ⟨rfl, rfl⟩
  have kept (before : Storage) (beacon : VerifiedBeacon) :
      (before.keepBeacon round beacon).config = before.config ∧
        (before.keepBeacon round beacon).allowlist = before.allowlist := by
    unfold Storage.keepBeacon
    split <;> exact ⟨rfl, rfl⟩
  rw [added.changed, (kept _ _).1, (kept _ _).2, (credited _ _).1, (credited _ _).2]
  exact ⟨rfl, rfl⟩

theorem perform_configured {host : Host} {contract : Addr} {tx : Tx} {storage after : Storage}
    {response : Response ContractMsg}
    (returned : perform host contract tx storage = .ok response after)
    (configured : storage.config.isSome = true) : after.config.isSome = true := by
  rcases perform_cases returned with ⟨_, _, _, _, _, _, added, _⟩ | ⟨_, _, administered⟩
  · rw [added.sameSettings.1]
    exact configured
  · generalize tx.action = action at administered
    cases administered with
    | instantiated => rfl
    | registered => exact configured
    | incentivized => exact configured
    | allowlisted => exact configured
    | configured => rfl
    | migrated => exact configured

section

variable {host : Host} {contract : Addr} {tx : Tx}

theorem perform_allowlist {storage after : Storage} {response : Response ContractMsg}
    (updates : (allowlisting host contract).updates tx = none)
    (returned : perform host contract tx storage = .ok response after) :
    after.allowlist = storage.allowlist := by
  rcases perform_cases returned with ⟨_, _, _, _, _, _, added, _⟩ | ⟨_, _, administered⟩
  · exact added.sameSettings.2
  · generalize taken : tx.action = action at administered
    cases administered with
    | allowlisted => simp [allowlisting, taken] at updates
    | instantiated => rfl
    | registered => rfl
    | incentivized => rfl
    | configured => rfl
    | migrated => rfl

theorem allowlisting_installs {initial : List String}
    (installs : (allowlisting host contract).installs tx = some initial) :
    ∃ msg, tx.action = .instantiate msg ∧ initial = [] := by
  simp only [allowlisting] at installs
  split at installs
  · rename_i msg action
    exact ⟨msg, action, (Option.some.inj installs).symm⟩
  · cases installs

theorem allowlisting_updates {update : AllowlistUpdate}
    (updates : (allowlisting host contract).updates tx = some update) :
    ∃ info : MessageInfo,
      tx.action = .execute info (.updateAllowlistBots update.add update.remove) ∧
        info.sender = update.sender := by
  simp only [allowlisting] at updates
  split at updates
  · rename_i info add remove action
    cases updates
    exact ⟨info, action, rfl⟩
  · cases updates

theorem allowlisting_implemented (host : Host) (contract : Addr) :
    (allowlisting host contract).Implemented host.toDeps where
  uninstalled := rfl
  unlisted _ := rfl
  exclusive := by
    intro tx initial installs
    obtain ⟨msg, action, _⟩ := allowlisting_installs installs
    simp [allowlisting, action]
  stays returned := perform_configured returned
  managed := by
    intro storage addr manager
    obtain ⟨config, configured, _⟩ := Option.map_eq_some_iff.mp manager
    exact Option.isSome_iff_exists.mpr ⟨config, configured⟩
  installation := by
    intro tx storage response after initial installs admitted returned
    obtain ⟨msg, action, rfl⟩ := allowlisting_installs installs
    change admits storage tx = true at admitted
    have same : after.allowlist = storage.allowlist :=
      @perform_allowlist host contract tx _ _ _ (by simp [allowlisting, action]) returned
    change perform host contract tx storage = _ at returned
    simp only [admits, action, Bool.and_eq_true, Option.isNone_iff_eq_none] at admitted
    simp only [perform, action, instantiate, bind_eq_ok, mapError_eq_ok, ofExcept_eq_ok, saveConfig,
      setContractVersion, writes_eq_ok, pure_eq_ok] at returned
    obtain ⟨_, _, ⟨_, rfl⟩, _, _, rfl, _, _, rfl, _, rfl⟩ := returned
    refine ⟨?_, rfl, ?_⟩
    · simp [allowlisting, admitted.2]
    · intro addr
      simp [allowlisting, addresses]
  updated := by
    intro tx storage update updates entitled
    obtain ⟨info, action, sender⟩ := allowlisting_updates updates
    obtain ⟨managed, valid⟩ := entitled
    rw [← sender] at managed
    obtain ⟨response, after, returned, applied⟩ := executeUpdateAllowlistBots_valid managed valid
    refine ⟨response, after, ?_, applied⟩
    change perform host contract tx storage = _
    simp only [perform, action]
    exact returned
  refused := by
    intro tx storage update updates unentitled
    obtain ⟨info, action, sender⟩ := allowlisting_updates updates
    rw [Allowlisting.Entitled, ← sender] at unentitled
    change Fails (perform host contract tx) storage
    simp only [perform, action]
    exact executeUpdateAllowlistBots_fails unentitled
  other := by
    intro tx storage response after _ updates returned
    change after.allowlist.contains = storage.allowlist.contains
    rw [perform_allowlist updates returned]

end

end Drand

theorem allowlists_sound [Wire] (deps : Deps) (host : Drand.Host) (proxy drand : Addr) :
    (Proxy.allowlisting deps proxy).Sound deps ∧ (Drand.allowlisting host drand).Sound host.toDeps ∧
      Proxy.Gated deps proxy := by
  refine ⟨?_, ?_, Proxy.perform_gated deps proxy⟩
  · apply (Proxy.allowlisting_implemented deps proxy).sound
    · intro storage
      exact keys_listedOnce storage.allowlist
    · exact Proxy.queryIsAllowlisted_eq deps
  · apply (Drand.allowlisting_implemented host drand).sound
    · intro storage
      exact keys_listedOnce storage.allowlist
    · exact Drand.queryIsAllowlisted_eq host.toDeps

end NoisContracts
