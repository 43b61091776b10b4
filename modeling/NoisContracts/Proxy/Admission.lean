import NoisContracts.Gateway.Core
import NoisContracts.Proxy.Writers

/-!
What the proxy admits, the gateway admits. The limit of the proxy on job ids keeps the
origin of a request below the limit of the gateway, although the JSON of a job id can be
six times as long as the job id. The latest time that a proxy accepts keeps the round of a
request in the range of the queues.
-/

namespace NoisContracts.Proxy

open ContractCall ContractCall.Call OrderedStore TextFormat ProtocolJson

/-- The characters of addresses. JSON escapes none of them. -/
def addressChar (char : Char) : Bool :=
  33 ≤ char.toNat && char.toNat ≤ 126 && char ≠ '"' && char ≠ '\\'

structure Bech32 (address : Addr) : Prop where
  short : address.length ≤ 90
  plain : address.toList.all addressChar = true

theorem addressChar_plain {char : Char} (known : addressChar char = true) :
    escapeChar char = [char] ∧ char.utf8Size = 1 := by
  simp only [addressChar, ne_eq, decide_not, Bool.and_eq_true, decide_eq_true_eq, Bool.not_eq_true',
    decide_eq_false_iff_not] at known
  obtain ⟨⟨⟨printable, ascii⟩, noQuote⟩, noBackslash⟩ := known
  have visible {other : Char} (control : other.toNat < 32) : char ≠ other := by
    rintro rfl
    omega
  refine ⟨?_, ?_⟩
  · unfold escapeChar
    rw [if_neg noQuote, if_neg noBackslash, if_neg (visible (by decide)),
      if_neg (visible (by decide)), if_neg (visible (by decide)), if_neg (by omega),
      if_neg (by omega), if_neg (by omega)]
  · rw [Char.utf8Size_eq_one_iff, UInt32.le_iff_toNat_le]
    change char.toNat ≤ 127
    omega

theorem Bech32.escaped {address : Addr} (bech32 : Bech32 address) :
    byteLength (escape address.toList) ≤ 90 := by
  have plain := List.all_eq_true.mp bech32.plain
  rw [escape_plain fun char member => (addressChar_plain (plain char member)).1, byteLength]
  have sizes : address.toList.map Char.utf8Size = address.toList.map fun _ => 1 :=
    List.map_congr_left fun char member => (addressChar_plain (plain char member)).2
  have short := bech32.short
  simp only [sizes, List.map_const', List.sum_replicate, smul_eq_mul, mul_one, String.length_toList]
  exact short

/-- The worst case has 499 bytes. -/
theorem origin_length {sender : Addr} {jobId : String} (bech32 : Bech32 sender)
    (shortId : jobId.utf8ByteSize ≤ maxJobIdLen) :
    (jsonWire.origin.toJsonBinary ⟨sender, jobId⟩).length ≤ Gateway.maxOriginLen := by
  have senderLength := bech32.escaped
  have idLength := byteLength_escape jobId.toList
  rw [byteLength_toList] at idLength
  have names :
      byteLength (escape "sender".toList) = 6 ∧ byteLength (escape "job_id".toList) = 6 := by
    decide
  have marks :
      ('{').utf8Size = 1 ∧ ('}').utf8Size = 1 ∧ (':').utf8Size = 1 ∧ (',').utf8Size = 1 := by
    decide
  change (encodeUtf8 (writeRecord (writeOrigin ⟨sender, jobId⟩))).length ≤ _
  rw [length_encodeUtf8]
  simp only [writeOrigin, writeRecord, writeMember, writeMembers, byteLength_cons,
    byteLength_append, byteLength_nil, byteLength_quote]
  unfold maxJobIdLen at shortId
  unfold Gateway.maxOriginLen
  omega

structure OriginAdmitted [Wire] (sender : Addr) (jobId : String) (origin : Binary) : Prop where
  short : origin.length ≤ 512
  valid : Gateway.validateOrigin origin = .ok ()
  returned : ∀ published randomness storage config, storage.config = some config →
    ∃ response, receiveDeliverBeacon published randomness origin storage = .ok response storage ∧
      response.msgs = [.wasmExecute sender (.noisReceive ⟨jobId, published, randomness⟩) []]

theorem receiveDeliverBeacon_origin [Wire] {sender : Addr} {jobId : String} {published : Timestamp}
    {randomness : Binary} {storage : Storage} {config : Config}
    (configured : storage.config = some config) :
    ∃ response,
      receiveDeliverBeacon published randomness (Wire.origin.toJsonBinary ⟨sender, jobId⟩) storage =
        .ok response storage ∧
        response.msgs = [.wasmExecute sender (.noisReceive ⟨jobId, published, randomness⟩) []] := by
  have loaded : mapError ContractError.std loadConfig storage = .ok config storage :=
    mapError_eq_ok.mpr (loadConfig_eq_ok.mpr ⟨configured, rfl⟩)
  have decoded : mapError ContractError.std
      (ofExcept (Wire.origin.fromJson (Wire.origin.toJsonBinary ⟨sender, jobId⟩))) storage =
        .ok ⟨sender, jobId⟩ storage := by
    rw [Json.fromJson_toJsonBinary]
    exact mapError_eq_ok.mpr rfl
  simp only [receiveDeliverBeacon, bind_apply, loaded, andThen_ok, decoded, pure_apply]
  exact ⟨_, rfl, rfl⟩

theorem originAdmitted {sender : Addr} {jobId : String} (bech32 : Bech32 sender)
    (accepted : validateJobId jobId = .ok ()) :
    @OriginAdmitted jsonWire sender jobId (jsonWire.origin.toJsonBinary ⟨sender, jobId⟩) := by
  have shortId : jobId.utf8ByteSize ≤ maxJobIdLen := by
    unfold validateJobId at accepted
    split at accepted
    · cases accepted
    · omega
  have short := origin_length bech32 shortId
  refine @OriginAdmitted.mk jsonWire _ _ _ short ?_ ?_
  · rw [Gateway.validateOrigin, if_neg (by omega)]
  · intro published randomness storage config configured
    exact @receiveDeliverBeacon_origin jsonWire _ _ _ _ _ _ configured

/-- The seconds up to which the limits may be taken from the clock. -/
def latestClock : Nat := 14000000000

def LimitedByClock (storage : Storage) : Prop :=
  ∀ config limit, storage.config = some config → config.maxAfter = some limit →
    limit.nanos ≤ (latestClock + tenYearsS) * 1000000000

theorem roundNumber_u32 {time : Timestamp}
    (limited : time.nanos ≤ (latestClock + tenYearsS) * 1000000000) :
    roundNumber time ≤ 2 ^ 32 - 1 := by
  have genesis : drandGenesis.nanos = 1677685200000000000 := rfl
  unfold latestClock tenYearsS at limited
  unfold roundNumber drandRoundLength
  split <;> omega

def Action.readsClock : Action → Bool
  | .instantiate _ => true
  | .migrate => true
  | _ => false

section

variable [Wire]

/-- The transaction takes the limit from the clock, or leaves it alone. -/
def limitsByClock (deps : Deps) (contract : Addr) (world : World) (tx : Tx) : Bool :=
  decide (tx.action.readsClock = true → tx.block.time.nanos ≤ latestClock * 1000000000) &&
    ((tx.action.sets.bind SetConfig.maxAfter).isNone || (attempt deps contract world tx).isNone)

theorem LimitedByClock.step {deps : Deps} {contract : Addr} {world next : World} {tx : Tx}
    (limited : LimitedByClock world.storage) (byClock : limitsByClock deps contract world tx = true)
    (committed : attempt deps contract world tx = some next) : LimitedByClock next.storage := by
  obtain ⟨_, response, after, effect, same⟩ := attempt_effect committed
  rw [same]
  have kept (config : after.config = world.storage.config) : LimitedByClock after := by
    unfold LimitedByClock
    rw [config]
    exact limited
  simp only [limitsByClock, committed, Option.isNone_some, Bool.or_false, Bool.and_eq_true,
    decide_eq_true_eq, Option.isNone_iff_eq_none] at byClock
  obtain ⟨early, unset⟩ := byClock
  have tenYears {limit : Timestamp} (reads : tx.action.readsClock = true)
      (years : tx.block.time.plusSeconds tenYearsS = .ok limit) :
      limit.nanos ≤ (latestClock + tenYearsS) * 1000000000 := by
    have before := early reads
    rw [Timestamp.plusSeconds_eq_ok] at years
    omega
  generalize taken : tx.action = action at effect
  cases effect with
  | instantiated named years messages =>
      intro config limit stored found
      cases stored
      cases found
      exact tenYears (by rw [taken]; rfl) years
  | requested request =>
      apply kept
      cases request.asked <;> rfl
  | @configured _ change config manager response sets configured authorized named messages =>
      intro changed limit stored found
      cases stored
      rw [taken, sets, Option.bind_some] at unset
      simp only [Config.update, unset, Option.none_or] at found
      exact limited config limit configured found
  | withdrawn => exact kept rfl
  | allowlisted => exact kept rfl
  | @migrated config maxAfter version response configured chosen messages =>
      intro changed limit stored found
      cases stored
      cases found
      cases before : config.maxAfter with
      | some time =>
          rw [before] at chosen
          cases chosen
          exact limited config maxAfter configured before
      | none =>
          rw [before] at chosen
          exact tenYears (by rw [taken]; rfl) chosen
  | connected => exact kept rfl
  | closed => exact kept rfl
  | delivered => exact kept rfl
  | welcomed decoded configured =>
      intro changed limit stored found
      cases stored
      exact limited _ limit configured found
  | priced carries messages =>
      intro changed limit stored found
      obtain ⟨config, configured, repriced⟩ := Option.map_eq_some_iff.mp stored
      rw [← repriced, reprice_eq] at found
      exact limited config limit configured found
  | idle => exact kept rfl

theorem LimitedByClock.run {deps : Deps} {contract : Addr} {world : World} (txs : List Tx)
    (limited : LimitedByClock world.storage)
    (along :
      Runs.Along (attempt deps contract)
        (fun state tx => limitsByClock deps contract state tx = true) world txs) :
    LimitedByClock (Runs.run (attempt deps contract) world txs).storage := by
  refine @Runs.run_invariant_along _ _ (attempt deps contract) _
    (fun state => LimitedByClock state.storage) ?_ txs world limited along
  intro state tx next byClock before committed
  exact before.step byClock committed

theorem LimitedByClock.requested {env : Env} {info : MessageInfo} {msg : ExecuteMsg}
    {storage final : Storage} {response : Response ContractMsg} {config : Config} {time : Timestamp}
    {jobId channel : String} (limited : LimitedByClock storage)
    (request : Requested env info msg storage response final config time jobId channel) :
    roundNumber time ≤ 2 ^ 32 - 1 := by
  apply roundNumber_u32
  have late := request.admitted.late
  cases found : config.maxAfter with
  | some limit =>
      rw [found, Option.getD_some] at late
      exact Nat.le_trans late (limited config limit request.configured found)
  | none =>
      -- a proxy that was not migrated has a fixed limit
      rw [found, Option.getD_none] at late
      refine Nat.le_trans late ?_
      decide

end

theorem admitted_by_gateway :
    (∀ sender jobId, Bech32 sender → validateJobId jobId = .ok () →
      @OriginAdmitted jsonWire sender jobId (jsonWire.origin.toJsonBinary ⟨sender, jobId⟩)) ∧
      ∀ (_ : Wire) (deps : Deps) (contract : Addr) (world : World) (txs : List Tx),
        world.storage.config.bind Config.maxAfter = none →
          Runs.Along (attempt deps contract)
            (fun state tx => limitsByClock deps contract state tx = true) world txs →
          ∀ env balances info msg response final, msg.requests = true →
            execute deps env balances info msg
              (Runs.run (attempt deps contract) world txs).storage =
              .ok response final →
            ∃ config time jobId channel,
              Requested env info msg (Runs.run (attempt deps contract) world txs).storage response
                final config time jobId channel ∧
                ∃ round, roundAfter time = .ok round ∧ round ≤ 2 ^ 32 - 1 ∧
                  Gateway.roundToU32 round = .ok round := by
  refine ⟨fun sender jobId => originAdmitted, ?_⟩
  intro _ deps contract world txs unlimited along env balances info msg response final requests
    returned
  have limited : LimitedByClock world.storage := by
    intro config limit configured found
    simp [configured, found] at unlimited
  obtain ⟨config, time, jobId, channel, request⟩ := requested_packet requests returned
  have fits := (limited.run txs along).requested request
  refine ⟨config, time, jobId, channel, request, roundNumber time, roundAfter_eq time, fits, ?_⟩
  rw [Gateway.roundToU32, if_pos (by omega)]

def controlId : String := String.ofList (List.replicate 64 (Char.ofNat 1))

section

attribute [local instance] jsonWire

def farRequest : ExecuteMsg := .getRandomnessAfter (seconds 1900000000 (by decide)) controlId

def farEnv : Env := ⟨startBlock, some 9, proxyContract⟩

def payer : MessageInfo := ⟨dapp, [unoisx 1000000 NoisHost.million_lt]⟩

theorem admitted_by_gateway_control_characters :
    OriginAdmitted dapp controlId (jsonWire.origin.toJsonBinary ⟨dapp, controlId⟩) ∧
      ∃ response final config time jobId channel,
        Requested farEnv payer farRequest (reached NoisHost.deps proxyContract setup).storage
          response final config time jobId channel ∧
          ∃ round, roundAfter time = .ok round ∧ round ≤ 2 ^ 32 - 1 ∧
            Gateway.roundToU32 round = .ok round := by
  obtain ⟨origins, rounds⟩ := admitted_by_gateway
  have returns : (match execute NoisHost.deps farEnv [] payer farRequest
      (reached NoisHost.deps proxyContract setup).storage with
    | .ok _ _ => true
    | _ => false) = true := by decide +kernel
  refine ⟨origins dapp controlId ⟨by decide, by decide⟩ (by decide +kernel), ?_⟩
  split at returns
  · rename_i response final returned
    obtain ⟨config, time, jobId, channel, fits⟩ :=
      rounds jsonWire NoisHost.deps proxyContract ⟨Storage.empty, []⟩ setup rfl (by decide +kernel)
        farEnv [] payer farRequest response final rfl returned
    exact ⟨response, final, config, time, jobId, channel, fits⟩
  · cases returns

end

end NoisContracts.Proxy
