import NoisContracts.Gateway.Accounting
import NoisContracts.ProtocolJson

/-!
Packets that arrive at the gateway. The entry point is declared infallible: it turns
every error into an error acknowledgement. What remains are the panics of the
arithmetic on its path.
-/

namespace NoisContracts.Gateway

open ContractCall ContractCall.Call OrderedStore

def refuses (response : Response ContractMsg) : Bool :=
  match response.acknowledgement with
  | some (.error _) => true
  | _ => false

section

variable [Wire]

/-- A packet that the gateway must refuse: it does not decode, or its origin is too long. -/
def Refusable (msg : IbcPacketReceiveMsg) : Prop :=
  (∃ undecoded, Wire.inPacket.fromJson msg.data = .error undecoded) ∨
    ∃ base origin, Wire.inPacket.fromJson msg.data = .ok (.requestBeacon base origin) ∧
      maxOriginLen < origin.length

/-- In every run, a packet is refused exactly when it is refusable, and a refused
packet leaves the storage as it was and sends nothing. -/
theorem refused_packet_leaves_no_trace (deps : Deps) (contract : Addr) (txs : List Tx) (env : Env)
    (msg : IbcPacketReceiveMsg)
    (connected : msg.destChannel ∈ (reached deps contract txs).connected)
    (response : Response ContractMsg) (after : Storage)
    (returned : ibcPacketReceive env msg (reached deps contract txs).storage = .ok response after) :
    (refuses response = true →
      after = (reached deps contract txs).storage ∧ response.messages = []) ∧
      (refuses response = true ↔ Refusable msg) := by
  have registered := reached_registered deps contract txs
  generalize reached deps contract txs = world at *
  cases ibcPacketReceive_ok returned with
  | @request base origin response after decoded accepted =>
      have accepts : refuses response = false := by
        obtain ⟨entry, _, _, _, answer⟩ := accepted.logged
        cases queued : entry.queued <;> simp [refuses, answer, queued, queuedAck, processedAck]
      have short : origin.length ≤ maxOriginLen := by
        cases accepted
        assumption
      refine ⟨by simp [accepts], ?_⟩
      simp only [accepts, Bool.false_eq_true, false_iff]
      rintro (⟨undecoded, broken⟩ | ⟨otherBase, otherOrigin, decodedAgain, long⟩)
      · simp [decoded] at broken
      · rw [decoded] at decodedAgain
        cases decodedAgain
        omega
  | price decoded configured =>
      refine ⟨by simp [refuses], ?_⟩
      simp [refuses, Refusable, decoded]
  | failure failed =>
      obtain ⟨rfl, reason⟩ := registered.received_failure connected failed
      refine ⟨fun _ => ⟨rfl, rfl⟩, ?_⟩
      simp only [refuses, failureResponse, true_iff]
      rcases reason with ⟨undecoded, broken, _⟩ | ⟨base, origin, decoded, long, _⟩
      · exact .inl ⟨undecoded, broken⟩
      · exact .inr ⟨base, origin, decoded, long⟩

/-- No number on the path of a beacon request exceeds its type. -/
def RequestFits (env : Env) (channelId : String) (base : Timestamp) (storage : Storage) : Prop :=
  (match archiveLookup storage (roundNumber base) with
    | some _ => getProcessedDrandJobs storage (roundNumber base) + 1 < 2 ^ 32 ∧
        env.block.time.nanos + deliverBeaconPacketLifetime * 1000000000 < 2 ^ 64
    | none => roundNumber base < 2 ^ 32 ∧ storage.nextJobId (roundNumber base) < 2 ^ 16) ∧
  ∀ customer, storage.customers[channelId]? = some customer → customer.requestedBeacons + 1 < 2 ^ 64

theorem routed_of_fits {env : Env} {channelId : String} {base : Timestamp} {storage : Storage}
    (origin : Binary) {config : Config} (configured : storage.config = some config)
    (archived : ∀ randomness, storage.archive[roundNumber base]? = some randomness →
      roundNumber base < 2 ^ 32)
    (fits : RequestFits env channelId base storage) :
    ∃ receipt routed, Routed env channelId base origin storage receipt routed := by
  obtain ⟨path, _⟩ := fits
  cases stored : archiveLookup storage (roundNumber base) with
  | some randomness =>
      simp only [stored] at path
      obtain ⟨published, time⟩ :=
        timeOfRound_u32 (roundNumber_pos base) (archived randomness stored)
      have deadline : env.block.time.plusSeconds deliverBeaconPacketLifetime = .ok ⟨_, path.2⟩ :=
        Timestamp.plusSeconds_eq_ok.mpr rfl
      exact ⟨_, _, .processed stored path.1 time deadline⟩
  | none =>
      simp only [stored] at path
      exact ⟨_, _, .queued stored path.1 path.2 configured⟩

theorem fits_of_routed {env : Env} {channelId : String} {base : Timestamp} {origin : Binary}
    {storage routed : Storage} {receipt : RoutingReceipt} {customer : Customer}
    (known : storage.customers[channelId]? = some customer)
    (counted : customer.requestedBeacons + 1 < 2 ^ 64)
    (route : Routed env channelId base origin storage receipt routed) :
    RequestFits env channelId base storage := by
  refine ⟨?_, ?_⟩
  · cases route with
    | @processed randomness published timeout archived processed time deadline =>
        rw [Timestamp.plusSeconds_eq_ok] at deadline
        simp only [archived]
        exact ⟨processed, deadline ▸ timeout.isU64⟩
    | queued missing small free configured =>
        simp only [missing]
        exact ⟨small, free⟩
  · intro other found
    rw [known] at found
    cases found
    exact counted

theorem accepted_of_fits {env : Env} {msg : IbcPacketReceiveMsg} {base : Timestamp}
    {origin : Binary} {storage : Storage} {customer : Customer} {config : Config}
    (decoded : Wire.inPacket.fromJson msg.data = .ok (.requestBeacon base origin))
    (short : origin.length ≤ maxOriginLen) (configured : storage.config = some config)
    (known : storage.customers[msg.destChannel]? = some customer)
    (archived : ∀ randomness, storage.archive[roundNumber base]? = some randomness →
      roundNumber base < 2 ^ 32) (fits : RequestFits env msg.destChannel base storage) :
    ∃ response after, ibcPacketReceive env msg storage = .ok response after ∧
      Accepted env msg.destChannel msg.relayer base origin storage response after := by
  obtain ⟨receipt, routed, route⟩ := routed_of_fits origin configured archived fits
  have opens : (mapError .std (ofExcept (Wire.inPacket.fromJson msg.data)) :
      Call Storage ContractError InPacket) storage = .ok (.requestBeacon base origin) storage :=
    mapError_eq_ok.mpr (by simp [decoded])
  have accepted : Accepted env msg.destChannel msg.relayer base origin storage _ _ :=
    .intro short route known (fits.2 customer known) configured
  exact ⟨_, _, ibcPacketReceive_of_ok (bind_eq_ok.mpr ⟨_, _, opens,
    receiveRequestBeacon_eq_ok.mpr accepted⟩), accepted⟩

/-- In every reachable state a packet on a connected channel is answered exactly when
it is not a short beacon request, or no number on the path of the request exceeds its
type. -/
theorem packet_answered_iff (deps : Deps) (contract : Addr) (txs : List Tx) (env : Env)
    (msg : IbcPacketReceiveMsg)
    (connected : msg.destChannel ∈ (reached deps contract txs).connected) :
    (∃ response after,
      ibcPacketReceive env msg (reached deps contract txs).storage = .ok response after ∧
        response.acknowledgement ≠ none) ↔
      ∀ base origin, Wire.inPacket.fromJson msg.data = .ok (.requestBeacon base origin) →
        origin.length ≤ maxOriginLen →
        RequestFits env msg.destChannel base (reached deps contract txs).storage := by
  have registered := reached_registered deps contract txs
  have accounts := reached_accounts deps contract txs
  generalize reached deps contract txs = world at *
  obtain ⟨config, configured⟩ := registered.configured _ connected
  obtain ⟨customer, known⟩ := registered.customers _ connected
  constructor
  · rintro ⟨response, after, returned, _⟩ base origin decoded short
    cases ibcPacketReceive_ok returned with
    | request decodedAgain accepted =>
        rw [decoded] at decodedAgain
        cases decodedAgain
        cases accepted with
        | intro _ route knownAgain counted _ => exact fits_of_routed knownAgain counted route
    | price decodedPrice _ => simp [decoded] at decodedPrice
    | failure failed =>
        obtain ⟨_, reason⟩ := registered.received_failure connected failed
        rcases reason with ⟨undecoded, broken, _⟩ | ⟨otherBase, otherOrigin, decodedAgain, long, _⟩
        · simp [decoded] at broken
        · rw [decoded] at decodedAgain
          cases decodedAgain
          omega
  · intro fits
    cases decoded : Wire.inPacket.fromJson msg.data with
    | error undecoded =>
        have failed : receivePacket env msg world.storage = .error (.std undecoded) world.storage :=
          bind_eq_error.mpr (.inl (mapError_eq_error.mpr ⟨undecoded, by simp [decoded], rfl⟩))
        exact ⟨_, _, ibcPacketReceive_of_error failed, by simp [failureResponse]⟩
    | ok op =>
        have opens : (mapError .std (ofExcept (Wire.inPacket.fromJson msg.data)) :
            Call Storage ContractError InPacket) world.storage = .ok op world.storage :=
          mapError_eq_ok.mpr (by simp [decoded])
        cases op with
        | pullBeaconPrice =>
            have handled : receivePullBeaconPrice env world.storage = .ok _ world.storage :=
              receivePullBeaconPrice_eq_ok.mpr ⟨config, configured, rfl, rfl⟩
            exact ⟨_, _, ibcPacketReceive_of_ok (bind_eq_ok.mpr ⟨_, _, opens, handled⟩), by simp⟩
        | requestBeacon base origin =>
            by_cases short : origin.length ≤ maxOriginLen
            · obtain ⟨response, after, returned, accepted⟩ :=
                accepted_of_fits decoded short configured known (accounts.archived _)
                  (fits base origin decoded short)
              refine ⟨response, after, returned, ?_⟩
              cases accepted
              simp
            · have refused : receiveRequestBeacon env msg.destChannel msg.relayer base origin
                  world.storage = .error .originTooLong world.storage :=
                (receiveRequestBeacon_eq_error known configured).mpr
                  ⟨Nat.lt_of_not_le short, rfl, rfl⟩
              exact ⟨_, _,
                ibcPacketReceive_of_error (bind_eq_error.mpr (.inr ⟨_, _, opens, refused⟩)),
                by simp [failureResponse]⟩

end

section

open NoisHost

attribute [local instance] jsonWire

def openingEnv : Env := ⟨openingBlock, some 4, gateway⟩

def requestPacket (nanos : Nat) (fits : nanos < 2 ^ 64) (origin : Binary) : IbcPacketReceiveMsg :=
  { data := Wire.inPacket.toJsonBinary (.requestBeacon ⟨nanos, fits⟩ origin)
    destChannel := "channel-0"
    relayer := relayer }

theorem decoded_requestPacket (nanos : Nat) (fits : nanos < 2 ^ 64) (origin : Binary) :
    Wire.inPacket.fromJson (requestPacket nanos fits origin).data =
      .ok (.requestBeacon ⟨nanos, fits⟩ origin) :=
  Wire.inPacket.fromJson_toJsonBinary _

theorem refused_packet_leaves_no_trace_long_origin :
    ∃ response,
      ibcPacketReceive openingEnv (requestPacket 0 (by decide) (List.replicate 513 0))
        (reached deps gateway opening).storage =
        .ok response (reached deps gateway opening).storage ∧
        response.messages = [] := by
  have connected : "channel-0" ∈ (reached deps gateway opening).connected := by decide +kernel
  have registered := reached_registered deps gateway opening
  obtain ⟨config, configured⟩ := registered.configured _ connected
  obtain ⟨customer, known⟩ := registered.customers _ connected
  have opens : (mapError .std (ofExcept (Wire.inPacket.fromJson
      (requestPacket 0 (by decide) (List.replicate 513 0)).data)) :
      Call Storage ContractError InPacket) (reached deps gateway opening).storage = .ok _ _ :=
    mapError_eq_ok.mpr (by rw [decoded_requestPacket, ofExcept_ok])
  have refused : receiveRequestBeacon openingEnv "channel-0" relayer ⟨0, by decide⟩
      (List.replicate 513 0) (reached deps gateway opening).storage = .error .originTooLong _ :=
    (receiveRequestBeacon_eq_error known configured).mpr
      ⟨by rw [List.length_replicate]; decide, rfl, rfl⟩
  have returned := ibcPacketReceive_of_error (bind_eq_error.mpr (.inr ⟨_, _, opens, refused⟩))
  exact ⟨_, returned,
    ((refused_packet_leaves_no_trace deps gateway opening openingEnv _ connected _ _ returned).1
      rfl).2⟩

theorem packet_answered_iff_request :
    ∃ response after,
      ibcPacketReceive openingEnv (requestPacket 1680000005000000000 (by decide) [1, 2, 3])
        (reached deps gateway opening).storage =
        .ok response after ∧
        response.acknowledgement ≠ none := by
  refine (packet_answered_iff deps gateway opening openingEnv _ (by decide +kernel)).mpr ?_
  intro base origin decoded _
  rw [decoded_requestPacket] at decoded
  cases decoded
  have missing : archiveLookup (reached deps gateway opening).storage
      (roundNumber ⟨1680000005000000000, by decide⟩) = none := by decide +kernel
  refine ⟨?_, ?_⟩
  · simp only [missing]
    decide +kernel
  · intro customer found
    have unused : ((reached deps gateway opening).storage.customers["channel-0"]?.map
        Customer.requestedBeacons) = some 0 := by decide +kernel
    rw [show (reached deps gateway opening).storage.customers["channel-0"]? =
      some customer from found] at unused
    simp only [Option.map_some, Option.some.injEq] at unused
    omega

/-- A request far in the future aborts the packet: its round exceeds 32 bits. -/
theorem far_request_aborts :
    (requestPacket (2 ^ 64 - 1) (by decide) [1, 2, 3]).destChannel ∈
      (reached deps gateway opening).connected ∧
      ∀ response after,
        ibcPacketReceive openingEnv (requestPacket (2 ^ 64 - 1) (by decide) [1, 2, 3])
          (reached deps gateway opening).storage ≠
          .ok response after := by
  refine ⟨by decide +kernel, ?_⟩
  intro response after returned
  have aborted :
      (match ibcPacketReceive openingEnv (requestPacket (2 ^ 64 - 1) (by decide) [1, 2, 3])
        (reached deps gateway opening).storage with
      | .panic (.expect message) => message == "round must not exceed u32 range"
      | _ => false) = true := by decide +kernel
  rw [returned] at aborted
  exact Bool.false_ne_true aborted

end

end NoisContracts.Gateway
