import NoisContracts.Library.Pages
import NoisContracts.Drand.Core
import NoisContracts.Gateway.Core
import NoisContracts.Sink

/-!
The queries with a cursor: the beacons of `nois-drand`, the records of `nois-sink` and
the customers of `nois-gateway`.
-/

namespace NoisContracts

open ContractCall OrderedStore

namespace Drand

structure QueriedBeacon where
  round : Nat
  published : Timestamp
  verified : Timestamp
  randomness : Binary
deriving DecidableEq, Repr

def QueriedBeacon.make (beacon : VerifiedBeacon) (round : Nat) : Panics QueriedBeacon := do
  let published ← timeOfRound round
  pure ⟨round, published, beacon.verified, beacon.randomness⟩

def queryBeacons (storage : Storage) (startAfter limit : Option Nat) (order : Order) :
    Panics (List QueriedBeacon) :=
  let limit := limit.getD 100
  let (lowBound, topBound) := match order with
    | .ascending => (startAfter, none)
    | .descending => (none, startAfter)
  ((range storage.beacons lowBound topBound order).take limit).mapM
    fun entry => QueriedBeacon.make entry.2 entry.1

end Drand

namespace Sink

structure QueriedAsh where
  id : Nat
  burner : Option Addr
  amount : Coin
  time : Timestamp
deriving DecidableEq, Repr

def QueriedAsh.make (entry : Nat × Ash) : QueriedAsh :=
  ⟨entry.1, entry.2.burner, entry.2.amount, entry.2.time⟩

def queryAshes (storage : Storage) (startAfter limit : Option Nat) (order : Order) :
    List QueriedAsh :=
  let limit := limit.getD 100
  let (lowBound, topBound) := match order with
    | .ascending => (startAfter, none)
    | .descending => (none, startAfter)
  ((range storage.ashes lowBound topBound order).take limit).map QueriedAsh.make

end Sink

namespace Gateway

structure QueriedCustomer where
  channelId : String
  payment : Addr
  requestedBeacons : Nat
deriving DecidableEq, Repr

def QueriedCustomer.new (entry : String × Customer) : QueriedCustomer :=
  ⟨entry.1, entry.2.payment, entry.2.requestedBeacons⟩

def queryCustomers (storage : Storage) (startAfter : Option String) (limit : Option Nat) :
    List QueriedCustomer :=
  let limit := limit.getD 50
  ((range storage.customers startAfter none .ascending).take limit).map QueriedCustomer.new

end Gateway

theorem range_cursor {κ ν : Type} [LinearOrder κ] (store : Store κ ν) (cursor : Option κ)
    (order : Order) : (match order with
      | .ascending => range store cursor none order
      | .descending => range store none cursor order) =
      (listing store order).filter fun entry => order.beyond cursor entry.1 := by
  cases order with
  | ascending => exact range_ascending store cursor
  | descending => exact range_descending store cursor

namespace Drand

theorem mapM_make {entries : List (Nat × VerifiedBeacon)}
    (timed : ∀ entry ∈ entries, ∃ time, timeOfRound entry.1 = .ok time)
    (view : Nat × VerifiedBeacon → QueriedBeacon)
    (viewed : ∀ entry time, timeOfRound entry.1 = .ok time →
      view entry = ⟨entry.1, time, entry.2.verified, entry.2.randomness⟩) :
    entries.mapM (fun entry => QueriedBeacon.make entry.2 entry.1) = .ok (entries.map view) := by
  induction entries with
  | nil => rfl
  | cons entry rest ih =>
      obtain ⟨time, published⟩ := timed entry List.mem_cons_self
      have made : QueriedBeacon.make entry.2 entry.1 = .ok (view entry) := by
        rw [viewed entry time published, QueriedBeacon.make, published]
        rfl
      rw [List.mapM_cons, made, ih fun other member => timed other (List.mem_cons_of_mem _ member)]
      rfl

/-- A page is returned only if every round on it has a publish time. -/
theorem timed_of_mapM_make {entries : List (Nat × VerifiedBeacon)} {page : List QueriedBeacon}
    (made : entries.mapM (fun entry => QueriedBeacon.make entry.2 entry.1) = .ok page) :
    ∀ entry ∈ entries, ∃ time, timeOfRound entry.1 = .ok time := by
  induction entries generalizing page with
  | nil => simp
  | cons entry rest ih =>
      rw [List.mapM_cons] at made
      obtain ⟨beacon, first, made⟩ := except_bind_eq_ok.mp made
      obtain ⟨others, later, _⟩ := except_bind_eq_ok.mp made
      obtain ⟨time, published, _⟩ := except_bind_eq_ok.mp first
      intro other member
      rcases List.mem_cons.mp member with rfl | member
      · exact ⟨time, published⟩
      · exact ih later other member

def queried (entry : Nat × VerifiedBeacon) : QueriedBeacon :=
  let published := match timeOfRound entry.1 with
    | .ok time => time
    | .error _ => .epoch
  ⟨entry.1, published, entry.2.verified, entry.2.randomness⟩

theorem queried_of_time (entry : Nat × VerifiedBeacon) (time : Timestamp)
    (published : timeOfRound entry.1 = .ok time) :
    queried entry = ⟨entry.1, time, entry.2.verified, entry.2.randomness⟩ := by
  simp [queried, published]

/-- The stored beacons that a page consists of. -/
def beaconPage (storage : Storage) (startAfter limit : Option Nat) (order : Order) :
    List (Nat × VerifiedBeacon) :=
  ((listing storage.beacons order).filter fun entry => order.beyond startAfter entry.1).take
    (limit.getD 100)

theorem queryBeacons_page (storage : Storage) (startAfter limit : Option Nat) (order : Order) :
    queryBeacons storage startAfter limit order =
      (beaconPage storage startAfter limit order).mapM fun entry =>
        QueriedBeacon.make entry.2 entry.1 := by
  rw [beaconPage, ← range_cursor]
  cases order <;> rfl

theorem mem_listing {storage : Storage} {order : Order} {entry : Nat × VerifiedBeacon}
    (listed : entry ∈ listing storage.beacons order) :
    storage.beacons[entry.1]? = some entry.2 := by
  refine mem_toList_iff.mp ?_
  cases order with
  | ascending => rwa [listing_ascending] at listed
  | descending => rwa [listing_descending, List.mem_reverse] at listed

theorem queryBeacons_eq {storage : Storage} (startAfter limit : Option Nat) (order : Order)
    (timed : ∀ entry ∈ beaconPage storage startAfter limit order, ∃ time, timeOfRound entry.1 =
      .ok time) :
    queryBeacons storage startAfter limit order =
      .ok ((beaconPage storage startAfter limit order).map queried) := by
  rw [queryBeacons_page]
  exact mapM_make timed queried queried_of_time

theorem queryBeacons_panics {storage : Storage} {startAfter limit : Option Nat} {order : Order}
    {entry : Nat × VerifiedBeacon} (member : entry ∈ beaconPage storage startAfter limit order)
    (untimed : ∀ time, timeOfRound entry.1 ≠ .ok time) :
    ∃ cause, queryBeacons storage startAfter limit order = .error cause := by
  cases answered : queryBeacons storage startAfter limit order with
  | ok page =>
      rw [queryBeacons_page] at answered
      obtain ⟨time, published⟩ := timed_of_mapM_make answered entry member
      exact (untimed time published).elim
  | error cause => exact ⟨cause, rfl⟩

end Drand

/-- The pages of the three contracts. A page of beacons panics if it has a round without a
publish time. -/
structure QueriesPaginate : Prop where
  beacons : ∀ (storage : Drand.Storage) (limit : Option Nat) (order : Order), 1 ≤ limit.getD 100 →
    (∀ (round : Nat) beacon, storage.beacons[round]? = some beacon →
      ∃ time, timeOfRound round = .ok time) →
    ∃ beacons,
      Paginates Drand.QueriedBeacon.round order (limit.getD 100)
        (fun startAfter => (Drand.queryBeacons storage startAfter limit order).toOption) beacons ∧
        beacons.map (fun beacon => (beacon.round, ⟨beacon.verified, beacon.randomness⟩)) =
          listing storage.beacons order ∧
        ∀ beacon ∈ beacons, timeOfRound beacon.round = .ok beacon.published
  panics : ∀ (storage : Drand.Storage) (startAfter limit : Option Nat) (order : Order),
    (∃ entry ∈
      ((listing storage.beacons order).filter fun entry => order.beyond startAfter entry.1).take
      (limit.getD 100),
      ∀ time, timeOfRound entry.1 ≠ .ok time) →
      ∃ cause, Drand.queryBeacons storage startAfter limit order = .error cause
  ashes : ∀ (storage : Sink.Storage) (limit : Option Nat) (order : Order), 1 ≤ limit.getD 100 →
    Paginates Sink.QueriedAsh.id order (limit.getD 100)
      (fun startAfter => some (Sink.queryAshes storage startAfter limit order))
      ((listing storage.ashes order).map Sink.QueriedAsh.make)
  customers : ∀ (storage : Gateway.Storage) (limit : Option Nat), 1 ≤ limit.getD 50 →
    Paginates Gateway.QueriedCustomer.channelId .ascending (limit.getD 50)
      (fun startAfter => some (Gateway.queryCustomers storage startAfter limit))
      ((listing storage.customers .ascending).map Gateway.QueriedCustomer.new)

theorem queries_paginate : QueriesPaginate := by
  refine ⟨?_, ?_, ?_, ?_⟩
  · intro storage limit order positive timed
    refine ⟨(listing storage.beacons order).map Drand.queried, ?_, ?_, ?_⟩
    · apply paginates_listing Drand.queried (fun _ => rfl) positive
      intro startAfter
      rw [Drand.queryBeacons_eq startAfter limit order fun entry member =>
        timed entry.1 entry.2
          (Drand.mem_listing (List.mem_filter.mp (List.mem_of_mem_take member)).1)]
      rfl
    · rw [List.map_map]
      exact List.map_id _
    · intro beacon member
      obtain ⟨entry, listed, rfl⟩ := List.mem_map.mp member
      obtain ⟨time, published⟩ := timed entry.1 entry.2 (Drand.mem_listing listed)
      rw [Drand.queried_of_time entry time published]
      exact published
  · rintro storage startAfter limit order ⟨entry, member, untimed⟩
    exact Drand.queryBeacons_panics member untimed
  · intro storage limit order positive
    apply paginates_listing Sink.QueriedAsh.make (fun _ => rfl) positive
    intro startAfter
    rw [← range_cursor]
    cases order <;> rfl
  · intro storage limit positive
    apply paginates_listing Gateway.QueriedCustomer.new (fun _ => rfl) positive
    intro startAfter
    rw [← range_ascending]
    rfl

def zeroth : Drand.Storage :=
  { Drand.Storage.empty with beacons := (∅ : Store Nat Drand.VerifiedBeacon).insert 0 ⟨.epoch, []⟩ }

/-- There is no publish time for round 0. -/
theorem zeroth_beacon_panics :
    Drand.queryBeacons zeroth none (some 1) .ascending = .error .overflow ∧
      ¬∃ beacons, Paginates Drand.QueriedBeacon.round .ascending 1
        (fun startAfter => (Drand.queryBeacons zeroth startAfter (some 1) .ascending).toOption)
        beacons := by
  have panics : Drand.queryBeacons zeroth none (some 1) .ascending = .error .overflow := rfl
  refine ⟨panics, ?_⟩
  rintro ⟨beacons, pages⟩
  obtain ⟨_, _, _, _, found, _⟩ := pages.next none
  rw [panics] at found
  cases found

end NoisContracts
