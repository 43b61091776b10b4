import NoisContracts.Proxy.Effects

/-!
The price that the proxy quotes and the price that it accepts. The query takes the
first price of a denom, and the check of a payment the last one: the map that it
builds from the list of prices overwrites the earlier ones.
-/

namespace NoisContracts.Proxy

open ContractCall ContractCall.Call OrderedStore

def queryPrice (denom : String) : Call Storage StdError (Option Uint128) := do
  let config ← loadConfig
  pure ((config.prices.find? fun price => price.denom = denom).map Coin.amount)

theorem priceIn_eq_map (prices : List Coin) (denom : String) :
    (prices.foldl (fun (map : Store String Uint128) price => map.insert price.denom price.amount)
      ∅)[denom]? =
      priceIn prices denom := by
  induction prices using List.reverseRecOn with
  | nil => simp [priceIn]
  | append_singleton prices price ih =>
      rw [List.foldl_concat, get_insert, ih, priceIn, priceIn, List.reverse_concat, List.find?_cons]
      by_cases same : price.denom = denom
      · simp [same]
      · simp [same]

def First (prices : List Coin) (price : Coin) : Prop :=
  ∃ before after, prices = before ++ price :: after ∧ ∀ other ∈ before, other.denom ≠ price.denom

def Last (prices : List Coin) (price : Coin) : Prop :=
  ∃ before after, prices = before ++ price :: after ∧ ∀ other ∈ after, other.denom ≠ price.denom

def RepeatsAgree (prices : List Coin) : Prop :=
  ∀ first last, First prices first → Last prices last → first.denom = last.denom →
    first.amount = last.amount

theorem find_eq_some_iff_first {prices : List Coin} {denom : String} {price : Coin} :
    prices.find? (fun price => price.denom = denom) = some price ↔
      price.denom = denom ∧ First prices price := by
  rw [List.find?_eq_some_iff_append]
  simp only [decide_eq_true_eq, Bool.not_eq_eq_eq_not, Bool.not_true, decide_eq_false_iff_not,
    First]
  constructor
  · rintro ⟨rfl, before, after, split, fresh⟩
    exact ⟨rfl, before, after, split, fresh⟩
  · rintro ⟨rfl, before, after, split, fresh⟩
    exact ⟨rfl, before, after, split, fresh⟩

theorem first_reverse_iff_last {prices : List Coin} {price : Coin} :
    First prices.reverse price ↔ Last prices price := by
  constructor
  · rintro ⟨before, after, split, fresh⟩
    refine ⟨after.reverse, before.reverse, ?_, by simpa using fresh⟩
    rw [← List.reverse_reverse prices, split]
    simp
  · rintro ⟨before, after, rfl, fresh⟩
    exact ⟨after.reverse, before.reverse, by simp, by simpa using fresh⟩

theorem priceIn_eq_some_iff {prices : List Coin} {denom : String} {amount : Uint128} :
    priceIn prices denom = some amount ↔
      ∃ last, Last prices last ∧ last.denom = denom ∧ last.amount = amount := by
  simp only [priceIn, Option.map_eq_some_iff, find_eq_some_iff_first, first_reverse_iff_last]
  constructor
  · rintro ⟨last, ⟨denom, listed⟩, amount⟩
    exact ⟨last, listed, denom, amount⟩
  · rintro ⟨last, listed, denom, amount⟩
    exact ⟨last, ⟨denom, listed⟩, amount⟩

theorem queryPrice_eq_some_iff {storage : Storage} {config : Config}
    (configured : storage.config = some config) {denom : String} {amount : Uint128} :
    queryPrice denom storage = .ok (some amount) storage ↔
      ∃ first, First config.prices first ∧ first.denom = denom ∧ first.amount = amount := by
  simp only [queryPrice, bind_eq_ok, loadConfig_eq_ok, configured, pure_eq_ok]
  constructor
  · rintro ⟨_, _, ⟨⟨⟩, rfl⟩, found, _⟩
    obtain ⟨first, listed, amount⟩ := Option.map_eq_some_iff.mp found
    obtain ⟨denom, listed⟩ := find_eq_some_iff_first.mp listed
    exact ⟨first, listed, denom, amount⟩
  · rintro ⟨first, listed, denom, amount⟩
    refine ⟨config, storage, ⟨rfl, rfl⟩, ?_, rfl⟩
    exact Option.map_eq_some_iff.mpr ⟨first, find_eq_some_iff_first.mpr ⟨denom, listed⟩, amount⟩

theorem validatePayment_eq_ok {prices funds : List Coin} :
    validatePayment prices funds = .ok () ↔
      ∃ fund ∈ funds, ∃ price, priceIn prices fund.denom = some price ∧
        price.val ≤ fund.amount.val := by
  have paid (fund : Coin) : pays prices fund = true ↔
      ∃ price, priceIn prices fund.denom = some price ∧ price.val ≤ fund.amount.val := by
    unfold pays
    cases priceIn prices fund.denom <;> simp
  unfold validatePayment
  split
  · rename_i empty
    rw [List.isEmpty_iff] at empty
    simp [empty, priceIn]
  · simp [paid]

theorem exists_first_iff_exists_last {prices : List Coin} {denom : String} :
    (∃ first, First prices first ∧ first.denom = denom) ↔
      ∃ last, Last prices last ∧ last.denom = denom := by
  have listed (list : List Coin) :
      (∃ first, First list first ∧ first.denom = denom) ↔ ∃ price ∈ list, price.denom = denom := by
    constructor
    · rintro ⟨first, ⟨before, after, rfl, _⟩, named⟩
      exact ⟨first, by simp, named⟩
    · rintro ⟨price, member, named⟩
      have some : (list.find? fun price => price.denom = denom).isSome = true := by
        rw [List.find?_isSome]
        exact ⟨price, member, by simpa using named⟩
      obtain ⟨first, found⟩ := Option.isSome_iff_exists.mp some
      obtain ⟨named, first_first⟩ := find_eq_some_iff_first.mp found
      exact ⟨first, first_first, named⟩
  rw [listed]
  simp only [← first_reverse_iff_last]
  rw [listed]
  simp

structure QuotesAccepted (storage : Storage) (prices : List Coin) : Prop where
  payable : ∀ denom, (∃ price, queryPrice denom storage = .ok (some price) storage) ↔
    ∃ funds : List Coin, (∀ fund ∈ funds, fund.denom = denom) ∧
      validatePayment prices funds = .ok ()
  exactly : ∀ denom price, queryPrice denom storage = .ok (some price) storage →
    ∀ amount : Uint128, validatePayment prices [⟨denom, amount⟩] = .ok () ↔ price.val ≤ amount.val
  anyOf : ∀ funds, validatePayment prices funds = .ok () ↔
    ∃ fund ∈ funds, ∃ price, queryPrice fund.denom storage = .ok (some price) storage ∧
      price.val ≤ fund.amount.val

theorem payable_iff {storage : Storage} {config : Config}
    (configured : storage.config = some config) (denom : String) :
    (∃ price, queryPrice denom storage = .ok (some price) storage) ↔
      ∃ funds : List Coin, (∀ fund ∈ funds, fund.denom = denom) ∧
        validatePayment config.prices funds = .ok () := by
  have quoted : (∃ price, queryPrice denom storage = .ok (some price) storage) ↔
      ∃ first, First config.prices first ∧ first.denom = denom := by
    simp [queryPrice_eq_some_iff configured]
  rw [quoted, exists_first_iff_exists_last]
  constructor
  · rintro ⟨last, listed, named⟩
    refine ⟨[last], by simpa using named, ?_⟩
    rw [validatePayment_eq_ok]
    exact ⟨last, by simp, last.amount, priceIn_eq_some_iff.mpr ⟨last, listed, rfl, rfl⟩,
      Nat.le_refl _⟩
  · rintro ⟨funds, same, paid⟩
    obtain ⟨fund, member, price, found, _⟩ := validatePayment_eq_ok.mp paid
    obtain ⟨last, listed, named, _⟩ := priceIn_eq_some_iff.mp found
    exact ⟨last, listed, named.trans (same fund member)⟩

/-- The quote is right for every denom if and only if the first and the last price of
every denom are the same. -/
theorem quotesAccepted_iff {storage : Storage} {config : Config}
    (configured : storage.config = some config) :
    QuotesAccepted storage config.prices ↔ RepeatsAgree config.prices := by
  constructor
  · intro quotes first last listed lastListed named
    have quoted : queryPrice first.denom storage = .ok (some first.amount) storage :=
      (queryPrice_eq_some_iff configured).mpr ⟨first, listed, rfl, rfl⟩
    have accepted (amount : Uint128) :
        first.amount.val ≤ amount.val ↔ last.amount.val ≤ amount.val := by
      rw [← quotes.exactly first.denom first.amount quoted amount, validatePayment_eq_ok]
      simp [priceIn_eq_some_iff.mpr ⟨last, lastListed, named.symm, rfl⟩]
    have lower := (accepted last.amount).mpr (Nat.le_refl _)
    have upper := (accepted first.amount).mp (Nat.le_refl _)
    exact Uint128.ext (Nat.le_antisymm lower upper)
  · intro agree
    have same (denom : String) (price : Uint128) :
        priceIn config.prices denom = some price ↔
          queryPrice denom storage = .ok (some price) storage := by
      rw [priceIn_eq_some_iff, queryPrice_eq_some_iff configured]
      constructor
      · rintro ⟨last, listed, named, rfl⟩
        obtain ⟨first, firstListed, firstNamed⟩ :=
          exists_first_iff_exists_last.mpr ⟨last, listed, named⟩
        exact ⟨first, firstListed, firstNamed,
          agree first last firstListed listed (firstNamed.trans named.symm)⟩
      · rintro ⟨first, listed, named, rfl⟩
        obtain ⟨last, lastListed, lastNamed⟩ :=
          exists_first_iff_exists_last.mp ⟨first, listed, named⟩
        exact ⟨last, lastListed, lastNamed,
          (agree first last listed lastListed (named.trans lastNamed.symm)).symm⟩
    refine ⟨payable_iff configured, ?_, ?_⟩
    · intro denom price quoted amount
      rw [validatePayment_eq_ok]
      simp [(same denom price).mpr quoted]
    · intro funds
      rw [validatePayment_eq_ok]
      simp only [same]

theorem repeatsAgree_of_nodup {prices : List Coin} (distinct : (prices.map Coin.denom).Nodup) :
    RepeatsAgree prices := by
  rintro first last ⟨before, after, split, _⟩ ⟨lastBefore, lastAfter, lastSplit, _⟩ named
  have member : first ∈ prices := by simp [split]
  have lastMember : last ∈ prices := by simp [lastSplit]
  rw [List.inj_on_of_nodup_map distinct member lastMember named]

def bucks (amount : Nat) (fits : amount < 2 ^ 128) : Coin := ⟨"bucks", ⟨amount, fits⟩⟩

def sand : Coin := ⟨"sand", ⟨20, by decide⟩⟩

theorem hundred_lt : 100 < 2 ^ 128 := by decide

theorem twoHundred_lt : 200 < 2 ^ 128 := by decide

def priced (prices : List Coin) : Storage :=
  { Storage.empty with
    config :=
      some (Config.initial ⟨prices, none, none, 500000, .funded, none, none⟩ none .epoch .epoch) }

theorem quotesAccepted_iff_two_denoms :
    RepeatsAgree [bucks 100 hundred_lt, sand] ∧
      QuotesAccepted (priced [bucks 100 hundred_lt, sand]) [bucks 100 hundred_lt, sand] := by
  have agree : RepeatsAgree [bucks 100 hundred_lt, sand] := repeatsAgree_of_nodup (by decide)
  exact ⟨agree, (@quotesAccepted_iff (priced [bucks 100 hundred_lt, sand]) _ rfl).mpr agree⟩

/-- A repeated denom is quoted at its first price, which is then not enough. -/
theorem repeated_denom_misquoted :
    queryPrice "bucks" (priced [bucks 100 hundred_lt, bucks 200 twoHundred_lt]) =
      .ok (some (bucks 100 hundred_lt).amount)
        (priced [bucks 100 hundred_lt, bucks 200 twoHundred_lt]) ∧
      validatePayment [bucks 100 hundred_lt, bucks 200 twoHundred_lt] [bucks 100 hundred_lt] =
        .error .insufficientPayment ∧
      ¬QuotesAccepted (priced [bucks 100 hundred_lt, bucks 200 twoHundred_lt])
        [bucks 100 hundred_lt, bucks 200 twoHundred_lt] := by
  have quoted : queryPrice "bucks" (priced [bucks 100 hundred_lt, bucks 200 twoHundred_lt]) =
      .ok (some (bucks 100 hundred_lt).amount)
        (priced [bucks 100 hundred_lt, bucks 200 twoHundred_lt]) :=
    rfl
  have refused :
      validatePayment [bucks 100 hundred_lt, bucks 200 twoHundred_lt] [bucks 100 hundred_lt] =
        .error .insufficientPayment := by
    decide
  refine ⟨quoted, refused, ?_⟩
  intro quotes
  have accepted := (quotes.exactly _ _ quoted (bucks 100 hundred_lt).amount).mpr (Nat.le_refl _)
  rw [show (⟨"bucks", (bucks 100 hundred_lt).amount⟩ : Coin) = bucks 100 hundred_lt from rfl,
    refused] at accepted
  cases accepted

end NoisContracts.Proxy
