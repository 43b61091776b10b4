import NoisContracts.Library.Journal

/-!
Rosters that updates extend and cut. An update names members to add and members to
remove, and a member that it names twice is removed. A contract that keeps a roster has,
after any run, exactly the members that the last update naming them has added, and those
of the list it was installed with that no update has named.
-/

namespace Roster

open ContractCall Journal

variable {α σ τ ε ρ : Type}

structure Update (α : Type) where
  add : List α
  remove : List α

def Update.apply (update : Update α) (members : Set α) : Set α :=
  (members ∪ {member | member ∈ update.add}) \ {member | member ∈ update.remove}

def members (listed : α → Bool) : Set α := {member | listed member = true}

section

variable [DecidableEq α]

/-- Whether a member that the update names is on the roster after it. -/
def Update.verdict (update : Update α) (member : α) : Option Bool :=
  if member ∈ update.add ∨ member ∈ update.remove then
    some (decide (member ∈ update.add ∧ member ∉ update.remove))
  else none

theorem Update.listed_of_apply {update : Update α} {before after : α → Bool}
    (applied : members after = update.apply (members before)) (member : α) :
    after member = (update.verdict member).getD (before member) := by
  have spelled : after member = true ↔
      (before member = true ∨ member ∈ update.add) ∧ member ∉ update.remove :=
    Set.ext_iff.mp applied member
  rw [Bool.eq_iff_iff, spelled, Update.verdict]
  split
  · rename_i named
    by_cases removed : member ∈ update.remove
    · simp [removed]
    · have added : member ∈ update.add := named.resolve_right removed
      simp [removed, added]
  · rename_i unnamed
    obtain ⟨notAdded, notRemoved⟩ := not_or.mp unnamed
    simp [notAdded, notRemoved]

theorem foldl_insert {listed : σ → α → Bool} {change : σ → α → σ}
    (inserts : ∀ state added member, listed (change state added) member =
      (decide (added = member) || listed state member)) (state : σ) (added : List α) (member : α) :
    listed (added.foldl change state) member =
      (decide (member ∈ added) || listed state member) := by
  induction added generalizing state with
  | nil => simp
  | cons first rest ih =>
      rw [List.foldl_cons, ih, inserts]
      by_cases same : first = member
      · simp [same]
      · have different : member ≠ first := fun equal => same equal.symm
        simp [same, different]

theorem foldl_erase {listed : σ → α → Bool} {change : σ → α → σ}
    (erases : ∀ state removed member, listed (change state removed) member =
      (decide (removed ≠ member) && listed state member)) (state : σ) (removed : List α)
    (member : α) :
    listed (removed.foldl change state) member =
      (decide (member ∉ removed) && listed state member) := by
  induction removed generalizing state with
  | nil => simp
  | cons first rest ih =>
      rw [List.foldl_cons, ih, erases]
      by_cases same : first = member
      · simp [same]
      · have different : member ≠ first := fun equal => same equal.symm
        simp [same, different]

end

structure Keeper (σ τ ε ρ α : Type) where
  system : Journal.System σ τ ε ρ
  start : σ
  listed : σ → α → Bool
  installed : σ → Bool
  installs : τ → Option (List α)
  updates : τ → Option (Update α)

/-- Only the installation, which comes first and once, and the updates change the roster. -/
structure Keeper.Lawful (keeper : Keeper σ τ ε ρ α) : Prop where
  uninstalled : keeper.installed keeper.start = false
  unlisted : ∀ member, keeper.listed keeper.start member = false
  exclusive : ∀ {tx initial}, keeper.installs tx = some initial → keeper.updates tx = none
  stays : ∀ {tx storage response after}, keeper.system.perform tx storage = .ok response after →
    keeper.installed storage = true → keeper.installed after = true
  installation : ∀ {tx storage response after initial}, keeper.installs tx = some initial →
    keeper.system.admits storage tx = true → keeper.system.perform tx storage = .ok response after →
    keeper.installed storage = false ∧ keeper.installed after = true ∧
      ∀ member, keeper.listed after member = true ↔
        member ∈ initial ∨ keeper.listed storage member = true
  update : ∀ {tx storage response after update}, keeper.updates tx = some update →
    keeper.system.perform tx storage = .ok response after →
    keeper.installed storage = true ∧
      members (keeper.listed after) = update.apply (members (keeper.listed storage))
  other : ∀ {tx storage response after}, keeper.installs tx = none → keeper.updates tx = none →
    keeper.system.perform tx storage = .ok response after →
    keeper.listed after = keeper.listed storage

section

variable [DecidableEq α]

def Keeper.lastVerdict (keeper : Keeper σ τ ε ρ α) (log : List (τ × ρ)) (member : α) :
    Option Bool :=
  Runs.lastWrite (fun entry => (keeper.updates entry.1).bind (·.verdict member)) log

def Keeper.initially (keeper : Keeper σ τ ε ρ α) (log : List (τ × ρ)) (member : α) : Bool :=
  log.any fun entry => decide (member ∈ (keeper.installs entry.1).getD [])

structure Keeper.Recorded (keeper : Keeper σ τ ε ρ α) (world : Journal.World σ τ ρ) : Prop where
  silent : keeper.installed world.storage = false →
    ∀ entry ∈ world.log, keeper.installs entry.1 = none ∧ keeper.updates entry.1 = none
  listed : ∀ member, keeper.listed world.storage member =
    (keeper.lastVerdict world.log member).getD (keeper.initially world.log member)

theorem Keeper.Recorded.unlisted {keeper : Keeper σ τ ε ρ α} {world : Journal.World σ τ ρ}
    (recorded : keeper.Recorded world) (absent : keeper.installed world.storage = false)
    (member : α) :
    keeper.lastVerdict world.log member = none ∧ keeper.initially world.log member = false := by
  have silent := recorded.silent absent
  constructor
  · rw [Keeper.lastVerdict, Runs.lastWrite, List.findSome?_eq_none_iff]
    intro entry found
    rw [(silent entry (List.mem_reverse.mp found)).2]
    rfl
  · rw [Keeper.initially, List.any_eq_false]
    intro entry found
    rw [(silent entry found).1]
    simp

theorem Keeper.Recorded.commit {keeper : Keeper σ τ ε ρ α} (lawful : keeper.Lawful)
    {world : Journal.World σ τ ρ} {tx : τ} {response : ρ} {after : σ}
    (recorded : keeper.Recorded world) (admitted : keeper.system.admits world.storage tx = true)
    (returned : keeper.system.perform tx world.storage = .ok response after) :
    keeper.Recorded (world.commit tx response after) := by
  have verdicts (member : α) : keeper.lastVerdict (world.commit tx response after).log member =
      ((keeper.updates tx).bind (·.verdict member)).or (keeper.lastVerdict world.log member) :=
    Runs.lastWrite_append _ _ _
  have initials (member : α) : keeper.initially (world.commit tx response after).log member =
      (keeper.initially world.log member || decide (member ∈ (keeper.installs tx).getD [])) := by
    simp [Keeper.initially]
  cases installs : keeper.installs tx with
  | some initial =>
      obtain ⟨before, done, extended⟩ := lawful.installation installs admitted returned
      refine ⟨fun absent => ?_, fun member => ?_⟩
      · rw [World.commit_storage, done] at absent
        cases absent
      · obtain ⟨noVerdict, notInitial⟩ := recorded.unlisted before member
        have unlisted := recorded.listed member
        rw [noVerdict, notInitial, Option.getD_none] at unlisted
        rw [verdicts, initials, lawful.exclusive installs, installs, noVerdict, notInitial,
          Bool.eq_iff_iff]
        simp [extended, unlisted]
  | none =>
      cases updates : keeper.updates tx with
      | some update =>
          obtain ⟨before, applied⟩ := lawful.update updates returned
          refine ⟨fun absent => ?_, fun member => ?_⟩
          · rw [World.commit_storage, lawful.stays returned before] at absent
            cases absent
          · rw [verdicts, initials, updates, installs, World.commit_storage,
              Update.listed_of_apply applied, recorded.listed]
            cases decided : update.verdict member <;> simp [decided]
      | none =>
          refine ⟨fun absent entry found => ?_, fun member => ?_⟩
          · have before : keeper.installed world.storage = false := by
              cases present : keeper.installed world.storage with
              | false => rfl
              | true =>
                  rw [World.commit_storage, lawful.stays returned present] at absent
                  cases absent
            rcases List.mem_append.mp found with earlier | last
            · exact recorded.silent before entry earlier
            · rw [List.mem_singleton.mp last]
              exact ⟨installs, updates⟩
          · rw [verdicts, initials, updates, installs, World.commit_storage,
              lawful.other installs updates returned, recorded.listed]
            simp

theorem Keeper.Lawful.reached {keeper : Keeper σ τ ε ρ α} (lawful : keeper.Lawful) (txs : List τ) :
    keeper.Recorded (keeper.system.reached keeper.start txs) := by
  refine Journal.System.reached_invariant ?_ ?_ txs
  · refine ⟨fun _ entry found => ?_, fun member => lawful.unlisted member⟩
    cases found
  · intro world tx response after recorded admitted returned
    exact recorded.commit lawful admitted returned

end

end Roster
