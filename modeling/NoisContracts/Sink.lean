import NoisContracts.Library.Store
import NoisContracts.Protocol

/-!
Executable model of `nois-sink`, the contract that burns what it is sent and keeps a
record of every burn.
-/

namespace NoisContracts.Sink

open ContractCall ContractCall.Call OrderedStore

structure Ash where
  burner : Option Addr
  amount : Coin
  time : Timestamp
deriving DecidableEq, Repr

structure Storage where
  contractVersion : Option (String × String)
  ashesLastId : Option Nat
  ashes : Store Nat Ash

def Storage.empty : Storage := ⟨none, none, ∅⟩

inductive ContractError where
  | std (error : StdError)
  | wrongDenom
  | tooManyCoins
  | noCoins
  | nonPayableMessage
  | noFundsToBurn
deriving DecidableEq, Repr

def ContractError.toString : ContractError → String
  | .std error => error.toString
  | .wrongDenom => "Wrong coin denom"
  | .tooManyCoins => "Too many coins sent"
  | .noCoins => "No coins sent"
  | .nonPayableMessage =>
      "This message doesn't accept funds. You might want to burn using the burn message instead of burn_native"
  | .noFundsToBurn => "There are no funds in the sink contract to burn"

inductive ExecuteMsg where
  | burn
  | burnBalance
deriving DecidableEq, Repr

def burnDenom : String := "unois"

def instantiate : Call Storage ContractError (Response ContractMsg) := do
  writes fun storage => { storage with contractVersion := some ("nois-sink", "0.15.4") }
  pure {}

def timeText (time : Timestamp) : String :=
  let fraction := Nat.repr (time.nanos % 1000000000)
  Nat.repr (time.nanos / 1000000000) ++ "." ++
    String.ofList (List.replicate (9 - fraction.length) '0') ++ fraction

def saveAsh (ash : Ash) : Call Storage ContractError Unit := do
  let lastId ← reads fun storage => storage.ashesLastId.getD 0
  let newId ← ofPanics (checkedAdd 32 lastId 1)
  writes fun storage => { storage with ashesLastId := some newId }
  writes fun storage => { storage with ashes := storage.ashes.insert newId ash }

def executeBurn (env : Env) (info : MessageInfo) :
    Call Storage ContractError (Response ContractMsg) := do
  ensure (info.funds.length ≤ 1) .tooManyCoins
  let amount ← ofExcept (match info.funds.getLast? with
    | some amount => .ok amount
    | none => .error ContractError.noCoins)
  ensure (amount.denom = burnDenom) .wrongDenom
  saveAsh ⟨some info.sender, amount, env.block.time⟩
  let response : Response ContractMsg := {
    attributes := [("burnt_amount", amount.toString), ("burner", info.sender),
      ("time", timeText env.block.time)]
  }
  pure (response.addMessages [.bankBurn [amount]])

def executeBurnBalance (env : Env) (balances : List Coin) (info : MessageInfo) :
    Call Storage ContractError (Response ContractMsg) := do
  ensure (info.funds = []) .nonPayableMessage
  let contractBalance : Coin := ⟨burnDenom, balanceIn burnDenom balances⟩
  ensure (contractBalance.amount.isZero = false) .noFundsToBurn
  saveAsh ⟨none, contractBalance, env.block.time⟩
  let response : Response ContractMsg := {
    attributes := [("burnt_amount", contractBalance.toString), ("time", timeText env.block.time)]
  }
  pure (response.addMessages [.bankBurn [contractBalance]])

def execute (env : Env) (balances : List Coin) (info : MessageInfo) :
    ExecuteMsg → Call Storage ContractError (Response ContractMsg)
  | .burn => executeBurn env info
  | .burnBalance => executeBurnBalance env balances info

namespace Storage

def lastId (storage : Storage) : Nat := storage.ashesLastId.getD 0

def addAsh (storage : Storage) (ash : Ash) : Storage :=
  { storage with
    ashesLastId := some (storage.lastId + 1)
    ashes := storage.ashes.insert (storage.lastId + 1) ash }

end Storage

theorem saveAsh_eq_ok {ash : Ash} {storage after : Storage} {done : Unit} :
    saveAsh ash storage = .ok done after ↔
      storage.lastId + 1 < 2 ^ 32 ∧ storage.addAsh ash = after := by
  simp only [saveAsh, bind_eq_ok, reads_eq_ok, ofPanics_eq_ok, checkedAdd_eq_ok, writes_eq_ok]
  constructor
  · rintro ⟨_, _, ⟨rfl, rfl⟩, _, _, ⟨⟨room, rfl⟩, rfl⟩, _, _, rfl, rfl⟩
    exact ⟨room, rfl⟩
  · rintro ⟨room, rfl⟩
    exact ⟨_, _, ⟨rfl, rfl⟩, _, _, ⟨⟨room, rfl⟩, rfl⟩, (), _, rfl, rfl⟩

theorem executeBurn_eq_ok {env : Env} {info : MessageInfo} {storage after : Storage}
    {response : Response ContractMsg} :
    executeBurn env info storage = .ok response after ↔
      ∃ amount, info.funds = [amount] ∧ amount.denom = burnDenom ∧ storage.lastId + 1 < 2 ^ 32 ∧
        after = storage.addAsh ⟨some info.sender, amount, env.block.time⟩ ∧
        response =
          { messages := [SubMsg.new (.bankBurn [amount])]
            attributes := [("burnt_amount", amount.toString), ("burner", info.sender),
              ("time", timeText env.block.time)] } := by
  simp only [executeBurn, bind_eq_ok, ensure_eq_ok, ofExcept_eq_ok, saveAsh_eq_ok, pure_eq_ok]
  constructor
  · rintro ⟨_, _, ⟨short, rfl⟩, amount, _, ⟨last, rfl⟩, _, _, ⟨denom, rfl⟩, _, _, ⟨room, rfl⟩, rfl,
        rfl⟩
    refine ⟨amount, ?_, denom, room, rfl, rfl⟩
    match funds : info.funds, short with
    | [], _ => simp [funds] at last
    | [only], _ =>
        simp only [funds, List.getLast?_singleton, Except.ok.injEq] at last
        rw [last]
    | _ :: _ :: _, short => simp at short
  · rintro ⟨amount, funds, denom, room, rfl, rfl⟩
    exact ⟨(), _, ⟨by simp [funds], rfl⟩, amount, _, ⟨by simp [funds], rfl⟩, (), _, ⟨denom, rfl⟩,
      (), _, ⟨room, rfl⟩, rfl, rfl⟩

/-- When the last id is used up, a burn panics. -/
theorem executeBurn_exhausted {env : Env} {info : MessageInfo} {storage : Storage} {amount : Coin}
    (funds : info.funds = [amount]) (denom : amount.denom = burnDenom)
    (full : 2 ^ 32 ≤ storage.lastId + 1) : executeBurn env info storage = .panic .overflow := by
  have overflow : checkedAdd 32 (storage.ashesLastId.getD 0) 1 = .error .overflow := by
    rw [checkedAdd, if_neg]
    exact Nat.not_lt.mpr full
  simp [executeBurn, saveAsh, ensure, funds, denom, overflow, bind_apply, reads_apply]

end NoisContracts.Sink
