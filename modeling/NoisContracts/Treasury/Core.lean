import NoisContracts.Gateway.Customers
import NoisContracts.Library.Ledger
import NoisContracts.Payment
import NoisContracts.Sink

/-!
The gateway, its payment contracts, the sink and the bank on one chain. A call moves
its funds, runs the contract and then executes the messages of the response one after
the other; when one of them fails, nothing of the transaction is kept. Transactions
come from external addresses, which are everybody but the contracts here: nobody else
holds the key of a contract's address, and a payment contract is created once. The
relayer of a packet is external as well. Calls of contracts outside of this model
move their funds only.
-/

namespace NoisContracts.Treasury

open ContractCall OrderedStore Ledger

structure Chain where
  deps : Deps
  gateway : Addr
  sink : Addr
  paymentCodeId : Nat
  external : Addr → Bool
  gatewayInternal : external gateway = false
  sinkInternal : external sink = false

structure World where
  gateway : Gateway.World
  payments : Store Addr Payment.Storage
  sink : Sink.Storage
  bank : Book Addr String
  /-- The channel of every accepted request with the price in force, oldest first. -/
  charges : List (String × Coin)

def World.initial : World := ⟨Gateway.World.initial, ∅, Sink.Storage.empty, Book.empty, []⟩

inductive Tx where
  | gateway (tx : Gateway.Tx)
  | payment (block : BlockInfo) (index : Option Nat) (info : MessageInfo) (payment : Addr)
      (msg : Payment.ExecuteMsg)
  | sink (block : BlockInfo) (index : Option Nat) (info : MessageInfo) (msg : Sink.ExecuteMsg)
  | send (sender target : Addr) (amount : List Coin)
  /-- Coins that arrive from outside, such as an IBC transfer. -/
  | credit (target : Addr) (amount : Coin)

/-- The funds of a contract message. The chain leaves zero coins out of them. -/
def messageFunds (funds : List Coin) : List Coin := funds.filter fun coin => !coin.amount.isZero

namespace World

def transfer (world : World) (source target : Addr) (coins : List Coin) : Option World :=
  (world.bank.send source target (amounts coins)).map fun bank => { world with bank }

def take (world : World) (account : Addr) (coins : List Coin) : Option World :=
  (world.bank.take account (amounts coins)).map fun bank => { world with bank }

def balanceOf (world : World) (account : Addr) (denom : String) : List Coin :=
  if fits : world.bank.balance account denom < 2 ^ 128 then
    [⟨denom, ⟨world.bank.balance account denom, fits⟩⟩]
  else []

def charged (world : World) (channel denom : String) : Nat :=
  amountIn denom ((world.charges.filter fun charge => charge.1 = channel).map fun charge =>
    (charge.2.denom, charge.2.amount.val))

end World

namespace Chain

def dispatchSink (chain : Chain) (world : World) : Msg → Option World
  | .bankBurn coins => world.take chain.sink coins
  | _ => none

def callSink (chain : Chain) (block : BlockInfo) (index : Option Nat) (world : World)
    (info : MessageInfo) (msg : Sink.ExecuteMsg) : Option World := do
  let world ← world.transfer info.sender chain.sink info.funds
  match Sink.execute ⟨block, index, chain.sink⟩ (world.balanceOf chain.sink Sink.burnDenom) info msg
      world.sink with
  | .ok response after => response.msgs.foldlM chain.dispatchSink { world with sink := after }
  | .error _ _ => none
  | .panic _ => none

def fundCommunityPool (world : World) (sender : Addr) (value : Binary) : Option World := do
  let (coins, depositor) ← Payment.decodeMsgFundCommunityPool value
  if depositor = sender then world.take sender coins else none

def dispatchPayment (chain : Chain) (block : BlockInfo) (index : Option Nat) (payment : Addr)
    (world : World) : Msg → Option World
  | .wasmExecute contract .burn funds =>
      if contract = chain.sink then
        chain.callSink block index world ⟨payment, messageFunds funds⟩ .burn
      else none
  | .bankSend target coins => world.transfer payment target coins
  | .stargate typeUrl value =>
      if typeUrl = Payment.fundCommunityPoolUrl then fundCommunityPool world payment value else none
  | _ => none

def callPayment (chain : Chain) (block : BlockInfo) (index : Option Nat) (world : World)
    (info : MessageInfo) (payment : Addr) (msg : Payment.ExecuteMsg) : Option World := do
  let storage ← world.payments[payment]?
  let world ← world.transfer info.sender payment info.funds
  match Payment.execute chain.deps ⟨block, index, payment⟩ info msg storage with
  | .ok response after =>
      response.msgs.foldlM (chain.dispatchPayment block index payment)
        { world with payments := world.payments.insert payment after }
  | .error _ _ => none
  | .panic _ => none

def contractAddress (chain : Chain) (codeId : Nat) (salt : Binary) : Except StdError Addr := do
  let creator ← chain.deps.addrCanonicalize chain.gateway
  let checksum ← chain.deps.queryWasmCodeInfo codeId
  let address ← (chain.deps.instantiate2Address checksum creator salt).mapError .genericErr
  chain.deps.addrHumanize address

/-- The addresses that nobody holds the key of, those of the gateway and the sink apart. -/
def guarded (chain : Chain) (address : Addr) : Bool :=
  !chain.external address && address ≠ chain.gateway && address ≠ chain.sink

def vacant (chain : Chain) (world : World) (address : Addr) : Bool :=
  chain.guarded address && !world.payments.contains address

def createPayment (chain : Chain) (world : World) (codeId : Nat) (sink : String) (funds : List Coin)
    (salt : Binary) : Option World := do
  let address ← (chain.contractAddress codeId salt).toOption
  if codeId = chain.paymentCodeId ∧ chain.vacant world address then
    let world ← world.transfer chain.gateway address funds
    match Payment.instantiate chain.deps ⟨chain.gateway, funds⟩ sink Payment.Storage.empty with
    | .ok _ after => some { world with payments := world.payments.insert address after }
    | .error _ _ => none
    | .panic _ => none
  else none

def dispatchGateway (chain : Chain) (block : BlockInfo) (index : Option Nat) (world : World) :
    Msg → Option World
  | .wasmExecute contract (.pay burn communityPool relayer) funds =>
      chain.callPayment block index world ⟨chain.gateway, messageFunds funds⟩ contract
        (.pay burn communityPool relayer)
  | .wasmExecute contract _ funds => world.transfer chain.gateway contract (messageFunds funds)
  | .wasmInstantiate2 _ codeId _ (.instantiatePayment sink) funds salt =>
      chain.createPayment world codeId sink (messageFunds funds) salt
  | .ibcSendPacket _ _ _ => some world
  | _ => none

def signs (chain : Chain) : Gateway.Action → Bool
  | .execute info _ => chain.external info.sender
  | .packetReceive msg => chain.external msg.relayer
  | _ => true

def fund (chain : Chain) (world : World) : Gateway.Action → Option World
  | .execute info _ => world.transfer info.sender chain.gateway info.funds
  | _ => some world

end Chain

def chargeFor : Option (String × Nat) → Option Gateway.Config → List (String × Coin)
  | some (channel, _), some config => [(channel, config.price)]
  | _, _ => []

section

variable [Wire]

def chargeOf (before after : Gateway.World) : List (String × Coin) :=
  chargeFor (after.log.getLast?.bind Gateway.Entry.request) before.storage.config

def Chain.callGateway (chain : Chain) (world : World) (tx : Gateway.Tx) : Option World := do
  let funded ← chain.fund world tx.action
  let gateway ← Gateway.attempt chain.deps chain.gateway world.gateway tx
  gateway.lastMsgs.foldlM (chain.dispatchGateway tx.block tx.index)
    { funded with gateway, charges := world.charges ++ chargeOf world.gateway gateway }

def attempt (chain : Chain) (world : World) : Tx → Option World
  | .gateway tx => if chain.signs tx.action then chain.callGateway world tx else none
  | .payment block index info payment msg =>
      if chain.external info.sender then chain.callPayment block index world info payment msg
        else none
  | .sink block index info msg =>
      if chain.external info.sender then chain.callSink block index world info msg else none
  | .send sender target amount =>
      if chain.external sender then world.transfer sender target amount else none
  | .credit target amount =>
      some { world with bank := world.bank.deposit target amount.denom amount.amount.val }

def reached (chain : Chain) (txs : List Tx) : World := Runs.run (attempt chain) World.initial txs

end

end NoisContracts.Treasury
