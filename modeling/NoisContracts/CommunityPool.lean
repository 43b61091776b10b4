import NoisContracts.Proxy.Core

/-!
The bytes of `MsgFundCommunityPool`, which `nois-payment` and `nois-proxy` write by
hand, read by the definition of the message: coins with a denom and an amount, both
strings, and the depositor.
-/

namespace NoisContracts.CommunityPool

open Protobuf Payment

/-- What the bytes mean, and that nothing else has the same bytes. -/
structure Encodes (amount : Coin) (depositor : Addr) : Prop where
  read : readMsg (Payment.encodeMsgFundCommunityPool amount depositor) =
    some ⟨[⟨amount.denom, Nat.repr amount.amount.val⟩], depositor⟩
  layout : Payment.encodeMsgFundCommunityPool amount depositor =
    writeVarint 10 ++ writeVarint (coinBytes amount).length ++ coinBytes amount ++
      appendString 2 depositor
  severalBytes :
    128 ≤ (coinBytes amount).length → 2 ≤ (writeVarint (coinBytes amount).length).length
  injective : ∀ other otherDepositor,
    Payment.encodeMsgFundCommunityPool amount depositor =
      Payment.encodeMsgFundCommunityPool other otherDepositor →
      amount = other ∧ depositor = otherDepositor
  copies : Proxy.encodeMsgFundCommunityPool amount depositor =
    Payment.encodeMsgFundCommunityPool amount depositor

theorem msgFundCommunityPool_encodes (amount : Coin) (depositor : Addr) :
    Encodes amount depositor := by
  refine ⟨readMsg_encoded amount depositor, ?_, length_writeVarint, ?_, rfl⟩
  · simp [Payment.encodeMsgFundCommunityPool, appendMessage, writeField, coinBytes]
  · intro other otherDepositor same
    have first := decodeMsgFundCommunityPool_encoded amount depositor
    rw [same, decodeMsgFundCommunityPool_encoded other otherDepositor] at first
    cases first
    exact ⟨rfl, rfl⟩

def testCoin : Coin :=
  ⟨"ibc/0F181D9F5BB18A8496153C1666E934169515592C135E8E9FCCC355889858EAF9",
    ⟨799999999999, by decide⟩⟩

example :
    (Payment.encodeMsgFundCommunityPool testCoin
      "stars18xsp37zc65690hlq0zm3q5sxcu2rpm4mrtx6ec").take 7 =
      [10, 84, 10, 68, 105, 98, 99] := by
  decide +kernel

end NoisContracts.CommunityPool
