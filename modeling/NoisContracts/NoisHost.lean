import NoisContracts.CosmWasm

/-!
A host of the Nois chain for concrete runs. It has the hashes and addresses that the
chain computes for a gateway and its first two channels; on all other inputs it
answers with a longer value, so that no two inputs share an answer.
-/

namespace NoisContracts.NoisHost

theorem million_lt : 1000000 < 2 ^ 128 := by decide

def manager : Addr := "nois1dmj2g6wdf6gs2wz87hfledsahny3arcwufmtjx"

def relayer : Addr := "nois1ru86kat2qyr6t55h2lhjpxcqdahptkfc4eh503"

def sink : Addr := "nois1hd07vhpr0a7utcs7mm0qq7lvn8etetnsarv76v8k9a6wn796hhgqvhcjfk"

def drand : Addr := "nois1u284uwfu2x2zdnqel4mpgxep2s7k2rn3hf9w8d3pnedx4ynflv0qzr779k"

def gateway : Addr := "nois1hyyhmcze82fvvlwmql8vzxc5wz38ra27r8le5krupxnz0j306exscxjsxv"

def gatewayCanonical : Binary :=
  [185, 9, 125, 224, 89, 58, 146, 198, 125, 219, 7, 206, 193, 27, 20, 112, 162, 113, 245, 94,
    25, 255, 154, 88, 124, 9, 166, 39, 202, 47, 214, 77]

def paymentChecksum : Binary :=
  [54, 198, 12, 31, 79, 55, 34, 74, 179, 93, 95, 103, 33, 217, 182, 53, 104, 53, 4, 110, 68,
    152, 142, 48, 116, 97, 197, 125, 243, 115, 78, 226]

def firstHash : Binary :=
  [25, 238, 225, 110, 215, 107, 143, 84, 171, 33, 80, 127, 127, 44, 180, 19, 117, 211, 25,
    135, 124, 162, 43, 75, 10, 24, 39, 95, 126, 100, 102, 11]

def secondHash : Binary :=
  [164, 170, 2, 239, 221, 53, 85, 65, 1, 78, 135, 155, 222, 77, 181, 104, 110, 216, 150, 188,
    41, 107, 54, 131, 241, 81, 243, 195, 148, 179, 227, 117]

def firstPaymentCanonical : Binary :=
  [105, 22, 245, 67, 160, 246, 208, 201, 68, 27, 139, 181, 20, 249, 145, 112, 244, 133, 79,
    8, 88, 8, 161, 245, 170, 117, 146, 121, 201, 224, 242, 171]

def secondPaymentCanonical : Binary :=
  [35, 243, 250, 248, 3, 44, 6, 121, 43, 33, 167, 241, 40, 90, 26, 44, 127, 63, 153, 241, 11,
    47, 217, 111, 218, 227, 249, 33, 183, 248, 161, 60]

def firstPayment : Addr := "nois1dyt02saq7mgvj3qm3w63f7v3wr6g2ncgtqy2rad2wkf8nj0q724swcuu6a"

def secondPayment : Addr := "nois1y0el47qr9sr8j2ep5lcjsks693lnlx03pvhajm76u0ujrdlc5y7qmmdmdm"

section

variable {α β : Type} [DecidableEq α]

/-- A function known on two inputs. -/
def tabled (first second : α) (one two : β) (otherwise : α → β) (input : α) : β :=
  if input = first then one else if input = second then two else otherwise input

theorem tabled_injective {first second : α} {one two : β} {otherwise : α → β}
    (different : one ≠ two) (fresh : ∀ input, otherwise input ≠ one ∧ otherwise input ≠ two)
    (injective : Function.Injective otherwise) :
    Function.Injective (tabled first second one two otherwise) := by
  intro left right same
  unfold tabled at same
  split at same
  · split at same
    · simp [*]
    · split at same
      · exact (different same).elim
      · exact ((fresh right).1 same.symm).elim
  · split at same
    · split at same
      · exact (different same.symm).elim
      · split at same
        · simp [*]
        · exact ((fresh right).2 same.symm).elim
    · split at same
      · exact ((fresh left).1 same).elim
      · split at same
        · exact ((fresh left).2 same).elim
        · exact injective same

end

def padded (data : Binary) : Binary := data ++ List.replicate 33 0

theorem padded_injective : Function.Injective padded := by
  intro left right same
  exact List.append_cancel_right same

theorem padded_ne {data other : Binary} (short : other.length = 32) : padded data ≠ other := by
  intro same
  have lengths := congrArg List.length same
  rw [padded, List.length_append, List.length_replicate, short] at lengths
  omega

def sha256 : Binary → Binary :=
  tabled (asBytes "channel-0") (asBytes "channel-1") firstHash secondHash padded

theorem sha256_injective : Function.Injective sha256 := by
  refine tabled_injective (by decide) ?_ padded_injective
  intro input
  exact ⟨padded_ne rfl, padded_ne rfl⟩

def instantiate2Address (checksum creator : Binary) : Binary → Binary :=
  if checksum = paymentChecksum ∧ creator = gatewayCanonical then
    tabled firstHash secondHash firstPaymentCanonical secondPaymentCanonical padded
  else padded

theorem instantiate2Address_injective (checksum creator : Binary) :
    Function.Injective (instantiate2Address checksum creator) := by
  unfold instantiate2Address
  split
  · refine tabled_injective (by decide) ?_ padded_injective
    intro input
    exact ⟨padded_ne rfl, padded_ne rfl⟩
  · exact padded_injective

def spelled (canonical : Binary) : Addr :=
  String.ofList ('x' :: canonical.map fun byte => Char.ofNat byte.toNat)

theorem spelled_injective : Function.Injective spelled := by
  intro left right same
  have letters : Function.Injective fun byte : UInt8 => Char.ofNat byte.toNat := by
    intro one two equal
    have bytes (byte : UInt8) : (Char.ofNat byte.toNat).toNat = byte.toNat := by
      have small := byte.toNat_lt
      rw [Char.toNat_ofNat, if_pos]
      exact .inl (by omega)
    have values := congrArg Char.toNat equal
    simp only [bytes] at values
    exact UInt8.toNat_inj.mp values
  have chars := congrArg String.toList same
  simp only [spelled, String.toList_ofList, List.cons.injEq, true_and] at chars
  exact letters.list_map chars

def addrHumanize : Binary → Addr :=
  tabled firstPaymentCanonical secondPaymentCanonical firstPayment secondPayment spelled

theorem addrHumanize_injective : Function.Injective addrHumanize := by
  have starts (input : Binary) {other : Addr} (letter : other.toList.head? = some 'n') :
      spelled input ≠ other := by
    rintro rfl
    simp [spelled] at letter
  refine tabled_injective (by decide) ?_ spelled_injective
  intro input
  exact ⟨starts input (by decide), starts input (by decide)⟩

def deps : Deps where
  addrValidate address := .ok address
  addrCanonicalize address := .ok (if address = gateway then gatewayCanonical else asBytes address)
  addrHumanize canonical := .ok (addrHumanize canonical)
  codeInfo codeId := if codeId = 1 then .found paymentChecksum else .noSuchCode
  instantiate2Address checksum creator salt := .ok (instantiate2Address checksum creator salt)
  sha256 := sha256

end NoisContracts.NoisHost
