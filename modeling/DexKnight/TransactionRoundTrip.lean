import DexKnight.BundleWire

/-! Transactions through their own codec. Twelve fields are written in four ways: bytes
and quantities of two widths as hexadecimal texts, and null for what is absent. A
transaction whose addresses and hash have their lengths is read back as it was, and the
reader accepts no other transaction; so whatever it accepts, it accepts again. -/
namespace DexKnight.TransactionRoundTrip
open Core.Types Core.Wire Core.Codec WireProofs BundleWire

variable {lib : Libraries} {tx : EvmTransaction}

/-- Addresses of twenty bytes and a hash of 32. -/
structure TransactionSized (tx : EvmTransaction) : Prop where
  source : tx.source.length = kAddressLength
  recipient : ∀ bytes, tx.recipient = some bytes → bytes.length = kAddressLength
  hash : ∀ bytes, tx.hash = some bytes → bytes.length = 32

private theorem quantity_nullable {object : Fields} {field : String} {value : Option UInt64}
    (present : ifContains object field = some (nullable value hexQuantity)) :
    jsonOptionalHexUint64 object field = some value := by
  apply jsonOptional_nullable _ present
  rintro quantity rfl
  exact jsonHexUint64_hexQuantity present

section Inverts

variable (inverts : Inverts lib)
include inverts

private theorem word_nullable {object : Fields} {field : String} {value : Option Uint256}
    (present : ifContains object field = some (nullable value (hexQuantity256 lib))) :
    jsonOptionalHexUint256 lib object field = some value := by
  apply jsonOptional_nullable _ present
  rintro word rfl
  exact jsonHexUint256_hexQuantity256 inverts present

/-- What is written is read back, field by field. -/
theorem fromJson_toJson (sized : TransactionSized tx) :
    EvmTransaction.fromJson lib (EvmTransaction.toJson lib tx) = some tx := by
  have source := jsonHexBytesOf_hexData inverts sized.source (show
    ifContains (transactionFields lib tx) "from" = some _ from rfl)
  have input := jsonHexBytes_hexData inverts (show
    ifContains (transactionFields lib tx) "input" = some (.string (hexData tx.input)) from rfl)
  have gas := jsonHexUint64_hexQuantity (show ifContains (transactionFields lib tx) "gas" =
    some (.string (hexQuantity tx.gas)) from rfl)
  have nonce := jsonHexUint64_hexQuantity (show ifContains (transactionFields lib tx) "nonce" =
    some (.string (hexQuantity tx.nonce)) from rfl)
  have value := word_nullable inverts (show ifContains (transactionFields lib tx) "value" =
    some (nullable (some tx.value) (hexQuantity256 lib)) from rfl)
  have chainId := quantity_nullable (show ifContains (transactionFields lib tx) "chainId" =
    some (nullable tx.chainId hexQuantity) from rfl)
  have type := quantity_nullable (show ifContains (transactionFields lib tx) "type" =
    some (nullable (some tx.type.toUInt64) hexQuantity) from rfl)
  have hash := jsonOptionalHexBytes_nullable inverts sized.hash (show
    ifContains (transactionFields lib tx) "hash" = some _ from rfl)
  have recipient := jsonOptionalHexBytes_nullable inverts sized.recipient (show
    ifContains (transactionFields lib tx) "to" = some _ from rfl)
  have gasPrice := word_nullable inverts (show ifContains (transactionFields lib tx) "gasPrice" =
    some (nullable tx.gasPrice (hexQuantity256 lib)) from rfl)
  have maxFeePerGas := word_nullable inverts (show
    ifContains (transactionFields lib tx) "maxFeePerGas" =
      some (nullable tx.maxFeePerGas (hexQuantity256 lib)) from rfl)
  have maxPriorityFeePerGas := word_nullable inverts (show
    ifContains (transactionFields lib tx) "maxPriorityFeePerGas" =
      some (nullable tx.maxPriorityFeePerGas (hexQuantity256 lib)) from rfl)
  obtain ⟨fits, isType⟩ := type_round_trip tx.type
  rw [toJson_transactionFields]
  unfold EvmTransaction.fromJson
  rw [read_then (show asObject (.object (transactionFields lib tx)) = some _ from rfl),
    read_then source, read_then input, read_then gas, read_then nonce, read_then value,
    read_then chainId, read_then type]
  dsimp only
  rw [if_neg fits, isType, read_then rfl, read_then hash, read_then recipient, read_then gasPrice,
    read_then maxFeePerGas, read_then maxPriorityFeePerGas]
  rfl

end Inverts

/-- The reader accepts only transactions of the right lengths. -/
theorem fromJson_sized {value : Json} (read : EvmTransaction.fromJson lib value = some tx) :
    TransactionSized tx := by
  obtain ⟨object, _, read⟩ := Option.bind_eq_some_iff.mp read
  obtain ⟨source, isSource, read⟩ := Option.bind_eq_some_iff.mp read
  obtain ⟨input, _, read⟩ := Option.bind_eq_some_iff.mp read
  obtain ⟨gas, _, read⟩ := Option.bind_eq_some_iff.mp read
  obtain ⟨nonce, _, read⟩ := Option.bind_eq_some_iff.mp read
  obtain ⟨valueAmount, _, read⟩ := Option.bind_eq_some_iff.mp read
  obtain ⟨chainId, _, read⟩ := Option.bind_eq_some_iff.mp read
  obtain ⟨rawType, _, read⟩ := Option.bind_eq_some_iff.mp read
  -- Absent or a byte, the type decides only itself: the rest is read after it.
  have afterType : ∃ type : UInt8, (do
      let hash ← jsonOptionalHexBytes lib object "hash" 32
      let recipient ← jsonOptionalHexBytes lib object "to" kAddressLength
      let gasPrice ← jsonOptionalHexUint256 lib object "gasPrice"
      let maxFeePerGas ← jsonOptionalHexUint256 lib object "maxFeePerGas"
      let maxPriorityFeePerGas ← jsonOptionalHexUint256 lib object "maxPriorityFeePerGas"
      some ({
        hash, input, source, chainId, value := valueAmount.getD 0, gasPrice, gas, maxFeePerGas,
        maxPriorityFeePerGas, nonce, type, recipient } : EvmTransaction)) = some tx := by
    cases rawType with
    | none => exact ⟨0, read⟩
    | some raw =>
      dsimp only at read
      split at read
      · cases read
      · exact ⟨raw.toUInt8, read⟩
  obtain ⟨type, read⟩ := afterType
  obtain ⟨hash, isHash, read⟩ := Option.bind_eq_some_iff.mp read
  obtain ⟨recipient, isRecipient, read⟩ := Option.bind_eq_some_iff.mp read
  obtain ⟨gasPrice, _, read⟩ := Option.bind_eq_some_iff.mp read
  obtain ⟨maxFeePerGas, _, read⟩ := Option.bind_eq_some_iff.mp read
  obtain ⟨maxPriorityFeePerGas, _, read⟩ := Option.bind_eq_some_iff.mp read
  cases read
  refine ⟨jsonHexBytesOf_length isSource, ?_, ?_⟩
  · intro bytes present
    exact jsonHexBytesOf_length (jsonOptional_cases isRecipient bytes present)
  · intro bytes present
    exact jsonHexBytesOf_length (jsonOptional_cases isHash bytes present)

/-- **A transaction survives its codec.** With conversions that read back what they
write: every transaction with a sender of twenty bytes, and with no recipient and no hash
or ones of the right length, is read back as it was; and every value the reader accepts
is a transaction that is written and read back as it is. -/
theorem transaction_codec_round_trip (inverts : Inverts lib) :
    (∀ tx : EvmTransaction, tx.source.length = 20 →
      (∀ bytes, tx.recipient = some bytes → bytes.length = 20) →
      (∀ bytes, tx.hash = some bytes → bytes.length = 32) →
        EvmTransaction.fromJson lib (EvmTransaction.toJson lib tx) = some tx) ∧
      ∀ value tx, EvmTransaction.fromJson lib value = some tx →
        EvmTransaction.fromJson lib (EvmTransaction.toJson lib tx) = some tx := by
  constructor
  · intro tx source recipient hash
    exact fromJson_toJson inverts ⟨source, recipient, hash⟩
  · intro value tx read
    exact fromJson_toJson inverts (fromJson_sized read)

/-- The largest quantities, a recipient and no hash, with the documented conversions. -/
theorem transaction_codec_round_trip_largest :
    let tx : EvmTransaction := {
      source := List.replicate 20 0xff
      recipient := some (List.replicate 20 0)
      input := [0x00, 0xff]
      value := BitVec.allOnes 256
      gas := 0xffffffffffffffff
      chainId := some 0
      type := 255
      maxFeePerGas := some (BitVec.allOnes 256) }
    EvmTransaction.fromJson documented (EvmTransaction.toJson documented tx) = some tx := by
  intro tx
  apply (transaction_codec_round_trip documented_inverts).1
  · rfl
  · rintro bytes present
    cases present
    rfl
  · rintro bytes present
    cases present

end DexKnight.TransactionRoundTrip
