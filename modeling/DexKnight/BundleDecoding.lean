import DexKnight.BundleWire

/-! What a node is asked to execute for a bundle of any length: every reference becomes
the transaction of the record it names, and every transaction of Knight's own reaches
the node with the values it was composed with. -/
namespace DexKnight.BundleDecoding
open Core.Types Core.Wire Core.Codec Core.BlockBuilder Support.Hex Support.Traversal WireProofs
  BundleWire MempoolProofs

variable {lib : Libraries} {mempool : Mempool}

/-! ## The values of a call's parameters -/

/-- The number a hexadecimal quantity stands for. -/
def quantity : Json → Option Nat
  | .string text => do
    let digits ← hexPrefixed text
    if digits = [] then none else readHex digits 0
  | _ => none

/-- The bytes that hexadecimal data stands for. -/
def data : Json → Option Bytes
  | .string text => do readBytes (← hexPrefixed text)
  | _ => none

/-- The parameters of a call say what a transaction of Knight's says: each fee is there
when it is set and only then, and there is no recipient when there is none. -/
structure Asks (params : Fields) (tx : EvmTransaction) : Prop where
  source : (ifContains params "from").map data = some (some tx.source)
  recipient : ifContains params "to" = some .null ∧ tx.recipient = none ∨
    ∃ bytes, (ifContains params "to").map data = some (some bytes) ∧ tx.recipient = some bytes
  nonce : (ifContains params "nonce").map quantity = some (some tx.nonce.toNat)
  value : (ifContains params "value").map quantity = some (some tx.value.toNat)
  gas : (ifContains params "gas").map quantity = some (some tx.gas.toNat)
  input : (ifContains params "data").map data = some (some tx.input)
  gasPrice : (ifContains params "gasPrice").map quantity =
    tx.gasPrice.map fun fee => some fee.toNat
  maxFeePerGas : (ifContains params "maxFeePerGas").map quantity =
    tx.maxFeePerGas.map fun fee => some fee.toNat
  maxPriorityFeePerGas : (ifContains params "maxPriorityFeePerGas").map quantity =
    tx.maxPriorityFeePerGas.map fun fee => some fee.toNat

/-- `intx::hex` as documented: a numeral of the word. -/
def SpellsWords (lib : Libraries) : Prop :=
  ∀ value, (lib.hex value).toList ≠ [] ∧ readHex (lib.hex value).toList 0 = some value.toNat

theorem documented_spellsWords : SpellsWords documented := by
  intro value
  have spelled : (documented.hex value).toList = writeHex value.toNat := String.toList_ofList
  rw [spelled]
  exact ⟨writeHex_ne_nil _, readHex_writeHex _⟩

private theorem quantity_digits {digits : List Char} {value : Nat} (nonempty : digits ≠ [])
    (read : readHex digits 0 = some value) :
    quantity (.string ("0x" ++ String.ofList digits)) = some value := by
  simp only [quantity, hexPrefixed_hex, Option.bind_eq_bind, Option.bind_some, if_neg nonempty, read]

@[simp] theorem quantity_hexQuantity (value : UInt64) :
    quantity (.string (hexQuantity value)) = some value.toNat :=
  quantity_digits (writeHex_ne_nil _) (readHex_writeHex _)

theorem quantity_hexQuantity256 (spells : SpellsWords lib) (value : Uint256) :
    quantity (.string (hexQuantity256 lib value)) = some value.toNat := by
  obtain ⟨nonempty, read⟩ := spells value
  have spelled : hexQuantity256 lib value = "0x" ++ String.ofList (lib.hex value).toList := by
    rw [String.ofList_toList, hexQuantity256]
  rw [spelled]
  exact quantity_digits nonempty read

@[simp] theorem data_hexData (bytes : Bytes) : data (.string (hexData bytes)) = some bytes := by
  have digits : hexPrefixed (hexData bytes) = some _ := hexPrefixed_hex _
  simp only [data, digits, Option.bind_eq_bind, Option.bind_some, readBytes_digits]

/-! ## One transaction -/

/-- The fees are behind parameters that may be left out. -/
theorem toRpcParams_fees (transaction : Transaction) :
    ifContains transaction.toRpcParams "gasPrice" = transaction.gasPrice.map .string ∧
      ifContains transaction.toRpcParams "maxFeePerGas" =
        transaction.maxFeePerGas.map .string ∧
      ifContains transaction.toRpcParams "maxPriorityFeePerGas" =
        transaction.maxPriorityFeePerGas.map .string := by
  obtain ⟨_, _, _, _, _, _, _, _, gasPrice, maxFeePerGas, maxPriorityFeePerGas, _⟩ := transaction
  cases gasPrice <;> cases maxFeePerGas <;> cases maxPriorityFeePerGas <;> exact ⟨rfl, rfl, rfl⟩

private theorem fee_decodes (spells : SpellsWords lib) {written : Option Json}
    {fee : Option Uint256} (isWritten : written = (fee.map (hexQuantity256 lib)).map .string) :
    written.map quantity = fee.map fun fee => some fee.toNat := by
  rw [isWritten]
  cases fee with
  | none => rfl
  | some fee => simp [quantity_hexQuantity256 spells]

/-- The builder asks the node for the transaction that Knight wrote. -/
theorem asTransaction_asks (spells : SpellsWords lib) (tx : EvmTransaction) :
    Asks (asTransaction lib tx).toRpcParams tx := by
  obtain ⟨gasPrice, maxFee, maxPriorityFee⟩ := toRpcParams_fees (asTransaction lib tx)
  have value : ifContains (asTransaction lib tx).toRpcParams "value" =
      some (.string (hexQuantity256 lib tx.value)) := rfl
  constructor
  case source => exact congrArg some (data_hexData tx.source)
  case recipient =>
    cases isRecipient : tx.recipient with
    | none =>
      refine .inl ⟨?_, rfl⟩
      change some (Transaction.optionalJson (tx.recipient.map hexData)) = _
      rw [isRecipient]
      rfl
    | some bytes =>
      refine .inr ⟨bytes, ?_, rfl⟩
      change some (data (Transaction.optionalJson (tx.recipient.map hexData))) = _
      rw [isRecipient]
      exact congrArg some (data_hexData bytes)
  case nonce => exact congrArg some (quantity_hexQuantity tx.nonce)
  case value => rw [value, Option.map_some, quantity_hexQuantity256 spells]
  case gas => exact congrArg some (quantity_hexQuantity tx.gas)
  case input => exact congrArg some (data_hexData tx.input)
  case gasPrice => exact fee_decodes spells gasPrice
  case maxFeePerGas => exact fee_decodes spells maxFee
  case maxPriorityFeePerGas => exact fee_decodes spells maxPriorityFee

/-! ## References -/

/-- The mempools the builder can have: it starts empty, transactions are submitted and
records are marked mined. -/
inductive Grown : Mempool → Prop
  | empty : Grown {}
  | added {mempool : Mempool} (transaction : Transaction) (uuid now : String) :
      Grown mempool → Grown (mempool.addTransaction transaction uuid now).2
  | mined {mempool after : Mempool} {mempoolTxId chainTxHash now : String} {status : TxStatus}
      {receipt : Option Fields} : Grown mempool →
      mempool.markMined mempoolTxId chainTxHash status receipt now = .ok after → Grown after

theorem Grown.wellNumbered (grown : Grown mempool) : WellNumbered mempool := by
  induction grown with
  | empty => exact empty_wellNumbered
  | added transaction uuid now _ ih => exact addTransaction_wellNumbered ih transaction uuid now
  | mined _ marked ih => exact markMined_wellNumbered ih marked

/-- Every record has a name. -/
theorem Grown.named (grown : Grown mempool) :
    ∀ record ∈ mempool.transactions, record.mempoolTxId ≠ "" := by
  induction grown with
  | empty =>
    intro record impossible
    cases impossible
  | added transaction uuid now _ ih =>
    intro record member
    rcases mem_setItem member with rfl | ⟨isOld, _⟩
    · intro unnamed
      have length := congrArg String.length unnamed
      simp at length
    · exact ih record isOld
  | mined _ marked ih =>
    obtain ⟨old, isOld, _, rfl⟩ := markMined_cases marked
    intro record member
    rcases mem_setItem member with rfl | ⟨isOther, _⟩
    · exact ih old isOld
    · exact ih record isOther

/-- A name finds the one record that has it. -/
theorem getTransaction_of_mem (numbered : WellNumbered mempool) {record : MempoolRecord}
    (member : record ∈ mempool.transactions) :
    mempool.getTransaction record.mempoolTxId = some record := by
  unfold Mempool.getTransaction
  cases found : mempool.transactions.find? fun other => other.mempoolTxId = record.mempoolTxId with
  | none =>
    have differs := List.find?_eq_none.mp found record member
    simp at differs
  | some other =>
    have same : other.mempoolTxId = record.mempoolTxId := by simpa using List.find?_some found
    rw [List.inj_on_of_nodup_map numbered.ids (List.mem_of_find?_eq_some found) member same]

/-! ## Bundles -/

/-- An item of Knight's and what the builder made of it: the transaction of the pending
record it names, or one that asks the node for what Knight wrote. -/
inductive Carries (mempool : Mempool) : Core.Types.BundleItem → Core.BlockBuilder.BundleItem → Prop
  | reference {record : MempoolRecord} : record ∈ mempool.transactions →
      Carries mempool (.mempoolTxRef record.mempoolTxId)
        ⟨some record.mempoolTxId, record.transaction⟩
  | direct {tx : EvmTransaction} {transaction : Transaction} :
      Asks transaction.toRpcParams tx → Carries mempool (.transaction tx) ⟨none, transaction⟩

/-- Every reference of the bundle names a record that is pending. -/
def NamesPending (mempool : Mempool) (bundle : Core.Types.Bundle) : Prop :=
  ∀ mempoolTxId, .mempoolTxRef mempoolTxId ∈ bundle.transactions →
    ∃ record ∈ mempool.transactions, record.mempoolTxId = mempoolTxId ∧ record.status = .pending

theorem bundleItem_carried (spells : SpellsWords lib) (grown : Grown mempool)
    {bundle : Core.Types.Bundle} (pending : NamesPending mempool bundle)
    {item : Core.Types.BundleItem} (member : item ∈ bundle.transactions) :
    ∃ parsed, Core.BlockBuilder.BundleItem.fromJson (BundleItem.toJson lib item) mempool =
      .ok parsed ∧ Carries mempool item parsed := by
  cases item with
  | mempoolTxRef mempoolTxId =>
    obtain ⟨record, isRecord, rfl, isPending⟩ := pending mempoolTxId member
    have found := getTransaction_of_mem grown.wellNumbered isRecord
    exact ⟨_, bundleItem_reference_read (grown.named record isRecord) found isPending,
      .reference isRecord⟩
  | transaction tx =>
    exact ⟨_, bundleItem_transaction tx mempool, .direct (asTransaction_asks spells tx)⟩

/-- The block number is read back, and so is its absence. -/
theorem blockNumber_read (bundle : Core.Types.Bundle) :
    optionalBlockNumber (Bundle.toJson lib bundle) "blockNumber" =
      .ok (bundle.blockNumber.map UInt64.toNat) := by
  cases targeted : bundle.blockNumber with
  | none =>
    have absent : ifContains (Bundle.toJson lib bundle) "blockNumber" = none := by
      simp [Bundle.toJson, targeted, ifContains]
    rw [optionalBlockNumber, absent]
    rfl
  | some blockNumber => exact optionalBlockNumber_bundle targeted

theorem transactions_present (bundle : Core.Types.Bundle) :
    ifContains (Bundle.toJson lib bundle) "transactions" =
      some (.array (bundle.transactions.map (BundleItem.toJson lib))) := by
  obtain ⟨blockNumber, transactions⟩ := bundle
  cases blockNumber with
  | none => rfl
  | some blockNumber => rfl

/-- The builder takes every bundle of Knight's whose references are pending, item for
item and for the same block. -/
theorem bundle_reaches_the_node_unchanged (spells : SpellsWords lib) (grown : Grown mempool)
    {bundle : Core.Types.Bundle} (nonempty : bundle.transactions ≠ [])
    (pending : NamesPending mempool bundle) :
    ∃ parsed, Core.BlockBuilder.Bundle.fromJson (Bundle.toJson lib bundle) mempool = .ok parsed ∧
      parsed.blockNumber = bundle.blockNumber.map UInt64.toNat ∧
      List.Forall₂ (Carries mempool) bundle.transactions parsed.items := by
  obtain ⟨items, areCarried⟩ := exists_forall₂ fun item (member : item ∈ bundle.transactions) =>
    bundleItem_carried spells grown pending member
  have carried := areCarried.imp fun _ _ both => both.2
  have isItems : (bundle.transactions.map (BundleItem.toJson lib)).mapM
      (fun rawItem => Core.BlockBuilder.BundleItem.fromJson rawItem mempool) = .ok items := by
    rw [mapM_eq_ok, List.forall₂_map_left_iff]
    exact areCarried.imp fun _ _ both => both.1
  refine ⟨⟨items, bundle.blockNumber.map UInt64.toNat⟩, ?_, rfl, carried⟩
  unfold Core.BlockBuilder.Bundle.fromJson
  rw [transactions_present, blockNumber_read]
  cases isList : bundle.transactions with
  | nil => exact absurd isList nonempty
  | cons first rest =>
    rw [isList] at isItems
    simp only [List.map_cons] at isItems ⊢
    rw [isItems]
    rfl

/-- A mempool with one pending record. -/
def onePending : Mempool :=
  (({} : Mempool).addTransaction ⟨none, none, none, "0x0", "0x71", none, "0x0", "0x5208", none, none,
    none, "0x"⟩ "1" "now").2

/-- A bundle of a reference, a call with fees and a creation without. -/
def threeItems : Core.Types.Bundle where
  blockNumber := some 18
  transactions := [
    .mempoolTxRef "mp-1",
    .transaction {
      hash := none, input := [0xAB, 0xCD], source := List.replicate 20 1, chainId := some 31337
      value := 0, gasPrice := none, gas := 21000, maxFeePerGas := some (BitVec.allOnes 256)
      maxPriorityFeePerGas := some 0, nonce := 0, type := 2, recipient := some (List.replicate 20 2) },
    .transaction {
      hash := none, input := [], source := List.replicate 20 1, chainId := none, value := 5
      gasPrice := none, gas := 0, maxFeePerGas := none, maxPriorityFeePerGas := none, nonce := 1
      type := 0, recipient := none }]

theorem three_items_reach_the_node :
    ∃ parsed,
      Core.BlockBuilder.Bundle.fromJson (Bundle.toJson documented threeItems) onePending =
        .ok parsed ∧
      parsed.blockNumber = some 18 ∧
      List.Forall₂ (Carries onePending) threeItems.transactions parsed.items := by
  have grown : Grown onePending := .added _ "1" "now" .empty
  refine bundle_reaches_the_node_unchanged documented_spellsWords grown (List.cons_ne_nil _ _) ?_
  intro mempoolTxId member
  have named : mempoolTxId = "mp-1" := by simpa [threeItems] using member
  exact ⟨_, List.mem_cons_self, named.symm, rfl⟩

end DexKnight.BundleDecoding
