import DexKnight.BuilderProofs
import DexKnight.WireProofs
import DexKnight.Core.Runtime

/-! Knight's bundles as the builder reads them: two programs in two languages agree on
the block a bundle is for. Python's `int` also takes underscores and trailing blanks,
which Knight never writes. -/
namespace DexKnight.BundleWire
open Core.Types Core.Wire Core.Codec Support.Hex Support.Traversal WireProofs BuilderProofs

variable {lib : Libraries} {bundle : Bundle}

/-! ## Block numbers -/

/-- Without underscores, the digits of `int` are plain digits. -/
theorem readUnderscored_digits {digits : List Char} {value : Nat}
    (clean : ∀ c ∈ digits, (hexDigit c).isSome = true) :
    Core.BlockBuilder.readUnderscored digits value = readHex digits value := by
  induction digits generalizing value with
  | nil => rfl
  | cons first rest ih =>
    have isDigit := hexDigit_range (clean first List.mem_cons_self)
    have plain : first ≠ '_' := by
      rintro rfl
      exact absurd isDigit (by decide)
    rw [Core.BlockBuilder.readUnderscored.eq_3 _ _ _ (fun _ _ same _ => plain same), readHex]
    congr 1
    funext digit
    exact ih fun c member => clean c (List.mem_cons_of_mem _ member)

/-- No digit is a blank. -/
theorem isSpace_digit {c : Char} (isDigit : (hexDigit c).isSome = true) :
    Core.BlockBuilder.isSpace c = false := by
  have range := hexDigit_range isDigit
  have notBlank : c ≠ ' ' := by
    rintro rfl
    exact absurd range (by decide)
  have notControl : ¬c ≤ '\r' := by
    intro below
    have bound : c.toNat ≤ 13 := below
    omega
  simp [Core.BlockBuilder.isSpace, notBlank, notControl]

theorem intBase16_writeHex (value : Nat) :
    Core.BlockBuilder.intBase16 (writeHex value) = some value := by
  have clean := readHex_digits (readHex_writeHex value)
  have unstripped : ((writeHex value).reverse.dropWhile Core.BlockBuilder.isSpace).reverse =
      writeHex value := by
    cases reversed : (writeHex value).reverse with
    | nil => exact absurd (List.reverse_eq_nil_iff.mp reversed) (writeHex_ne_nil value)
    | cons last front =>
      have member : last ∈ writeHex value :=
        List.mem_reverse.mp (reversed ▸ List.mem_cons_self)
      rw [List.dropWhile_cons, isSpace_digit (clean last member), if_neg (by decide), ← reversed,
        List.reverse_reverse]
  unfold Core.BlockBuilder.intBase16
  rw [unstripped]
  split
  · next empty => exact absurd empty (writeHex_ne_nil value)
  · rw [readUnderscored_digits clean, readHex_writeHex]

/-- The builder reads the block number Knight wrote. -/
theorem optionalBlockNumber_bundle {blockNumber : UInt64}
    (targeted : bundle.blockNumber = some blockNumber) :
    Core.BlockBuilder.optionalBlockNumber (Bundle.toJson lib bundle) "blockNumber" =
      .ok (some blockNumber.toNat) := by
  have present : ifContains (Bundle.toJson lib bundle) "blockNumber" =
      some (.string (hexQuantity blockNumber)) := by
    simp [Bundle.toJson, targeted, ifContains]
  have digits : hexPrefixed (hexQuantity blockNumber) = some (writeHex blockNumber.toNat) :=
    hexPrefixed_hex _
  have nonempty : hexQuantity blockNumber ≠ "" := by
    intro empty
    rw [empty] at digits
    cases digits
  unfold Core.BlockBuilder.optionalBlockNumber
  rw [present]
  dsimp only
  rw [if_neg nonempty, digits]
  cases written : writeHex blockNumber.toNat with
  | nil => exact absurd written (writeHex_ne_nil _)
  | cons first rest =>
    dsimp only
    rw [← written, intBase16_writeHex]

/-- A targeted bundle that is admitted meets its block at the head. -/
theorem admitted_at_target {answers : Core.BlockBuilder.Answers} {builder : Core.BlockBuilder.Builder}
    {parsed : Core.BlockBuilder.Bundle} {blockNumber : UInt64}
    (targeted : bundle.blockNumber = some blockNumber)
    (admitted : Admitted answers (Bundle.toJson lib bundle) builder parsed) :
    builder.node.head = blockNumber.toNat := by
  have read := (bundle_parsed admitted.parsed).2.1
  rw [optionalBlockNumber_bundle targeted] at read
  have atHead := admitted.atHead
  rw [Core.BlockBuilder.resolveBundleBlockNumber, ← Except.ok.inj read] at atHead
  exact atHead.symm

/-! ## Transactions -/

/-- A transaction of Knight's as the builder reads it. -/
def asTransaction (lib : Libraries) (tx : EvmTransaction) : Core.BlockBuilder.Transaction where
  hash := tx.hash.map hexData
  type := some (hexQuantity tx.type.toUInt64)
  chainId := tx.chainId.map hexQuantity
  nonce := hexQuantity tx.nonce
  fromAddress := hexData tx.source
  toAddress := tx.recipient.map hexData
  value := hexQuantity256 lib tx.value
  gas := hexQuantity tx.gas
  gasPrice := tx.gasPrice.map (hexQuantity256 lib)
  maxFeePerGas := tx.maxFeePerGas.map (hexQuantity256 lib)
  maxPriorityFeePerGas := tx.maxPriorityFeePerGas.map (hexQuantity256 lib)
  input := hexData tx.input

private theorem requiredStr_hex {data : Fields} {key : String} {digits : List Char}
    (present : ifContains data key = some (.string ("0x" ++ String.ofList digits))) :
    Core.BlockBuilder.requiredStr data key = .ok ("0x" ++ String.ofList digits) := by
  rw [Core.BlockBuilder.requiredStr, present]
  exact if_neg (hex_ne_empty digits)

private theorem optionalStr_nullable {α : Type} {data : Fields} {key : String} {value : Option α}
    {write : α → String} (present : ifContains data key = some (nullable value write)) :
    Core.BlockBuilder.optionalStr data key = .ok (value.map write) := by
  rw [Core.BlockBuilder.optionalStr, present]
  cases value with
  | none => rfl
  | some value => rfl

/-- The fields Knight writes for a transaction. -/
def transactionFields (lib : Libraries) (tx : EvmTransaction) : Fields :=
  match EvmTransaction.toJson lib tx with
  | .object fields => fields
  | _ => []

theorem toJson_transactionFields (tx : EvmTransaction) :
    EvmTransaction.toJson lib tx = .object (transactionFields lib tx) := rfl

/-- The builder accepts every transaction Knight writes. -/
theorem transaction_read (lib : Libraries) (tx : EvmTransaction) :
    Core.BlockBuilder.Transaction.fromJson (transactionFields lib tx) =
      .ok (asTransaction lib tx) := by
  have hash := optionalStr_nullable (show ifContains (transactionFields lib tx) "hash" =
    some (nullable tx.hash hexData) from rfl)
  have type := optionalStr_nullable (show ifContains (transactionFields lib tx) "type" =
    some (nullable (some tx.type.toUInt64) hexQuantity) from rfl)
  have chainId := optionalStr_nullable (show ifContains (transactionFields lib tx) "chainId" =
    some (nullable tx.chainId hexQuantity) from rfl)
  have nonce := requiredStr_hex (show ifContains (transactionFields lib tx) "nonce" =
    some (.string (hexQuantity tx.nonce)) from rfl)
  have source := requiredStr_hex (show ifContains (transactionFields lib tx) "from" =
    some (.string (hexData tx.source)) from rfl)
  have recipient := optionalStr_nullable (show ifContains (transactionFields lib tx) "to" =
    some (nullable tx.recipient hexData) from rfl)
  have value := optionalStr_nullable (show ifContains (transactionFields lib tx) "value" =
    some (nullable (some tx.value) (hexQuantity256 lib)) from rfl)
  have gas := requiredStr_hex (show ifContains (transactionFields lib tx) "gas" =
    some (.string (hexQuantity tx.gas)) from rfl)
  have gasPrice := optionalStr_nullable (show ifContains (transactionFields lib tx) "gasPrice" =
    some (nullable tx.gasPrice (hexQuantity256 lib)) from rfl)
  have maxFee := optionalStr_nullable (show ifContains (transactionFields lib tx) "maxFeePerGas" =
    some (nullable tx.maxFeePerGas (hexQuantity256 lib)) from rfl)
  have maxPriorityFee := optionalStr_nullable (show
    ifContains (transactionFields lib tx) "maxPriorityFeePerGas" =
      some (nullable tx.maxPriorityFeePerGas (hexQuantity256 lib)) from rfl)
  have input := requiredStr_hex (show ifContains (transactionFields lib tx) "input" =
    some (.string (hexData tx.input)) from rfl)
  have nonzero : hexQuantity256 lib tx.value ≠ "" := by
    intro empty
    have length := congrArg String.length empty
    simp [hexQuantity256] at length
  rw [Core.BlockBuilder.Transaction.fromJson, hash, type, chainId, nonce, source, recipient, value, gas,
    gasPrice, maxFee, maxPriorityFee, input]
  simp only [bind, Except.bind, Option.map_some, Option.getD_some, if_neg nonzero]
  rfl

/-- A transaction of Knight's is not a reference. -/
theorem bundleItem_transaction (tx : EvmTransaction) (mempool : Core.BlockBuilder.Mempool) :
    Core.BlockBuilder.BundleItem.fromJson (EvmTransaction.toJson lib tx) mempool =
      .ok { mempoolTxId := none, transaction := asTransaction lib tx } := by
  have absent : ifContains (transactionFields lib tx) "mempoolTxId" = none := rfl
  rw [toJson_transactionFields, Core.BlockBuilder.BundleItem.fromJson, absent, transaction_read]
  rfl

theorem reference_present (mempoolTxId : String) :
    ifContains [("mempoolTxId", .string mempoolTxId)] "mempoolTxId" =
      some (.string mempoolTxId) := rfl

/-- What a bundle of the core loop lists: a reference, and a transaction. -/
theorem knightBundle_transactions (blockNumber : Option UInt64) (mempoolTxId : String)
    (tx : EvmTransaction) :
    ifContains (Bundle.toJson lib ⟨blockNumber, [.mempoolTxRef mempoolTxId, .transaction tx]⟩)
        "transactions" =
      some (.array [.object [("mempoolTxId", .string mempoolTxId)], EvmTransaction.toJson lib tx]) := by
  cases blockNumber with
  | none => rfl
  | some blockNumber => rfl

/-- A reference to a pending record is that record's transaction. -/
theorem bundleItem_reference_read {mempool : Core.BlockBuilder.Mempool} {mempoolTxId : String}
    {record : Core.BlockBuilder.MempoolRecord} (named : mempoolTxId ≠ "")
    (found : mempool.getTransaction mempoolTxId = some record) (isPending : record.status = .pending) :
    Core.BlockBuilder.BundleItem.fromJson (.object [("mempoolTxId", .string mempoolTxId)]) mempool =
      .ok { mempoolTxId := some mempoolTxId, transaction := record.transaction } := by
  rw [Core.BlockBuilder.BundleItem.fromJson, reference_present]
  dsimp only
  rw [if_neg named, found]
  exact if_pos isPending

/-- The bundle of a pending record and a transaction of Knight's, as the builder reads
it. -/
theorem knightBundle_read {mempool : Core.BlockBuilder.Mempool} {mempoolTxId : String}
    {record : Core.BlockBuilder.MempoolRecord} {blockNumber : UInt64} {tx : EvmTransaction}
    (named : mempoolTxId ≠ "") (found : mempool.getTransaction mempoolTxId = some record)
    (isPending : record.status = .pending) :
    Core.BlockBuilder.Bundle.fromJson (Bundle.toJson lib ⟨some blockNumber,
        [.mempoolTxRef mempoolTxId, .transaction tx]⟩) mempool =
      .ok ⟨[⟨some mempoolTxId, record.transaction⟩, ⟨none, asTransaction lib tx⟩],
        some blockNumber.toNat⟩ := by
  have first := bundleItem_reference_read named found isPending
  have second : Core.BlockBuilder.BundleItem.fromJson (EvmTransaction.toJson lib tx) mempool = _ :=
    bundleItem_transaction tx mempool
  have isBlock : Core.BlockBuilder.optionalBlockNumber (Bundle.toJson lib ⟨some blockNumber,
      [.mempoolTxRef mempoolTxId, .transaction tx]⟩) "blockNumber" = _ :=
    optionalBlockNumber_bundle rfl
  rw [Core.BlockBuilder.Bundle.fromJson, knightBundle_transactions, isBlock]
  simp only [List.mapM_cons, List.mapM_nil, first, second, bind, Except.bind, pure, Except.pure]

/-- The bundle of a record that is no longer pending is refused as a conflict. -/
theorem knightBundle_conflict {mempool : Core.BlockBuilder.Mempool} {mempoolTxId : String}
    {record : Core.BlockBuilder.MempoolRecord} {blockNumber : UInt64} {tx : EvmTransaction}
    (named : mempoolTxId ≠ "") (found : mempool.getTransaction mempoolTxId = some record)
    (notPending : record.status ≠ .pending) :
    Core.BlockBuilder.Bundle.fromJson (Bundle.toJson lib ⟨some blockNumber,
        [.mempoolTxRef mempoolTxId, .transaction tx]⟩) mempool =
      .error (.httpException 409 ("mempool transaction '" ++ mempoolTxId ++ "' is '" ++
        record.status.text ++ "', not 'pending'")) := by
  have first : Core.BlockBuilder.BundleItem.fromJson
      (.object [("mempoolTxId", .string mempoolTxId)]) mempool = .error (.httpException 409
        ("mempool transaction '" ++ mempoolTxId ++ "' is '" ++ record.status.text ++
          "', not 'pending'")) := by
    rw [Core.BlockBuilder.BundleItem.fromJson, reference_present]
    dsimp only
    rw [if_neg named, found]
    exact if_neg notPending
  rw [Core.BlockBuilder.Bundle.fromJson, knightBundle_transactions]
  simp only [List.mapM_cons, first, bind, Except.bind]

/-! ## Results -/

/-- What a transaction result must carry for Knight to read it: a hash of 32 bytes, and
a receipt that parses if there is one. -/
structure Legible (lib : Libraries) (result : Core.BlockBuilder.TxResult) : Prop where
  hash : ∃ chainTxHash, parseHexBytes lib (cString result.chainTxHash) = some chainTxHash ∧
    chainTxHash.length = 32
  receipt : ∀ receipt, result.receipt = some receipt →
    (Receipt.fromJson lib (.object receipt)).isSome = true

/-- A quantity that parses is a text field. -/
private theorem jsonHexUint64_field {object : Fields} {field : String} {value : UInt64}
    (parsed : jsonHexUint64 object field = some value) :
    ∃ text, ifContains object field = some (.string text) ∧
      parseHexQuantity (cString text) = some value := by
  obtain ⟨text, isText, parsed⟩ := Option.bind_eq_some_iff.mp parsed
  unfold jsonString at isText
  split at isText
  · next written present =>
    cases isText
    exact ⟨written, present, parsed⟩
  · cases isText

/-- The two fields a result copies from its receipt are quantities. -/
private theorem receipt_quantities {receipt : Fields}
    (parses : (Receipt.fromJson lib (.object receipt)).isSome = true) :
    (∃ value, jsonHexUint64 receipt "blockNumber" = some value) ∧
      ∃ value, jsonHexUint64 receipt "transactionIndex" = some value := by
  obtain ⟨parsed, isParsed⟩ := Option.isSome_iff_exists.mp parses
  unfold Receipt.fromJson at isParsed
  obtain ⟨object, isObject, isParsed⟩ := Option.bind_eq_some_iff.mp isParsed
  cases isObject
  obtain ⟨type, _, isParsed⟩ := Option.bind_eq_some_iff.mp isParsed
  obtain ⟨status, _, isParsed⟩ := Option.bind_eq_some_iff.mp isParsed
  obtain ⟨cumulativeGasUsed, _, isParsed⟩ := Option.bind_eq_some_iff.mp isParsed
  obtain ⟨rawLogs, _, isParsed⟩ := Option.bind_eq_some_iff.mp isParsed
  obtain ⟨logsBloom, _, isParsed⟩ := Option.bind_eq_some_iff.mp isParsed
  obtain ⟨transactionHash, _, isParsed⟩ := Option.bind_eq_some_iff.mp isParsed
  obtain ⟨transactionIndex, isIndex, isParsed⟩ := Option.bind_eq_some_iff.mp isParsed
  obtain ⟨blockHash, _, isParsed⟩ := Option.bind_eq_some_iff.mp isParsed
  obtain ⟨blockNumber, isBlock, isParsed⟩ := Option.bind_eq_some_iff.mp isParsed
  exact ⟨⟨blockNumber, isBlock⟩, transactionIndex, isIndex⟩

/-- Every status the builder writes is one Knight knows. -/
private theorem status_read (status : Core.BlockBuilder.TxStatus) :
    (bundleTxStatusFromString (cString status.text)).isSome = true := by
  cases status with
  | included => decide +kernel
  | reverted => decide +kernel
  | missing => decide +kernel

private theorem optionalString_read {object : Fields} {field : String} {value : Option String}
    (present : ifContains object field = some (Core.BlockBuilder.Transaction.optionalJson value)) :
    ∃ read, jsonOptionalString object field = some read := by
  unfold jsonOptionalString jsonOptional jsonString
  rw [present]
  cases value with
  | none => exact ⟨none, rfl⟩
  | some text => exact ⟨some (cString text), rfl⟩

private theorem optionalQuantity_read {object receipt : Fields} {field : String} {value : UInt64}
    (copied : ifContains object field = some ((ifContains receipt field).getD .null))
    (parsed : jsonHexUint64 receipt field = some value) :
    ∃ read, jsonOptionalHexUint64 object field = some read := by
  obtain ⟨text, isText, isValue⟩ := jsonHexUint64_field parsed
  rw [isText, Option.getD_some] at copied
  refine ⟨some value, ?_⟩
  unfold jsonOptionalHexUint64 jsonOptional jsonHexUint64 jsonString
  rw [copied]
  simp [isValue]

/-- A transaction result is read field by field. -/
private theorem bundleTxResult_fields {object : Fields} {mempoolTxId : Option String}
    {chainTxHash : Bytes} {text : String} {blockNumber transactionIndex : Option UInt64}
    {receipt : Option Receipt}
    (isId : jsonOptionalString object "mempoolTxId" = some mempoolTxId)
    (isHash : jsonHexBytesOf lib object "chainTxHash" 32 = some chainTxHash)
    (isText : jsonString object "status" = some text)
    (isBlock : jsonOptionalHexUint64 object "blockNumber" = some blockNumber)
    (isIndex : jsonOptionalHexUint64 object "transactionIndex" = some transactionIndex)
    (isStatus : (bundleTxStatusFromString text).isSome = true)
    (isReceipt : receiptField lib object = some receipt) :
    ∃ parsed, BundleTxResult.fromJson lib (.object object) = some parsed := by
  obtain ⟨status, known⟩ := Option.isSome_iff_exists.mp isStatus
  refine ⟨⟨mempoolTxId, chainTxHash, status, blockNumber, transactionIndex, receipt⟩, ?_⟩
  simp only [BundleTxResult.fromJson, asObject, isId, isHash, isText, isBlock, isIndex, known, isReceipt,
    Option.bind_eq_bind, Option.bind_some]

/-- Knight reads a result the builder writes. -/
theorem txResult_read {result : Core.BlockBuilder.TxResult} (legible : Legible lib result) :
    ∃ parsed, BundleTxResult.fromJson lib result.toJson = some parsed := by
  obtain ⟨⟨chainTxHash, isHash, sized⟩, receipts⟩ := legible
  obtain ⟨mempoolTxId, text, receipt⟩ := result
  have hashOf : ∀ object, ifContains object "chainTxHash" = some (.string text) →
      jsonHexBytesOf lib object "chainTxHash" 32 = some chainTxHash := by
    intro object present
    simp [jsonHexBytesOf, jsonHexBytes, jsonString, present, isHash, sized]
  cases receipt with
  | none =>
    obtain ⟨readId, isId⟩ := optionalString_read (show ifContains [
      ("mempoolTxId", Core.BlockBuilder.Transaction.optionalJson mempoolTxId),
      ("chainTxHash", .string text), ("status", .string "missing"), ("receipt", .null)]
      "mempoolTxId" = some _ from rfl)
    exact bundleTxResult_fields isId (hashOf _ rfl) rfl rfl rfl
      (status_read .missing) rfl
  | some receipt =>
    have parses := receipts receipt rfl
    obtain ⟨⟨block, isBlock⟩, index, isIndex⟩ := receipt_quantities parses
    obtain ⟨parsed, isParsed⟩ := Option.isSome_iff_exists.mp parses
    have written : (⟨mempoolTxId, text, some receipt⟩ : Core.BlockBuilder.TxResult).toJson = .object [
        ("mempoolTxId", Core.BlockBuilder.Transaction.optionalJson mempoolTxId),
        ("chainTxHash", .string text),
        ("status", .string (Core.BlockBuilder.statusFromReceipt (some receipt)).text),
        ("blockNumber", (ifContains receipt "blockNumber").getD .null),
        ("transactionIndex", (ifContains receipt "transactionIndex").getD .null),
        ("receipt", .object receipt)] := rfl
    rw [written]
    generalize isObject : [
        ("mempoolTxId", Core.BlockBuilder.Transaction.optionalJson mempoolTxId),
        ("chainTxHash", .string text),
        ("status", .string (Core.BlockBuilder.statusFromReceipt (some receipt)).text),
        ("blockNumber", (ifContains receipt "blockNumber").getD .null),
        ("transactionIndex", (ifContains receipt "transactionIndex").getD .null),
        ("receipt", Json.object receipt)] = object
    obtain ⟨readId, isId⟩ := optionalString_read (show ifContains object "mempoolTxId" =
      some (Core.BlockBuilder.Transaction.optionalJson mempoolTxId) by rw [← isObject]; rfl)
    obtain ⟨readBlock, isReadBlock⟩ := optionalQuantity_read (show ifContains object "blockNumber" =
      some ((ifContains receipt "blockNumber").getD .null) by rw [← isObject]; rfl) isBlock
    obtain ⟨readIndex, isReadIndex⟩ := optionalQuantity_read (show
      ifContains object "transactionIndex" =
        some ((ifContains receipt "transactionIndex").getD .null) by rw [← isObject]; rfl) isIndex
    have isText : jsonString object "status" =
        some (cString (Core.BlockBuilder.statusFromReceipt (some receipt)).text) := by
      rw [← isObject]
      rfl
    have isReceipt : receiptField lib object = some (some parsed) := by
      have present : ifContains object "receipt" = some (.object receipt) := by
        rw [← isObject]
        rfl
      simp [receiptField, present, isParsed]
    exact bundleTxResult_fields isId (hashOf object (by rw [← isObject]; rfl)) isText isReadBlock
      isReadIndex (status_read _) isReceipt

/-- Knight reads what the builder answers to a bundle, with or without a mark that it
was simulated, as included when every transaction is. -/
theorem bundleResult_read {results : List Core.BlockBuilder.TxResult} (mark : Fields)
    (legible : ∀ result ∈ results, Legible lib result) :
    ∃ parsed, BundleResult.fromJson lib
        (.object (Core.BlockBuilder.resultFields results ++ mark)) = some parsed ∧
      ((∀ result ∈ results, result.status = .included) → parsed.status = .included) := by
  obtain ⟨transactions, areRead⟩ := exists_forall₂ fun result member =>
    txResult_read (legible result member)
  have isTransactions := mapM_eq_some.mpr (List.forall₂_map_left_iff.mpr areRead)
  have isArray : jsonArray (Core.BlockBuilder.resultFields results ++ mark) "transactions" =
      some (results.map Core.BlockBuilder.TxResult.toJson) := rfl
  by_cases included : ∀ result ∈ results, result.status = .included
  · have isText : jsonString (Core.BlockBuilder.resultFields results ++ mark) "status" =
        some "included" := by
      have whole : cString "included" = "included" := by decide +kernel
      have allIncluded : results.all (fun result => decide (result.status = .included)) = true := by
        refine List.all_eq_true.mpr fun result member => ?_
        simpa using included result member
      simp [jsonString, Core.BlockBuilder.resultFields, ifContains, -List.all_eq_true, allIncluded,
        whole]
    refine ⟨⟨.included, transactions⟩, ?_, fun _ => rfl⟩
    simp [BundleResult.fromJson, asObject, isText, isArray, bundleStatusFromString, isTransactions]
  · have isText : jsonString (Core.BlockBuilder.resultFields results ++ mark) "status" =
        some "failed" := by
      have whole : cString "failed" = "failed" := by decide +kernel
      have someFails : results.all (fun result => decide (result.status = .included)) = false := by
        rw [Bool.eq_false_iff]
        intro all
        refine included fun result member => ?_
        simpa using List.all_eq_true.mp all result member
      simp [jsonString, Core.BlockBuilder.resultFields, ifContains, someFails, whole]
    refine ⟨⟨.failed, transactions⟩, ?_, fun all => absurd all included⟩
    simp [BundleResult.fromJson, asObject, isText, isArray, bundleStatusFromString, isTransactions]

theorem simulationResult_read {results : List Core.BlockBuilder.TxResult}
    (legible : ∀ result ∈ results, Legible lib result)
    (included : ∀ result ∈ results, result.status = .included) :
    ∃ parsed, BundleSimulationResult.fromJson lib
        (.object (Core.BlockBuilder.resultFields results ++ [("simulated", .bool true)])) =
          some parsed ∧ parsed.status = .included := by
  obtain ⟨parsed, isParsed, isIncluded⟩ := bundleResult_read [("simulated", .bool true)] legible
  have isMarked : jsonBool (Core.BlockBuilder.resultFields results ++ [("simulated", .bool true)])
      "simulated" = some true := rfl
  refine ⟨{ parsed with simulated := true }, ?_, isIncluded included⟩
  simp only [BundleSimulationResult.fromJson, asObject, isParsed, isMarked, Option.bind_eq_bind,
    Option.bind_some]

end DexKnight.BundleWire
