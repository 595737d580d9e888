import DexKnight.CandidateDelivery
import DexKnight.ChainExecution
import DexKnight.MempoolSequence
import DexKnight.TransactionRoundTrip

/-! A pending transaction is read three times: by the builder when a client posts it, by
Knight from the record that the builder publishes, and by the node when a bundle hands
it over. The texts of its fields are the client's, so the readers could differ; where
Knight and the node both accept a record, they read the same transaction. -/
namespace DexKnight.PublishedRecords
open Core.Types Core.Wire Core.Codec Support.Hex WireProofs BundleWire BundleDecoding
  SourceProofs MempoolProofs MempoolSequence CandidateDelivery TransactionRoundTrip ChainExecution
open Core.BlockBuilder hiding Bundle BundleItem

variable {lib : Libraries} {record : MempoolRecord} {tx : PendingTransaction} {sent : Sent}
  {mempool before after : Mempool}

/-! ## Two readers of one text -/

/-- `solabi::from_hex` as documented: pairs of digits behind `0x`. -/
def ReadsHex (lib : Libraries) : Prop :=
  ∀ text digits, hexPrefixed text = some digits → lib.fromHex text = readBytes digits

/-- `intx::from_string` as documented: the number behind `0x`, where it takes the text. -/
def ReadsWord (lib : Libraries) : Prop :=
  ∀ text digits value, hexPrefixed text = some digits → lib.fromString text = some value →
    readHex digits 0 = some value.toNat

/-- A text without a NUL is not cut. -/
theorem cString_of_noNul {text : String} (noNul : '\x00' ∉ text.toList) : cString text = text := by
  have whole : text.toList.takeWhile (· ≠ '\x00') = text.toList := by
    rw [List.takeWhile_eq_self_iff]
    intro c member
    have notNul : c ≠ '\x00' := by
      rintro rfl
      exact noNul member
    simpa using notNul
  rw [cString, whole, String.ofList_toList]

/-- Bytes that Knight takes out of a text are spelled there. -/
theorem bytes_spelled (reads : ReadsHex lib) {text : String} {known : Bytes}
    (noNul : '\x00' ∉ text.toList) (parsed : parseHexBytes lib (cString text) = some known) :
    data (.string text) = some known := by
  rw [cString_of_noNul noNul] at parsed
  obtain ⟨digits, isPrefixed, isKnown⟩ := Option.bind_eq_some_iff.mp parsed
  rw [reads text digits isPrefixed] at isKnown
  simp only [data, isPrefixed, Option.bind_eq_bind, Option.bind_some, isKnown]

theorem quantity_spelled {text : String} {known : UInt64} (noNul : '\x00' ∉ text.toList)
    (parsed : parseHexQuantity (cString text) = some known) :
    quantity (.string text) = some known.toNat := by
  rw [cString_of_noNul noNul] at parsed
  obtain ⟨digits, isPrefixed, parsed⟩ := Option.bind_eq_some_iff.mp parsed
  split at parsed
  · cases parsed
  · next nonempty =>
    obtain ⟨number, isNumber, parsed⟩ := Option.bind_eq_some_iff.mp parsed
    split at parsed
    · next fits =>
      cases parsed
      rw [UInt64.toNat_ofNat', Nat.mod_eq_of_lt fits]
      simp only [quantity, isPrefixed, Option.bind_eq_bind, Option.bind_some, if_neg nonempty, isNumber]
    · cases parsed

theorem word_spelled (reads : ReadsWord lib) {text : String} {known : Uint256}
    (noNul : '\x00' ∉ text.toList) (parsed : parseHexUint256 lib (cString text) = some known) :
    quantity (.string text) = some known.toNat := by
  rw [cString_of_noNul noNul] at parsed
  obtain ⟨digits, isPrefixed, parsed⟩ := Option.bind_eq_some_iff.mp parsed
  split at parsed
  · cases parsed
  · next nonempty =>
    simp only [quantity, isPrefixed, Option.bind_eq_bind, Option.bind_some, if_neg nonempty,
      reads text digits known isPrefixed parsed]

/-! ## One record, read twice -/

/-- What Knight's reader takes from the fields that reach the node. -/
structure ReadAs (lib : Libraries) (object : Fields) (tx : EvmTransaction) : Prop where
  source : jsonHexBytesOf lib object "from" kAddressLength = some tx.source
  input : jsonHexBytes lib object "input" = some tx.input
  gas : jsonHexUint64 object "gas" = some tx.gas
  nonce : jsonHexUint64 object "nonce" = some tx.nonce
  value : (jsonOptionalHexUint256 lib object "value").map (·.getD 0) = some tx.value
  recipient : jsonOptionalHexBytes lib object "to" kAddressLength = some tx.recipient
  gasPrice : jsonOptionalHexUint256 lib object "gasPrice" = some tx.gasPrice
  maxFeePerGas : jsonOptionalHexUint256 lib object "maxFeePerGas" = some tx.maxFeePerGas
  maxPriorityFeePerGas :
    jsonOptionalHexUint256 lib object "maxPriorityFeePerGas" = some tx.maxPriorityFeePerGas

/-- Whatever the type is read as, the rest is read with it. -/
private theorem type_then {α : Type} {rawType : Option UInt64} {rest : UInt8 → Option α} {result : α}
    (read : (do
      let type ← match rawType with
        | none => some 0
        | some type => if type > 255 then none else some type.toUInt8
      rest type) = some result) : ∃ type, rest type = some result := by
  cases rawType with
  | none => exact ⟨0, read⟩
  | some raw =>
    dsimp only at read
    split at read
    · cases read
    · exact ⟨raw.toUInt8, read⟩

theorem fromJson_readAs {object : Fields} {read : EvmTransaction}
    (parsed : EvmTransaction.fromJson lib (.object object) = some read) : ReadAs lib object read := by
  unfold EvmTransaction.fromJson at parsed
  obtain ⟨_, isObject, parsed⟩ := Option.bind_eq_some_iff.mp parsed
  cases isObject
  obtain ⟨source, isSource, parsed⟩ := Option.bind_eq_some_iff.mp parsed
  obtain ⟨input, isInput, parsed⟩ := Option.bind_eq_some_iff.mp parsed
  obtain ⟨gas, isGas, parsed⟩ := Option.bind_eq_some_iff.mp parsed
  obtain ⟨nonce, isNonce, parsed⟩ := Option.bind_eq_some_iff.mp parsed
  obtain ⟨value, isValue, parsed⟩ := Option.bind_eq_some_iff.mp parsed
  obtain ⟨chainId, _, parsed⟩ := Option.bind_eq_some_iff.mp parsed
  obtain ⟨rawType, _, parsed⟩ := Option.bind_eq_some_iff.mp parsed
  obtain ⟨type, parsed⟩ := type_then parsed
  obtain ⟨hash, _, parsed⟩ := Option.bind_eq_some_iff.mp parsed
  obtain ⟨recipient, isRecipient, parsed⟩ := Option.bind_eq_some_iff.mp parsed
  obtain ⟨gasPrice, isGasPrice, parsed⟩ := Option.bind_eq_some_iff.mp parsed
  obtain ⟨maxFeePerGas, isMaxFee, parsed⟩ := Option.bind_eq_some_iff.mp parsed
  obtain ⟨maxPriorityFeePerGas, isMaxPriorityFee, parsed⟩ := Option.bind_eq_some_iff.mp parsed
  cases parsed
  exact ⟨isSource, isInput, isGas, isNonce, by rw [isValue]; rfl, isRecipient, isGasPrice, isMaxFee,
    isMaxPriorityFee⟩

/-- Knight was told of this record: under its name and number, with the transaction it
reads in it. -/
structure Tells (lib : Libraries) (record : MempoolRecord) (tx : PendingTransaction) : Prop where
  mempoolTxId : tx.mempoolTxId = record.mempoolTxId
  seqNum : tx.seqNum.toNat = record.seqNum
  transaction : EvmTransaction.fromJson lib record.transaction.toJson = some tx.toEvmTransaction

/-- The name has no NUL, as no name the builder gives has. -/
def Clean (record : MempoolRecord) : Prop := cString record.mempoolTxId = record.mempoolTxId

theorem fromJson_tells (clean : Clean record)
    (parsed : PendingTransaction.fromJson lib record.toJson = some tx) : Tells lib record tx := by
  have isNumber := fromJson_seqNum parsed
  unfold PendingTransaction.fromJson MempoolRecord.toJson at parsed
  obtain ⟨fields, isObject, parsed⟩ := Option.bind_eq_some_iff.mp parsed
  cases isObject
  obtain ⟨seqNum, readSeq, parsed⟩ := Option.bind_eq_some_iff.mp parsed
  obtain ⟨transactionJson, isJson, parsed⟩ := Option.bind_eq_some_iff.mp parsed
  obtain ⟨transaction, isTransaction, parsed⟩ := Option.bind_eq_some_iff.mp parsed
  cases parsed
  have isRecord : record.transaction.toJson = transactionJson := by
    simpa [ifContains] using isJson
  exact ⟨clean, isNumber, isRecord ▸ isTransaction⟩

section Spelling

variable {object params : Fields} {field : String} {text : String} {written : Option String}

private theorem jsonString_present (present : ifContains object field = some (.string text)) :
    jsonString object field = some (cString text) := by
  rw [jsonString, present]

private theorem bytes_read {known : Bytes} (reads : ReadsHex lib) (noNul : '\x00' ∉ text.toList)
    (present : ifContains object field = some (.string text))
    (parsed : jsonHexBytes lib object field = some known) : data (.string text) = some known := by
  rw [jsonHexBytes, jsonString_present present] at parsed
  exact bytes_spelled reads noNul parsed

private theorem sizedBytes_read {known : Bytes} {size : Nat} (reads : ReadsHex lib)
    (noNul : '\x00' ∉ text.toList) (present : ifContains object field = some (.string text))
    (parsed : jsonHexBytesOf lib object field size = some known) : data (.string text) = some known := by
  obtain ⟨bytes, isBytes, sized⟩ := Option.bind_eq_some_iff.mp parsed
  split at sized
  · cases sized
    exact bytes_read reads noNul present isBytes
  · cases sized

private theorem quantity_read {known : UInt64} (noNul : '\x00' ∉ text.toList)
    (present : ifContains object field = some (.string text))
    (parsed : jsonHexUint64 object field = some known) :
    quantity (.string text) = some known.toNat := by
  rw [jsonHexUint64, jsonString_present present] at parsed
  exact quantity_spelled noNul parsed

private theorem word_read {known : Uint256} (reads : ReadsWord lib) (noNul : '\x00' ∉ text.toList)
    (present : ifContains object field = some (.string text))
    (parsed : jsonHexUint256 lib object field = some known) :
    quantity (.string text) = some known.toNat := by
  rw [jsonHexUint256, jsonString_present present] at parsed
  exact word_spelled reads noNul parsed

/-- Null for both, or one address. -/
private theorem recipient_read {known : Option Bytes} (reads : ReadsHex lib)
    (noNul : ∀ text, written = some text → '\x00' ∉ text.toList)
    (present : ifContains object field = some (Transaction.optionalJson written))
    (parsed : jsonOptionalHexBytes lib object field kAddressLength = some known) :
    Transaction.optionalJson written = .null ∧ known = none ∨
      ∃ bytes, data (Transaction.optionalJson written) = some bytes ∧ known = some bytes := by
  unfold jsonOptionalHexBytes jsonOptional at parsed
  rw [present] at parsed
  cases written with
  | none =>
    cases parsed
    exact .inl ⟨rfl, rfl⟩
  | some text =>
    obtain ⟨bytes, isBytes, rfl⟩ := Option.map_eq_some_iff.mp parsed
    exact .inr ⟨bytes, sizedBytes_read reads (noNul text rfl) present isBytes, rfl⟩

/-- Left out for the node where it is null for Knight, or one word. -/
private theorem fee_read {known : Option Uint256} (reads : ReadsWord lib)
    (noNul : ∀ text, written = some text → '\x00' ∉ text.toList)
    (present : ifContains object field = some (Transaction.optionalJson written))
    (given : ifContains params field = written.map .string)
    (parsed : jsonOptionalHexUint256 lib object field = some known) :
    (ifContains params field).map quantity = known.map fun fee => some fee.toNat := by
  unfold jsonOptionalHexUint256 jsonOptional at parsed
  rw [present] at parsed
  rw [given]
  cases written with
  | none =>
    cases parsed
    rfl
  | some text =>
    obtain ⟨word, isWord, rfl⟩ := Option.map_eq_some_iff.mp parsed
    exact congrArg some (word_read reads (noNul text rfl) present isWord)

end Spelling

/-- The builder asks the node for the transaction that Knight read in the record, where
the node takes the texts for values at all. -/
theorem fromJson_asks {transaction : Transaction} {known : EvmTransaction} (hexes : ReadsHex lib)
    (words : ReadsWord lib) (parsed : EvmTransaction.fromJson lib transaction.toJson = some known)
    (noNul : ∀ field ∈ rpcParams, ∀ text,
      ifContains transaction.toRpcParams field = some (.string text) → '\x00' ∉ text.toList) :
    Asks transaction.toRpcParams known := by
  obtain ⟨givenPrice, givenFee, givenPriority⟩ := toRpcParams_fees transaction
  have readAs := fromJson_readAs parsed
  have feeNoNul (field : String) (isParam : field ∈ rpcParams) (written : Option String)
      (given : ifContains transaction.toRpcParams field = written.map .string) :
      ∀ text, written = some text → '\x00' ∉ text.toList := by
    rintro text rfl
    exact noNul field isParam text given
  have value : quantity (.string transaction.value) = some known.value.toNat := by
    obtain ⟨optional, isOptional, same⟩ := Option.map_eq_some_iff.mp readAs.value
    obtain ⟨word, isWord, rfl⟩ := Option.map_eq_some_iff.mp isOptional
    rw [← same]
    exact word_read words (noNul "value" (by decide) _ rfl) rfl isWord
  constructor
  case source =>
    exact congrArg some (sizedBytes_read hexes (noNul "from" (by decide) _ rfl) rfl readAs.source)
  case recipient =>
    have toNoNul : ∀ text, transaction.toAddress = some text → '\x00' ∉ text.toList := by
      intro text isText
      refine noNul "to" (by decide) text ?_
      exact congrArg (some ∘ Transaction.optionalJson) isText
    rcases recipient_read hexes toNoNul rfl readAs.recipient with
      ⟨isNull, isNone⟩ | ⟨bytes, isData, isSome⟩
    · exact .inl ⟨congrArg some isNull, isNone⟩
    · exact .inr ⟨bytes, congrArg some isData, isSome⟩
  case nonce => exact congrArg some (quantity_read (noNul "nonce" (by decide) _ rfl) rfl readAs.nonce)
  case value => exact congrArg some value
  case gas => exact congrArg some (quantity_read (noNul "gas" (by decide) _ rfl) rfl readAs.gas)
  case input => exact congrArg some (bytes_read hexes (noNul "data" (by decide) _ rfl) rfl readAs.input)
  case gasPrice =>
    exact fee_read words (feeNoNul _ (by decide) _ givenPrice) rfl givenPrice readAs.gasPrice
  case maxFeePerGas =>
    exact fee_read words (feeNoNul _ (by decide) _ givenFee) rfl givenFee readAs.maxFeePerGas
  case maxPriorityFeePerGas =>
    exact fee_read words (feeNoNul _ (by decide) _ givenPriority) rfl givenPriority
      readAs.maxPriorityFeePerGas

theorem optionalData_of_data {json : Json} {bytes : Bytes} (read : data json = some bytes) :
    optionalData json = some (some bytes) := by
  cases json with
  | string text => exact congrArg (Option.map some) read
  | null => cases read
  | bool value => cases read
  | int value => cases read
  | float literal => cases read
  | array items => cases read
  | object fields => cases read

/-- What the node takes is what it is asked for. -/
theorem asked_sent {params : Fields} {known : EvmTransaction} (readFrom : ReadFrom params sent)
    (asks : Asks params known) : sentOf known = some sent := by
  have bound {α β : Type} {field : Option α} {parse : α → Option β} {value : β}
      (spelled : field.map parse = some (some value)) : field.bind parse = some value := by
    obtain ⟨json, rfl, isValue⟩ := Option.map_eq_some_iff.mp spelled
    exact isValue
  have fee {field : Option Json} {known : Option Uint256}
      (spelled : field.map quantity = known.map fun fee => some fee.toNat) :
      optionalQuantity field = some (known.map BitVec.toNat) := by
    cases known with
    | none =>
      rw [Option.map_eq_none_iff.mp spelled]
      rfl
    | some word =>
      obtain ⟨json, rfl, isWord⟩ := Option.map_eq_some_iff.mp spelled
      exact congrArg (Option.map some) isWord
  have sender := readFrom.sender _ (bound asks.source)
  have recipient : accountOf known.recipient = some sent.recipient := by
    refine readFrom.recipient _ ?_
    rcases asks.recipient with ⟨isNull, isNone⟩ | ⟨bytes, isData, isSome⟩
    · rw [isNull, isNone]
      rfl
    · obtain ⟨json, isJson, isBytes⟩ := Option.map_eq_some_iff.mp isData
      rw [isJson, isSome]
      exact optionalData_of_data isBytes
  have nonce := readFrom.nonce _ (bound asks.nonce)
  have value := readFrom.value _ (bound asks.value)
  have gas := readFrom.gas _ (bound asks.gas)
  have calldata := readFrom.calldata _ (bound asks.input)
  have gasPrice := readFrom.gasPrice _ (fee asks.gasPrice)
  have maxFee := readFrom.maxFeePerGas _ (fee asks.maxFeePerGas)
  have maxPriority := readFrom.maxPriorityFeePerGas _ (fee asks.maxPriorityFeePerGas)
  obtain ⟨_, _, _, _, _, _, _, _, _⟩ := sent
  subst nonce value gas calldata gasPrice maxFee maxPriority
  simp only [sentOf, sender, recipient, Option.bind_eq_bind, Option.bind_some]

/-- What the node reads of a record's transaction is what Knight reads of it. -/
theorem transaction_agrees {read : Fields → Option Sent} {transaction : Transaction}
    {known : EvmTransaction} (node : ReadsParams read) (hexes : ReadsHex lib) (words : ReadsWord lib)
    (parsed : EvmTransaction.fromJson lib transaction.toJson = some known)
    (handedOver : read transaction.toRpcParams = some sent) : sentOf known = some sent := by
  have readFrom := node _ _ handedOver
  exact asked_sent readFrom (fromJson_asks hexes words parsed readFrom.noNul)

/-- Knight's own transactions are taken for what they are. -/
theorem asTransaction_sent {read : Fields → Option Sent} (node : ReadsParams read)
    (spells : SpellsWords lib) {known : EvmTransaction}
    (handedOver : read (asTransaction lib known).toRpcParams = some sent) :
    sentOf known = some sent :=
  asked_sent (node _ _ handedOver) (asTransaction_asks spells known)

/-- A record with capital digits, a prefix `0X` and leading zeros: other texts than either
reader writes, and one transaction. -/
def unusualRecord : MempoolRecord where
  mempoolTxId := "mp-1"
  seqNum := 1
  transaction := {
    hash := none, type := some "0x2", chainId := none, nonce := "0X0007"
    fromAddress := "0XABCDEFabcdefABCDEFabcdefABCDEFabcdefABCD", toAddress := none, value := "0x00Ff"
    gas := "0x5208", gasPrice := none, maxFeePerGas := some "0X3B9ACA00"
    maxPriorityFeePerGas := none, input := "0XfF00" }
  status := .pending
  submittedAt := "now"

/-- The record publishes Knight's own format. -/
theorem asTransaction_toJson (known : EvmTransaction) :
    (asTransaction lib known).toJson = EvmTransaction.toJson lib known := by
  have optional : ∀ {α : Type} (value : Option α) (write : α → String),
      Transaction.optionalJson (value.map write) = nullable value write := by
    intro α value write
    cases value <;> rfl
  simp only [Transaction.toJson, EvmTransaction.toJson, asTransaction, optional]
  rfl

/-- What Knight reads of the record a transaction of its own format becomes. -/
def toldOf (known : EvmTransaction) (record : MempoolRecord) : PendingTransaction where
  toEvmTransaction := known
  mempoolTxId := record.mempoolTxId
  seqNum := UInt64.ofNat record.seqNum
  status := "pending"
  submittedAt := cString record.submittedAt

private theorem jsonUint64_present {object : Fields} {field : String} {value : Nat}
    (present : ifContains object field = some (.int value)) (fits : value < 2 ^ 63) :
    jsonUint64 object field = some (UInt64.ofNat value) := by
  have isInt : jsonInt64 object field = some (value : Int) := by
    rw [jsonInt64, present]
    exact if_pos ⟨by omega, by omega⟩
  rw [jsonUint64, read_then isInt, if_neg (by omega), Int.toNat_natCast]

theorem pendingRecord_read (inverts : Inverts lib) {known : EvmTransaction}
    (sized : TransactionSized known) (clean : Clean record) (isPending : record.status = .pending)
    (counted : record.seqNum < 2 ^ 63) (written : record.transaction = asTransaction lib known) :
    PendingTransaction.fromJson lib record.toJson = some (toldOf known record) := by
  obtain ⟨mempoolTxId, seqNum, transaction, status, submittedAt, _, _, _⟩ := record
  subst isPending written
  have isStatus : cString "pending" = "pending" := by decide +kernel
  have isName : cString mempoolTxId = mempoolTxId := clean
  unfold PendingTransaction.fromJson MempoolRecord.toJson
  refine (read_then rfl _).trans ?_
  refine (read_then (jsonUint64_present rfl counted) _).trans ?_
  refine (read_then rfl _).trans ?_
  rw [asTransaction_toJson]
  refine (read_then (fromJson_toJson inverts sized) _).trans ?_
  change some (PendingTransaction.mk known (cString mempoolTxId) _ (cString "pending") _) = _
  rw [isName, isStatus]
  rfl

theorem prefixed_ne_empty (uuid : String) : "mp-" ++ uuid ≠ "" := by
  intro empty
  have length := congrArg String.length empty
  simp at length

theorem addTransaction_appends {transaction : Transaction} {uuid now : String}
    (fresh : ∀ record ∈ mempool.transactions, record.mempoolTxId ≠ "mp-" ++ uuid) :
    (mempool.addTransaction transaction uuid now).2.transactions =
      mempool.transactions ++ [(mempool.addTransaction transaction uuid now).1] := by
  have absent : ¬(mempool.transactions.any fun old => old.mempoolTxId = "mp-" ++ uuid) = true := by
    simpa using fresh
  exact if_neg absent

/-- A snapshot is read as the counter and every pending record that is legible. -/
theorem pendingSnapshot_read (blockNumber : UInt64) (counted : mempool.lastSeqNum < 2 ^ 63) :
    snapshotOf lib blockNumber (some (some mempool.pendingSnapshot)) =
      some ⟨blockNumber, UInt64.ofNat mempool.lastSeqNum,
        ((pendingRecords mempool).map MempoolRecord.toJson).filterMap
          (PendingTransaction.fromJson lib)⟩ := by
  unfold snapshotOf Mempool.pendingSnapshot
  refine (read_then rfl _).trans ?_
  refine (read_then rfl _).trans ?_
  refine (read_then (jsonUint64_present rfl counted) _).trans ?_
  exact read_then rfl _

theorem told_in_snapshot {record : MempoolRecord} {told : PendingTransaction} (blockNumber : UInt64)
    (member : record ∈ mempool.transactions) (isPending : record.status = .pending)
    (counted : mempool.lastSeqNum < 2 ^ 63)
    (read : PendingTransaction.fromJson lib record.toJson = some told) :
    ∃ snapshot, snapshotOf lib blockNumber (some (some mempool.pendingSnapshot)) = some snapshot ∧
      told ∈ snapshot.transactions := by
  refine ⟨_, pendingSnapshot_read blockNumber counted, ?_⟩
  have isTold := mem_pendingRecords.mpr ⟨member, isPending⟩
  exact List.mem_filterMap.mpr ⟨record.toJson, List.mem_map_of_mem isTold, read⟩

/-- **A posted transaction arrives as it was posted.** At any time a client posts a
transaction of Knight's format under a new name: the builder takes it, and its message
tells Knight of that very transaction, under the record's name and number. Whatever calls
follow, as long as the record is pending every snapshot tells the same, and every bundle
that refers to it has the builder ask the node for that transaction. -/
theorem posted_transaction_arrives (inverts : Inverts lib) (spells : SpellsWords lib)
    {known : EvmTransaction} (sized : TransactionSized known) {calls : List Call} {builder : Builder}
    (run : sequencing.Run calls builder) (uuid now : String)
    (clean : cString ("mp-" ++ uuid) = "mp-" ++ uuid)
    (fresh : ∀ record ∈ builder.mempool.transactions, record.mempoolTxId ≠ "mp-" ++ uuid)
    (counted : builder.mempool.lastSeqNum + 1 < 2 ^ 63) :
    ∃ record after, submitPublicTx (transactionFields lib known) uuid now builder =
        (.ok (record, record.message), after) ∧
      (toldOf known record).mempoolTxId = "mp-" ++ uuid ∧
      (toldOf known record).seqNum.toNat = builder.mempool.lastSeqNum + 1 ∧
      parsePendingTxEvent lib (some record.message) = some (toldOf known record) ∧
      (∀ more later, sequencing.Leads after more later →
        (∃ pending ∈ later.mempool.transactions, pending.mempoolTxId = "mp-" ++ uuid ∧
          pending.status = .pending) →
        (later.mempool.lastSeqNum < 2 ^ 63 → ∀ blockNumber, ∃ snapshot,
          snapshotOf lib blockNumber (some (some later.mempool.pendingSnapshot)) = some snapshot ∧
            toldOf known record ∈ snapshot.transactions) ∧
        Core.BlockBuilder.BundleItem.fromJson
            (.object [("mempoolTxId", .string (toldOf known record).mempoolTxId)]) later.mempool =
          .ok { mempoolTxId := some ("mp-" ++ uuid), transaction := asTransaction lib known } ∧
        ∀ payload bundle, Core.BlockBuilder.Bundle.fromJson payload later.mempool = .ok bundle →
          ∀ item ∈ bundle.items, item.mempoolTxId = some ("mp-" ++ uuid) →
            item.transaction = asTransaction lib known) ∧
      Asks (asTransaction lib known).toRpcParams known := by
  let record := (builder.mempool.addTransaction (asTransaction lib known) uuid now).1
  let posting := Call.addTransaction (asTransaction lib known) uuid now
  let after := perform builder posting
  have posted : submitPublicTx (transactionFields lib known) uuid now builder =
      (.ok (record, record.message), after) := by
    rw [submitPublicTx, transaction_read]
    rfl
  have read : PendingTransaction.fromJson lib record.toJson = some (toldOf known record) :=
    pendingRecord_read inverts sized clean rfl counted rfl
  have listed : record ∈ after.mempool.transactions := by
    change record ∈ (builder.mempool.addTransaction (asTransaction lib known) uuid now).2.transactions
    rw [addTransaction_appends fresh]
    exact List.mem_append_right _ List.mem_cons_self
  refine ⟨record, after, posted, rfl, ?_, ?_, ?_, asTransaction_asks spells known⟩
  · exact UInt64.toNat_ofNat_of_lt' (counted.trans (by decide))
  · rw [MempoolRecord.message, Kept.parsePendingTxEvent_record, read]
  · rintro more later leads ⟨pending, isThere, isId, isPending⟩
    obtain ⟨sequenced, added, follows⟩ := leads_follows (run_sequenced (run_call run posting fresh)) leads
    -- It is the record itself, since only what is not pending any more was changed.
    cases follows.still sequenced listed isThere isId isPending
    have found := getTransaction_of_mem sequenced.wellNumbered isThere
    refine ⟨fun stillCounted blockNumber =>
      told_in_snapshot blockNumber isThere isPending stillCounted read, ?_, ?_⟩
    · exact bundleItem_reference_read (prefixed_ne_empty uuid) found isPending
    · intro payload bundle parsed item member refers
      obtain ⟨other, isOther, sameId, _, same⟩ := BuilderProofs.bundle_references parsed member refers
      rw [same, List.inj_on_of_nodup_map sequenced.ids isOther isThere sameId]
      rfl

/-- A transaction of Knight's format that sells TokenA to a pool. -/
def postedVictim : EvmTransaction where
  input := Core.CandidateState.CandidateFilter.swapExactAForBSelector ++
    Core.Runtime.uint256Word 100000 ++ Core.Runtime.uint256Word 0
  source := List.replicate 19 0 ++ [0x71]
  gas := 300000
  recipient := some (List.replicate 19 0 ++ [0xD1])
  maxFeePerGas := some 3000000000
  maxPriorityFeePerGas := some 1

theorem postedVictim_sized : TransactionSized postedVictim where
  source := rfl
  recipient bytes isBytes := by
    cases isBytes
    rfl
  hash bytes impossible := by cases impossible

/-- The swap is posted, and then another transaction. -/
def swapPosted : Builder :=
  perform { node := {}, mempool := {} } (.addTransaction (asTransaction documented postedVictim) "1" "now")

def swapFollowed : Builder :=
  perform swapPosted (.addTransaction unusualRecord.transaction "2" "later")

theorem posted_transaction_arrives_swap :
    ∃ record snapshot, submitPublicTx (transactionFields documented postedVictim) "1" "now"
        { node := {}, mempool := {} } = (.ok (record, record.message), swapPosted) ∧
      parsePendingTxEvent documented (some record.message) = some (toldOf postedVictim record) ∧
      snapshotOf documented 0 (some (some swapFollowed.mempool.pendingSnapshot)) = some snapshot ∧
      toldOf postedVictim record ∈ snapshot.transactions := by
  have clean : cString ("mp-" ++ "1") = "mp-" ++ "1" := by
    decide +kernel
  have empty : ∀ record ∈ ({} : Mempool).transactions, record.mempoolTxId ≠ "mp-" ++ "1" :=
    fun _ impossible => absurd impossible List.not_mem_nil
  obtain ⟨record, after, posted, _, _, read, arrives, _⟩ :=
    posted_transaction_arrives documented_inverts documented_spellsWords postedVictim_sized
      (.start (show sequencing.initial { node := {}, mempool := {} } from rfl)) "1" "now" clean empty
      (by decide)
  obtain rfl : after = swapPosted := by
    rw [submitPublicTx, transaction_read] at posted
    exact (congrArg Prod.snd posted).symm
  have other : ∀ record ∈ swapPosted.mempool.transactions, record.mempoolTxId ≠ "mp-" ++ "2" := by
    intro record member
    rw [List.mem_singleton.mp member]
    decide
  have leads : sequencing.Leads swapPosted
      [.addTransaction unusualRecord.transaction "2" "later"] swapFollowed :=
    .step ⟨other, rfl⟩ .done
  have pending : ∃ pending ∈ swapFollowed.mempool.transactions, pending.mempoolTxId = "mp-" ++ "1" ∧
      pending.status = .pending := ⟨_, List.mem_cons_self, rfl, rfl⟩
  obtain ⟨snapshot, isSnapshot, isTold⟩ := (arrives _ _ leads pending).1 (by decide) 0
  exact ⟨record, snapshot, posted, read, isSnapshot, isTold⟩

end DexKnight.PublishedRecords
