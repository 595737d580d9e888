import DexKnight.Core.Encoder
import DexKnight.Support.BigEndian

/-! The call data of a backrun is the ABI encoding of its arguments. The encoder's growing
buffer amounts to a selector and six words; a decoder written from the ABI's rule alone
takes the six arguments out of them again, so no two calls share an encoding. -/
namespace DexKnight.BackrunEncoding
open Core.Types Core.Calculator Core.Runtime Core.Encoder Support.BigEndian

variable {bytes : Bytes} {call : ExecuteBackrun} {amount : Uint256}

/-! ## The buffer -/

/-- The new word is written over the zeros the buffer grew by. -/
theorem overwrite_resize (out padding content : Bytes)
    (padded : padding = List.replicate padding.length 0) :
    overwrite (resize out (out.length + (padding.length + content.length)))
      (out.length + padding.length) content = out ++ padding ++ content := by
  have grown : resize out (out.length + (padding.length + content.length)) =
      out ++ padding ++ List.replicate content.length 0 := by
    have whole : out.take (out.length + (padding.length + content.length)) = out :=
      List.take_of_length_le (Nat.le_add_right _ _)
    rw [resize, whole, Nat.add_sub_cancel_left, List.replicate_add, ← padded, List.append_assoc]
  have front : (out ++ padding).length = out.length + padding.length := List.length_append
  have total : (out ++ padding ++ List.replicate content.length (0 : UInt8)).length =
      out.length + padding.length + content.length := by
    simp [Nat.add_assoc]
  rw [overwrite, grown, List.take_left' front, List.drop_of_length_le (by rw [total]),
    List.append_nil]

theorem uint256Word_eq_store (amount : Uint256) : uint256Word amount = store kWordSize amount.toNat :=
  rfl

@[simp] theorem uint256Word_length : (uint256Word amount).length = kWordSize := by
  rw [uint256Word_eq_store, store_length]

theorem appendUint256Word_eq (out : Bytes) (amount : Uint256) :
    appendUint256Word out amount = out ++ uint256Word amount := by
  have written := overwrite_resize out [] (uint256Word amount) rfl
  simpa [appendUint256Word] using written

theorem appendAddressWord_eq (out address : Bytes) :
    appendAddressWord out address = (addressWord address).map (out ++ ·) := by
  unfold appendAddressWord addressWord
  by_cases sized : address.length = kAddressLength
  · have written := overwrite_resize out (List.replicate (kWordSize - kAddressLength) 0) address
      (by simp)
    rw [List.length_replicate, sized] at written
    rw [if_neg (not_not.mpr sized), if_pos sized]
    simpa [kWordSize, kAddressLength] using written
  · rw [if_pos sized, if_neg sized]
    rfl

/-- An address as a word of its own. -/
def padded (address : Bytes) : Bytes := List.replicate (kWordSize - kAddressLength) 0 ++ address

/-- The six words of a call. -/
def wordsOf (call : ExecuteBackrun) : List Bytes :=
  [padded call.buyPool, padded call.sellPool, uint256Word call.amountInB,
    uint256Word call.minAmountOutA, uint256Word call.minAmountOutB, uint256Word call.minProfitB]

/-- Both addresses have their twenty bytes. -/
def Addressed (call : ExecuteBackrun) : Prop :=
  call.buyPool.length = kAddressLength ∧ call.sellPool.length = kAddressLength

instance (call : ExecuteBackrun) : Decidable (Addressed call) := inferInstanceAs (Decidable (_ ∧ _))

/-- **The encoding**, whatever the call: the selector and its six words, or nothing. -/
theorem encodeExecuteBackrun_eq (call : ExecuteBackrun) :
    Core.Encoder.encodeExecuteBackrun call = if Addressed call then
      some (executeBackrunSelector ++ (wordsOf call).flatten) else none := by
  unfold Core.Encoder.encodeExecuteBackrun
  simp only [appendAddressWord_eq, appendUint256Word_eq, addressWord]
  by_cases buys : call.buyPool.length = kAddressLength
  · by_cases sells : call.sellPool.length = kAddressLength
    · simp [Addressed, buys, sells, wordsOf, padded]
    · simp [Addressed, buys, sells]
  · simp [Addressed, buys]

/-- The composer's encoding of an opportunity is the one of its call. -/
theorem encodeExecuteBackrun_callOf (opportunity : Opportunity) :
    Core.Runtime.encodeExecuteBackrun opportunity = Core.Encoder.encodeExecuteBackrun (callOf opportunity) := by
  rw [encodeExecuteBackrun_eq]
  unfold Core.Runtime.encodeExecuteBackrun addressWord
  by_cases buys : opportunity.buyPool.address.length = kAddressLength
  · by_cases sells : opportunity.sellPool.address.length = kAddressLength
    · simp [Addressed, buys, sells, wordsOf, padded, callOf]
    · simp [Addressed, buys, sells, callOf]
  · simp [Addressed, buys, callOf]

theorem wordsOf_length (addressed : Addressed call) : ∀ word ∈ wordsOf call,
    word.length = kWordSize := by
  intro word member
  simp only [wordsOf, List.mem_cons, List.not_mem_nil, or_false] at member
  rcases member with rfl | rfl | rfl | rfl | rfl | rfl
  · simp [padded, addressed.1, kWordSize, kAddressLength]
  · simp [padded, addressed.2, kWordSize, kAddressLength]
  · exact uint256Word_length
  · exact uint256Word_length
  · exact uint256Word_length
  · exact uint256Word_length

/-! ## The ABI's rule -/

/-- The arguments lie behind the selector, one word each. -/
def wordAt (calldata : Bytes) (index : Nat) : Bytes :=
  (calldata.drop (kSelectorLength + index * kWordSize)).take kWordSize

/-- A `uint256`: the word, big-endian. -/
def decodeUint256 (word : Bytes) : Uint256 := BitVec.ofNat 256 (bigEndian word)

/-- An `address`: twelve zero bytes, and the address. -/
def decodeAddress (word : Bytes) : Option Bytes :=
  if word.take (kWordSize - kAddressLength) = List.replicate (kWordSize - kAddressLength) 0 then
    some (word.drop (kWordSize - kAddressLength))
  else none

/-- `(address,address,uint256,uint256,uint256,uint256)` behind the selector of
`executeBackrun`. -/
def abiDecode (calldata : Bytes) : Option ExecuteBackrun :=
  if calldata.take kSelectorLength = executeBackrunSelector ∧
      kSelectorLength + 6 * kWordSize ≤ calldata.length then do
    let buyPool ← decodeAddress (wordAt calldata 0)
    let sellPool ← decodeAddress (wordAt calldata 1)
    some {
      buyPool, sellPool
      amountInB := decodeUint256 (wordAt calldata 2)
      minAmountOutA := decodeUint256 (wordAt calldata 3)
      minAmountOutB := decodeUint256 (wordAt calldata 4)
      minProfitB := decodeUint256 (wordAt calldata 5) }
  else none

theorem decodeUint256_word (amount : Uint256) : decodeUint256 (uint256Word amount) = amount := by
  have stored : bigEndian (uint256Word amount) = amount.toNat % 256 ^ kWordSize :=
    value_store kWordSize amount.toNat
  apply BitVec.eq_of_toNat_eq
  rw [decodeUint256, stored, BitVec.toNat_ofNat]
  have fits : amount.toNat % 256 ^ kWordSize = amount.toNat := Nat.mod_eq_of_lt amount.isLt
  rw [fits, Nat.mod_eq_of_lt amount.isLt]

theorem decodeAddress_padded (address : Bytes) : decodeAddress (padded address) = some address := by
  simp [decodeAddress, padded]

/-- A word among words of one size is found by its index. -/
theorem flatten_word {words : List Bytes} {word : Bytes} {index : Nat}
    (sized : ∀ word ∈ words, word.length = kWordSize) (isWord : words[index]? = some word) :
    (words.flatten.drop (index * kWordSize)).take kWordSize = word := by
  induction words generalizing index with
  | nil => cases isWord
  | cons first rest ih =>
    have firstSize := sized first List.mem_cons_self
    cases index with
    | zero =>
      cases isWord
      rw [Nat.zero_mul, List.drop_zero, List.flatten_cons, List.take_left' firstSize]
    | succ index =>
      have skipped : (index + 1) * kWordSize = first.length + index * kWordSize := by
        rw [firstSize, Nat.succ_mul, Nat.add_comm]
      rw [List.flatten_cons, skipped, ← List.drop_drop, List.drop_left]
      exact ih (fun word member => sized word (List.mem_cons_of_mem _ member)) isWord

theorem wordAt_encoded {words : List Bytes} {word : Bytes} {index : Nat}
    (sized : ∀ word ∈ words, word.length = kWordSize) (isWord : words[index]? = some word) :
    wordAt (executeBackrunSelector ++ words.flatten) index = word := by
  have behind : (executeBackrunSelector ++ words.flatten).drop (kSelectorLength + index * kWordSize) =
      words.flatten.drop (index * kWordSize) := by
    rw [← List.drop_drop]
    rfl
  rw [wordAt, behind, flatten_word sized isWord]

theorem encoded_length (addressed : Addressed call) :
    (executeBackrunSelector ++ (wordsOf call).flatten).length = 196 := by
  have sized := wordsOf_length addressed
  have total : (wordsOf call).flatten.length = 192 := by
    rw [List.length_flatten, List.map_congr_left sized]
    rfl
  rw [List.length_append, total]
  rfl

/-- Decoding an encoding gives its call. -/
theorem abiDecode_encoded (addressed : Addressed call) :
    abiDecode (executeBackrunSelector ++ (wordsOf call).flatten) = some call := by
  have sized := wordsOf_length addressed
  have long : kSelectorLength + 6 * kWordSize ≤
      (executeBackrunSelector ++ (wordsOf call).flatten).length := by
    rw [encoded_length addressed]
    decide
  have selected : (executeBackrunSelector ++ (wordsOf call).flatten).take kSelectorLength =
      executeBackrunSelector := rfl
  have first : wordAt _ 0 = padded call.buyPool := wordAt_encoded sized rfl
  have second : wordAt _ 1 = padded call.sellPool := wordAt_encoded sized rfl
  have third : wordAt _ 2 = uint256Word call.amountInB := wordAt_encoded sized rfl
  have fourth : wordAt _ 3 = uint256Word call.minAmountOutA := wordAt_encoded sized rfl
  have fifth : wordAt _ 4 = uint256Word call.minAmountOutB := wordAt_encoded sized rfl
  have sixth : wordAt _ 5 = uint256Word call.minProfitB := wordAt_encoded sized rfl
  rw [abiDecode, if_pos ⟨selected, long⟩, first, second, third, fourth, fifth, sixth,
    decodeAddress_padded, decodeAddress_padded]
  simp only [Option.bind_eq_bind, Option.bind_some, decodeUint256_word]

/-- **The encoding is faithful.** For every call: it has an encoding exactly when both
addresses are twenty bytes; the encoding is then the selector and six words, 196 bytes,
and the ABI's rule decodes it to the call. So two calls with one encoding are equal. -/
theorem executeBackrun_encoding_faithful :
    (∀ call, (Core.Encoder.encodeExecuteBackrun call).isSome ↔
      call.buyPool.length = 20 ∧ call.sellPool.length = 20) ∧
    (∀ call bytes, Core.Encoder.encodeExecuteBackrun call = some bytes →
      bytes.length = 196 ∧ abiDecode bytes = some call ∧
        ∃ words : List Bytes, words.length = 6 ∧ (∀ word ∈ words, word.length = 32) ∧
          bytes = executeBackrunSelector ++ words.flatten) ∧
    ∀ first second bytes, Core.Encoder.encodeExecuteBackrun first = some bytes →
      Core.Encoder.encodeExecuteBackrun second = some bytes → first = second := by
  have decodes : ∀ call bytes, Core.Encoder.encodeExecuteBackrun call = some bytes →
      abiDecode bytes = some call := by
    intro call bytes encoded
    rw [encodeExecuteBackrun_eq, Option.ite_none_right_eq_some] at encoded
    obtain ⟨addressed, same⟩ := encoded
    cases same
    exact abiDecode_encoded addressed
  refine ⟨?_, ?_, ?_⟩
  · intro call
    rw [encodeExecuteBackrun_eq, Option.isSome_ite]
    rfl
  · intro call bytes encoded
    have decoded := decodes call bytes encoded
    rw [encodeExecuteBackrun_eq, Option.ite_none_right_eq_some] at encoded
    obtain ⟨addressed, same⟩ := encoded
    cases same
    exact ⟨encoded_length addressed, decoded, wordsOf call, rfl, wordsOf_length addressed, rfl⟩
  · intro first second bytes encodedFirst encodedSecond
    exact Option.some.inj
      ((decodes first bytes encodedFirst).symm.trans (decodes second bytes encodedSecond))

/-- Two pools and the amounts 1 to 4. -/
theorem executeBackrun_encoding_faithful_small :
    let call : ExecuteBackrun := {
      buyPool := List.replicate 20 0x11, sellPool := List.replicate 20 0x22
      amountInB := 1, minAmountOutA := 2, minAmountOutB := 3, minProfitB := 4 }
    ∃ bytes, Core.Encoder.encodeExecuteBackrun call = some bytes ∧ bytes.length = 196 ∧
      abiDecode bytes = some call := by
  intro call
  obtain ⟨exactly, decodes, _⟩ := executeBackrun_encoding_faithful
  obtain ⟨bytes, encoded⟩ := Option.isSome_iff_exists.mp ((exactly call).mpr ⟨rfl, rfl⟩)
  obtain ⟨length, decoded, _⟩ := decodes call bytes encoded
  exact ⟨bytes, encoded, length, decoded⟩

end DexKnight.BackrunEncoding
