import Mathlib.Data.List.TakeWhile
import DexKnight.Core.Codec

/-! Facts about the wire format, and the external conversions as their libraries
document them: an instance of the parameter that runs. -/
namespace DexKnight.WireProofs
open Core.Types Core.Wire Core.Codec Support.Hex

/-- One line of a reader: what was read goes to the rest. -/
theorem read_then {α β : Type} {read : Option α} {value : α} (isValue : read = some value)
    (rest : α → Option β) : (read >>= rest) = rest value := by
  rw [isValue, Option.bind_eq_bind, Option.bind_some]

/-! ## Quantities -/

theorem hexPrefixed_hex (digits : List Char) :
    hexPrefixed ("0x" ++ String.ofList digits) = some digits := by
  have spelled : ("0x" ++ String.ofList digits).toList = '0' :: 'x' :: digits := by
    simp [String.toList_append, String.toList_ofList]
  unfold hexPrefixed
  simp only [spelled]

/-- A text with its `0x` is not empty. -/
theorem hex_ne_empty (digits : List Char) : "0x" ++ String.ofList digits ≠ "" := by
  intro empty
  have digits := hexPrefixed_hex digits
  rw [empty] at digits
  cases digits

/-- A text of hexadecimal digits has no NUL to be cut at. -/
theorem cString_hex {digits : List Char} (clean : ∀ c ∈ digits, c ≠ '\x00') :
    cString ("0x" ++ String.ofList digits) = "0x" ++ String.ofList digits := by
  have spelled : ("0x" ++ String.ofList digits).toList = '0' :: 'x' :: digits := by
    simp [String.toList_append, String.toList_ofList]
  have whole : ('0' :: 'x' :: digits).takeWhile (· ≠ '\x00') = '0' :: 'x' :: digits := by
    refine List.takeWhile_eq_self_iff.mpr ?_
    intro c member
    rcases List.mem_cons.mp member with rfl | member
    · rfl
    · rcases List.mem_cons.mp member with rfl | member
      · rfl
      · simpa using clean c member
  rw [cString, spelled, whole, ← spelled, String.ofList_toList]

/-- A printed quantity reads back as the number it was printed from. -/
theorem parseHexQuantity_hexQuantity (value : UInt64) :
    parseHexQuantity (hexQuantity value) = some value := by
  rw [parseHexQuantity, hexQuantity, hexPrefixed_hex]
  simp only [Option.bind_eq_bind, Option.bind_some, writeHex_ne_nil, ↓reduceIte, readHex_writeHex]
  rw [if_pos value.toNat_lt, UInt64.ofNat_toNat]

/-- A type fits its byte on the way back. -/
theorem type_round_trip (type : UInt8) :
    ¬ type.toUInt64 > 255 ∧ type.toUInt64.toUInt8 = type := by
  refine ⟨?_, by simp⟩
  rw [gt_iff_lt, UInt64.lt_iff_toNat_lt, UInt8.toNat_toUInt64]
  have bound := type.toNat_lt
  exact Nat.not_lt.mpr (by change type.toNat ≤ 255; omega)

/-! ## Optional fields -/

/-- An optional field is written as null or as its text, and read back when its text
is. -/
theorem jsonOptional_nullable {α : Type} {object : Fields} {field : String} {value : Option α}
    {write : α → String} {parse : Option α} (reads : ∀ content, value = some content →
      parse = some content) (present : ifContains object field = some (nullable value write)) :
    jsonOptional object field parse = some value := by
  unfold jsonOptional
  rw [present]
  cases value with
  | none => rfl
  | some content =>
    rw [reads content rfl]
    rfl

/-- What an optional field can be read as: nothing, or what its text parses to. -/
theorem jsonOptional_cases {α : Type} {object : Fields} {field : String} {value : Option α}
    {parse : Option α} (read : jsonOptional object field parse = some value) :
    ∀ content, value = some content → parse = some content := by
  rintro content rfl
  unfold jsonOptional at read
  split at read
  · cases read
  · cases read
  · obtain ⟨parsed, isParsed, same⟩ := Option.map_eq_some_iff.mp read
    cases same
    exact isParsed

theorem jsonHexBytesOf_length {lib : Libraries} {object : Fields} {field : String} {size : Nat}
    {bytes : Bytes} (read : jsonHexBytesOf lib object field size = some bytes) :
    bytes.length = size := by
  obtain ⟨parsed, _, sized⟩ := Option.bind_eq_some_iff.mp read
  split at sized
  · next isSize =>
    cases sized
    exact isSize
  · cases sized

/-! ## The external conversions -/

/-- Pairs of hexadecimal digits. -/
def readBytes : List Char → Option Bytes
  | [] => some []
  | [_] => none
  | high :: low :: rest => do
    let high ← hexDigit high
    let low ← hexDigit low
    let bytes ← readBytes rest
    some (UInt8.ofNat (16 * high + low) :: bytes)

/-- `solabi` and `intx` as they are documented: an optional `0x` before an even
number of digits, at most 64 digits after `0x`, and two big-endian words. -/
def documented : Libraries where
  fromHex text := readBytes ((hexPrefixed text).getD text.toList)
  fromString text := do
    let digits ← hexPrefixed text
    if digits.length ≤ 64 then
      let value ← readHex digits 0
      some (BitVec.ofNat 256 value)
    else
      none
  hex value := String.ofList (writeHex value.toNat)
  decodePair bytes :=
    if bytes.length < 2 * kWordSize then none
    else some (BitVec.ofNat 256 (bigEndian (bytes.take kWordSize)),
      BitVec.ofNat 256 (bigEndian ((bytes.drop kWordSize).take kWordSize)))

/-- Bytes that are written are read back. -/
theorem readBytes_digits (bytes : Bytes) :
    readBytes (bytes.flatMap fun byte =>
      [Nat.digitChar (byte.toNat / 16), Nat.digitChar (byte.toNat % 16)]) = some bytes := by
  induction bytes with
  | nil => rfl
  | cons byte rest ih =>
    have bound := byte.toNat_lt
    have high := hexDigit_digitChar (show byte.toNat / 16 < 16 by omega)
    have low := hexDigit_digitChar (show byte.toNat % 16 < 16 by omega)
    have whole : UInt8.ofNat (16 * (byte.toNat / 16) + byte.toNat % 16) = byte := by
      rw [Nat.div_add_mod, UInt8.ofNat_toNat]
    simp only [List.flatMap_cons, List.cons_append, List.nil_append, readBytes, high, low, ih,
      Option.bind_eq_bind, Option.bind_some, whole]

/-- Written bytes are digits. -/
theorem hexData_clean (bytes : Bytes) :
    cString (hexData bytes) = hexData bytes := by
  refine cString_hex ?_
  intro c member
  obtain ⟨byte, _, isDigit⟩ := List.mem_flatMap.mp member
  have bound := byte.toNat_lt
  have digit : (hexDigit c).isSome = true := by
    rcases List.mem_cons.mp isDigit with rfl | isLow
    · rw [hexDigit_digitChar (show byte.toNat / 16 < 16 by omega)]
      rfl
    · rw [List.mem_singleton.mp isLow, hexDigit_digitChar (show byte.toNat % 16 < 16 by omega)]
      rfl
  rintro rfl
  exact absurd digit (by decide)

/-- What Knight relies on in `solabi` and `intx`: bytes and words that it writes are
read back, and a printed word is at least one hexadecimal digit and nothing else. -/
structure Inverts (lib : Libraries) : Prop where
  fromHex : ∀ bytes, lib.fromHex (hexData bytes) = some bytes
  fromString : ∀ value, lib.fromString (hexQuantity256 lib value) = some value
  hexDigits : ∀ value, (lib.hex value).toList ≠ [] ∧
    ∀ c ∈ (lib.hex value).toList, (hexDigit c).isSome = true

theorem documented_inverts : Inverts documented where
  fromHex bytes := by
    have digits : hexPrefixed (hexData bytes) = some _ := hexPrefixed_hex _
    change readBytes ((hexPrefixed _).getD _) = _
    rw [digits]
    exact readBytes_digits bytes
  fromString value := by
    have digits : hexPrefixed (hexQuantity256 documented value) = some (writeHex value.toNat) :=
      hexPrefixed_hex _
    have short : (writeHex value.toNat).length ≤ 64 := by
      refine (Nat.length_toDigits_le_iff (by decide) (by decide)).mpr ?_
      exact value.isLt
    change (hexPrefixed _).bind _ = _
    rw [digits]
    simp [short, readHex_writeHex]
  hexDigits value := by
    have spelled : (documented.hex value).toList = writeHex value.toNat := String.toList_ofList
    rw [spelled]
    exact ⟨writeHex_ne_nil _, readHex_digits (readHex_writeHex value.toNat)⟩

section Inverts

variable {lib : Libraries} (inverts : Inverts lib) {object : Fields} {field : String}
include inverts

theorem parseHexBytes_hexData (bytes : Bytes) :
    parseHexBytes lib (cString (hexData bytes)) = some bytes := by
  have digits : hexPrefixed (hexData bytes) = some _ := hexPrefixed_hex _
  rw [hexData_clean]
  simp only [parseHexBytes, digits, inverts.fromHex bytes, Option.bind_eq_bind, Option.bind_some]

theorem jsonHexBytes_hexData {bytes : Bytes}
    (present : ifContains object field = some (.string (hexData bytes))) :
    jsonHexBytes lib object field = some bytes := by
  have isText : jsonString object field = some (cString (hexData bytes)) := by
    rw [jsonString, present]
  simp only [jsonHexBytes, isText, parseHexBytes_hexData inverts, Option.bind_eq_bind,
    Option.bind_some]

theorem jsonHexBytesOf_hexData {bytes : Bytes} {size : Nat} (sized : bytes.length = size)
    (present : ifContains object field = some (.string (hexData bytes))) :
    jsonHexBytesOf lib object field size = some bytes := by
  simp [jsonHexBytesOf, jsonHexBytes_hexData inverts present, sized]

/-- An optional field of bytes that is written as null or as its digits. -/
theorem jsonOptionalHexBytes_nullable {value : Option Bytes} {size : Nat}
    (sized : ∀ bytes, value = some bytes → bytes.length = size)
    (present : ifContains object field = some (nullable value hexData)) :
    jsonOptionalHexBytes lib object field size = some value := by
  apply jsonOptional_nullable _ present
  rintro bytes rfl
  exact jsonHexBytesOf_hexData inverts (sized bytes rfl) present

theorem jsonHexUint256_hexQuantity256 {value : Uint256}
    (present : ifContains object field = some (.string (hexQuantity256 lib value))) :
    jsonHexUint256 lib object field = some value := by
  obtain ⟨nonempty, digits⟩ := inverts.hexDigits value
  have spelled : hexQuantity256 lib value = "0x" ++ String.ofList (lib.hex value).toList := by
    rw [String.ofList_toList, hexQuantity256]
  have clean : cString (hexQuantity256 lib value) = hexQuantity256 lib value := by
    rw [spelled]
    refine cString_hex fun c member => ?_
    rintro rfl
    exact absurd (digits _ member) (by decide)
  have isPrefixed : hexPrefixed (hexQuantity256 lib value) = some (lib.hex value).toList := by
    rw [spelled]
    exact hexPrefixed_hex _
  simp only [jsonHexUint256, jsonString, present, clean, parseHexUint256, isPrefixed,
    Option.bind_eq_bind, Option.bind_some, if_neg nonempty, inverts.fromString]

end Inverts

/-- Reserves that were written as bytes. -/
theorem poolSnapshot_hexData {object : Fields} {pool : Pool} {bytes : Bytes}
    {reserves : Uint256 × Uint256}
    (present : ifContains object "result" = some (.string (hexData bytes)))
    (decoded : documented.decodePair bytes = some reserves) :
    PoolSnapshot.fromJson documented pool (.object object) =
      some ⟨pool, reserves.1, reserves.2⟩ := by
  obtain ⟨text, isText, isBytes⟩ :=
    Option.bind_eq_some_iff.mp (jsonHexBytes_hexData documented_inverts present)
  simp only [PoolSnapshot.fromJson, asObject, isText, isBytes, decoded, Option.bind_eq_bind,
    Option.bind_some]

theorem jsonHexUint64_hexQuantity {object : Fields} {field : String} {value : UInt64}
    (present : ifContains object field = some (.string (hexQuantity value))) :
    jsonHexUint64 object field = some value := by
  have clean : cString (hexQuantity value) = hexQuantity value := by
    refine cString_hex ?_
    intro c member
    have digit := readHex_digits (readHex_writeHex value.toNat) c member
    rintro rfl
    exact absurd digit (by decide)
  simp only [jsonHexUint64, jsonString, present, clean, Option.bind_eq_bind, Option.bind_some,
    parseHexQuantity_hexQuantity]

end DexKnight.WireProofs
