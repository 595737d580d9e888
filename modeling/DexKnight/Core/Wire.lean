import DexKnight.Core.Types
import DexKnight.Support.Hex

/-! JSON values on the wire, and Knight's accessors over them (`utils.cpp`). An
integer literal is kept exactly; `boost::json` calls it an `int64` when it fits one.
What Knight calls of `solabi` and `intx` is not part of the repository and is a
parameter. -/
namespace DexKnight.Core.Wire
open Core.Types Support.Hex

inductive Json
  | null
  | bool (value : Bool)
  | int (value : Int)
  | float (literal : String)
  | string (value : String)
  | array (items : List Json)
  | object (fields : List (String × Json))
  deriving Repr, Inhabited

abbrev Fields := List (String × Json)

/-- What a response body parses to: nothing when it is not JSON. -/
abbrev Body := Option Json

/-- The external conversions: each answers nothing where the library throws. -/
structure Libraries where
  /-- `solabi::from_hex` -/
  fromHex : String → Option Bytes
  /-- `intx::from_string<intx::uint256>` -/
  fromString : String → Option Uint256
  /-- `intx::hex` -/
  hex : Uint256 → String
  /-- `solabi::decode` of a pair of `uint256`. -/
  decodePair : Bytes → Option (Uint256 × Uint256)

def ifContains (object : Fields) (field : String) : Option Json :=
  (object.find? fun entry => entry.1 = field).map Prod.snd

def parseToJsonObject (body : Body) : Option Fields :=
  match body with
  | some (.object fields) => some fields
  | _ => none

/-- A C++ string made of `c_str()` ends at the first NUL. -/
def cString (text : String) : String := String.ofList (text.toList.takeWhile (· ≠ '\x00'))

def jsonString (object : Fields) (field : String) : Option String :=
  match ifContains object field with
  | some (.string value) => some (cString value)
  | _ => none

def jsonBool (object : Fields) (field : String) : Option Bool :=
  match ifContains object field with
  | some (.bool value) => some value
  | _ => none

def jsonInt64 (object : Fields) (field : String) : Option Int :=
  match ifContains object field with
  | some (.int value) => if -2 ^ 63 ≤ value ∧ value < 2 ^ 63 then some value else none
  | _ => none

def jsonUint64 (object : Fields) (field : String) : Option UInt64 := do
  let value ← jsonInt64 object field
  if value < 0 then none else some (UInt64.ofNat value.toNat)

def jsonArray (object : Fields) (field : String) : Option (List Json) :=
  match ifContains object field with
  | some (.array items) => some items
  | _ => none

def jsonObject (object : Fields) (field : String) : Option Fields :=
  match ifContains object field with
  | some (.object fields) => some fields
  | _ => none

/-! ## Hexadecimal fields -/

/-- The digits after a `0x` or `0X`. -/
def hexPrefixed (value : String) : Option (List Char) :=
  match value.toList with
  | '0' :: 'x' :: digits => some digits
  | '0' :: 'X' :: digits => some digits
  | _ => none

/-- The `std::from_chars` call wants a digit and the whole text, and fails on
overflow. -/
def parseHexQuantity (value : String) : Option UInt64 := do
  let digits ← hexPrefixed value
  if digits = [] then none
  else
    let parsed ← readHex digits 0
    if parsed < 2 ^ 64 then some (UInt64.ofNat parsed) else none

def hexQuantity (value : UInt64) : String := "0x" ++ String.ofList (writeHex value.toNat)

def hexData (value : Bytes) : String :=
  "0x" ++ String.ofList (value.flatMap fun byte =>
    [Nat.digitChar (byte.toNat / 16), Nat.digitChar (byte.toNat % 16)])

section External

variable (lib : Libraries)

def parseHexUint256 (value : String) : Option Uint256 := do
  let digits ← hexPrefixed value
  if digits = [] then none else lib.fromString value

def parseHexBytes (value : String) : Option Bytes := do
  let _ ← hexPrefixed value
  lib.fromHex value

/-- `hex_quantity` of a 256-bit word. -/
def hexQuantity256 (value : Uint256) : String := "0x" ++ lib.hex value

def jsonHexUint64 (object : Fields) (field : String) : Option UInt64 := do
  parseHexQuantity (← jsonString object field)

def jsonHexUint256 (object : Fields) (field : String) : Option Uint256 := do
  parseHexUint256 lib (← jsonString object field)

def jsonHexBytes (object : Fields) (field : String) : Option Bytes := do
  parseHexBytes lib (← jsonString object field)

/-- The overload with an expected size. -/
def jsonHexBytesOf (object : Fields) (field : String) (expectedSize : Nat) : Option Bytes := do
  let parsed ← jsonHexBytes lib object field
  if parsed.length = expectedSize then some parsed else none

/-- The shape of every `json_optional_*`: an absent or null field is an empty
optional, anything else must parse. -/
def jsonOptional {α : Type} (object : Fields) (field : String) (parse : Option α) :
    Option (Option α) :=
  match ifContains object field with
  | none => some none
  | some .null => some none
  | some _ => parse.map some

def jsonOptionalHexUint64 (object : Fields) (field : String) : Option (Option UInt64) :=
  jsonOptional object field (jsonHexUint64 object field)

def jsonOptionalUint64 (object : Fields) (field : String) : Option (Option UInt64) :=
  jsonOptional object field (jsonUint64 object field)

def jsonOptionalHexUint256 (object : Fields) (field : String) : Option (Option Uint256) :=
  jsonOptional object field (jsonHexUint256 lib object field)

def jsonOptionalHexBytes (object : Fields) (field : String) (expectedSize : Nat) :
    Option (Option Bytes) :=
  jsonOptional object field (jsonHexBytesOf lib object field expectedSize)

def jsonOptionalString (object : Fields) (field : String) : Option (Option String) :=
  jsonOptional object field (jsonString object field)

end External

end DexKnight.Core.Wire
