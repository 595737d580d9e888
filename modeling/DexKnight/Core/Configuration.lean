import DexKnight.Core.Runtime

/-! Knight's configuration (`config.h`): URLs are split into an endpoint, pools and the
backrun's parameters are read from their fields, and nothing is assigned before
everything was read. -/
namespace DexKnight.Core.Configuration
open Core.Types Wire
open Core.Runtime (BackrunConfig)

structure Endpoint where
  scheme : String := ""
  host : String := ""
  port : String := ""
  target : String := ""
  useTls : Bool := false
  deriving DecidableEq, Repr

structure PoolConfig where
  address : Bytes
  tokenA : Bytes
  tokenB : Bytes
  deriving DecidableEq, Repr

structure Config where
  builderRestUrl : String := ""
  builderRestEndpoint : Endpoint := {}
  builderWsUrl : String := ""
  builderWsEndpoint : Endpoint := {}
  tlsVerifyPeer : Bool := true
  pools : List PoolConfig := []
  backrun : BackrunConfig := { botAddress := [], contractAddress := [] }
  deriving DecidableEq, Repr

/-! ## Endpoints -/

structure SchemeInfo where
  scheme : String
  defaultPort : String
  useTls : Bool

structure UrlParts where
  authority : List Char
  target : List Char

structure HostPort where
  host : String
  port : String

/-- `to_lower` in the classic locale. -/
def toLower (text : List Char) : String := String.ofList (text.map Char.toLower)

/-- Decimal digits onto an accumulator, as `std::from_chars` reads them. -/
def readDecimal : List Char → Nat → Option Nat
  | [], value => some value
  | c :: rest, value =>
    if '0' ≤ c ∧ c ≤ '9' then readDecimal rest (10 * value + (c.toNat - '0'.toNat)) else none

/-- The whole text must be one number of sixteen bits other than zero. -/
def isValidPort (port : String) : Bool :=
  match port.toList with
  | [] => false
  | digits =>
    match readDecimal digits 0 with
    | none => false
    | some value => value < 2 ^ 16 && 0 < value

/-- What stands before and after the first `://`. -/
def splitScheme : List Char → Option (List Char × List Char)
  | [] => none
  | ':' :: '/' :: '/' :: rest => some ([], rest)
  | c :: rest => (splitScheme rest).map fun (scheme, rest) => (c :: scheme, rest)

/-- The two schemes of a protocol, without and with TLS. -/
def parseScheme (plain secure : String) (schemeRaw : List Char) : Option SchemeInfo :=
  let scheme := toLower schemeRaw
  if scheme = plain then some { scheme, defaultPort := "80", useTls := false }
  else if scheme = secure then some { scheme, defaultPort := "443", useTls := true }
  else none

def parseWsScheme : List Char → Option SchemeInfo := parseScheme "ws" "wss"

def parseRestScheme : List Char → Option SchemeInfo := parseScheme "http" "https"

/-- `parse_url_parts` on what follows the scheme. -/
def parseUrlParts (rest : List Char) : Option UrlParts :=
  let authority := rest.takeWhile (· ≠ '/')
  let target := match rest.dropWhile (· ≠ '/') with
    | [] => ['/']
    | target => target
  if authority = [] ∨ target = [] ∨ '@' ∈ authority then none
  else some { authority, target }

/-- A second colon is refused. -/
def parseHostPort (authority : List Char) (defaultPort : String) : Option HostPort :=
  let host := String.ofList (authority.takeWhile (· ≠ ':'))
  match authority.dropWhile (· ≠ ':') with
  | [] => if host = "" ∨ ¬isValidPort defaultPort then none else some { host, port := defaultPort }
  | _ :: digits =>
    let port := String.ofList digits
    if ':' ∈ digits then none
    else if host = "" ∨ ¬isValidPort port then none
    else some { host, port }

def parseEndpoint (url : String) (scheme : SchemeInfo) : Option Endpoint := do
  let (schemeRaw, rest) ← splitScheme url.toList
  if toLower schemeRaw ≠ scheme.scheme then none
  else
    let parts ← parseUrlParts rest
    let hostPort ← parseHostPort parts.authority scheme.defaultPort
    some {
      scheme := scheme.scheme
      host := hostPort.host
      port := hostPort.port
      target := String.ofList parts.target
      useTls := scheme.useTls }

/-- The shape of `parse_ws_endpoint` and `parse_rest_endpoint`. -/
def endpointOf (parseScheme : List Char → Option SchemeInfo) (url : String) : Option Endpoint := do
  let (schemeRaw, _) ← splitScheme url.toList
  let scheme ← parseScheme schemeRaw
  parseEndpoint url scheme

def parseWsEndpoint : String → Option Endpoint := endpointOf parseWsScheme

def parseRestEndpoint : String → Option Endpoint := endpointOf parseRestScheme

/-! ## Pools and the backrun -/

section External

variable (lib : Libraries)

def parsePool (json : Fields) : Option PoolConfig := do
  let address ← jsonHexBytesOf lib json "address" kAddressLength
  let tokenA ← jsonHexBytesOf lib json "tokenA" kAddressLength
  let tokenB ← jsonHexBytesOf lib json "tokenB" kAddressLength
  some { address, tokenA, tokenB }

/-- No list of pools is an empty list. -/
def parsePools (json : Fields) : Option (List PoolConfig) :=
  match jsonArray json "pools" with
  | none => some []
  | some poolsJson => poolsJson.mapM fun value =>
    match value with
    | .object pool => parsePool lib pool
    | _ => none

def parseBackrun (json : Fields) : Option BackrunConfig := do
  let backrunJson ← jsonObject json "backrun"
  let botAddress ← jsonHexBytesOf lib backrunJson "botAddress" kAddressLength
  let contractAddress ← jsonHexBytesOf lib backrunJson "contractAddress" kAddressLength
  let chainId ← jsonUint64 backrunJson "chainId"
  let gas ← jsonOptionalUint64 backrunJson "gas"
  let maxFeePerGas ← jsonOptionalHexUint256 lib backrunJson "maxFeePerGas"
  let maxPriorityFeePerGas ← jsonOptionalHexUint256 lib backrunJson "maxPriorityFeePerGas"
  let config : BackrunConfig := { botAddress, contractAddress, chainId }
  some { config with
    gas := gas.getD config.gas
    maxFeePerGas := maxFeePerGas.getD config.maxFeePerGas
    maxPriorityFeePerGas := maxPriorityFeePerGas.getD config.maxPriorityFeePerGas }

/-- `Config::from_json`: whether it succeeded, and the object it leaves. -/
def Config.fromJson (config : Config) (json : Fields) : Bool × Config :=
  match jsonString json "builderRestUrl", jsonString json "builderWsUrl" with
  | some builderRestUrl, some builderWsUrl =>
    match parseRestEndpoint builderRestUrl, parseWsEndpoint builderWsUrl with
    | some restEndpoint, some wsEndpoint =>
      match parsePools lib json with
      | none => (false, config)
      | some parsedPools =>
        match parseBackrun lib json with
        | none => (false, config)
        | some parsedBackrun =>
          let config := { config with builderRestUrl }
          let config := { config with builderRestEndpoint := restEndpoint }
          let config := { config with builderWsUrl }
          let config := { config with builderWsEndpoint := wsEndpoint }
          let config := { config with pools := parsedPools }
          let config := { config with backrun := parsedBackrun }
          let config := { config with tlsVerifyPeer := (jsonBool json "tlsVerifyPeer").getD true }
          (true, config)
    | _, _ => (false, config)
  | _, _ => (false, config)

end External

/-- `make_pools`. -/
def makePools (pools : List PoolConfig) : List Pool :=
  pools.map fun pool => ⟨pool.address, pool.tokenA, pool.tokenB⟩

end DexKnight.Core.Configuration
