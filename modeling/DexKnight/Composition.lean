import DexKnight.Core.Configuration
import DexKnight.CalculatorProofs
import DexKnight.SourceCoherence
import DexKnight.Support.Traversal

/-! From the configuration to a composed transaction. The parser lets only addresses of
twenty bytes in; the pools of a state, of a candidate and of an opportunity are the
configured ones; so the encoder never meets another length. -/
namespace DexKnight.Composition
open Core.Types Core.Wire Core.Codec Core.Configuration Core.CandidateState Core.Calculator
  Core.Runtime Support.Traversal CalculatorProofs SourceCoherence WireProofs

variable {lib : Libraries} {config before : Config} {json : Fields}

/-! ## What the parser lets in -/

/-- Every address of a configured pool has its twenty bytes. -/
structure PoolSized (pool : PoolConfig) : Prop where
  address : pool.address.length = kAddressLength
  tokenA : pool.tokenA.length = kAddressLength
  tokenB : pool.tokenB.length = kAddressLength

theorem parsePool_sized {pool : PoolConfig} (parsed : parsePool lib json = some pool) :
    PoolSized pool := by
  obtain ⟨address, isAddress, parsed⟩ := Option.bind_eq_some_iff.mp parsed
  obtain ⟨tokenA, isTokenA, parsed⟩ := Option.bind_eq_some_iff.mp parsed
  obtain ⟨tokenB, isTokenB, parsed⟩ := Option.bind_eq_some_iff.mp parsed
  cases parsed
  exact ⟨jsonHexBytesOf_length isAddress, jsonHexBytesOf_length isTokenA,
    jsonHexBytesOf_length isTokenB⟩

theorem parsePools_sized {pools : List PoolConfig} (parsed : parsePools lib json = some pools) :
    ∀ pool ∈ pools, PoolSized pool := by
  unfold parsePools at parsed
  split at parsed
  · cases parsed
    intro pool impossible
    cases impossible
  · intro pool member
    obtain ⟨value, _, isPool⟩ := exists_of_mem_right (mapM_eq_some.mp parsed) member
    split at isPool
    · exact parsePool_sized isPool
    · cases isPool

/-! ## What the parser leaves -/

/-- The two ways out: nothing was assigned, or everything was read. -/
inductive Parsed (lib : Libraries) (json : Fields) (before : Config) : Bool × Config → Prop
  | rejected : Parsed lib json before (false, before)
  | accepted {restEndpoint wsEndpoint : Endpoint} {builderRestUrl builderWsUrl : String}
      {pools : List PoolConfig} {backrun : BackrunConfig} :
      jsonString json "builderRestUrl" = some builderRestUrl →
      jsonString json "builderWsUrl" = some builderWsUrl →
      parseRestEndpoint builderRestUrl = some restEndpoint →
      parseWsEndpoint builderWsUrl = some wsEndpoint →
      parsePools lib json = some pools → parseBackrun lib json = some backrun →
      Parsed lib json before (true, {
        builderRestUrl, builderRestEndpoint := restEndpoint, builderWsUrl
        builderWsEndpoint := wsEndpoint, pools, backrun
        tlsVerifyPeer := (jsonBool json "tlsVerifyPeer").getD true })

theorem fromJson_parsed (lib : Libraries) (before : Config) (json : Fields) :
    Parsed lib json before (before.fromJson lib json) := by
  unfold Config.fromJson
  split
  · next builderRestUrl builderWsUrl isRest isWs =>
    split
    · next restEndpoint wsEndpoint isRestEndpoint isWsEndpoint =>
      split
      · exact .rejected
      · next pools isPools =>
        split
        · exact .rejected
        · next backrun isBackrun =>
          exact .accepted isRest isWs isRestEndpoint isWsEndpoint isPools isBackrun
    · exact .rejected
  · exact .rejected

/-- Everything that can be read is assigned. -/
theorem fromJson_accepted {restEndpoint wsEndpoint : Endpoint}
    {builderRestUrl builderWsUrl : String} {pools : List PoolConfig} {backrun : BackrunConfig}
    (isRest : jsonString json "builderRestUrl" = some builderRestUrl)
    (isWs : jsonString json "builderWsUrl" = some builderWsUrl)
    (isRestEndpoint : parseRestEndpoint builderRestUrl = some restEndpoint)
    (isWsEndpoint : parseWsEndpoint builderWsUrl = some wsEndpoint)
    (isPools : parsePools lib json = some pools) (isBackrun : parseBackrun lib json = some backrun) :
    before.fromJson lib json = (true, {
      builderRestUrl, builderRestEndpoint := restEndpoint, builderWsUrl
      builderWsEndpoint := wsEndpoint, pools, backrun
      tlsVerifyPeer := (jsonBool json "tlsVerifyPeer").getD true }) := by
  simp only [Config.fromJson, isRest, isWs, isRestEndpoint, isWsEndpoint, isPools, isBackrun]

theorem fromJson_rejected (rejected : (before.fromJson lib json).1 = false) :
    (before.fromJson lib json).2 = before := by
  have parsed := fromJson_parsed lib before json
  generalize before.fromJson lib json = outcome at *
  cases parsed with
  | rejected => rfl
  | accepted => cases rejected

theorem fromJson_sized (accepted : before.fromJson lib json = (true, config)) :
    ∀ pool ∈ makePools config.pools, pool.address.length = kAddressLength := by
  have parsed := fromJson_parsed lib before json
  rw [accepted] at parsed
  cases parsed with
  | accepted _ _ _ _ isPools _ =>
    intro pool member
    obtain ⟨configured, isConfigured, rfl⟩ := List.mem_map.mp member
    exact (parsePools_sized isPools configured isConfigured).address

/-! ## From states to transactions -/

/-- A state whose pools were read for the configured ones. -/
def Assembled (lib : Libraries) (config : Config) (state : StateSnapshot) : Prop :=
  ∃ requestChainCall blockNumber, CandidateSource.requestPoolSnapshots lib requestChainCall
    blockNumber 0 (makePools config.pools) = some state.pools

/-- Every valid view that a candidate source over the configured pools ever hands out is
assembled so. -/
theorem received_assembled {labels : List Action} {source after : CandidateSource}
    {state : StateSnapshot}
    (run : (candidateSource lib (makePools config.pools)).Run labels source)
    (returned : source.waitPopState = some (.ok state, after)) (valid : state.valid = true) :
    Assembled lib config state := by
  have view := (Coherent.reached run).view returned
  obtain ⟨blockNumber, _, requestChainCall, _, _, read⟩ := view.requested valid
  exact ⟨requestChainCall, blockNumber, read⟩

theorem Assembled.member {state : StateSnapshot} (assembled : Assembled lib config state)
    {snapshot : PoolSnapshot} (member : snapshot ∈ state.pools) :
    snapshot.pool ∈ makePools config.pools := by
  obtain ⟨requestChainCall, blockNumber, read⟩ := assembled
  rw [← requestPoolSnapshots_pools read]
  exact List.mem_map_of_mem member

/-- Both pools of an opportunity are configured. -/
theorem found_configured {state : StateSnapshot} {candidate : Candidate} {swap : Swap}
    {params : Params} {opportunity : Opportunity} {listed otherPool : PoolSnapshot}
    (assembled : Assembled lib config state)
    (found : Found state candidate swap params opportunity listed otherPool) :
    opportunity.buyPool ∈ makePools config.pools ∧
      opportunity.sellPool ∈ makePools config.pools := by
  have isListed := assembled.member (findPoolSnapshot_eq_some found.located).1
  have isOther := assembled.member found.member
  rcases found.pools with ⟨buys, sells⟩ | ⟨buys, sells⟩
  · rw [buys, sells]
    exact ⟨isListed, isOther⟩
  · rw [buys, sells]
    exact ⟨isOther, isListed⟩

/-- The encoder takes two addresses of twenty bytes. -/
theorem compose_completes {composer : TxComposer} {nonce : UInt64}
    (ready : composer.nextNonce = some nonce) {opportunity : Opportunity}
    (buySized : opportunity.buyPool.address.length = kAddressLength)
    (sellSized : opportunity.sellPool.address.length = kAddressLength) :
    ∃ tx, composer.compose opportunity = .ok tx := by
  have encoded : ∃ calldata, encodeExecuteBackrun opportunity = some calldata := by
    simp [encodeExecuteBackrun, addressWord, buySized, sellSized]
  obtain ⟨calldata, isCalldata⟩ := encoded
  unfold TxComposer.compose
  rw [ready, isCalldata]
  exact ⟨_, rfl⟩

/-- A composer after a successful `initialize`, wherever its nonce went since. -/
inductive Initialized (backrun : BackrunConfig) : TxComposer → Prop
  | first {response : Option Body} {composer : TxComposer} :
      TxComposer.refreshNonce { config := backrun } response = .ok composer →
        Initialized backrun composer
  | refreshed {response : Option Body} {composer after : TxComposer} :
      Initialized backrun composer → composer.refreshNonce response = .ok after →
        Initialized backrun after
  | used {composer : TxComposer} :
      Initialized backrun composer → Initialized backrun composer.markNonceUsed

theorem refreshNonce_nextNonce {composer after : TxComposer} {response : Option Body}
    (refreshed : composer.refreshNonce response = .ok after) :
    ∃ nonce, after.nextNonce = some nonce := by
  unfold TxComposer.refreshNonce at refreshed
  split at refreshed
  · cases refreshed
  · next nonce _ =>
    cases refreshed
    exact ⟨nonce, rfl⟩

theorem Initialized.nextNonce {backrun : BackrunConfig} {composer : TxComposer}
    (initialized : Initialized backrun composer) : ∃ nonce, composer.nextNonce = some nonce := by
  induction initialized with
  | first isFirst => exact refreshNonce_nextNonce isFirst
  | refreshed _ isRefreshed => exact refreshNonce_nextNonce isRefreshed
  | used _ ih =>
    obtain ⟨nonce, isNonce⟩ := ih
    refine ⟨nonce + 1, ?_⟩
    simp [TxComposer.markNonceUsed, isNonce]

/-- A configuration that is accepted never leads to an opportunity that cannot be
composed, in any state assembled from its pools, as every valid view is that the
candidate source over them hands out; one that is rejected leaves the object as it was. -/
theorem composition_never_fails (lib : Libraries) (before : Config) (json : Fields) :
    (∀ config, before.fromJson lib json = (true, config) →
      (∀ labels source state after,
        (candidateSource lib (makePools config.pools)).Run labels source →
          source.waitPopState = some (.ok state, after) → state.valid = true →
            Assembled lib config state) ∧
      ∀ state, Assembled lib config state →
      ∀ tx candidate, CandidateFilter.filter (makePools config.pools) tx = some candidate →
      ∀ swap params opportunity,
        findArbitrage state candidate swap params = some opportunity →
          opportunity.buyPool.address ≠ opportunity.sellPool.address ∧
            ∀ composer, Initialized config.backrun composer →
              ∃ backrunTx, composer.compose opportunity = .ok backrunTx) ∧
      ((before.fromJson lib json).1 = false → (before.fromJson lib json).2 = before) := by
  refine ⟨fun config accepted => ⟨fun _ _ _ _ => received_assembled, ?_⟩, fromJson_rejected⟩
  intro state assembled tx candidate filtered swap params opportunity isFound
  obtain ⟨listed, otherPool, found⟩ := findArbitrage_found isFound
  obtain ⟨isBuy, isSell⟩ := found_configured assembled found
  refine ⟨found.addresses_ne, fun composer isInitialized => ?_⟩
  obtain ⟨nonce, ready⟩ := isInitialized.nextNonce
  have sized := fromJson_sized accepted
  exact compose_completes ready (sized _ isBuy) (sized _ isSell)

/-! ## A configuration of two pools -/

def sampleAddress (last : UInt8) : Bytes := List.replicate 19 0 ++ [last]

def samplePoolJson (last : UInt8) : Json :=
  .object [("address", .string (hexData (sampleAddress last))),
    ("tokenA", .string (hexData (sampleAddress 0xA0))),
    ("tokenB", .string (hexData (sampleAddress 0xB0)))]

def sampleJson : Fields := [
  ("builderRestUrl", .string "http://builder:8000"),
  ("builderWsUrl", .string "WS://builder:8000/ws"),
  ("pools", .array [samplePoolJson 0xD1, samplePoolJson 0xD2]),
  ("backrun", .object [
    ("botAddress", .string (hexData (sampleAddress 0x0F))),
    ("contractAddress", .string (hexData (sampleAddress 0xE0))), ("chainId", .int 31337)])]

def sampleConfig : Config where
  builderRestUrl := "http://builder:8000"
  builderRestEndpoint := ⟨"http", "builder", "8000", "/", false⟩
  builderWsUrl := "WS://builder:8000/ws"
  builderWsEndpoint := ⟨"ws", "builder", "8000", "/ws", false⟩
  pools := [
    ⟨sampleAddress 0xD1, sampleAddress 0xA0, sampleAddress 0xB0⟩,
    ⟨sampleAddress 0xD2, sampleAddress 0xA0, sampleAddress 0xB0⟩]
  backrun := {
    botAddress := sampleAddress 0x0F, contractAddress := sampleAddress 0xE0, chainId := 31337 }

private theorem sampleAddress_read {object : Fields} {field : String} {last : UInt8}
    (present : ifContains object field = some (.string (hexData (sampleAddress last)))) :
    jsonHexBytesOf documented object field kAddressLength = some (sampleAddress last) :=
  jsonHexBytesOf_hexData documented_inverts rfl present

theorem sampleJson_read : ({} : Config).fromJson documented sampleJson = (true, sampleConfig) := by
  have restUrl : jsonString sampleJson "builderRestUrl" = some "http://builder:8000" := by
    decide +kernel
  have wsUrl : jsonString sampleJson "builderWsUrl" = some "WS://builder:8000/ws" := by
    decide +kernel
  have restEndpoint : parseRestEndpoint "http://builder:8000" =
      some sampleConfig.builderRestEndpoint := by
    decide +kernel
  have wsEndpoint : parseWsEndpoint "WS://builder:8000/ws" =
      some sampleConfig.builderWsEndpoint := by
    decide +kernel
  have pool : ∀ last, parsePool documented [
      ("address", .string (hexData (sampleAddress last))),
      ("tokenA", .string (hexData (sampleAddress 0xA0))),
      ("tokenB", .string (hexData (sampleAddress 0xB0)))] =
        some ⟨sampleAddress last, sampleAddress 0xA0, sampleAddress 0xB0⟩ := by
    intro last
    unfold parsePool
    rw [read_then (sampleAddress_read rfl), read_then (sampleAddress_read rfl),
      read_then (sampleAddress_read rfl)]
  have pools : parsePools documented sampleJson = some sampleConfig.pools := by
    change [samplePoolJson 0xD1, samplePoolJson 0xD2].mapM _ = _
    rw [mapM_eq_some]
    exact .cons (pool 0xD1) (.cons (pool 0xD2) .nil)
  have backrun : parseBackrun documented sampleJson = some sampleConfig.backrun := by
    unfold parseBackrun
    rw [read_then (show jsonObject sampleJson "backrun" = some _ from rfl),
      read_then (sampleAddress_read rfl), read_then (sampleAddress_read rfl)]
    rfl
  exact fromJson_accepted restUrl wsUrl restEndpoint wsEndpoint pools backrun

/-- A million of each token in either pool. -/
def balancedWords : Bytes :=
  List.replicate 29 0 ++ [0x0F, 0x42, 0x40] ++ (List.replicate 29 0 ++ [0x0F, 0x42, 0x40])

def balancedState : StateSnapshot where
  valid := true
  blockNumber := some 7
  pools := (makePools sampleConfig.pools).map fun pool => ⟨pool, 1000000, 1000000⟩
  candidate := none

theorem balancedState_assembled : Assembled documented sampleConfig balancedState := by
  have decoded : documented.decodePair balancedWords = some (1000000, 1000000) := by
    decide +kernel
  have read : ∀ pool, PoolSnapshot.fromJson documented pool
      (.object [("result", .string (hexData balancedWords))]) = some ⟨pool, 1000000, 1000000⟩ := by
    intro pool
    exact poolSnapshot_hexData rfl decoded
  refine ⟨fun _ _ => some (some (.object [("result", .string (hexData balancedWords))])), 7, ?_⟩
  exact requestPoolSnapshots_answered rfl (read _)
    (requestPoolSnapshots_answered rfl (read _) rfl)

def victimTx : PendingTransaction := {
  recipient := some (sampleAddress 0xD1), input := CandidateFilter.swapExactAForBSelector }

/-- The opportunity behind a sale of A in the first pool is composed, and a URL of
another scheme leaves the configuration alone. -/
theorem sample_opportunity_composes :
    (∃ opportunity backrunTx,
      findArbitrage balancedState ⟨victimTx, ⟨sampleAddress 0xD1, sampleAddress 0xA0,
          sampleAddress 0xB0⟩, .aForB⟩ (.swapExactAForB ⟨100000, 1⟩)
          { maxAmountInB := 1000000, minOutputBps := 10000 } = some opportunity ∧
        TxComposer.compose ⟨sampleConfig.backrun, some 7⟩ opportunity = .ok backrunTx) ∧
      (sampleConfig.fromJson documented [("builderRestUrl", .string "ftp://builder"),
        ("builderWsUrl", .string "ws://builder")]).2 = sampleConfig := by
  have found : findArbitrage balancedState ⟨victimTx, ⟨sampleAddress 0xD1, sampleAddress 0xA0,
      sampleAddress 0xB0⟩, .aForB⟩ (.swapExactAForB ⟨100000, 1⟩)
      { maxAmountInB := 1000000, minOutputBps := 10000 } = some ⟨
        ⟨sampleAddress 0xD1, sampleAddress 0xA0, sampleAddress 0xB0⟩,
        ⟨sampleAddress 0xD2, sampleAddress 0xA0, sampleAddress 0xB0⟩,
        41999, 48422, 46053, 0, 48422, 46053, 4054⟩ := by
    decide +kernel
  have answered : TxComposer.refreshNonce { config := sampleConfig.backrun }
      (some (some (.object [("nonce", .string "0x7")]))) =
        .ok ⟨sampleConfig.backrun, some 7⟩ := by
    decide +kernel
  obtain ⟨_, composes⟩ := ((composition_never_fails documented {} sampleJson).1 sampleConfig
    sampleJson_read).2 balancedState balancedState_assembled victimTx _ (by decide) _ _ _ found
  obtain ⟨backrunTx, composed⟩ := composes _ (.first answered)
  refine ⟨⟨_, backrunTx, found, composed⟩, ?_⟩
  exact (composition_never_fails documented sampleConfig _).2 (by decide +kernel)

end DexKnight.Composition
