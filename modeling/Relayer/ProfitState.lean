import Relayer.Profitability

/-! The profit client as the object the relayer keeps between calls. Its pure part, whose tables
the updates write, is `ProfitClient`; `ProfitState` adds the memo of minimum fees that
`minRelayerFeePct` fills. `updateTokenPrices` records each token's address and a zero price
before it asks the price feed, and writes the feed's prices one by one; `updateGasCosts` stores
the simulated gas cost of a sample deposit for every enabled chain, the `uint256Max` figures of
`_getTotalGasCost` where the simulation rejects. `ProfitEnvironment` holds what these methods read
and never write: `process.env`, the constructor's arguments, and the tables and queries of code
outside src/. A run (`ProfitState.run`) is any sequence of updates and profitability queries,
each update carrying the answers the feed or the simulation gave it. -/
namespace Relayer

/-- What the stateful methods of the profit client read and never write. -/
structure ProfitEnvironment where
  /-- `process.env`. -/
  env : String → Option String
  /-- `toBNWei` of a decimal string; an error where `parseUnits` rejects it. -/
  toBNWei : String → Except String Int
  /-- The constructor's `defaultMinRelayerFeePct`. -/
  defaultMinRelayerFeePct : Int
  /-- `hubPoolClient.chainId`. -/
  hubChainId : Nat
  /-- The constructor's `enabledChainIds`. -/
  enabledChainIds : List Nat
  /-- The constructor's `additionalL1Tokens`. -/
  additionalL1Tokens : List Nat
  /-- `hubPoolClient.getL1Tokens()`. -/
  hubPoolTokens : List L1Token
  /-- `getTokenInfo(token, chainId)` of ../utils; `none` where it throws. -/
  getTokenInfo : Nat → Nat → Option TokenInfo
  /-- `TOKEN_SYMBOLS_MAP[symbol].addresses[chainId]` on chains other than mainnet, for the symbols
  the map has; the mainnet address is `TokenSymbolsEntry.mainnetAddress`. -/
  tokenAddresses : String → Nat → Option Nat
  /-- `getRemoteTokenForL1Token(l1Token, chainId, hubPoolClient.chainId)`. -/
  remoteToken : Nat → Nat → Option Nat
  /-- The table `testSymbols` of `updateGasCosts`, by chain. -/
  testSymbols : Nat → Option String

/-- What the stateful methods throw beyond `ProfitError`. -/
inductive UpdateError where
  /-- An L1 token whose symbol neither `TOKEN_SYMBOLS_MAP` nor the remapping knows, off testnet. -/
  | noDefinition (symbol : String)
  /-- `TOKEN_SYMBOLS_MAP[symbol].addresses` for a symbol the map lacks: a `TypeError`. -/
  | undefinedEntry (symbol : String)
  /-- `EvmAddress.from` of an address the map does not give. -/
  | undefinedAddress (symbol : String) (chainId : Nat)
  /-- `getTokenInfo` throws for an additional L1 token. -/
  | unknownToken (address : Nat)
  /-- The price feed rejects, or `toBNWei` rejects one of its prices. -/
  | pricesNotUpdated (reason : String)
  /-- `updateGasCosts`: the chain has no token for the test symbol. -/
  | spokePoolNotConfigured (chainId : Nat) (symbol : String)
  /-- `toBNWei` rejects a configured minimum fee. -/
  | invalidMinRelayerFee (reason : String)
  deriving DecidableEq, Repr

/-- The message of each error src/ throws, as it writes it. -/
def UpdateError.message : UpdateError → Option String
  | .noDefinition symbol =>
    some (symbol ++ " has no definition in TOKEN_SYMBOLS_MAP or TOKEN_EQUIVALENCE_REMAPPING")
  | .pricesNotUpdated reason => some ("Failed to update token prices (" ++ reason ++ ")")
  | .spokePoolNotConfigured chainId symbol =>
    some ("Chain " ++ toString chainId ++ " SpokePool is not configured for " ++ symbol)
  | .undefinedEntry _ | .undefinedAddress .. | .unknownToken _ | .invalidMinRelayerFee _ => none

/-- `map[key] ??= value`. -/
def assignIfUndefined {α β : Type} [DecidableEq α] (map : α → Option β) (key : α) (value : β) :
    α → Option β := fun probe =>
  match map probe with
  | some held => some held
  | none => if probe = key then some value else none

theorem assignIfUndefined_eq_some {α β : Type} [DecidableEq α] {map : α → Option β} {key probe : α}
    {value held : β} (assigned : assignIfUndefined map key value probe = some held) :
    map probe = some held ∨ held = value := by
  unfold assignIfUndefined at assigned
  cases defined : map probe <;> simp only [defined] at assigned
  · split_ifs at assigned
    exact .inr (Option.some_injective _ assigned).symm
  · exact .inl assigned

/-- `map[key] = value`. -/
def assign {α β : Type} [DecidableEq α] (map : α → Option β) (key : α) (value : β) : α → Option β :=
  fun probe => if probe = key then some value else map probe

/-! ## Token prices -/

namespace ProfitClient

variable (environment : ProfitEnvironment) (client : ProfitClient)

/-- `TOKEN_EQUIVALENCE_REMAPPING[symbol] ?? symbol`. -/
def effectiveSymbol (symbol : String) : String :=
  (client.tokenEquivalenceRemapping symbol).getD symbol

/-- `TOKEN_SYMBOLS_MAP[symbol]?.addresses[chainId]`. -/
def tokenAddressOn (symbol : String) (chainId : Nat) : Option Nat :=
  (client.tokenSymbolsMap symbol).bind fun entry =>
    if chainId = mainnetChainId then entry.mainnetAddress else environment.tokenAddresses symbol chainId

/-- `_getNativeTokenNetwork`. -/
def _getNativeTokenNetwork (symbol : String) : Nat :=
  if symbol = "SOL" then solanaChainId else mainnetChainId

/-- `_getL1Tokens`: the hub pool's L1 tokens, then the additional ones. `dedupArray` compares the
token objects by reference and the additional tokens are new objects, so it drops none; a token
in both lists is priced under its first entry, which `??=` keeps. -/
def _getL1Tokens : Except UpdateError (List L1Token) := do
  let additionalL1Tokens ← environment.additionalL1Tokens.mapM fun l1Token =>
    match environment.getTokenInfo l1Token environment.hubChainId with
    | some info => .ok ⟨info.symbol, some l1Token, info.decimals⟩
    | none => .error (.unknownToken l1Token)
  pure (environment.hubPoolTokens ++ additionalL1Tokens)

/-- `TOKEN_SYMBOLS_MAP.ETH.addresses[CHAIN_IDs.MAINNET]`, the testnet fallback. -/
def ethMainnetAddress : Except UpdateError (Option Nat) :=
  match client.tokenSymbolsMap "ETH" with
  | some entry => .ok entry.mainnetAddress
  | none => .error (.undefinedEntry "ETH")

/-- On Sepolia an undefined address falls back to ETH's. -/
def sepoliaFallback (address : Option Nat) : Except UpdateError (Option Nat) :=
  if environment.hubChainId = sepoliaChainId ∧ address = none then client.ethMainnetAddress else .ok address

/-- The entry `updateTokenPrices` makes of one L1 token: the symbol it prices the token under (its
own where the map has it, else its remapping) and that symbol's mainnet address; `none` where
either is undefined, as the filter drops those. -/
def tokenEntry (token : L1Token) : Except UpdateError (Option (String × Nat)) :=
  let symbol := if (client.tokenSymbolsMap token.symbol).isSome then some token.symbol
    else client.tokenEquivalenceRemapping token.symbol
  match symbol with
  | none => if client.isTestnet then .ok none else .error (.noDefinition token.symbol)
  | some symbol =>
    match client.tokenSymbolsMap symbol with
    | none => .error (.undefinedEntry symbol)
    | some entry => do
      let address ← sepoliaFallback environment client entry.mainnetAddress
      pure (address.map (symbol, ·))

/-- `tokens[symbol] ??= address` on the defined entries of `tokens`. An entry whose address is
undefined is left out: it records no address, and its zero price goes to the key `"undefined"`,
which no resolved address reads. -/
def addIfAbsent (tokens : List (String × Nat)) (symbol : String) (address : Option Nat) :
    List (String × Nat) :=
  match List.lookup symbol tokens, address with
  | none, some address => tokens ++ [(symbol, address)]
  | _, _ => tokens

/-- The native token of each enabled chain, under its symbol unless `tokens` has that symbol; an
undefined symbol is the property key `"undefined"`. -/
def addNativeTokens (tokens : List (String × Nat)) : Except UpdateError (List (String × Nat)) :=
  environment.enabledChainIds.foldlM (fun tokens chainId => do
    let symbol := (client.nativeTokenSymbol chainId).getD "undefined"
    let address ← sepoliaFallback environment client
      (tokenAddressOn environment client symbol (_getNativeTokenNetwork symbol))
    pure (addIfAbsent tokens symbol address)) tokens

/-- The symbols and addresses `updateTokenPrices` prices, worked out before anything is written. -/
def tokensToPrice : Except UpdateError (List (String × Nat)) := do
  let l1Tokens ← _getL1Tokens environment
  let entries ← l1Tokens.mapM (tokenEntry environment client)
  addNativeTokens environment client (entries.filterMap id)

/-- Line 627: each entry records its symbol's address and a zero price for that address, where
neither is set yet. -/
def prePopulate (tokens : List (String × Nat)) : ProfitClient :=
  tokens.foldl (fun client entry =>
    { client with tokenSymbolMap := assignIfUndefined client.tokenSymbolMap entry.1 entry.2,
                  tokenPrices := assignIfUndefined client.tokenPrices entry.2 0 }) client

/-- Line 634: the feed's prices written in turn; a price `toBNWei` rejects throws, with the
earlier ones written. -/
def writePrices (tokenPrices : Nat → Option Int) :
    List (Nat × String) → (Nat → Option Int) × Except UpdateError Unit
  | [] => (tokenPrices, .ok ())
  | (address, price) :: prices =>
    match environment.toBNWei price with
    | .error reason => (tokenPrices, .error (.pricesNotUpdated reason))
    | .ok price => writePrices (assign tokenPrices address price) prices

/-- `updateTokenPrices`, given what `priceClient.getPricesByAddress` answers: addresses and their
prices as decimal strings, or the reason it rejects. -/
def updateTokenPrices (fetched : Except String (List (Nat × String))) :
    ProfitClient × Except UpdateError Unit :=
  match tokensToPrice environment client with
  | .error error => (client, .error error)
  | .ok tokens =>
    let client := client.prePopulate tokens
    match fetched with
    | .error reason => (client, .error (.pricesNotUpdated reason))
    | .ok prices =>
      let written := writePrices environment client.tokenPrices prices
      ({ client with tokenPrices := written.1 }, written.2)

/-! ## Gas costs -/

/-- `testSymbols[destinationChainId] ?? defaultTestSymbol`. -/
def testSymbol (chainId : Nat) : String :=
  (environment.testSymbols chainId).getD (if environment.hubChainId = mainnetChainId then "USDC" else "WETH")

/-- The deposit `updateGasCosts` simulates on a chain: 100 units of the chain's token for the test
symbol, without a message. -/
def sampleDeposit (destinationChainId : Nat) : Except UpdateError FillDeposit := do
  let symbol := testSymbol environment destinationChainId
  let hubToken ← match tokenAddressOn environment client symbol environment.hubChainId with
    | some address => .ok address
    | none => .error (.undefinedAddress symbol environment.hubChainId)
  let outputToken := if destinationChainId = environment.hubChainId then some hubToken
    else environment.remoteToken hubToken destinationChainId
  match outputToken with
  | none => .error (.spokePoolNotConfigured destinationChainId symbol)
  | some outputToken =>
    .ok { toDeposit := ⟨0, 0, destinationChainId, 0, outputToken, 101, false, false⟩,
          outputAmount := 100, updatedOutputAmount := none, messageEmpty := true }

/-- The callback of `updateGasCosts` for one chain, given the simulation's answer for each deposit
(`none` where it rejects): the chain's cost is stored, `uint256Max` for every figure where the
simulation rejects; a chain without a sample deposit rejects. -/
def updateGasCost (simulateGasCosts : FillDeposit → Option TransactionCostEstimate)
    (written : ProfitClient × Except UpdateError Unit) (chainId : Nat) : ProfitClient × Except UpdateError Unit :=
  match sampleDeposit environment written.1 chainId with
  | .error error => (written.1, written.2 >>= fun _ => .error error)
  | .ok deposit =>
    let gasCosts := (simulateGasCosts deposit).getD ⟨uint256Max, uint256Max, uint256Max⟩
    ({ written.1 with totalGasCosts := assign written.1.totalGasCosts chainId gasCosts }, written.2)

/-- `updateGasCosts`: the callbacks of the enabled chains run concurrently, so a chain without a
sample deposit makes the update reject with the first such chain's error while every other
chain's cost is stored. -/
def updateGasCosts (simulateGasCosts : FillDeposit → Option TransactionCostEstimate) :
    ProfitClient × Except UpdateError Unit :=
  environment.enabledChainIds.foldl (updateGasCost environment simulateGasCosts) (client, .ok ())

end ProfitClient

/-! ## Minimum fees and the profitability query -/

/-- The environment key of a token's minimum fee. -/
def tokenKey (effectiveSymbol : String) : String := "MIN_RELAYER_FEE_PCT_" ++ effectiveSymbol

/-- The environment key of a route's minimum fee. -/
def routeKey (effectiveSymbol : String) (srcChainId dstChainId : Nat) : String :=
  tokenKey effectiveSymbol ++ "_" ++ toString srcChainId ++ "_" ++ toString dstChainId

namespace ProfitEnvironment

variable (environment : ProfitEnvironment)

/-- The minimum fee the environment sets for a route: its value at the route's key, else at the
token's, read by `toBNWei`; the default where neither is set or the value is empty. -/
def configuredMinRelayerFeePct (effectiveSymbol : String) (srcChainId dstChainId : Nat) :
    Except UpdateError Int :=
  match environment.env (routeKey effectiveSymbol srcChainId dstChainId) <|>
      environment.env (tokenKey effectiveSymbol) with
  | some value =>
    if value = "" then .ok environment.defaultMinRelayerFeePct
    else (environment.toBNWei value).mapError .invalidMinRelayerFee
  | none => .ok environment.defaultMinRelayerFeePct

/-- `getTokenSymbol`: the symbol `getTokenInfo` gives, `"UNKNOWN"` where it throws. -/
def getTokenSymbol (token chainId : Nat) : String :=
  ((environment.getTokenInfo token chainId).map TokenInfo.symbol).getD "UNKNOWN"

end ProfitEnvironment

/-- The profit client between calls: its tables, and `minRelayerFees`, the memo of minimum fees by
environment key. -/
structure ProfitState where
  client : ProfitClient
  minRelayerFees : String → Option Int

/-- What `getFillProfitability` throws. -/
inductive FillError where
  | minRelayerFee (error : UpdateError)
  | profit (error : ProfitError)
  deriving DecidableEq, Repr

/-- What the relayer asks of its profit client: an update with the answers it receives, or a
profitability query. -/
inductive ProfitOperation where
  | updateTokenPrices (fetched : Except String (List (Nat × String)))
  | updateGasCosts (simulateGasCosts : FillDeposit → Option TransactionCostEstimate)
  | isFillProfitable (deposit : FillDeposit) (lpFeePct : Int) (l1Token : Nat)

namespace ProfitState

variable (environment : ProfitEnvironment)

/-- `minRelayerFeePct`: the memoised fee of the route, else of the token; on a miss the configured
fee, memoised under the route's key. A memoised fee is a `BigNumber`, never falsy. -/
def minRelayerFeePct (state : ProfitState) (symbol : String) (srcChainId dstChainId : Nat) :
    Except UpdateError (Int × ProfitState) :=
  let effectiveSymbol := state.client.effectiveSymbol symbol
  let routeKey := routeKey effectiveSymbol srcChainId dstChainId
  match state.minRelayerFees routeKey <|> state.minRelayerFees (tokenKey effectiveSymbol) with
  | some fee => .ok (fee, state)
  | none => do
    let fee ← environment.configuredMinRelayerFeePct effectiveSymbol srcChainId dstChainId
    pure (fee, { state with minRelayerFees := assign state.minRelayerFees routeKey fee })

/-- `getFillProfitability`: the minimum fee of the hub token's route, then the calculation at that
fee. -/
def getFillProfitability (state : ProfitState) (deposit : FillDeposit) (lpFeePct : Int) (l1Token : Nat) :
    Except FillError FillProfit × ProfitState :=
  let symbol := environment.getTokenSymbol l1Token environment.hubChainId
  match state.minRelayerFeePct environment symbol deposit.originChainId deposit.destinationChainId with
  | .error error => (.error (.minRelayerFee error), state)
  | .ok (minRelayerFeePct, state) =>
    ((state.client.calculateFillProfitability deposit lpFeePct minRelayerFeePct).mapError .profit, state)

/-- `isFillProfitable`: a throw of `getFillProfitability` is caught and reads as unprofitable,
with every gas figure `uint256Max`. -/
def isFillProfitable (state : ProfitState) (deposit : FillDeposit) (lpFeePct : Int) (l1Token : Nat) :
    FillDecision × ProfitState :=
  let (fill, state) := state.getFillProfitability environment deposit lpFeePct l1Token
  let (profitable, netRelayerFeePct, nativeGasCost, tokenGasCost, gasPrice) :=
    match fill with
    | .ok fill => (fill.profitable, fill.netRelayerFeePct, fill.nativeGasCost, fill.tokenGasCost, fill.gasPrice)
    | .error _ => (false, 0, uint256Max, uint256Max, uint256Max)
  (⟨profitable || (state.client.isTestnet && decide (nativeGasCost < uint256Max)), nativeGasCost,
    tokenGasCost, gasPrice, netRelayerFeePct⟩, state)

/-- One operation: the state after it, and its decision where it is a profitability query. -/
def step (state : ProfitState) : ProfitOperation → ProfitState × Option FillDecision
  | .updateTokenPrices fetched =>
    ({ state with client := (state.client.updateTokenPrices environment fetched).1 }, none)
  | .updateGasCosts simulateGasCosts =>
    ({ state with client := (state.client.updateGasCosts environment simulateGasCosts).1 }, none)
  | .isFillProfitable deposit lpFeePct l1Token =>
    let (decision, state) := state.isFillProfitable environment deposit lpFeePct l1Token
    (state, some decision)

/-- A run: the state at its end and the decisions in order. -/
def run (state : ProfitState) : List ProfitOperation → ProfitState × List FillDecision
  | [] => (state, [])
  | operation :: operations =>
    let stepped := state.step environment operation
    let rest := stepped.1.run operations
    (rest.1, stepped.2.toList ++ rest.2)

/-- The same run with the memo emptied before every operation, so that every minimum fee is read
from the environment afresh: the plain version of the memoised client. -/
def runWithoutMemo (state : ProfitState) : List ProfitOperation → ProfitState × List FillDecision
  | [] => (state, [])
  | operation :: operations =>
    let stepped := ({ state with minRelayerFees := fun _ => none } : ProfitState).step environment operation
    let rest := stepped.1.runWithoutMemo operations
    (rest.1, stepped.2.toList ++ rest.2)

end ProfitState

/-- A mainnet environment: USDC, at 100 on mainnet and 200 on chain 10, is the hub pool's only
token, its minimum fee is set to 0.01%, and chains 1 and 10 are enabled. -/
def usdcEnvironment : ProfitEnvironment where
  env := fun key => if key = "MIN_RELAYER_FEE_PCT_USDC" then some "0.0001" else none
  toBNWei := fun value =>
    if value = "0.0001" then .ok (10 ^ 14) else if value = "1" then .ok (10 ^ 18)
    else if value = "3000" then .ok (3000 * 10 ^ 18) else .error "invalid decimal value"
  defaultMinRelayerFeePct := 3 * 10 ^ 14
  hubChainId := 1
  enabledChainIds := [1, 10]
  additionalL1Tokens := []
  hubPoolTokens := [⟨"USDC", some 100, 6⟩]
  getTokenInfo := fun address _ => if address = 100 then some ⟨"USDC", 6⟩ else none
  tokenAddresses := fun _ _ => none
  remoteToken := fun token chainId => if token = 100 ∧ chainId = 10 then some 200 else none
  testSymbols := fun _ => none

/-- The unpriced client as the constructor leaves it, with empty tables, and with USDC in its
token table. -/
def usdcClient : ProfitClient :=
  { unpricedClient with
    tokenSymbolMap := fun _ => none
    tokenPrices := fun _ => none
    totalGasCosts := fun _ => none
    tokenSymbolsMap := fun symbol =>
      if symbol = "ETH" then some ⟨18, some 1⟩ else if symbol = "USDC" then some ⟨6, some 100⟩ else none }

/-- A first tick: the feed prices USDC at 1 USD and ETH at 3000 USD, and the simulation costs a
fill 100000 gas and 10^12 wei on every chain. -/
def usdcUpdates : List ProfitOperation :=
  [.updateTokenPrices (.ok [(100, "1"), (1, "3000")]), .updateGasCosts fun _ => some ⟨100000, 10 ^ 12, 10 ^ 7⟩]

end Relayer
