import Relayer.Primitives

/-! The state the `InventoryClient` reads and writes: its constructor arguments, its two memos,
and the collaborators it queries. A collaborator is modelled by the answers its queries give
in the current state. The tables of `../utils` and `../common` that src/ does not contain are
parameters (`Constants`), and an address is its native form (`toNative()`), a number here. -/
namespace Relayer

/-- `Deposit`, the fields the inventory client reads. -/
structure Deposit where
  depositId : Nat
  originChainId : Nat
  destinationChainId : Nat
  inputToken : Nat
  outputToken : Nat
  inputAmount : Int
  fromLiteChain : Bool
  toLiteChain : Bool
  deriving DecidableEq, Repr

/-- `TokenBalanceConfig`. Percentages are 18-decimal fixed point. -/
structure TokenBalanceConfig where
  targetPct : Int
  thresholdPct : Int
  targetOverageBuffer : Option Int
  unwrapWethThreshold : Option Int
  unwrapWethTarget : Option Int
  withdrawExcessPeriod : Option Nat
  deriving DecidableEq, Repr

/-- The configuration of one L1 token: a `ChainMap`, or, when `isAliasConfig` holds, one
`ChainMap` per L2 token. The L2 tokens are the keys of a JSON object, hence distinct. -/
inductive TokenConfig where
  | chains (chainMap : Nat → Option TokenBalanceConfig)
  | aliases (entries : List (Nat × (Nat → Option TokenBalanceConfig)))
      (distinct : (entries.map Prod.fst).Nodup)

/-- `InventoryConfig.tokenConfig`, keyed by L1 token in the order of its keys. An absent
`tokenConfig` reads as the empty one on every path the client takes. -/
structure InventoryConfig where
  tokenConfig : List (Nat × TokenConfig)

/-- `CHAIN_IDs.MAINNET`. -/
def mainnetChainId : Nat := 1

/-- `CHAIN_IDs.SEPOLIA`. -/
def sepoliaChainId : Nat := 11155111

/-- `CHAIN_IDs.SOLANA`. -/
def solanaChainId : Nat := 34268394551451

/-- The tables of `../utils` and `../common` the client reads; src/ does not contain them. -/
structure Constants where
  /-- `getTokenInfo(token, chainId).decimals`; `HubPoolClient.getTokenInfoForAddress` reads
  the same token table. -/
  decimals : Nat → Nat → Nat
  /-- `getRemoteTokenForL1Token(l1Token, chainId, hubChainId)`. -/
  remoteToken : Nat → Nat → Option Nat
  /-- `getL1TokenAddress(l2Token, chainId)`, which throws for a token it does not know. -/
  l1TokenAddress : Nat → Nat → Option Nat
  /-- `SLOW_WITHDRAWAL_CHAINS`. -/
  slowWithdrawalChains : List Nat
  /-- `sdkUtils.invalidOutputToken`. -/
  invalidOutputToken : Deposit → Bool
  /-- `TOKEN_SYMBOLS_MAP.WETH.addresses`. -/
  wethAddress : Nat → Option Nat
  /-- `getNativeTokenSymbol(chainId)`. -/
  nativeTokenSymbol : Nat → String

/-- The `HubPoolClient` and its `configStoreClient`, as the answers to the client's queries at
`latestHeightSearched`. `depositForcesOriginChainRepayment` and
`repaymentChainCanBeQuicklyRebalanced` of `../utils` read the deposit and this client only. -/
structure HubPoolClient where
  l2TokenHasPoolRebalanceRoute : Nat → Nat → Bool
  /-- `getL1TokenForL2TokenAtBlock(l2Token, chainId)`. -/
  l1TokenForL2Token : Nat → Nat → Nat
  l2TokenEnabledForL1Token : Nat → Nat → Bool
  /-- `getL2TokenForL1TokenAtBlock(l1Token, chainId)`, which throws when there is no route. -/
  l2TokenForL1Token : Nat → Nat → Option Nat
  areTokensEquivalent : Nat → Nat → Nat → Nat → Bool
  /-- `getRunningBalanceBeforeBlockForChain(latest, chainId, l1Token).runningBalance`. -/
  runningBalance : Nat → Nat → Int
  /-- The block of `getLatestExecutedRootBundleContainingL1Token(latest, chainId, l1Token)`. -/
  latestExecutedRootBundle : Nat → Nat → Option Nat
  /-- `getLatestFullyExecutedRootBundle(block)?.bundleEvaluationBlockNumbers`. -/
  latestFullyExecutedRootBundle : Nat → Option (List Nat)
  /-- `configStoreClient.getChainIdIndicesForBlock()`. -/
  chainIdIndices : List Nat
  /-- `configStoreClient.getSpokeTargetBalancesForBlock(l1Token, chainId).target`. -/
  spokeTargetBalance : Nat → Nat → Int
  depositForcesOriginChainRepayment : Deposit → Bool
  repaymentChainCanBeQuicklyRebalanced : Deposit → Bool

/-- The `TokenClient`: local balances and shortfalls per chain and token, in token decimals. -/
structure TokenClient where
  balance : Nat → Nat → Int
  shortfall : Nat → Nat → Int

/-- Modelled from the spec: `TokenClient.decrementLocalBalance` is not under src/. §6: it
reserves `amount` of `token` on `chainId` by lowering the local balance. -/
def TokenClient.decrementLocalBalance (client : TokenClient) (chainId token : Nat) (amount : Int) :
    TokenClient :=
  { client with
    balance := fun c t => if c = chainId ∧ t = token then client.balance c t - amount else client.balance c t }

/-- The `CrossChainTransferClient`: `getOutstandingCrossChainTransferAmount(relayer, chainId,
l1Token, l2Token?)` for the client's relayer, in L1 decimals; `none` asks for the total over the
L2 tokens. -/
structure CrossChainTransferClient where
  outstanding : Nat → Nat → Option Nat → Int

/-- Modelled from the spec: `CrossChainTransferClient.increaseOutstandingTransfer` is not under
src/. §6, the mirror of a reservation: the pending amount to `chainId` of `l1Token`, as a whole
and for `l2Token`, rises by `amount`. -/
def CrossChainTransferClient.increaseOutstandingTransfer (client : CrossChainTransferClient)
    (l1Token l2Token : Nat) (amount : Int) (chainId : Nat) : CrossChainTransferClient :=
  ⟨fun c t l2 => if c = chainId ∧ t = l1Token ∧ (l2 = none ∨ l2 = some l2Token)
    then client.outstanding c t l2 + amount else client.outstanding c t l2⟩

/-- `CombinedRefunds`: per repayment chain and repayment token, the entries of the object
mapping each relayer to its refund. -/
structure CombinedRefunds where
  refunds : Nat → Nat → List (Nat × Int)

/-- The `BundleDataClient`. A query answering `none` rejects. -/
structure BundleDataClient where
  pendingRefundsFromValidBundles : Option (List CombinedRefunds)
  nextBundleRefunds : Option (List CombinedRefunds)
  /-- `getUpcomingDepositAmount(chainId, l2Token, fromBlock)`. -/
  upcomingDepositAmount : Nat → Nat → Nat → Int

/-- Modelled from the spec: `BundleDataClient.getTotalRefund` is not under src/. §6: the
refunds owed to `relayer` in `token` on `chainId`, summed over the bundles. -/
def getTotalRefund (refunds : List CombinedRefunds) (relayer chainId token : Nat) : Int :=
  (refunds.map fun bundle =>
    (((bundle.refunds chainId token).find? (·.1 = relayer)).map Prod.snd).getD 0).sum

/-- The `AdapterManager`: `adapters[chainId]?.isSupportedL2Bridge`, and
`getL2PendingWithdrawalAmount(period, chainId, relayer, l2Token)` (`none` when it rejects). -/
structure AdapterManager where
  isSupportedL2Bridge : Nat → Option (Nat → Bool)
  l2PendingWithdrawalAmount : Nat → Nat → Nat → Option Int

/-- What the inventory client's functions throw. -/
inductive InventoryError where
  /-- `getTokenConfig`: an alias config asked for without an L2 token. -/
  | ambiguousTokenConfig (chainId l1Token : Nat)
  /-- `getL1TokenAddress` of `../utils` does not know the token. -/
  | unknownL1Token (l2Token chainId : Nat)
  /-- `determineRefundChainId`: `validateOutputToken` fails. -/
  | unexpectedOutputToken (destinationChainId originChainId depositId inputToken outputToken : Nat)
  /-- `determineRefundChainId`: a candidate is missing from `getPossibleRepaymentChainIds`. -/
  | repaymentChainsDisagree (possibleRepaymentChainIds chainsToEvaluate : List Nat)
  /-- `determineRefundChainId`: a candidate chain has no config for the L1 token. -/
  | tokenNotEnabled (l1Token chainId : Nat)
  /-- `determineRefundChainId`: a non-origin candidate's repayment token has no route. -/
  | noPoolRebalanceRoute (repaymentToken chainId l1Token : Nat)
  /-- `determineRefundChainId`: the repayment token is undefined, and the hub pool client's
  lookups of it throw. -/
  | noRepaymentToken (l1Token chainId : Nat)
  /-- `BigNumber.div` by zero. -/
  | divisionByZero
  /-- An awaited query rejected, or a field of `undefined` was read. -/
  | rejected
  /-- `withdrawExcessBalances`: the discounted overage buffer is below 100%. -/
  | targetPctMultiplierTooLow (targetPctMultiplier : Int)
  /-- `unwrapWeth`: a chain with unwrap thresholds has no WETH address. -/
  | noWethDefinition (chainId : Nat)
  deriving DecidableEq, Repr

/-- `${list}` of a JavaScript array. -/
def joinChainIds (chainIds : List Nat) : String := ",".intercalate (chainIds.map toString)

/-- The message of each error src/ throws, as it writes it; `networkName` is
`getNetworkName`. Errors thrown by code outside src/ have no text here. -/
def InventoryError.message (networkName : Nat → String) : InventoryError → Option String
  | .ambiguousTokenConfig chainId l1Token =>
    some ("Cannot resolve ambiguous " ++ networkName chainId ++ " token config for " ++ toString l1Token)
  | .unexpectedOutputToken dst src depositId inputToken outputToken =>
    some ("Unexpected " ++ networkName dst ++ " output token on " ++ networkName src ++ " deposit " ++
      toString depositId ++ " (" ++ toString inputToken ++ " != " ++ toString outputToken ++ ")")
  | .repaymentChainsDisagree possible evaluated =>
    some ("InventoryClient.getPossibleRepaymentChainIds (" ++ joinChainIds possible ++
      ")and determineRefundChainId (" ++ joinChainIds evaluated ++
      ") disagree on eligible repayment chains")
  | .tokenNotEnabled l1Token chainId =>
    some ("Token " ++ toString l1Token ++ " not enabled for chain " ++ toString chainId)
  | .noPoolRebalanceRoute repaymentToken chainId l1Token =>
    some ("Token " ++ toString repaymentToken ++ " not enabled as PoolRebalanceRoute for chain " ++
      toString chainId ++ " for l1 token " ++ toString l1Token)
  | .targetPctMultiplierTooLow multiplier =>
    some ("Target overage buffer multiplied by discount must be >= 1, got " ++ toString multiplier)
  | .noWethDefinition chainId => some ("No WETH definition for " ++ networkName chainId)
  | .unknownL1Token .. | .noRepaymentToken .. | .divisionByZero | .rejected => none

/-- A promise that has settled. -/
inductive Settled (α : Type) where
  | resolved (value : α)
  | rejected

/-- An `InventoryClient` without its memos: its constructor arguments and its collaborators.
The relayer passes the chain IDs of its spoke pool clients, the keys of an object, so no chain
is listed twice. -/
structure InventoryClient where
  relayer : Nat
  /-- `hubPoolClient.chainId`. -/
  hubChainId : Nat
  inventoryConfig : InventoryConfig
  chainIdList : List Nat
  chainIdList_nodup : chainIdList.Nodup
  prioritizeLpUtilization : Bool
  constants : Constants
  hubPoolClient : HubPoolClient
  tokenClient : TokenClient
  crossChainTransferClient : CrossChainTransferClient
  bundleDataClient : BundleDataClient
  adapterManager : AdapterManager

/-- The two memos of an `InventoryClient`: `bundleRefundsPromise`, and
`excessRunningBalancePromises` keyed by L1 token. `none` is a memo not yet filled. -/
structure Memos where
  bundleRefundsPromise : Option (Settled (List CombinedRefunds))
  excessRunningBalancePromises : Nat → Option (Settled (ChainKeyed Int))

/-- The memos of a new client. -/
def Memos.empty : Memos := ⟨none, fun _ => none⟩

@[simp] theorem TokenClient.decrementLocalBalance_balance (client : TokenClient) (chainId token c t : Nat)
    (amount : Int) : (client.decrementLocalBalance chainId token amount).balance c t =
      if c = chainId ∧ t = token then client.balance c t - amount else client.balance c t := rfl

@[simp] theorem TokenClient.decrementLocalBalance_shortfall (client : TokenClient) (chainId token : Nat)
    (amount : Int) : (client.decrementLocalBalance chainId token amount).shortfall = client.shortfall := rfl

@[simp] theorem CrossChainTransferClient.increaseOutstandingTransfer_outstanding
    (client : CrossChainTransferClient) (l1Token l2Token : Nat) (amount : Int) (chainId c t : Nat)
    (l2 : Option Nat) :
    (client.increaseOutstandingTransfer l1Token l2Token amount chainId).outstanding c t l2 =
      if c = chainId ∧ t = l1Token ∧ (l2 = none ∨ l2 = some l2Token)
      then client.outstanding c t l2 + amount else client.outstanding c t l2 := rfl

/-! ## A sample state -/

/-- A relayer with 80 units of the L1 token `100` on the hub chain `1` and 20 units of its
spoke token `200` on chain `10`, all of 18 decimals, targeting half of the token on chain 10.
Deposits from a lite chain force origin repayment. -/
def twoChainClient : InventoryClient where
  relayer := 7
  hubChainId := 1
  inventoryConfig := ⟨[(100, .chains fun c => if c = 10 then some
    ⟨5 * 10 ^ 17, 25 * 10 ^ 16, none, none, none, none⟩ else none)]⟩
  chainIdList := [1, 10]
  chainIdList_nodup := by decide
  prioritizeLpUtilization := false
  constants :=
    { decimals := fun _ _ => 18
      remoteToken := fun l1Token c => if l1Token = 100 ∧ c = 10 then some 200 else none
      l1TokenAddress := fun token c =>
        if token = 200 ∧ c = 10 ∨ token = 100 ∧ c = 1 then some 100 else none
      slowWithdrawalChains := []
      invalidOutputToken := fun _ => false
      wethAddress := fun _ => none
      nativeTokenSymbol := fun _ => "ETH" }
  hubPoolClient :=
    { l2TokenHasPoolRebalanceRoute := fun _ _ => true
      l1TokenForL2Token := fun _ _ => 100
      l2TokenEnabledForL1Token := fun _ _ => true
      l2TokenForL1Token := fun _ c => if c = 10 then some 200 else some 100
      areTokensEquivalent := fun _ _ _ _ => true
      runningBalance := fun _ _ => 0
      latestExecutedRootBundle := fun _ _ => none
      latestFullyExecutedRootBundle := fun _ => none
      chainIdIndices := [1, 10]
      spokeTargetBalance := fun _ _ => 0
      depositForcesOriginChainRepayment := fun deposit => deposit.fromLiteChain
      repaymentChainCanBeQuicklyRebalanced := fun _ => false }
  tokenClient :=
    { balance := fun c t => if c = 1 ∧ t = 100 then 80 * 10 ^ 18 else if c = 10 ∧ t = 200 then 20 * 10 ^ 18 else 0
      shortfall := fun _ _ => 0 }
  crossChainTransferClient := ⟨fun _ _ _ => 0⟩
  bundleDataClient := ⟨some [], some [], fun _ _ _ => 0⟩
  adapterManager := ⟨fun _ => none, fun _ _ _ => none⟩

end Relayer
