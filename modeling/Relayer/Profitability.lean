import Relayer.Clients
import Mathlib.Tactic.Ring

/-! The profit client (`ProfitClient`): the USD values of a deposit's input and output, the gas
cost of filling it, and whether the relayer fee left after gas reaches the minimum. Prices are
18-decimal USD amounts and a missing price reads as 0. The fee percentage of the whole fill
divides by the input's USD value with no guard, so a deposit whose input has no price, or rounds
to no USD value, makes `calculateFillProfitability` throw before the check the code's comment
describes (`calculateFillProfitability_divides_by_zero`); `isFillProfitable` catches the throw.
Once a fill is profitable, lowering its output keeps it profitable
(`profitable_at_lower_output`). -/
namespace Relayer

/-- A deposit as the profit client reads it: the fields of `Deposit`, the output amounts, and
`isMessageEmpty(resolveDepositMessage(deposit))`. -/
structure FillDeposit extends Deposit where
  outputAmount : Int
  updatedOutputAmount : Option Int
  messageEmpty : Bool
  deriving DecidableEq, Repr

/-- Line 388: the smaller of the output amount and its update, if any. -/
def FillDeposit.effectiveOutputAmount (deposit : FillDeposit) : Int :=
  min deposit.outputAmount (deposit.updatedOutputAmount.getD deposit.outputAmount)

/-- `TransactionCostEstimate`. -/
structure TransactionCostEstimate where
  nativeGasCost : Int
  tokenGasCost : Int
  gasPrice : Int
  deriving DecidableEq, Repr

/-- `bnUint256Max`. -/
def uint256Max : Int := 2 ^ 256 - 1

/-- What `HubPoolClient.getTokenInfoForAddress` returns. -/
structure TokenInfo where
  symbol : String
  decimals : Nat
  deriving DecidableEq, Repr

/-- An entry of `TOKEN_SYMBOLS_MAP`: its decimals and its mainnet address, if any. -/
structure TokenSymbolsEntry where
  decimals : Nat
  mainnetAddress : Option Nat
  deriving DecidableEq, Repr

/-- `L1Token`, as `resolveGasToken` returns it. -/
structure L1Token where
  symbol : String
  address : Option Nat
  decimals : Nat
  deriving DecidableEq, Repr

/-- What the profit client throws. -/
inductive ProfitError where
  /-- `resolveTokenAddress`: neither the symbol nor its remapping has an address. -/
  | unresolvedToken (token remappedTokenSymbol : String)
  /-- `HubPoolClient.getTokenInfoForAddress` does not know the token. -/
  | unknownTokenInfo (address chainId : Nat)
  /-- `toBNWei(1, 18 - decimals)` for a token of more than 18 decimals: `parseUnits` rejects a
  negative decimal count. -/
  | invalidDecimals (decimals : Nat)
  /-- `resolveGasToken`. -/
  | unresolvedGasToken (chainId : Nat)
  /-- `estimateFillCost`: a gas figure is `uint256Max` or not positive. -/
  | gasCostUnknown (field : String)
  /-- `BigNumber.div` by zero. -/
  | divisionByZero
  /-- The constructor's range checks. -/
  | gasPaddingOutOfRange (gasPadding : Int)
  | gasMultiplierOutOfRange (gasMultiplier : Int)
  | gasMessageMultiplierOutOfRange (gasMessageMultiplier : Int)
  deriving DecidableEq, Repr

/-- The message of each error src/ throws, as it writes it; errors thrown by code outside src/
have no text here. -/
def ProfitError.message : ProfitError → Option String
  | .unresolvedToken token remappedTokenSymbol =>
    some ("ProfitClient#resolveTokenAddress: Unable to resolve address for token " ++ token ++
      " (using remapped symbol " ++ remappedTokenSymbol ++ ")")
  | .unresolvedGasToken chainId => some ("Unable to resolve gas token for chain ID " ++ toString chainId)
  | .gasCostUnknown field => some ("Unable to compute gas cost (" ++ field ++ " unknown)")
  | .gasPaddingOutOfRange gasPadding => some ("Gas padding out of range (" ++ toString gasPadding ++ ")")
  | .gasMultiplierOutOfRange gasMultiplier =>
    some ("Gas multiplier out of range (" ++ toString gasMultiplier ++ ")")
  | .gasMessageMultiplierOutOfRange gasMessageMultiplier =>
    some ("Gas message multiplier out of range (" ++ toString gasMessageMultiplier ++ ")")
  | .unknownTokenInfo .. | .invalidDecimals _ | .divisionByZero => none

/-- `BigNumber.div` as the profit client meets it, throwing on a zero divisor. -/
def checkedDiv (numerator denominator : Int) : Except ProfitError Int :=
  if denominator = 0 then .error .divisionByZero else .ok (bnDiv numerator denominator)

/-- `toBNWei(1, 18 - decimals)`, the factor that brings an amount to 18 decimals. -/
def tokenScalar (decimals : Nat) : Except ProfitError Int :=
  if decimals ≤ 18 then .ok (10 ^ (18 - decimals)) else .error (.invalidDecimals decimals)

/-- `FillProfit`: every amount in 18-decimal USD or percentage unless named otherwise. -/
structure FillProfit where
  inputTokenPriceUsd : Int
  inputAmountUsd : Int
  outputTokenPriceUsd : Int
  outputAmountUsd : Int
  grossRelayerFeePct : Int
  grossRelayerFeeUsd : Int
  nativeGasCost : Int
  tokenGasCost : Int
  gasPrice : Int
  gasPadding : Int
  gasMultiplier : Int
  gasTokenPriceUsd : Int
  gasCostUsd : Int
  netRelayerFeePct : Int
  netRelayerFeeUsd : Int
  totalFeePct : Int
  profitable : Bool
  deriving DecidableEq

/-- Lines 270–278: a gas figure that is `uint256Max` or not positive is unknown. -/
def checkGasField (field : String) (value : Int) : Except ProfitError Unit :=
  if value = uint256Max ∨ value ≤ 0 then .error (.gasCostUnknown field) else .ok ()

/-- What `estimateFillCost` returns. -/
structure FillCost where
  nativeGasCost : Int
  tokenGasCost : Int
  gasPrice : Int
  gasTokenPriceUsd : Int
  gasCostUsd : Int
  deriving DecidableEq, Repr

/-- What `isFillProfitable` returns. -/
structure FillDecision where
  profitable : Bool
  nativeGasCost : Int
  tokenGasCost : Int
  gasPrice : Int
  netRelayerFeePct : Int
  deriving DecidableEq, Repr

/-- A `ProfitClient`: its gas parameters, its caches of prices and gas costs, and the answers of
the tables and queries outside src/ that it reads. An address is its native form, a number. -/
structure ProfitClient where
  gasMultiplier : Int
  gasMessageMultiplier : Int
  /-- The configured padding; the constructor stores one plus it. -/
  gasPadding : Int
  /-- `hubPoolClient.chainId !== CHAIN_IDs.MAINNET`. -/
  isTestnet : Bool
  /-- `tokenSymbolMap`, symbol to address. -/
  tokenSymbolMap : String → Option Nat
  /-- `tokenPrices`, address to USD price. -/
  tokenPrices : Nat → Option Int
  /-- `totalGasCosts`, by destination chain. -/
  totalGasCosts : Nat → Option TransactionCostEstimate
  /-- `hubPoolClient.getTokenInfoForAddress(address, chainId)`; `none` where it throws. -/
  tokenInfoForAddress : Nat → Nat → Option TokenInfo
  /-- `TOKEN_EQUIVALENCE_REMAPPING`. -/
  tokenEquivalenceRemapping : String → Option String
  /-- `TOKEN_SYMBOLS_MAP`. -/
  tokenSymbolsMap : String → Option TokenSymbolsEntry
  /-- `getNativeTokenSymbol`. -/
  nativeTokenSymbol : Nat → Option String
  /-- The address a string denotes when `ethersUtils.isAddress` or `SvmAddress.from` accepts it. -/
  parseAddress : String → Option Nat
  /-- `relayerFeeQueries[destinationChainId].getGasCosts(deposit, relayer)`; `none` where it
  rejects. -/
  getGasCosts : FillDeposit → Option TransactionCostEstimate

namespace ProfitClient

variable (client : ProfitClient)

/-- The constructor's checks: padding within 0–200% and each multiplier within 0–400%; the
padding is stored as one plus the configured one. -/
def construct : Except ProfitError ProfitClient :=
  if ¬(0 ≤ client.gasPadding ∧ client.gasPadding ≤ 2 * fixedPointAdjustment) then
    .error (.gasPaddingOutOfRange client.gasPadding)
  else if ¬(0 ≤ client.gasMultiplier ∧ client.gasMultiplier ≤ 4 * fixedPointAdjustment) then
    .error (.gasMultiplierOutOfRange client.gasMultiplier)
  else if ¬(0 ≤ client.gasMessageMultiplier ∧ client.gasMessageMultiplier ≤ 4 * fixedPointAdjustment) then
    .error (.gasMessageMultiplierOutOfRange client.gasMessageMultiplier)
  else .ok { client with gasPadding := fixedPointAdjustment + client.gasPadding }

def resolveGasMultiplier (deposit : FillDeposit) : Int :=
  if deposit.messageEmpty then client.gasMultiplier else client.gasMessageMultiplier

def resolveGasToken (chainId : Nat) : Except ProfitError L1Token :=
  match client.nativeTokenSymbol chainId with
  | none => .error (.unresolvedGasToken chainId)
  | some symbol =>
    match client.tokenSymbolsMap symbol with
    | none => .error (.unresolvedGasToken chainId)
    | some token => .ok ⟨symbol, token.mainnetAddress, token.decimals⟩

def resolveTokenAddress (token : String) : Except ProfitError Nat :=
  match client.parseAddress token with
  | some address => .ok address
  | none =>
    let remappedTokenSymbol := (client.tokenEquivalenceRemapping token).getD token
    match client.tokenSymbolMap remappedTokenSymbol <|> client.tokenSymbolMap token with
    | some address => .ok address
    | none => .error (.unresolvedToken token remappedTokenSymbol)

/-- `getPriceOfToken`: the cached price, 0 when there is none. -/
def getPriceOfToken (token : String) : Except ProfitError Int := do
  let address ← client.resolveTokenAddress token
  pure ((client.tokenPrices address).getD 0)

def getTokenInfoForAddress (address chainId : Nat) : Except ProfitError TokenInfo :=
  match client.tokenInfoForAddress address chainId with
  | some info => .ok info
  | none => .error (.unknownTokenInfo address chainId)

/-- `_getTotalGasCost`: a rejected query reads as `uint256Max` for every figure. -/
def _getTotalGasCost (deposit : FillDeposit) : TransactionCostEstimate :=
  (client.getGasCosts deposit).getD ⟨uint256Max, uint256Max, uint256Max⟩

/-- `getTotalGasCost`: the cached cost of the destination chain for a deposit without a
message, the query otherwise. -/
def getTotalGasCost (deposit : FillDeposit) : TransactionCostEstimate :=
  match deposit.messageEmpty, client.totalGasCosts deposit.destinationChainId with
  | true, some totalGasCost => totalGasCost
  | _, _ => client._getTotalGasCost deposit

def estimateFillCost (deposit : FillDeposit) : Except ProfitError FillCost := do
  let gasToken ← client.resolveGasToken deposit.destinationChainId
  let gasTokenPriceUsd ← client.getPriceOfToken gasToken.symbol
  let totalGasCost := client.getTotalGasCost deposit
  checkGasField "gas consumption" totalGasCost.nativeGasCost
  checkGasField "gas cost" totalGasCost.tokenGasCost
  checkGasField "gas token price" gasTokenPriceUsd
  let nativeGasCost := bnDiv (totalGasCost.nativeGasCost * client.gasPadding) fixedPointAdjustment
  let tokenGasCost := bnDiv (totalGasCost.tokenGasCost * client.gasPadding) fixedPointAdjustment
  let tokenGasCost := bnDiv (tokenGasCost * client.resolveGasMultiplier deposit) fixedPointAdjustment
  let gasCostUsd := bnDiv (tokenGasCost * gasTokenPriceUsd) (10 ^ gasToken.decimals)
  pure ⟨nativeGasCost, tokenGasCost, totalGasCost.gasPrice, gasTokenPriceUsd, gasCostUsd⟩

def calculateFillProfitability (deposit : FillDeposit) (lpFeePct minRelayerFeePct : Int) :
    Except ProfitError FillProfit := do
  let inputTokenInfo ← client.getTokenInfoForAddress deposit.inputToken deposit.originChainId
  let inputTokenPriceUsd ← client.getPriceOfToken inputTokenInfo.symbol
  let inputTokenScalar ← tokenScalar inputTokenInfo.decimals
  let scaledInputAmount := deposit.inputAmount * inputTokenScalar
  let inputAmountUsd := bnDiv (scaledInputAmount * inputTokenPriceUsd) fixedPointAdjustment
  let outputTokenInfo ← client.getTokenInfoForAddress deposit.outputToken deposit.destinationChainId
  let outputTokenPriceUsd ← client.getPriceOfToken outputTokenInfo.symbol
  let outputTokenScalar ← tokenScalar outputTokenInfo.decimals
  let scaledOutputAmount := deposit.effectiveOutputAmount * outputTokenScalar
  let outputAmountUsd := bnDiv (scaledOutputAmount * outputTokenPriceUsd) fixedPointAdjustment
  let totalFeePct ← checkedDiv ((inputAmountUsd - outputAmountUsd) * fixedPointAdjustment) inputAmountUsd
  let scaledLpFeeAmount := bnDiv (scaledInputAmount * lpFeePct) fixedPointAdjustment
  let lpFeeUsd := bnDiv (scaledLpFeeAmount * inputTokenPriceUsd) fixedPointAdjustment
  let grossRelayerFeeUsd := inputAmountUsd - outputAmountUsd - lpFeeUsd
  let grossRelayerFeePct ← (if 0 < grossRelayerFeeUsd
    then checkedDiv (grossRelayerFeeUsd * fixedPointAdjustment) inputAmountUsd else pure 0)
  let fillCost ← client.estimateFillCost deposit
  let netRelayerFeeUsd := grossRelayerFeeUsd - fillCost.gasCostUsd
  let netRelayerFeePct := if 0 < outputAmountUsd
    then bnDiv (netRelayerFeeUsd * fixedPointAdjustment) outputAmountUsd else 0
  let profitable := decide (0 < inputTokenPriceUsd) && decide (0 < outputTokenPriceUsd) &&
    decide (minRelayerFeePct ≤ netRelayerFeePct)
  pure
    { totalFeePct := totalFeePct, inputTokenPriceUsd := inputTokenPriceUsd, inputAmountUsd := inputAmountUsd,
      outputTokenPriceUsd := outputTokenPriceUsd, outputAmountUsd := outputAmountUsd,
      grossRelayerFeePct := grossRelayerFeePct, grossRelayerFeeUsd := grossRelayerFeeUsd,
      nativeGasCost := fillCost.nativeGasCost, tokenGasCost := fillCost.tokenGasCost, gasPrice := fillCost.gasPrice,
      gasPadding := client.gasPadding, gasMultiplier := client.resolveGasMultiplier deposit,
      gasTokenPriceUsd := fillCost.gasTokenPriceUsd, gasCostUsd := fillCost.gasCostUsd,
      netRelayerFeePct := netRelayerFeePct, netRelayerFeeUsd := netRelayerFeeUsd, profitable := profitable }

/-- `isFillProfitable` over `getFillProfitability`, given the minimum fee `minRelayerFeePct`
resolves for the deposit's token and route: a throw is caught and reads as unprofitable, with
every gas figure `uint256Max`. -/
def isFillProfitable (deposit : FillDeposit) (lpFeePct minRelayerFeePct : Int) : FillDecision :=
  let (profitable, netRelayerFeePct, nativeGasCost, tokenGasCost, gasPrice) :=
    match client.calculateFillProfitability deposit lpFeePct minRelayerFeePct with
    | .ok fill => (fill.profitable, fill.netRelayerFeePct, fill.nativeGasCost, fill.tokenGasCost, fill.gasPrice)
    | .error _ => (false, 0, uint256Max, uint256Max, uint256Max)
  ⟨profitable || (client.isTestnet && decide (nativeGasCost < uint256Max)), nativeGasCost, tokenGasCost, gasPrice,
    netRelayerFeePct⟩

/-! ## Reading a run -/

section Run

variable {client}

theorem bind_eq_ok {α β : Type} {x : Except ProfitError α} {f : α → Except ProfitError β} {result : β}
    (bound : (x >>= f) = .ok result) : ∃ a, x = .ok a ∧ f a = .ok result := by
  cases x with
  | error e => cases bound
  | ok a => exact ⟨a, rfl, bound⟩

@[simp] theorem ok_bind {α β : Type} (a : α) (f : α → Except ProfitError β) :
    (Except.ok a >>= f : Except ProfitError β) = f a := rfl

theorem checkedDiv_ok {numerator denominator quotient : Int}
    (divided : checkedDiv numerator denominator = .ok quotient) : denominator ≠ 0 := by
  unfold checkedDiv at divided
  split_ifs at divided with zero
  exact zero

theorem checkedDiv_of_ne {denominator : Int} (nonzero : denominator ≠ 0) (numerator : Int) :
    checkedDiv numerator denominator = .ok (bnDiv numerator denominator) := by
  simp [checkedDiv, nonzero]

theorem ite_ok (condition : Prop) [Decidable condition] (value : Int) :
    (if condition then (Except.ok value : Except ProfitError Int) else pure 0) =
      .ok (if condition then value else 0) := by
  split <;> rfl

theorem tokenScalar_nonneg {decimals : Nat} {scalar : Int} (scaled : tokenScalar decimals = .ok scalar) :
    0 ≤ scalar := by
  unfold tokenScalar at scaled
  split_ifs at scaled
  cases scaled
  positivity

/-- The gas cost reads the deposit only through its destination, its message and the gas
estimate. -/
theorem estimateFillCost_updatedOutputAmount (deposit : FillDeposit) (updated : Option Int)
    (sameGas : client.getTotalGasCost { deposit with updatedOutputAmount := updated } = client.getTotalGasCost deposit) :
    client.estimateFillCost { deposit with updatedOutputAmount := updated } = client.estimateFillCost deposit := by
  simp only [estimateFillCost, sameGas]
  rfl

end Run

end ProfitClient

/-! ## Division by the input's value -/

/-- A client with the ETH price and a gas estimate for every chain but no price for USDC, the
token of 6 decimals at address 100 on chain 1 and 200 on chain 10. -/
def unpricedClient : ProfitClient where
  gasMultiplier := 10 ^ 18
  gasMessageMultiplier := 10 ^ 18
  gasPadding := 10 ^ 18
  isTestnet := false
  tokenSymbolMap := fun symbol => if symbol = "USDC" then some 100 else if symbol = "ETH" then some 1 else none
  tokenPrices := fun address => if address = 1 then some (3000 * 10 ^ 18) else none
  totalGasCosts := fun _ => some ⟨100000, 10 ^ 15, 10 ^ 10⟩
  tokenInfoForAddress := fun address _ => if address = 100 ∨ address = 200 then some ⟨"USDC", 6⟩ else none
  tokenEquivalenceRemapping := fun _ => none
  tokenSymbolsMap := fun symbol => if symbol = "ETH" then some ⟨18, some 1⟩ else none
  nativeTokenSymbol := fun _ => some "ETH"
  parseAddress := fun _ => none
  getGasCosts := fun _ => none

/-- One USDC from chain 1 to chain 10 for 0.99 USDC. -/
def usdcDeposit : FillDeposit :=
  { toDeposit := ⟨4, 1, 10, 100, 200, 10 ^ 6, false, false⟩, outputAmount := 99 * 10 ^ 4,
    updatedOutputAmount := none, messageEmpty := true }

/-- Without a USDC price the input is worth 0 USD: `calculateFillProfitability` divides by it
and throws, and `isFillProfitable` catches the throw and reports the fill unprofitable. -/
theorem calculateFillProfitability_divides_by_zero :
    unpricedClient.calculateFillProfitability usdcDeposit (10 ^ 14) 0 = .error .divisionByZero ∧
      (unpricedClient.isFillProfitable usdcDeposit (10 ^ 14) 0).profitable = false :=
  ⟨rfl, rfl⟩

/-- The unpriced client with USDC at 1 USD and a cheaper gas estimate, 0.003 USD a fill. -/
def pricedClient : ProfitClient :=
  { unpricedClient with
    tokenPrices := fun address =>
      if address = 1 then some (3000 * 10 ^ 18) else if address = 100 then some (10 ^ 18) else none
    totalGasCosts := fun _ => some ⟨100000, 10 ^ 12, 10 ^ 7⟩ }

/-- The arithmetic of a lower output: a net fee percentage at or above a minimum that is not
negative stays there when the output's USD value falls but stays positive, and the net fee
rises by as much. Truncation toward zero keeps a small negative fee at 0, which a smaller
divisor does not push below 0. -/
theorem netRelayerFeePct_at_lower_output {netFee output output' minimum : Int} (nonneg : 0 ≤ minimum)
    (lower : output' ≤ output) (positive : 0 < output')
    (kept : minimum ≤ bnDiv (netFee * fixedPointAdjustment) output) :
    minimum ≤ bnDiv ((netFee + (output - output')) * fixedPointAdjustment) output' := by
  have scale := fixedPointAdjustment_pos
  have outputPositive := lt_of_lt_of_le positive lower
  rcases le_or_lt 0 netFee with sign | sign
  · have numerator := mul_nonneg sign scale.le
    refine kept.trans ?_
    rw [bnDiv_of_nonneg numerator outputPositive.le,
      bnDiv_of_nonneg (mul_nonneg (by linarith) scale.le) positive.le]
    apply Int.le_ediv_of_mul_le positive
    calc netFee * fixedPointAdjustment / output * output'
        ≤ netFee * fixedPointAdjustment / output * output :=
          mul_le_mul_of_nonneg_left lower (Int.ediv_nonneg numerator outputPositive.le)
      _ ≤ netFee * fixedPointAdjustment := Int.ediv_mul_le _ outputPositive.ne'
      _ ≤ (netFee + (output - output')) * fixedPointAdjustment :=
          mul_le_mul_of_nonneg_right (by linarith) scale.le
  · have truncated := bnDiv_nonpos (mul_nonpos_of_nonpos_of_nonneg sign.le scale.le) outputPositive.le
    have above := (bnDiv_nonneg_iff outputPositive).mp (nonneg.trans kept)
    have gained : output - output' ≤ (output - output') * fixedPointAdjustment :=
      le_mul_of_one_le_right (by linarith) (by decide)
    refine (kept.trans truncated).trans ((bnDiv_nonneg_iff positive).mpr ?_)
    linarith

/-- For a minimum fee that is not negative and the same gas estimate for both runs: a deposit the
client finds profitable is still priced when only its updated output amount changes, and
found profitable whenever its effective output is no larger and still worth a positive USD
amount. -/
theorem profitable_at_lower_output (client : ProfitClient) (deposit : FillDeposit) (lpFeePct minRelayerFeePct : Int)
    (minimum : 0 ≤ minRelayerFeePct) (updated : Option Int)
    (sameGas : client.getTotalGasCost { deposit with updatedOutputAmount := updated } =
      client.getTotalGasCost deposit)
    (lowered : FillDeposit.effectiveOutputAmount { deposit with updatedOutputAmount := updated } ≤
      deposit.effectiveOutputAmount)
    {fill : FillProfit} (returned : client.calculateFillProfitability deposit lpFeePct minRelayerFeePct = .ok fill)
    (profitable : fill.profitable = true) :
    ∃ fill', client.calculateFillProfitability { deposit with updatedOutputAmount := updated } lpFeePct
        minRelayerFeePct = .ok fill' ∧ (0 < fill'.outputAmountUsd → fill'.profitable = true) := by
  unfold ProfitClient.calculateFillProfitability at returned ⊢
  obtain ⟨inputTokenInfo, inputInfo, returned⟩ := ProfitClient.bind_eq_ok returned
  obtain ⟨inputTokenPriceUsd, inputPrice, returned⟩ := ProfitClient.bind_eq_ok returned
  obtain ⟨inputTokenScalar, inputScale, returned⟩ := ProfitClient.bind_eq_ok returned
  obtain ⟨outputTokenInfo, outputInfo, returned⟩ := ProfitClient.bind_eq_ok returned
  obtain ⟨outputTokenPriceUsd, outputPrice, returned⟩ := ProfitClient.bind_eq_ok returned
  obtain ⟨outputTokenScalar, outputScale, returned⟩ := ProfitClient.bind_eq_ok returned
  obtain ⟨totalFeePct, totalFee, returned⟩ := ProfitClient.bind_eq_ok returned
  obtain ⟨grossRelayerFeePct, -, returned⟩ := ProfitClient.bind_eq_ok returned
  obtain ⟨fillCost, cost, returned⟩ := ProfitClient.bind_eq_ok returned
  cases returned
  have nonzero := ProfitClient.checkedDiv_ok totalFee
  simp only [Bool.and_eq_true, decide_eq_true_eq] at profitable
  obtain ⟨⟨inputPriced, outputPriced⟩, kept⟩ := profitable
  have lowerUsd : bnDiv ({ deposit with updatedOutputAmount := updated }.effectiveOutputAmount * outputTokenScalar *
      outputTokenPriceUsd) fixedPointAdjustment ≤
      bnDiv (deposit.effectiveOutputAmount * outputTokenScalar * outputTokenPriceUsd) fixedPointAdjustment :=
    bnDiv_mono_left (mul_le_mul_of_nonneg_right
      (mul_le_mul_of_nonneg_right lowered (ProfitClient.tokenScalar_nonneg outputScale)) outputPriced.le)
      fixedPointAdjustment_pos
  simp only [inputInfo, inputPrice, inputScale, outputInfo, outputPrice, outputScale, ProfitClient.ok_bind,
    ProfitClient.checkedDiv_of_ne nonzero, ProfitClient.ite_ok,
    ProfitClient.estimateFillCost_updatedOutputAmount deposit updated sameGas, cost]
  refine ⟨_, rfl, fun positive => ?_⟩
  dsimp only at positive ⊢
  rw [if_pos (lt_of_lt_of_le positive lowerUsd)] at kept
  simp only [Bool.and_eq_true, decide_eq_true_eq, if_pos positive]
  refine ⟨⟨inputPriced, outputPriced⟩, ?_⟩
  generalize bnDiv (deposit.inputAmount * inputTokenScalar * inputTokenPriceUsd) fixedPointAdjustment =
    inputAmountUsd at kept ⊢
  generalize bnDiv (bnDiv (deposit.inputAmount * inputTokenScalar * lpFeePct) fixedPointAdjustment *
    inputTokenPriceUsd) fixedPointAdjustment = lpFeeUsd at kept ⊢
  generalize bnDiv (deposit.effectiveOutputAmount * outputTokenScalar * outputTokenPriceUsd) fixedPointAdjustment =
    outputAmountUsd at kept lowerUsd
  generalize bnDiv ({ deposit with updatedOutputAmount := updated }.effectiveOutputAmount * outputTokenScalar *
    outputTokenPriceUsd) fixedPointAdjustment = outputAmountUsd' at lowerUsd positive ⊢
  have moved := netRelayerFeePct_at_lower_output minimum lowerUsd positive kept
  rwa [show inputAmountUsd - outputAmountUsd - lpFeeUsd - fillCost.gasCostUsd + (outputAmountUsd - outputAmountUsd') =
    inputAmountUsd - outputAmountUsd' - lpFeeUsd - fillCost.gasCostUsd by ring] at moved

set_option maxRecDepth 4000 in
/-- The 1 USDC deposit nets about 0.7% over gas against a 0.1% minimum; updated to 0.98 USDC it
stays profitable. -/
theorem profitable_at_lower_output_usdc :
    (0 ≤ (10 ^ 15 : Int) ∧
      pricedClient.getTotalGasCost { usdcDeposit with updatedOutputAmount := some (98 * 10 ^ 4) } =
        pricedClient.getTotalGasCost usdcDeposit ∧
      FillDeposit.effectiveOutputAmount { usdcDeposit with updatedOutputAmount := some (98 * 10 ^ 4) } ≤
        usdcDeposit.effectiveOutputAmount ∧
      FillProfit.profitable <$> pricedClient.calculateFillProfitability usdcDeposit (10 ^ 14) (10 ^ 15) = .ok true) ∧
    ∃ fill', pricedClient.calculateFillProfitability { usdcDeposit with updatedOutputAmount := some (98 * 10 ^ 4) }
        (10 ^ 14) (10 ^ 15) = .ok fill' ∧ (0 < fill'.outputAmountUsd → fill'.profitable = true) := by
  have minimum : 0 ≤ (10 ^ 15 : Int) := by decide
  have sameGas : pricedClient.getTotalGasCost { usdcDeposit with updatedOutputAmount := some (98 * 10 ^ 4) } =
      pricedClient.getTotalGasCost usdcDeposit := rfl
  have lowered : FillDeposit.effectiveOutputAmount { usdcDeposit with updatedOutputAmount := some (98 * 10 ^ 4) } ≤
      usdcDeposit.effectiveOutputAmount := by decide
  have priced : FillProfit.profitable <$> pricedClient.calculateFillProfitability usdcDeposit (10 ^ 14) (10 ^ 15) =
      .ok true := rfl
  rcases returned : pricedClient.calculateFillProfitability usdcDeposit (10 ^ 14) (10 ^ 15) with e | fill
  · rw [returned] at priced
    cases priced
  have profitable : fill.profitable = true := by
    rw [returned] at priced
    exact Except.ok.inj priced
  exact ⟨⟨minimum, sameGas, lowered, returned ▸ priced⟩, profitable_at_lower_output pricedClient usdcDeposit (10 ^ 14)
    (10 ^ 15) minimum (some (98 * 10 ^ 4)) sameGas lowered returned profitable⟩

end Relayer
