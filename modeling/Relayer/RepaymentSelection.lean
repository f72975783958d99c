import Relayer.RunningBalances

/-! The repayment chain selector (§4.6), `InventoryClient.determineRefundChainId`, and the list
the relayer prices LP fees for, `getPossibleRepaymentChainIds`. The selector answers some
deposits at once (`refundChainIdShortcut`); otherwise it reads the two memos and hands over to
`selectRefundChains`, which reads no memo: it builds the candidates, checks them against the
possible chains, keeps those whose post-relay allocation stays under the effective target, and
applies the lite-chain check and the hub fallback. -/
namespace Relayer

/-- `DEFAULT_TOKEN_OVERAGE`, 150%. -/
def defaultTokenOverage : Int := 15 * 10 ^ 17

/-- `BigNumber.div`, which throws on a zero divisor. -/
def bnDivChecked (numerator denominator : Int) : Except InventoryError Int :=
  if denominator = 0 then .error .divisionByZero else .ok (bnDiv numerator denominator)

/-- `Set.add` on a `Set` read back as an array: a new element goes last. -/
def addChainId (chainIds : List Nat) (chainId : Nat) : List Nat :=
  if chainId ∈ chainIds then chainIds else chainIds ++ [chainId]

/-- Lines 644–648: the allocation a candidate may reach, the target itself on a lite
destination and the target times the overage buffer elsewhere. -/
def effectiveTargetPct (toLiteDestination : Bool) (tokenConfig : TokenBalanceConfig) : Int :=
  if toLiteDestination then tokenConfig.targetPct
  else bnDiv (tokenConfig.targetPct * tokenConfig.targetOverageBuffer.getD defaultTokenOverage)
    fixedPointAdjustment

/-- Lines 535–538: the chains whose excess percentage is positive, highest first. The entries
come in ascending chain order and the sort is stable. -/
def chainsWithExcessSpokeBalances (excessRunningBalancePcts : ChainKeyed Int) : List Nat :=
  ((excessRunningBalancePcts.entries.filter fun entry => 0 < entry.2).insertionSort
    fun a b => b.2 ≤ a.2).map Prod.fst

/-- The loop of lines 583–676: the candidates kept, in order; the first throw ends it. -/
def evaluateChains (eligible : Nat → Except InventoryError Bool) :
    List Nat → Except InventoryError (List Nat)
  | [] => .ok []
  | chainId :: rest =>
    match eligible chainId, evaluateChains eligible rest with
    | .error e, _ => .error e
    | .ok _, .error e => .error e
    | .ok keep, .ok kept => .ok (if keep then chainId :: kept else kept)

namespace InventoryClient

variable (s : InventoryClient)

def getL1TokenAddress (l2Token chainId : Nat) : Except InventoryError Nat :=
  match s.constants.l1TokenAddress l2Token chainId with
  | some l1Token => .ok l1Token
  | none => .error (.unknownL1Token l2Token chainId)

def getSlowWithdrawalRepaymentChains (l1Token : Nat) : List Nat :=
  s.constants.slowWithdrawalChains.filter fun chainId =>
    s._l1TokenEnabledForChain l1Token chainId && s.hubPoolClient.l2TokenEnabledForL1Token l1Token chainId

def canTakeDestinationChainRepayment (deposit : Deposit) : Bool :=
  if s.hubPoolClient.depositForcesOriginChainRepayment deposit then false
  else if !s.hubPoolClient.l2TokenHasPoolRebalanceRoute deposit.inputToken deposit.originChainId then false
  else s.hubPoolClient.l2TokenEnabledForL1Token
    (s.hubPoolClient.l1TokenForL2Token deposit.inputToken deposit.originChainId) deposit.destinationChainId

def getPossibleRepaymentChainIds (deposit : Deposit) : Except InventoryError (List Nat) :=
  let chainIds := [deposit.originChainId]
  if s.hubPoolClient.depositForcesOriginChainRepayment deposit then .ok chainIds else
  let chainIds := if s.canTakeDestinationChainRepayment deposit
    then addChainId chainIds deposit.destinationChainId else chainIds
  let slowChains : Except InventoryError (List Nat) :=
    if s.isInventoryManagementEnabled then
      match s.getL1TokenAddress deposit.inputToken deposit.originChainId with
      | .error e => .error e
      | .ok l1Token => .ok ((s.getSlowWithdrawalRepaymentChains l1Token).foldl (fun chainIds chainId =>
          if s.hubPoolClient.l2TokenEnabledForL1Token l1Token chainId
          then addChainId chainIds chainId else chainIds) chainIds)
    else .ok chainIds
  match slowChains with
  | .error e => .error e
  | .ok chainIds => .ok (addChainId chainIds s.hubChainId)

def validateOutputToken (deposit : Deposit) : Bool :=
  s.hubPoolClient.areTokensEquivalent deposit.inputToken deposit.originChainId deposit.outputToken
      deposit.destinationChainId ||
    match s.constants.l1TokenAddress deposit.inputToken deposit.originChainId,
      s.constants.l1TokenAddress deposit.outputToken deposit.destinationChainId with
    | some input, some output => input = output
    | _, _ => false

/-- Lines 477–504: the answers given before any balance is read. -/
def refundChainIdShortcut (deposit : Deposit) : Option (Except InventoryError (List Nat)) :=
  if s.constants.invalidOutputToken deposit then some (.ok [])
  else if !s.isInventoryManagementEnabled then
    some (.ok [if !s.canTakeDestinationChainRepayment deposit then deposit.originChainId
      else deposit.destinationChainId])
  else if !s.validateOutputToken deposit then
    some (.error (.unexpectedOutputToken deposit.destinationChainId deposit.originChainId deposit.depositId
      deposit.inputToken deposit.outputToken))
  else if s.hubPoolClient.depositForcesOriginChainRepayment deposit &&
      s.hubPoolClient.repaymentChainCanBeQuicklyRebalanced deposit then some (.ok [deposit.originChainId])
  else none

/-- Lines 541–570: `chainsToEvaluate`, after the slow-withdrawal chains `excessChains`. -/
def chainsToEvaluate (deposit : Deposit) (l1Token : Nat) (excessChains : List Nat) : List Nat :=
  let origin := deposit.originChainId
  let destination := deposit.destinationChainId
  let chains := if deposit.toLiteChain && !excessChains.contains origin && s._l1TokenEnabledForChain l1Token origin
    then excessChains ++ [origin] else excessChains
  let chains := if s.canTakeDestinationChainRepayment deposit && !chains.contains destination &&
      s._l1TokenEnabledForChain l1Token destination then chains ++ [destination] else chains
  if !chains.contains origin && origin ≠ s.hubChainId && s._l1TokenEnabledForChain l1Token origin
  then chains ++ [origin] else chains

/-- Lines 584–675, one candidate: whether its allocation after this relay and the upcoming
refunds stays under its effective target. A chain without a token config is kept only when it
is the destination. -/
def refundChainEligible (deposit : Deposit) (l1Token : Nat) (inputAmountInL1TokenDecimals : Int)
    (totalRefundsPerChain : ChainKeyed Int) (chainId : Nat) : Except InventoryError Bool :=
  if !s._l1TokenEnabledForChain l1Token chainId then .error (.tokenNotEnabled l1Token chainId) else
  match s.getRemoteTokenForL1Token l1Token chainId with
  | none => .error (.noRepaymentToken l1Token chainId)
  | some repaymentToken =>
    if chainId ≠ deposit.originChainId && !s.hubPoolClient.l2TokenHasPoolRebalanceRoute repaymentToken chainId
    then .error (.noPoolRebalanceRoute repaymentToken chainId l1Token) else
    let chainShortfall := s.toL1Decimals chainId repaymentToken l1Token (s.tokenClient.shortfall chainId repaymentToken)
    let chainVirtualBalance := s.getBalanceOnChain chainId l1Token (some repaymentToken)
    let chainVirtualBalanceWithShortfall := chainVirtualBalance - chainShortfall
    let chainVirtualBalanceWithShortfallPostRelay :=
      (if chainId = deposit.destinationChainId ∧ s.hubPoolClient.areTokensEquivalent deposit.inputToken
          deposit.originChainId deposit.outputToken deposit.destinationChainId
        then chainVirtualBalanceWithShortfall
        else chainVirtualBalanceWithShortfall + inputAmountInL1TokenDecimals) +
      (totalRefundsPerChain.get? chainId).getD 0
    let cumulativeVirtualBalancePostRefunds :=
      s.getCumulativeBalance l1Token + totalRefundsPerChain.values.sum
    match bnDivChecked (chainVirtualBalanceWithShortfallPostRelay * fixedPointAdjustment)
        cumulativeVirtualBalancePostRefunds with
    | .error e => .error e
    | .ok expectedPostRelayAllocation =>
      match s.tokenBalanceConfig l1Token chainId repaymentToken with
      | none => .ok (chainId = deposit.destinationChainId)
      | some tokenConfig =>
        .ok (expectedPostRelayAllocation ≤
          effectiveTargetPct (deposit.toLiteChain && chainId = deposit.destinationChainId) tokenConfig)

/-- Lines 683–692: the lite-chain check, then the hub fallback, which asks the hub pool client
again whether the deposit forces origin repayment. -/
def finalizeRefundChains (deposit : Deposit) (forceOriginRepayment : Bool) (eligibleRefundChains : List Nat) :
    List Nat :=
  if forceOriginRepayment &&
      (eligibleRefundChains.length != 1 || !eligibleRefundChains.contains deposit.originChainId) then []
  else if !s.hubPoolClient.depositForcesOriginChainRepayment deposit &&
      !eligibleRefundChains.contains s.hubChainId then eligibleRefundChains ++ [s.hubChainId]
  else eligibleRefundChains

/-- Lines 520–692, once the refunds and the slow-withdrawal chains are known. -/
def selectRefundChains (deposit : Deposit) (l1Token : Nat) (inputAmountInL1TokenDecimals : Int)
    (totalRefundsPerChain : ChainKeyed Int) (excessChains : List Nat) : Except InventoryError (List Nat) :=
  let chainsToEvaluate := s.chainsToEvaluate deposit l1Token excessChains
  match s.getPossibleRepaymentChainIds deposit with
  | .error e => .error e
  | .ok possibleRepaymentChainIds =>
    if chainsToEvaluate.any fun chainId => !possibleRepaymentChainIds.contains chainId then
      .error (.repaymentChainsDisagree possibleRepaymentChainIds chainsToEvaluate)
    else
      match evaluateChains (s.refundChainEligible deposit l1Token inputAmountInL1TokenDecimals
          totalRefundsPerChain) chainsToEvaluate with
      | .error e => .error e
      | .ok eligibleRefundChains =>
        .ok (s.finalizeRefundChains deposit (s.hubPoolClient.depositForcesOriginChainRepayment deposit)
          eligibleRefundChains)

def determineRefundChainId (memos : Memos) (deposit : Deposit) (l1Token : Option Nat) :
    Memos × Except InventoryError (List Nat) :=
  match s.refundChainIdShortcut deposit with
  | some result => (memos, result)
  | none =>
    match l1Token.elim (s.getL1TokenAddress deposit.inputToken deposit.originChainId) .ok with
    | .error e => (memos, .error e)
    | .ok l1Token =>
      let inputAmountInL1TokenDecimals :=
        s.toL1Decimals deposit.originChainId deposit.inputToken l1Token deposit.inputAmount
      match s.getBundleRefunds memos l1Token with
      | (memos, .error e) => (memos, .error e)
      | (memos, .ok totalRefundsPerChain) =>
        if !s.hubPoolClient.depositForcesOriginChainRepayment deposit && s.prioritizeLpUtilization then
          match s.getExcessRunningBalancePcts memos l1Token inputAmountInL1TokenDecimals
              (s.getSlowWithdrawalRepaymentChains l1Token) with
          | (memos, .error e) => (memos, .error e)
          | (memos, .ok excessRunningBalancePcts) =>
            (memos, s.selectRefundChains deposit l1Token inputAmountInL1TokenDecimals totalRefundsPerChain
              (chainsWithExcessSpokeBalances excessRunningBalancePcts))
        else (memos, s.selectRefundChains deposit l1Token inputAmountInL1TokenDecimals totalRefundsPerChain [])

end InventoryClient

end Relayer
