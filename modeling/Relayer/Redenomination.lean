import Relayer.Rebalancing
import Relayer.Lifecycle
import Mathlib.Algebra.BigOperators.Ring.List

/-! Re-denominating a spoke token. The client converts every amount of an L2 token into L1
decimals before it adds amounts across chains or tokens (§4.1), so the representation of a
spoke token's amounts is invisible to it: raise the decimals of `token` on `chainId` by `k`,
multiply by `10^k` every raw amount of it the clients report (local balance, shortfall, bundle
refunds, upcoming deposits, the input amount of a deposit of it), and balances, allocations,
the rebalances planned, the excess running-balance percentages and the repayment chains are
what they were (`redenominate_invariant`). Over a whole run of the client the same holds: run on
re-denominated inputs, the client and its memos end re-denominated (`runOperations_redenominate`),
so every later call answers as before.

The deposit predicates of `../utils` are parameters of the model; what is assumed of them, as a
hypothesis, is that they read a deposit's chains, tokens and flags and never its amount
(`InventoryClient.AmountBlind`). The hub chain is excluded: its decimals are the L1 token's. -/
namespace Relayer

/-- A raw amount of `t` on `c`, after `token` on `chainId` is re-denominated with `k` more
decimals. -/
def rescale (chainId token k c t : Nat) (amount : Int) : Int :=
  if c = chainId ∧ t = token then amount * 10 ^ k else amount

theorem rescale_of_ne {chainId token k c : Nat} (other : c ≠ chainId) (t : Nat) (amount : Int) :
    rescale chainId token k c t amount = amount := by
  simp [rescale, other]

@[simp] theorem rescale_zero (chainId token k c t : Nat) : rescale chainId token k c t 0 = 0 := by
  simp [rescale]

/-- Rescaling distributes over a sum of amounts of one token. -/
theorem sum_map_rescale {α : Type} (chainId token k c t : Nat) (f : α → Int) (entries : List α) :
    (entries.map fun entry => rescale chainId token k c t (f entry)).sum =
      rescale chainId token k c t (entries.map f).sum := by
  unfold rescale
  split_ifs
  · exact List.sum_map_mul_right entries f _
  · rfl

def Settled.map {α β : Type} (f : α → β) : Settled α → Settled β
  | .resolved value => .resolved (f value)
  | .rejected => .rejected

/-- The refunds of a bundle, each amount of `token` on `chainId` re-denominated. -/
def CombinedRefunds.redenominate (chainId token k : Nat) (bundle : CombinedRefunds) : CombinedRefunds :=
  ⟨fun c t => (bundle.refunds c t).map fun entry => (entry.1, rescale chainId token k c t entry.2)⟩

/-- A settled read of the bundle refunds, re-denominated. -/
def redenominateRefunds (chainId token k : Nat) :
    Option (Settled (List CombinedRefunds)) → Option (Settled (List CombinedRefunds)) :=
  Option.map (Settled.map (List.map (CombinedRefunds.redenominate chainId token k)))

def TokenClient.redenominate (chainId token k : Nat) (client : TokenClient) : TokenClient where
  balance c t := rescale chainId token k c t (client.balance c t)
  shortfall c t := rescale chainId token k c t (client.shortfall c t)

def BundleDataClient.redenominate (chainId token k : Nat) (client : BundleDataClient) : BundleDataClient where
  pendingRefundsFromValidBundles :=
    client.pendingRefundsFromValidBundles.map (List.map (CombinedRefunds.redenominate chainId token k))
  nextBundleRefunds := client.nextBundleRefunds.map (List.map (CombinedRefunds.redenominate chainId token k))
  upcomingDepositAmount c t fromBlock := rescale chainId token k c t (client.upcomingDepositAmount c t fromBlock)

/-- The client once `token` on `chainId` has `k` more decimals and the token and bundle data
clients report its amounts in them. -/
def InventoryClient.redenominate (s : InventoryClient) (chainId token k : Nat) : InventoryClient :=
  { s with
    constants := { s.constants with
      decimals := fun t c => if c = chainId ∧ t = token then s.constants.decimals t c + k else s.constants.decimals t c }
    tokenClient := s.tokenClient.redenominate chainId token k
    bundleDataClient := s.bundleDataClient.redenominate chainId token k }

/-- The memos, with the bundle refunds they hold re-denominated; the running balances they hold
are in L1 decimals already. -/
def Memos.redenominate (chainId token k : Nat) (memos : Memos) : Memos :=
  { memos with bundleRefundsPromise := redenominateRefunds chainId token k memos.bundleRefundsPromise }

/-- A deposit, whose input amount is re-denominated when its input token is `token` on
`chainId`. -/
def Deposit.redenominate (chainId token k : Nat) (deposit : Deposit) : Deposit :=
  { deposit with
    inputAmount := rescale chainId token k deposit.originChainId deposit.inputToken deposit.inputAmount }

/-- The deposit predicates of `../utils` that the client calls read a deposit's chains, tokens
and lite-chain flags, never its amount. -/
structure InventoryClient.AmountBlind (s : InventoryClient) : Prop where
  invalidOutputToken (deposit : Deposit) (amount : Int) :
    s.constants.invalidOutputToken { deposit with inputAmount := amount } = s.constants.invalidOutputToken deposit
  depositForcesOriginChainRepayment (deposit : Deposit) (amount : Int) :
    s.hubPoolClient.depositForcesOriginChainRepayment { deposit with inputAmount := amount } =
      s.hubPoolClient.depositForcesOriginChainRepayment deposit
  repaymentChainCanBeQuicklyRebalanced (deposit : Deposit) (amount : Int) :
    s.hubPoolClient.repaymentChainCanBeQuicklyRebalanced { deposit with inputAmount := amount } =
      s.hubPoolClient.repaymentChainCanBeQuicklyRebalanced deposit

@[simp] theorem Deposit.redenominate_originChainId (chainId token k : Nat) (deposit : Deposit) :
    (deposit.redenominate chainId token k).originChainId = deposit.originChainId := rfl

@[simp] theorem Deposit.redenominate_inputToken (chainId token k : Nat) (deposit : Deposit) :
    (deposit.redenominate chainId token k).inputToken = deposit.inputToken := rfl

@[simp] theorem Deposit.redenominate_inputAmount (chainId token k : Nat) (deposit : Deposit) :
    (deposit.redenominate chainId token k).inputAmount =
      rescale chainId token k deposit.originChainId deposit.inputToken deposit.inputAmount := rfl

namespace InventoryClient

section Redenominate

variable {s : InventoryClient} {chainId token k : Nat}

/-! ## What re-denomination leaves alone -/

@[simp] theorem redenominate_hubChainId : (s.redenominate chainId token k).hubChainId = s.hubChainId := rfl

@[simp] theorem redenominate_hubPoolClient : (s.redenominate chainId token k).hubPoolClient = s.hubPoolClient := rfl

@[simp] theorem redenominate_invalidOutputToken :
    (s.redenominate chainId token k).constants.invalidOutputToken = s.constants.invalidOutputToken := rfl

@[simp] theorem redenominate_getL1TokenAddress :
    (s.redenominate chainId token k).getL1TokenAddress = s.getL1TokenAddress := rfl

@[simp] theorem redenominate_getSlowWithdrawalRepaymentChains :
    (s.redenominate chainId token k).getSlowWithdrawalRepaymentChains = s.getSlowWithdrawalRepaymentChains := rfl

@[simp] theorem redenominate_isInventoryManagementEnabled :
    (s.redenominate chainId token k).isInventoryManagementEnabled = s.isInventoryManagementEnabled := rfl

@[simp] theorem redenominate_prioritizeLpUtilization :
    (s.redenominate chainId token k).prioritizeLpUtilization = s.prioritizeLpUtilization := rfl

@[simp] theorem redenominate_crossChainTransferClient :
    (s.redenominate chainId token k).crossChainTransferClient = s.crossChainTransferClient := rfl

@[simp] theorem redenominate_getEnabledChains :
    (s.redenominate chainId token k).getEnabledChains = s.getEnabledChains := rfl

@[simp] theorem redenominate_getRemoteTokensForL1Token (l1Token c : Nat) :
    (s.redenominate chainId token k).getRemoteTokensForL1Token l1Token c = s.getRemoteTokensForL1Token l1Token c :=
  rfl

@[simp] theorem redenominate_balance (c t : Nat) :
    (s.redenominate chainId token k).tokenClient.balance c t = rescale chainId token k c t (s.tokenClient.balance c t) :=
  rfl

@[simp] theorem redenominate_shortfall (c t : Nat) :
    (s.redenominate chainId token k).tokenClient.shortfall c t =
      rescale chainId token k c t (s.tokenClient.shortfall c t) :=
  rfl

@[simp] theorem redenominate_upcomingDepositAmount (c t fromBlock : Nat) :
    (s.redenominate chainId token k).bundleDataClient.upcomingDepositAmount c t fromBlock =
      rescale chainId token k c t (s.bundleDataClient.upcomingDepositAmount c t fromBlock) :=
  rfl

@[simp] theorem redenominate_pendingRefundsFromValidBundles :
    (s.redenominate chainId token k).bundleDataClient.pendingRefundsFromValidBundles =
      s.bundleDataClient.pendingRefundsFromValidBundles.map (List.map (CombinedRefunds.redenominate chainId token k)) :=
  rfl

@[simp] theorem redenominate_nextBundleRefunds :
    (s.redenominate chainId token k).bundleDataClient.nextBundleRefunds =
      s.bundleDataClient.nextBundleRefunds.map (List.map (CombinedRefunds.redenominate chainId token k)) :=
  rfl

theorem getAllBundleRefunds_redenominate :
    (s.redenominate chainId token k).getAllBundleRefunds =
      Settled.map (List.map (CombinedRefunds.redenominate chainId token k)) s.getAllBundleRefunds := by
  simp only [getAllBundleRefunds, redenominate_pendingRefundsFromValidBundles, redenominate_nextBundleRefunds]
  rcases s.bundleDataClient.pendingRefundsFromValidBundles with _ | pending <;>
    rcases s.bundleDataClient.nextBundleRefunds with _ | next <;> simp [Settled.map]

@[simp] theorem _getExcessRunningBalancePcts_redenominate :
    (s.redenominate chainId token k)._getExcessRunningBalancePcts = s._getExcessRunningBalancePcts := rfl

theorem getTotalRefund_redenominate (refunds : List CombinedRefunds) (relayer c t : Nat) :
    getTotalRefund (refunds.map (CombinedRefunds.redenominate chainId token k)) relayer c t =
      rescale chainId token k c t (getTotalRefund refunds relayer c t) := by
  have bundle (b : CombinedRefunds) :
      (((b.redenominate chainId token k).refunds c t).find? (·.1 = relayer)).map Prod.snd =
        ((b.refunds c t).find? (·.1 = relayer)).map fun entry => rescale chainId token k c t entry.2 := by
    simp [CombinedRefunds.redenominate, List.find?_map, Function.comp_def]
  simp only [getTotalRefund, List.map_map, Function.comp_def, bundle]
  rw [← sum_map_rescale]
  congr 1
  refine List.map_congr_left fun b _ => ?_
  cases (b.refunds c t).find? (·.1 = relayer) <;> simp [rescale_zero]

/-! ## The choices that read no amount -/

section Blind

variable (blind : s.AmountBlind)
include blind

theorem depositForcesOriginChainRepayment_redenominate (deposit : Deposit) :
    s.hubPoolClient.depositForcesOriginChainRepayment (deposit.redenominate chainId token k) =
      s.hubPoolClient.depositForcesOriginChainRepayment deposit :=
  blind.depositForcesOriginChainRepayment deposit _

theorem canTakeDestinationChainRepayment_redenominate (deposit : Deposit) :
    (s.redenominate chainId token k).canTakeDestinationChainRepayment (deposit.redenominate chainId token k) =
      s.canTakeDestinationChainRepayment deposit := by
  simp only [canTakeDestinationChainRepayment, Deposit.redenominate, redenominate_hubPoolClient,
    blind.depositForcesOriginChainRepayment]

theorem refundChainIdShortcut_redenominate (deposit : Deposit) :
    (s.redenominate chainId token k).refundChainIdShortcut (deposit.redenominate chainId token k) =
      s.refundChainIdShortcut deposit := by
  simp only [refundChainIdShortcut, canTakeDestinationChainRepayment_redenominate blind]
  simp only [Deposit.redenominate, redenominate_hubPoolClient, redenominate_invalidOutputToken, blind.invalidOutputToken,
    blind.depositForcesOriginChainRepayment, blind.repaymentChainCanBeQuicklyRebalanced]
  rfl

theorem getPossibleRepaymentChainIds_redenominate (deposit : Deposit) :
    (s.redenominate chainId token k).getPossibleRepaymentChainIds (deposit.redenominate chainId token k) =
      s.getPossibleRepaymentChainIds deposit := by
  simp only [getPossibleRepaymentChainIds, canTakeDestinationChainRepayment_redenominate blind]
  simp only [Deposit.redenominate, redenominate_hubPoolClient, blind.depositForcesOriginChainRepayment]
  rfl

theorem chainsToEvaluate_redenominate (deposit : Deposit) (l1Token : Nat) (excessChains : List Nat) :
    (s.redenominate chainId token k).chainsToEvaluate (deposit.redenominate chainId token k) l1Token excessChains =
      s.chainsToEvaluate deposit l1Token excessChains := by
  simp only [chainsToEvaluate, canTakeDestinationChainRepayment_redenominate blind]
  rfl

theorem finalizeRefundChains_redenominate (deposit : Deposit) (forced : Bool) (eligible : List Nat) :
    (s.redenominate chainId token k).finalizeRefundChains (deposit.redenominate chainId token k) forced eligible =
      s.finalizeRefundChains deposit forced eligible := by
  simp only [finalizeRefundChains, Deposit.redenominate, redenominate_hubPoolClient,
    blind.depositForcesOriginChainRepayment]
  rfl

end Blind

variable (spoke : chainId ≠ s.hubChainId)
include spoke

/-- The conversion into L1 decimals reads the new decimals, so it undoes the re-denomination. -/
@[simp] theorem toL1Decimals_redenominate (c t l1Token : Nat) (amount : Int) :
    (s.redenominate chainId token k).toL1Decimals c t l1Token (rescale chainId token k c t amount) =
      s.toL1Decimals c t l1Token amount := by
  have hub : ¬(s.hubChainId = chainId ∧ l1Token = token) := fun same => spoke same.1.symm
  by_cases same : c = chainId ∧ t = token
  · simp only [toL1Decimals, redenominate, rescale, if_pos same, if_neg hub, convertDecimals_rescale]
  · simp only [toL1Decimals, redenominate, rescale, if_neg same, if_neg hub]

/-! ## Accounting -/

theorem getBalanceOnChain_redenominate :
    (s.redenominate chainId token k).getBalanceOnChain = s.getBalanceOnChain := by
  funext c l1Token l2Token
  cases l2Token <;> simp [getBalanceOnChain, spoke]

theorem getCumulativeBalance_redenominate :
    (s.redenominate chainId token k).getCumulativeBalance = s.getCumulativeBalance := by
  funext l1Token
  simp [getCumulativeBalance, getBalanceOnChain_redenominate spoke]

theorem getCurrentAllocationPct_redenominate :
    (s.redenominate chainId token k).getCurrentAllocationPct = s.getCurrentAllocationPct := by
  funext l1Token c l2Token
  simp [getCurrentAllocationPct, getCumulativeBalance_redenominate spoke, getBalanceOnChain_redenominate spoke,
    spoke]

theorem getPossibleRebalances_redenominate :
    (s.redenominate chainId token k).getPossibleRebalances = s.getPossibleRebalances := by
  have planned : (s.redenominate chainId token k).plannedRebalance = s.plannedRebalance := by
    funext l1Token cumulativeBalance c l2Token
    simp only [plannedRebalance, getCurrentAllocationPct_redenominate spoke, redenominate_balance,
      redenominate_hubChainId, rescale_of_ne (Ne.symm spoke)]
    rfl
  simp only [getPossibleRebalances, getCumulativeBalance_redenominate spoke, planned]
  rfl

/-! ## The memoized reads -/

theorem totalRefundsPerChain_redenominate (refunds : List CombinedRefunds) (l1Token : Nat) :
    (s.redenominate chainId token k).totalRefundsPerChain (refunds.map (CombinedRefunds.redenominate chainId token k))
      l1Token = s.totalRefundsPerChain refunds l1Token := by
  simp only [totalRefundsPerChain, getTotalRefund_redenominate, toL1Decimals_redenominate spoke]
  rfl

theorem latestRunningBalance_redenominate (bundleRefunds : Option (Settled (List CombinedRefunds)))
    (l1Token c : Nat) :
    (s.redenominate chainId token k).latestRunningBalance (redenominateRefunds chainId token k bundleRefunds)
      l1Token c = s.latestRunningBalance bundleRefunds l1Token c := by
  rcases bundleRefunds with _ | refunds | _
  · rfl
  · simp only [latestRunningBalance, redenominateRefunds, Option.map_some', Settled.map, List.getLast?_map,
      Option.bind_eq_bind, Option.some_bind, redenominate_upcomingDepositAmount, toL1Decimals_redenominate spoke,
      redenominate_hubPoolClient]
    rcases refunds.getLast? with _ | bundle
    · rfl
    · simp only [Option.map_some', CombinedRefunds.redenominate, List.map_map, Function.comp_def,
        toL1Decimals_redenominate spoke]
  · rfl

theorem _getLatestRunningBalances_redenominate (bundleRefunds : Option (Settled (List CombinedRefunds)))
    (l1Token : Nat) (chains : List Nat) :
    (s.redenominate chainId token k)._getLatestRunningBalances (redenominateRefunds chainId token k bundleRefunds)
      l1Token chains = s._getLatestRunningBalances bundleRefunds l1Token chains := by
  have entries : ∀ chains : List Nat,
      (s.redenominate chainId token k).latestRunningBalanceEntries (redenominateRefunds chainId token k bundleRefunds)
        l1Token chains = s.latestRunningBalanceEntries bundleRefunds l1Token chains := by
    intro chains
    induction chains with
    | nil => rfl
    | cons c rest ih => simp only [latestRunningBalanceEntries, latestRunningBalance_redenominate spoke, ih]
  simp only [_getLatestRunningBalances, entries]

/-- Reading the refunds through re-denominated memos gives the same refunds per chain and
leaves the memos re-denominated. -/
theorem getBundleRefunds_redenominate (memos : Memos) (l1Token : Nat) :
    (s.redenominate chainId token k).getBundleRefunds (memos.redenominate chainId token k) l1Token =
      ((s.getBundleRefunds memos l1Token).1.redenominate chainId token k, (s.getBundleRefunds memos l1Token).2) := by
  obtain ⟨bundled, excess⟩ := memos
  rcases bundled with _ | _ | _
  · simp only [getBundleRefunds, Memos.redenominate, redenominateRefunds, Option.map_none', getAllBundleRefunds_redenominate]
    rcases s.getAllBundleRefunds with refunds | _ <;> simp [Settled.map, totalRefundsPerChain_redenominate spoke]
  · simp [getBundleRefunds, Memos.redenominate, redenominateRefunds, Settled.map, totalRefundsPerChain_redenominate spoke]
  · simp [getBundleRefunds, Memos.redenominate, redenominateRefunds, Settled.map]

theorem getExcessRunningBalancePcts_redenominate (memos : Memos) (l1Token : Nat) (refund : Int)
    (chains : List Nat) :
    (s.redenominate chainId token k).getExcessRunningBalancePcts (memos.redenominate chainId token k) l1Token refund
      chains = ((s.getExcessRunningBalancePcts memos l1Token refund chains).1.redenominate chainId token k,
        (s.getExcessRunningBalancePcts memos l1Token refund chains).2) := by
  obtain ⟨bundled, excess⟩ := memos
  rcases memo : excess l1Token with _ | promise
  · simp [getExcessRunningBalancePcts, Memos.redenominate, memo, _getLatestRunningBalances_redenominate spoke,
      _getExcessRunningBalancePcts_redenominate]
  · simp [getExcessRunningBalancePcts, Memos.redenominate, memo, _getExcessRunningBalancePcts_redenominate]

/-! ## The repayment chain selector -/

theorem refundChainEligible_redenominate (deposit : Deposit) (l1Token : Nat) (inputAmount : Int)
    (totalRefundsPerChain : ChainKeyed Int) :
    (s.redenominate chainId token k).refundChainEligible (deposit.redenominate chainId token k) l1Token inputAmount
      totalRefundsPerChain = s.refundChainEligible deposit l1Token inputAmount totalRefundsPerChain := by
  funext c
  simp only [refundChainEligible, redenominate_shortfall, toL1Decimals_redenominate spoke,
    getBalanceOnChain_redenominate spoke, getCumulativeBalance_redenominate spoke]
  rfl


theorem selectRefundChains_redenominate (blind : s.AmountBlind) (deposit : Deposit) (l1Token : Nat)
    (inputAmount : Int) (totalRefundsPerChain : ChainKeyed Int) (excessChains : List Nat) :
    (s.redenominate chainId token k).selectRefundChains (deposit.redenominate chainId token k) l1Token inputAmount
      totalRefundsPerChain excessChains =
      s.selectRefundChains deposit l1Token inputAmount totalRefundsPerChain excessChains := by
  simp only [selectRefundChains, chainsToEvaluate_redenominate blind, getPossibleRepaymentChainIds_redenominate blind,
    refundChainEligible_redenominate spoke, finalizeRefundChains_redenominate blind, redenominate_hubPoolClient,
    depositForcesOriginChainRepayment_redenominate blind]

/-- On a re-denominated client, memos and deposit the selector answers as before, and leaves the
memos re-denominated. -/
theorem determineRefundChainId_redenominate (blind : s.AmountBlind) (memos : Memos) (deposit : Deposit)
    (l1TokenArg : Option Nat) :
    (s.redenominate chainId token k).determineRefundChainId (memos.redenominate chainId token k)
      (deposit.redenominate chainId token k) l1TokenArg =
      ((s.determineRefundChainId memos deposit l1TokenArg).1.redenominate chainId token k,
        (s.determineRefundChainId memos deposit l1TokenArg).2) := by
  unfold determineRefundChainId
  rw [refundChainIdShortcut_redenominate blind]
  rcases s.refundChainIdShortcut deposit with _ | result
  · simp only [redenominate_getL1TokenAddress, Deposit.redenominate_inputToken, Deposit.redenominate_originChainId,
      Deposit.redenominate_inputAmount]
    rcases l1TokenArg.elim (s.getL1TokenAddress deposit.inputToken deposit.originChainId) .ok with e | l1Token
    · rfl
    · simp only [toL1Decimals_redenominate spoke, getBundleRefunds_redenominate spoke]
      rcases s.getBundleRefunds memos l1Token with ⟨memos₁, e | refunds⟩
      · rfl
      · simp only [getExcessRunningBalancePcts_redenominate spoke, selectRefundChains_redenominate spoke blind,
          depositForcesOriginChainRepayment_redenominate blind, redenominate_prioritizeLpUtilization,
          redenominate_getSlowWithdrawalRepaymentChains, redenominate_hubPoolClient]
        split
        · rcases s.getExcessRunningBalancePcts memos₁ l1Token _ _ with ⟨memos₂, e | pcts⟩ <;> rfl
        · rfl
  · rfl

end Redenominate

/-- Re-denominating a spoke token changes nothing the client computes from its amounts: the
balances and allocations, the rebalances planned, the excess running-balance percentages and
the repayment chains. -/
theorem redenominate_invariant (s : InventoryClient) (memos : Memos) (chainId token k : Nat)
    (spoke : chainId ≠ s.hubChainId) (blind : s.AmountBlind) :
    (s.redenominate chainId token k).getCumulativeBalance = s.getCumulativeBalance ∧
      (s.redenominate chainId token k).getBalanceOnChain = s.getBalanceOnChain ∧
      (s.redenominate chainId token k).getCurrentAllocationPct = s.getCurrentAllocationPct ∧
      (s.redenominate chainId token k).getPossibleRebalances = s.getPossibleRebalances ∧
      (∀ l1Token refund chains, ((s.redenominate chainId token k).getExcessRunningBalancePcts
        (memos.redenominate chainId token k) l1Token refund chains).2 =
          (s.getExcessRunningBalancePcts memos l1Token refund chains).2) ∧
      ∀ deposit l1Token, ((s.redenominate chainId token k).determineRefundChainId (memos.redenominate chainId token k)
        (deposit.redenominate chainId token k) l1Token).2 = (s.determineRefundChainId memos deposit l1Token).2 :=
  ⟨getCumulativeBalance_redenominate spoke, getBalanceOnChain_redenominate spoke,
    getCurrentAllocationPct_redenominate spoke, getPossibleRebalances_redenominate spoke,
    fun l1Token refund chains => by rw [getExcessRunningBalancePcts_redenominate spoke],
    fun deposit l1Token => by rw [determineRefundChainId_redenominate spoke blind]⟩

/-- The sample client with its spoke token at 24 decimals instead of 18 still holds 100 units
of the L1 token and still repays the lite-chain deposit on its origin. -/
theorem redenominate_invariant_twoChain :
    (twoChainClient.redenominate 10 200 6).getCumulativeBalance 100 = 100 * 10 ^ 18 ∧
      ((twoChainClient.redenominate 10 200 6).determineRefundChainId (Memos.empty.redenominate 10 200 6)
        (liteDeposit.redenominate 10 200 6) none).2 = .ok [10] := by
  obtain ⟨cumulative, -, -, -, -, selector⟩ := redenominate_invariant twoChainClient Memos.empty 10 200 6
    (by decide) ⟨fun _ _ => rfl, fun _ _ => rfl, fun _ _ => rfl⟩
  exact ⟨(congrFun cumulative 100).trans (by decide), (selector liteDeposit none).trans rfl⟩

end InventoryClient

/-! ## Over a client's lifetime -/

/-- An operation whose amounts of `token` on `chainId` are re-denominated. -/
def Operation.redenominate (chainId token k : Nat) : Operation → Operation
  | .update crossChainTransferClient => .update crossChainTransferClient
  | .clientsUpdated hubPoolClient tokenClient bundleDataClient adapterManager =>
    .clientsUpdated hubPoolClient (tokenClient.redenominate chainId token k)
      (bundleDataClient.redenominate chainId token k) adapterManager
  | .determineRefundChainId deposit l1Token => .determineRefundChainId (deposit.redenominate chainId token k) l1Token

theorem Operation.run_hubChainId (operation : Operation) (state : InventoryClient × Memos) :
    (operation.run state).1.hubChainId = state.1.hubChainId := by
  cases operation with
  | update => dsimp only [Operation.run]; split_ifs <;> rfl
  | clientsUpdated | determineRefundChainId => rfl

/-- One operation on re-denominated inputs leaves the client and its memos re-denominated. -/
theorem Operation.run_redenominate (operation : Operation) (s : InventoryClient) (memos : Memos)
    (chainId token k : Nat) (spoke : chainId ≠ s.hubChainId) (blind : s.AmountBlind) :
    (operation.redenominate chainId token k).run (s.redenominate chainId token k, memos.redenominate chainId token k) =
      ((operation.run (s, memos)).1.redenominate chainId token k, (operation.run (s, memos)).2.redenominate chainId token k) := by
  cases operation with
  | update =>
    simp only [Operation.redenominate, Operation.run, InventoryClient.redenominate_isInventoryManagementEnabled]
    split_ifs <;> rfl
  | clientsUpdated => rfl
  | determineRefundChainId deposit l1Token =>
    simp only [Operation.redenominate, Operation.run, InventoryClient.determineRefundChainId_redenominate spoke blind]

/-- Over any run whose states keep the deposit predicates amount-blind, re-denominating the
start and every operation's inputs re-denominates the end: the memos filled along the way hold
the same running balances and the re-denominated refunds. -/
theorem runOperations_redenominate {chainId token k : Nat} (state : InventoryClient × Memos)
    (operations : List Operation) (spoke : chainId ≠ state.1.hubChainId)
    (blind : ∀ before after, operations = before ++ after → (runOperations state before).1.AmountBlind) :
    runOperations (state.1.redenominate chainId token k, state.2.redenominate chainId token k)
        (operations.map (Operation.redenominate chainId token k)) =
      ((runOperations state operations).1.redenominate chainId token k,
        (runOperations state operations).2.redenominate chainId token k) := by
  induction operations generalizing state with
  | nil => rfl
  | cons operation rest ih =>
    have step := operation.run_redenominate state.1 state.2 chainId token k spoke (blind [] _ rfl)
    simp only [List.map_cons, runOperations, List.foldl_cons] at step ⊢
    rw [step]
    exact ih _ ((operation.run_hubChainId state).symm ▸ spoke) fun before after split =>
      blind (operation :: before) after (split ▸ rfl)

/-- A call for the hub deposit on the sample client, with chain 10's token `200` given 12 more
decimals, ends in the re-denominated client and memos. -/
theorem runOperations_redenominate_twoChain :
    10 ≠ twoChainClient.hubChainId ∧
      runOperations (twoChainClient.redenominate 10 200 12, Memos.empty.redenominate 10 200 12)
          ([Operation.determineRefundChainId hubDeposit none].map (Operation.redenominate 10 200 12)) =
        ((runOperations (twoChainClient, Memos.empty) [.determineRefundChainId hubDeposit none]).1.redenominate 10 200 12,
          (runOperations (twoChainClient, Memos.empty) [.determineRefundChainId hubDeposit none]).2.redenominate 10 200 12) :=
  have spoke : 10 ≠ twoChainClient.hubChainId := by decide
  have blindSample : twoChainClient.AmountBlind := ⟨fun _ _ => rfl, fun _ _ => rfl, fun _ _ => rfl⟩
  ⟨spoke, runOperations_redenominate (twoChainClient, Memos.empty) [.determineRefundChainId hubDeposit none] spoke
    fun before after split => by
      rcases List.append_eq_cons_iff.mp split.symm with ⟨rfl, -⟩ | ⟨rest, rfl, empty⟩
      · exact blindSample
      · rw [(List.append_eq_nil.mp empty.symm).1]
        exact blindSample⟩

end Relayer
