import Relayer.Accounting

/-! The L1→L2 rebalancer (§4.7). `getPossibleRebalances` plans a transfer to every configured
chain and L2 token whose allocation is under its threshold; `rebalanceInventoryIfNeeded` walks
the plan in order, keeps each rebalance the hub balance left over can cover, reserves it at once
with `trackCrossChainTransfer`, and submits the kept ones only after the walk. Over any plan and
any on-chain reads, what is kept of a token never exceeds its hub balance, the hub balance ends
lowered by exactly that, and a rebalance is turned away only when the balance left could not
cover it (`selectRebalances_budget`). -/
namespace Relayer

/-- `Rebalance`. -/
structure Rebalance where
  chainId : Nat
  l1Token : Nat
  l2Token : Nat
  currentAllocPct : Int
  thresholdPct : Int
  targetPct : Int
  balance : Int
  cumulativeBalance : Int
  amount : Int
  deriving DecidableEq, Repr

namespace InventoryClient

variable (s : InventoryClient)

/-- Lines 891–912, one chain and L2 token: the transfer that brings an allocation under its
threshold back to its target. -/
def plannedRebalance (l1Token : Nat) (cumulativeBalance : Int) (chainId l2Token : Nat) : Option Rebalance :=
  let currentAllocPct := s.getCurrentAllocationPct l1Token chainId l2Token
  match s.tokenBalanceConfig l1Token chainId l2Token with
  | none => none
  | some tokenConfig =>
    if tokenConfig.thresholdPct ≤ currentAllocPct then none else
    some { chainId := chainId, l1Token := l1Token, l2Token := l2Token, currentAllocPct := currentAllocPct
           thresholdPct := tokenConfig.thresholdPct, targetPct := tokenConfig.targetPct
           balance := s.tokenClient.balance s.hubChainId l1Token, cumulativeBalance := cumulativeBalance
           amount := bnDiv ((tokenConfig.targetPct - currentAllocPct) * cumulativeBalance) fixedPointAdjustment }

def getPossibleRebalances : List Rebalance :=
  s.getL1Tokens.flatMap fun l1Token =>
    let cumulativeBalance := s.getCumulativeBalance l1Token
    if cumulativeBalance = 0 then [] else
    (s.getEnabledL2Chains.filter (s._l1TokenEnabledForChain l1Token)).flatMap fun chainId =>
      (s.getRemoteTokensForL1Token l1Token chainId).filterMap (s.plannedRebalance l1Token cumulativeBalance chainId)

variable {s}

/-- A planned rebalance is for a configured chain and L2 token whose allocation is under its
threshold. -/
theorem plannedRebalance_eq_some {l1Token chainId l2Token : Nat} {cumulativeBalance : Int} {rebalance : Rebalance}
    (planned : s.plannedRebalance l1Token cumulativeBalance chainId l2Token = some rebalance) :
    ∃ tokenConfig, s.tokenBalanceConfig l1Token chainId l2Token = some tokenConfig ∧
      s.getCurrentAllocationPct l1Token chainId l2Token < tokenConfig.thresholdPct ∧
      rebalance.l1Token = l1Token ∧ rebalance.chainId = chainId ∧ rebalance.l2Token = l2Token := by
  unfold plannedRebalance at planned
  split at planned
  · cases planned
  · rename_i tokenConfig configured
    dsimp only at planned
    split_ifs at planned with under
    cases planned
    exact ⟨tokenConfig, configured, lt_of_not_le under, rfl, rfl, rfl⟩

/-- A planned rebalance records its config's threshold and target, and its amount is the
target's share of the cumulative balance above the current allocation. -/
theorem plannedRebalance_spec {l1Token chainId l2Token : Nat} {cumulativeBalance : Int} {rebalance : Rebalance}
    (planned : s.plannedRebalance l1Token cumulativeBalance chainId l2Token = some rebalance) :
    ∃ tokenConfig, s.tokenBalanceConfig l1Token chainId l2Token = some tokenConfig ∧
      s.getCurrentAllocationPct l1Token chainId l2Token < tokenConfig.thresholdPct ∧
      rebalance = ⟨chainId, l1Token, l2Token, s.getCurrentAllocationPct l1Token chainId l2Token,
        tokenConfig.thresholdPct, tokenConfig.targetPct, s.tokenClient.balance s.hubChainId l1Token, cumulativeBalance,
        bnDiv ((tokenConfig.targetPct - s.getCurrentAllocationPct l1Token chainId l2Token) * cumulativeBalance)
          fixedPointAdjustment⟩ := by
  unfold plannedRebalance at planned
  split at planned
  · cases planned
  · rename_i tokenConfig configured
    dsimp only at planned
    split_ifs at planned with under
    cases planned
    exact ⟨tokenConfig, configured, lt_of_not_le under, rfl⟩

theorem mem_getPossibleRebalances {rebalance : Rebalance} (held : rebalance ∈ s.getPossibleRebalances) :
    ∃ l1Token ∈ s.getL1Tokens, s.getCumulativeBalance l1Token ≠ 0 ∧
      ∃ chainId ∈ s.getEnabledL2Chains, s._l1TokenEnabledForChain l1Token chainId = true ∧
        ∃ l2Token ∈ s.getRemoteTokensForL1Token l1Token chainId,
          s.plannedRebalance l1Token (s.getCumulativeBalance l1Token) chainId l2Token = some rebalance := by
  obtain ⟨l1Token, token, held⟩ := List.mem_flatMap.mp held
  dsimp only at held
  split_ifs at held with zero
  · cases held
  obtain ⟨chainId, chain, held⟩ := List.mem_flatMap.mp held
  obtain ⟨l2Token, remote, planned⟩ := List.mem_filterMap.mp held
  exact ⟨l1Token, token, zero, chainId, (List.mem_filter.mp chain).1, (List.mem_filter.mp chain).2, l2Token,
    remote, planned⟩

end InventoryClient

/-- The arrays the selection loop of `rebalanceInventoryIfNeeded` fills, and the client as the
loop's reservations leave it. -/
structure Selection where
  client : InventoryClient
  possibleRebalances : List Rebalance
  unexecutedRebalances : List Rebalance

/-- Lines 952–984, one rebalance. `currentBalance` is the hub balance `balanceOf` returns when
the loop asks for it; a rebalance whose planned balance no longer matches is skipped. -/
def selectStep (selection : Selection) (rebalance : Rebalance) (currentBalance : Int) : Selection :=
  let unallocatedBalance := selection.client.tokenClient.balance selection.client.hubChainId rebalance.l1Token
  if rebalance.amount ≤ unallocatedBalance then
    if rebalance.balance = currentBalance then
      { selection with
        client := selection.client.trackCrossChainTransfer rebalance.l1Token rebalance.l2Token rebalance.amount
          rebalance.chainId
        possibleRebalances := selection.possibleRebalances ++ [rebalance] }
    else selection
  else { selection with unexecutedRebalances := selection.unexecutedRebalances ++ [rebalance] }

/-- The selection loop over a plan, each rebalance with the on-chain balance read for it. -/
def selectRebalances : Selection → List (Rebalance × Int) → Selection
  | selection, [] => selection
  | selection, (rebalance, currentBalance) :: rest => selectRebalances (selectStep selection rebalance currentBalance) rest

/-- Submissions in order until the first that fails (`succeeds` by position): it throws, and the
`catch` of the pass ends it. -/
def submitInOrder {α : Type} (succeeds : Nat → Bool) : Nat → List α → List α
  | _, [] => []
  | index, x :: rest => if succeeds index then x :: submitInOrder succeeds (index + 1) rest else []

namespace InventoryClient

variable (s : InventoryClient)

/-- `rebalanceInventoryIfNeeded`: the selection (its client carries the reservations) and the
rebalances submitted. `onChainBalance i` is the hub balance read at the `i`-th planned
rebalance, and the `i`-th submission succeeds when `sendSucceeds i`. -/
def rebalanceInventoryIfNeeded (onChainBalance : Nat → Int) (sendSucceeds : Nat → Bool) :
    Selection × List Rebalance :=
  if !s.isInventoryManagementEnabled then (⟨s, [], []⟩, []) else
  let rebalancesRequired := s.getPossibleRebalances
  if rebalancesRequired.isEmpty then (⟨s, [], []⟩, []) else
  let selection := selectRebalances ⟨s, [], []⟩
    (rebalancesRequired.enum.map fun entry => (entry.2, onChainBalance entry.1))
  (selection, submitInOrder sendSucceeds 0 selection.possibleRebalances)

end InventoryClient

/-! ## The hub balance over the selection loop -/

/-- The amount kept so far for `l1Token`. -/
def Selection.selectedAmount (selection : Selection) (l1Token : Nat) : Int :=
  ((selection.possibleRebalances.filter (·.l1Token = l1Token)).map (·.amount)).sum

/-- The amount kept so far for transfers of `l1Token` to `chainId`, of `l2Token` when given. -/
def Selection.transferredAmount (selection : Selection) (chainId l1Token : Nat) (l2Token : Option Nat) : Int :=
  ((selection.possibleRebalances.filter fun rebalance => chainId = rebalance.chainId ∧
    l1Token = rebalance.l1Token ∧ (l2Token = none ∨ l2Token = some rebalance.l2Token)).map (·.amount)).sum

/-- Every rebalance the loop kept is reserved in the client: its amount is out of the hub
balance of `s` and in the transfers outstanding to its chain. -/
def Reserved (s : InventoryClient) (selection : Selection) : Prop :=
  selection.client.hubChainId = s.hubChainId ∧
  (∀ c t, selection.client.tokenClient.balance c t =
    s.tokenClient.balance c t - if c = s.hubChainId then selection.selectedAmount t else 0) ∧
  ∀ c t l2, selection.client.crossChainTransferClient.outstanding c t l2 =
    s.crossChainTransferClient.outstanding c t l2 + selection.transferredAmount c t l2

section Budget

variable {s : InventoryClient} {selection : Selection} {rebalance : Rebalance} {currentBalance : Int}

theorem selectedAmount_push (client : InventoryClient) (unexecuted : List Rebalance) (l1Token : Nat) :
    (⟨client, selection.possibleRebalances ++ [rebalance], unexecuted⟩ : Selection).selectedAmount l1Token =
      selection.selectedAmount l1Token + if rebalance.l1Token = l1Token then rebalance.amount else 0 := by
  by_cases same : rebalance.l1Token = l1Token <;> simp [Selection.selectedAmount, same]

theorem transferredAmount_push (client : InventoryClient) (unexecuted : List Rebalance) (c t : Nat)
    (l2 : Option Nat) :
    (⟨client, selection.possibleRebalances ++ [rebalance], unexecuted⟩ : Selection).transferredAmount c t l2 =
      selection.transferredAmount c t l2 +
        if c = rebalance.chainId ∧ t = rebalance.l1Token ∧ (l2 = none ∨ l2 = some rebalance.l2Token)
        then rebalance.amount else 0 := by
  by_cases hit : c = rebalance.chainId ∧ t = rebalance.l1Token ∧ (l2 = none ∨ l2 = some rebalance.l2Token) <;>
    simp [Selection.transferredAmount, List.filter_append, hit]

theorem Reserved.hub_balance (reserved : Reserved s selection) (l1Token : Nat) :
    selection.client.tokenClient.balance selection.client.hubChainId l1Token =
      s.tokenClient.balance s.hubChainId l1Token - selection.selectedAmount l1Token := by
  rw [reserved.1, reserved.2.1, if_pos rfl]

theorem selectStep_reserved (reserved : Reserved s selection) :
    Reserved s (selectStep selection rebalance currentBalance) := by
  obtain ⟨hub, balances, transfers⟩ := reserved
  dsimp only [selectStep]
  split_ifs
  · refine ⟨hub, fun c t => ?_, fun c t l2 => ?_⟩
    · rw [selectedAmount_push]
      by_cases same : rebalance.l1Token = t
      · by_cases atHub : c = s.hubChainId <;>
          simp [InventoryClient.trackCrossChainTransfer, hub, atHub, same, balances, sub_sub]
      · simp [InventoryClient.trackCrossChainTransfer, Ne.symm same, same, balances]
    · rw [transferredAmount_push]
      by_cases hit : c = rebalance.chainId ∧ t = rebalance.l1Token ∧ (l2 = none ∨ l2 = some rebalance.l2Token) <;>
        simp [InventoryClient.trackCrossChainTransfer, hit, transfers, add_assoc]
  · exact ⟨hub, balances, transfers⟩
  · exact ⟨hub, balances, transfers⟩

theorem selectRebalances_reserved (reserved : Reserved s selection) :
    ∀ steps, Reserved s (selectRebalances selection steps) := by
  intro steps
  induction steps generalizing selection with
  | nil => exact reserved
  | cons step rest ih => exact ih (selectStep_reserved reserved)

/-- A rebalance is kept only when the hub balance left covers it, so what is kept of a token
stays within its starting hub balance. -/
theorem selectStep_within {l1Token : Nat} (reserved : Reserved s selection)
    (within : selection.selectedAmount l1Token ≤ s.tokenClient.balance s.hubChainId l1Token) :
    (selectStep selection rebalance currentBalance).selectedAmount l1Token ≤
      s.tokenClient.balance s.hubChainId l1Token := by
  dsimp only [selectStep]
  split_ifs with covered
  · rw [selectedAmount_push]
    split_ifs with same
    · rw [reserved.hub_balance, same] at covered
      linarith
    · simpa using within
  · exact within
  · exact within

theorem selectRebalances_within {l1Token : Nat} (reserved : Reserved s selection)
    (within : selection.selectedAmount l1Token ≤ s.tokenClient.balance s.hubChainId l1Token) :
    ∀ steps, (selectRebalances selection steps).selectedAmount l1Token ≤
      s.tokenClient.balance s.hubChainId l1Token := by
  intro steps
  induction steps generalizing selection with
  | nil => exact within
  | cons step rest ih => exact ih (selectStep_reserved reserved) (selectStep_within reserved within)

/-- Turned away: the step appended the rebalance to the unexecuted ones, which happens only
when it asks for more than the hub balance left. -/
theorem selectStep_unexecuted (reserved : Reserved s selection)
    (recorded : (selectStep selection rebalance currentBalance).unexecutedRebalances =
      selection.unexecutedRebalances ++ [rebalance]) :
    s.tokenClient.balance s.hubChainId rebalance.l1Token - selection.selectedAmount rebalance.l1Token <
      rebalance.amount := by
  dsimp only [selectStep] at recorded
  split_ifs at recorded with covered <;> simp at recorded
  rw [reserved.hub_balance] at covered
  exact lt_of_not_le covered

/-- The loop starts from the client with nothing kept. -/
theorem reserved_start (s : InventoryClient) : Reserved s ⟨s, [], []⟩ :=
  ⟨rfl, fun _ _ => by simp [Selection.selectedAmount], fun _ _ _ => by simp [Selection.transferredAmount]⟩

end Budget

/-- Over any plan and any on-chain reads, from a hub balance that is not negative (the hub's part
of `NonnegativeAmounts`, the precondition on on-chain amounts used throughout): (1) the
rebalances kept of a token sum to at most its starting hub balance; (2) the loop leaves that
balance lowered by exactly their sum; (3) a rebalance is turned away only when it asks for more
than the balance left after the rebalances of its token kept before it. -/
theorem selectRebalances_budget (s : InventoryClient) (steps : List (Rebalance × Int)) (l1Token : Nat)
    (funded : 0 ≤ s.tokenClient.balance s.hubChainId l1Token) :
    (selectRebalances ⟨s, [], []⟩ steps).selectedAmount l1Token ≤ s.tokenClient.balance s.hubChainId l1Token ∧
    (selectRebalances ⟨s, [], []⟩ steps).client.tokenClient.balance s.hubChainId l1Token =
      s.tokenClient.balance s.hubChainId l1Token - (selectRebalances ⟨s, [], []⟩ steps).selectedAmount l1Token ∧
    ∀ pre rebalance currentBalance post, steps = pre ++ (rebalance, currentBalance) :: post →
      rebalance.l1Token = l1Token →
      (selectStep (selectRebalances ⟨s, [], []⟩ pre) rebalance currentBalance).unexecutedRebalances =
        (selectRebalances ⟨s, [], []⟩ pre).unexecutedRebalances ++ [rebalance] →
      s.tokenClient.balance s.hubChainId l1Token - (selectRebalances ⟨s, [], []⟩ pre).selectedAmount l1Token <
        rebalance.amount := by
  have reserved := selectRebalances_reserved (reserved_start s) steps
  refine ⟨selectRebalances_within (reserved_start s) (by simpa [Selection.selectedAmount] using funded) steps,
    by rw [reserved.2.1, if_pos rfl], fun pre rebalance currentBalance _ _ token recorded => ?_⟩
  subst token
  exact selectStep_unexecuted (selectRebalances_reserved (reserved_start s) pre) recorded

/-- Rebalances of 50, 40 and 30 units of the L1 token to chain 10, planned against the hub
balance of 80 units and read back unchanged on chain. -/
def budgetScenario : List (Rebalance × Int) :=
  [50, 40, 30].map fun units =>
    (⟨10, 100, 200, 2 * 10 ^ 17, 25 * 10 ^ 16, 5 * 10 ^ 17, 80 * 10 ^ 18, 100 * 10 ^ 18, units * 10 ^ 18⟩, 80 * 10 ^ 18)

theorem selectRebalances_budget_scenario :
    0 ≤ twoChainClient.tokenClient.balance twoChainClient.hubChainId 100 ∧
      (selectRebalances ⟨twoChainClient, [], []⟩ budgetScenario).selectedAmount 100 ≤
        twoChainClient.tokenClient.balance twoChainClient.hubChainId 100 :=
  have funded := InventoryClient.twoChainClient_nonnegativeAmounts.1 twoChainClient.hubChainId 100
  ⟨funded, (selectRebalances_budget twoChainClient budgetScenario 100 funded).1⟩

/-- The 40 is turned away with 30 left, and the 30 is kept. -/
example : ((selectRebalances ⟨twoChainClient, [], []⟩ budgetScenario).possibleRebalances.map (·.amount),
    (selectRebalances ⟨twoChainClient, [], []⟩ budgetScenario).unexecutedRebalances.map (·.amount)) =
      ([50 * 10 ^ 18, 30 * 10 ^ 18], [40 * 10 ^ 18]) := by decide

/-! ## Where a rebalance leaves the allocation -/

/-- The arithmetic of a rebalance: from an allocation `bnDiv (balance * 10^18) cumulative`
under a target that is not negative, adding the planned amount to the balance lands the
allocation in `[target - 10^18 / cumulative - 2, target]`. -/
theorem allocation_after_planned {balance cumulative target : Int} (positive : 0 < cumulative)
    (nonneg : 0 ≤ target) (under : bnDiv (balance * fixedPointAdjustment) cumulative < target) :
    target - fixedPointAdjustment / cumulative - 2 ≤
        bnDiv ((balance + bnDiv ((target - bnDiv (balance * fixedPointAdjustment) cumulative) * cumulative)
          fixedPointAdjustment) * fixedPointAdjustment) cumulative ∧
      bnDiv ((balance + bnDiv ((target - bnDiv (balance * fixedPointAdjustment) cumulative) * cumulative)
          fixedPointAdjustment) * fixedPointAdjustment) cumulative ≤ target := by
  set current := bnDiv (balance * fixedPointAdjustment) cumulative
  set amount := bnDiv ((target - current) * cumulative) fixedPointAdjustment
  have scale := fixedPointAdjustment_pos
  have before := bnDiv_bounds positive (balance * fixedPointAdjustment)
  have planned := bnDiv_bounds scale ((target - current) * cumulative)
  have floor : bnDiv ((target - current) * cumulative) fixedPointAdjustment * fixedPointAdjustment ≤
      (target - current) * cumulative := by
    rw [bnDiv_of_nonneg (mul_nonneg (by omega) positive.le) scale.le]
    exact Int.ediv_mul_le _ scale.ne'
  constructor
  · have after := bnDiv_bounds positive ((balance + amount) * fixedPointAdjustment)
    have share := Int.lt_ediv_add_one_mul_self fixedPointAdjustment positive
    have scaled : (target - fixedPointAdjustment / cumulative - 2) * cumulative <
        (bnDiv ((balance + amount) * fixedPointAdjustment) cumulative + 1) * cumulative := by
      linarith
    have := lt_of_mul_lt_mul_right scaled positive.le
    omega
  · exact bnDiv_le_of_lt_mul positive nonneg (by linarith)

/-- A rebalance `getPossibleRebalances` plans, once reserved by `trackCrossChainTransfer` with
the hub chain enabled, brings its chain and L2 token to the target from below: the allocation
ends at most at the target and less than `10^18 / cumulative + 2` under it. -/
theorem rebalance_reaches_target (s : InventoryClient) (hubEnabled : s.hubChainId ∈ s.chainIdList)
    {rebalance : Rebalance} (held : rebalance ∈ s.getPossibleRebalances)
    (positive : 0 < s.getCumulativeBalance rebalance.l1Token) (nonneg : 0 ≤ rebalance.thresholdPct)
    (ordered : rebalance.thresholdPct ≤ rebalance.targetPct) :
    rebalance.targetPct - fixedPointAdjustment / s.getCumulativeBalance rebalance.l1Token - 2 ≤
        (s.trackCrossChainTransfer rebalance.l1Token rebalance.l2Token rebalance.amount
          rebalance.chainId).getCurrentAllocationPct rebalance.l1Token rebalance.chainId rebalance.l2Token ∧
      (s.trackCrossChainTransfer rebalance.l1Token rebalance.l2Token rebalance.amount
          rebalance.chainId).getCurrentAllocationPct rebalance.l1Token rebalance.chainId rebalance.l2Token ≤
        rebalance.targetPct := by
  obtain ⟨l1Token, -, -, chainId, l2Chain, -, l2Token, -, planned⟩ := InventoryClient.mem_getPossibleRebalances held
  obtain ⟨tokenConfig, -, under, rfl⟩ := InventoryClient.plannedRebalance_spec planned
  obtain ⟨enabled, spoke⟩ := List.mem_filter.mp l2Chain
  dsimp only at positive nonneg ordered ⊢
  have current : s.getCurrentAllocationPct l1Token chainId l2Token =
      bnDiv ((s.getBalanceOnChain chainId l1Token (some l2Token) -
        s.toL1Decimals chainId l2Token l1Token (s.tokenClient.shortfall chainId l2Token)) * fixedPointAdjustment)
        (s.getCumulativeBalance l1Token) := by
    simp [InventoryClient.getCurrentAllocationPct, positive.ne']
  rw [InventoryClient.getCurrentAllocationPct_trackCrossChainTransfer (of_decide_eq_true spoke) enabled hubEnabled,
    if_neg positive.ne', current]
  rw [current] at under
  exact allocation_after_planned positive (nonneg.trans ordered) (under.trans_le ordered)

/-- The one rebalance the sample plans: chain 10 holds 20% of the token against a 25%
threshold, and 30 units take it to its 50% target. -/
def twoChainRebalance : Rebalance :=
  ⟨10, 100, 200, 2 * 10 ^ 17, 25 * 10 ^ 16, 5 * 10 ^ 17, 80 * 10 ^ 18, 100 * 10 ^ 18, 30 * 10 ^ 18⟩

theorem rebalance_reaches_target_twoChain :
    (twoChainClient.hubChainId ∈ twoChainClient.chainIdList ∧
      twoChainRebalance ∈ twoChainClient.getPossibleRebalances ∧
      0 < twoChainClient.getCumulativeBalance twoChainRebalance.l1Token ∧
      0 ≤ twoChainRebalance.thresholdPct ∧ twoChainRebalance.thresholdPct ≤ twoChainRebalance.targetPct) ∧
    (twoChainClient.trackCrossChainTransfer 100 200 (30 * 10 ^ 18) 10).getCurrentAllocationPct 100 10 200 ≤
      twoChainRebalance.targetPct :=
  have hubEnabled : twoChainClient.hubChainId ∈ twoChainClient.chainIdList := by decide
  have held : twoChainRebalance ∈ twoChainClient.getPossibleRebalances := by decide
  have positive : 0 < twoChainClient.getCumulativeBalance twoChainRebalance.l1Token := by decide
  have nonneg : 0 ≤ twoChainRebalance.thresholdPct := by decide
  have ordered : twoChainRebalance.thresholdPct ≤ twoChainRebalance.targetPct := by decide
  ⟨⟨hubEnabled, held, positive, nonneg, ordered⟩,
    (rebalance_reaches_target twoChainClient hubEnabled held positive nonneg ordered).2⟩

end Relayer
