import Relayer.Rebalancing
import Relayer.RepaymentSelection

/-! The L2→L1 excess withdrawals (§4.8). `withdrawExcessBalances` plans, for every configured
chain and L2 token with a withdrawal period, a withdrawal of the allocation above the target
once the allocation reaches the target times the discounted overage buffer. That trigger lies
between the target and the repayment selector's effective target, so for a config whose
threshold is under its target a chain is never both rebalanced to and withdrawn from
(`rebalance_withdrawal_exclusive`). -/
namespace Relayer

/-- `L2Withdrawal`. -/
structure L2Withdrawal where
  l2Token : Nat
  amountToWithdraw : Int
  deriving DecidableEq, Repr

/-- `discountToTargetOverageBuffer`, 95%. -/
def discountToTargetOverageBuffer : Int := 95 * 10 ^ 16

def targetPctMultiplier (targetOverageBuffer : Int) : Int :=
  bnDiv (targetOverageBuffer * discountToTargetOverageBuffer) fixedPointAdjustment

def excessWithdrawThresholdPct (targetPct multiplier : Int) : Int :=
  bnDiv (targetPct * multiplier) fixedPointAdjustment

/-- `forEachAsync` whose callbacks push into one array: every push, or a rejection. The
callbacks run concurrently, so the order of the pushes is the order of the list only up to
timing; the model takes the list order. -/
def forEachPush {α β : Type} :
    List β → (β → Except InventoryError (List α)) → Except InventoryError (List α)
  | [], _ => .ok []
  | x :: rest, callback =>
    match callback x, forEachPush rest callback with
    | .error e, _ => .error e
    | .ok _, .error e => .error e
    | .ok pushed, .ok later => .ok (pushed ++ later)

theorem mem_forEachPush {α β : Type} {callback : β → Except InventoryError (List α)} {y : α} :
    ∀ {xs : List β} {pushes : List α}, forEachPush xs callback = .ok pushes → y ∈ pushes →
      ∃ x ∈ xs, ∃ pushed, callback x = .ok pushed ∧ y ∈ pushed
  | [], pushes, done, held => by
    cases done
    cases held
  | x :: rest, pushes, done, held => by
    unfold forEachPush at done
    split at done
    · cases done
    · cases done
    · rename_i pushed later first restDone
      cases done
      rcases List.mem_append.mp held with held | held
      · exact ⟨x, List.mem_cons_self _ _, pushed, first, held⟩
      · obtain ⟨x', member, pushed', called, inside⟩ := mem_forEachPush restDone held
        exact ⟨x', List.mem_cons_of_mem _ member, pushed', called, inside⟩

namespace InventoryClient

variable (s : InventoryClient)

/-- Lines 1275–1357, one L1 token, chain and L2 token: the withdrawal it plans, if any. An
adapter missing for the chain and a config without an overage buffer are reads of `undefined`. -/
def excessWithdrawal (l1Token chainId l2Token : Nat) : Except InventoryError (Option L2Withdrawal) :=
  let l2BalanceFromL1Decimals :=
    convertDecimals (s.constants.decimals l1Token s.hubChainId) (s.constants.decimals l2Token chainId)
  match s.tokenBalanceConfig l1Token chainId l2Token with
  | none => .ok none
  | some tokenConfig =>
    match tokenConfig.withdrawExcessPeriod with
    | none => .ok none
    | some withdrawExcessPeriod =>
      match s.adapterManager.isSupportedL2Bridge chainId with
      | none => .error .rejected
      | some isSupportedL2Bridge =>
        if !isSupportedL2Bridge l1Token then .ok none else
        let currentAllocPct := s.getCurrentAllocationPct l1Token chainId l2Token
        match tokenConfig.targetOverageBuffer with
        | none => .error .rejected
        | some targetOverageBuffer =>
          let multiplier := targetPctMultiplier targetOverageBuffer
          if multiplier < fixedPointAdjustment then .error (.targetPctMultiplierTooLow multiplier) else
          let excessThresholdPct := excessWithdrawThresholdPct tokenConfig.targetPct multiplier
          if currentAllocPct < excessThresholdPct then .ok none else
          let withdrawPct := currentAllocPct - tokenConfig.targetPct
          let cumulativeBalanceInL2TokenDecimals := l2BalanceFromL1Decimals (s.getCumulativeBalance l1Token)
          let desiredWithdrawalAmount :=
            bnDiv (cumulativeBalanceInL2TokenDecimals * withdrawPct) fixedPointAdjustment
          let maxL2WithdrawalVolume :=
            bnDiv ((excessThresholdPct - tokenConfig.targetPct) * cumulativeBalanceInL2TokenDecimals)
              fixedPointAdjustment
          match s.adapterManager.l2PendingWithdrawalAmount withdrawExcessPeriod chainId l2Token with
          | none => .error .rejected
          | some pendingWithdrawalAmount =>
            if maxL2WithdrawalVolume ≤ pendingWithdrawalAmount then .ok none
            else .ok (some ⟨l2Token, desiredWithdrawalAmount⟩)

/-- Lines 1249–1360: `withdrawalsRequired`, each withdrawal with its chain. -/
def withdrawalsRequired : Except InventoryError (List (Nat × L2Withdrawal)) :=
  if !s.isInventoryManagementEnabled then .ok [] else
  forEachPush s.getL1Tokens fun l1Token =>
    if s.getCumulativeBalance l1Token = 0 then .ok [] else
    forEachPush s.getEnabledL2Chains fun chainId =>
      if chainId = s.hubChainId ∨ s._l1TokenEnabledForChain l1Token chainId = false then .ok [] else
      forEachPush (s.getRemoteTokensForL1Token l1Token chainId) fun l2Token =>
        match s.excessWithdrawal l1Token chainId l2Token with
        | .error e => .error e
        | .ok none => .ok []
        | .ok (some withdrawal) => .ok [(chainId, withdrawal)]

/-- `withdrawExcessBalances`: the client, which the pass does not write, the withdrawals
submitted, and how the pass settles; it has no `catch`. A throw while planning rejects it before
any submission. The submissions run concurrently, so each is made whether or not another fails
(the `i`-th succeeds when `withdrawSucceeds i`), and the pass rejects when any of them does. -/
def withdrawExcessBalances (withdrawSucceeds : Nat → Bool) :
    InventoryClient × List (Nat × L2Withdrawal) × Except InventoryError Unit :=
  match s.withdrawalsRequired with
  | .error e => (s, [], .error e)
  | .ok plan =>
    (s, (plan.enum.filter fun entry => withdrawSucceeds entry.1).map Prod.snd,
      if plan.enum.all fun entry => withdrawSucceeds entry.1 then .ok () else .error .rejected)

variable {s}

/-- A planned withdrawal passed the assertion on the multiplier and found the allocation at or
above the trigger; it withdraws the allocation above the target, of the cumulative balance in
the L2 token's decimals. -/
theorem excessWithdrawal_planned {l1Token chainId l2Token : Nat} {withdrawal : L2Withdrawal}
    (planned : s.excessWithdrawal l1Token chainId l2Token = .ok (some withdrawal)) :
    ∃ tokenConfig targetOverageBuffer, s.tokenBalanceConfig l1Token chainId l2Token = some tokenConfig ∧
      tokenConfig.targetOverageBuffer = some targetOverageBuffer ∧
      fixedPointAdjustment ≤ targetPctMultiplier targetOverageBuffer ∧
      excessWithdrawThresholdPct tokenConfig.targetPct (targetPctMultiplier targetOverageBuffer) ≤
        s.getCurrentAllocationPct l1Token chainId l2Token ∧
      withdrawal = ⟨l2Token, bnDiv (convertDecimals (s.constants.decimals l1Token s.hubChainId)
        (s.constants.decimals l2Token chainId) (s.getCumulativeBalance l1Token) *
          (s.getCurrentAllocationPct l1Token chainId l2Token - tokenConfig.targetPct)) fixedPointAdjustment⟩ := by
  unfold excessWithdrawal at planned
  dsimp only at planned
  split at planned
  · cases planned
  rename_i tokenConfig configured
  split at planned
  · cases planned
  split at planned
  · cases planned
  split_ifs at planned
  · cases planned
  split at planned
  · cases planned
  rename_i targetOverageBuffer buffered
  by_cases tooLow : targetPctMultiplier targetOverageBuffer < fixedPointAdjustment
  · simp [tooLow] at planned
  by_cases under : s.getCurrentAllocationPct l1Token chainId l2Token <
      excessWithdrawThresholdPct tokenConfig.targetPct (targetPctMultiplier targetOverageBuffer)
  · simp [tooLow, under] at planned
  refine ⟨tokenConfig, targetOverageBuffer, configured, buffered, le_of_not_lt tooLow, le_of_not_lt under, ?_⟩
  simp only [tooLow, under, if_false] at planned
  split at planned
  · cases planned
  · split_ifs at planned <;> cases planned
    rfl

/-- Every withdrawal the pass plans on a chain is the one `excessWithdrawal` plans there for some
L1 token and the withdrawal's L2 token. -/
theorem mem_withdrawalsRequired {plan : List (Nat × L2Withdrawal)} (planned : s.withdrawalsRequired = .ok plan)
    {chainId : Nat} {withdrawal : L2Withdrawal} (held : (chainId, withdrawal) ∈ plan) :
    ∃ l1Token ∈ s.getL1Tokens, s.excessWithdrawal l1Token chainId withdrawal.l2Token = .ok (some withdrawal) := by
  unfold withdrawalsRequired at planned
  split_ifs at planned
  · cases planned
    cases held
  obtain ⟨l1Token, token, perToken, tokenPlanned, held⟩ := mem_forEachPush planned held
  split_ifs at tokenPlanned
  · cases tokenPlanned
    cases held
  obtain ⟨c, -, perChain, chainPlanned, held⟩ := mem_forEachPush tokenPlanned held
  split_ifs at chainPlanned
  · cases chainPlanned
    cases held
  obtain ⟨l2Token, -, pushed, l2Planned, held⟩ := mem_forEachPush chainPlanned held
  split at l2Planned
  · cases l2Planned
  · cases l2Planned
    cases held
  · rename_i found decided
    cases l2Planned
    obtain ⟨rfl, rfl⟩ := Prod.mk.inj (List.mem_singleton.mp held)
    obtain ⟨_, -, -, -, -, -, same⟩ := excessWithdrawal_planned decided
    rw [show withdrawal.l2Token = l2Token from congrArg L2Withdrawal.l2Token same]
    exact ⟨l1Token, token, decided⟩

end InventoryClient

/-! ## The trigger against the thresholds -/

/-- A multiplier that passes the assertion is at most the buffer it discounts. -/
theorem targetPctMultiplier_le {targetOverageBuffer : Int}
    (passes : fixedPointAdjustment ≤ targetPctMultiplier targetOverageBuffer) :
    targetPctMultiplier targetOverageBuffer ≤ targetOverageBuffer := by
  unfold targetPctMultiplier at *
  have scale := fixedPointAdjustment_pos
  have positive : 0 ≤ targetOverageBuffer := by
    by_contra negative
    have := bnDiv_nonpos (show targetOverageBuffer * discountToTargetOverageBuffer ≤ 0 by
      unfold discountToTargetOverageBuffer; nlinarith) scale.le
    omega
  exact bnDiv_le_of_le_mul scale positive (by unfold discountToTargetOverageBuffer fixedPointAdjustment; nlinarith)

theorem le_excessWithdrawThresholdPct {targetPct multiplier : Int} (nonneg : 0 ≤ targetPct)
    (passes : fixedPointAdjustment ≤ multiplier) : targetPct ≤ excessWithdrawThresholdPct targetPct multiplier := by
  have scale := fixedPointAdjustment_pos
  calc targetPct = bnDiv (targetPct * fixedPointAdjustment) fixedPointAdjustment := by
        rw [bnDiv_of_nonneg (mul_nonneg nonneg scale.le) scale.le, Int.mul_ediv_cancel _ scale.ne']
    _ ≤ excessWithdrawThresholdPct targetPct multiplier :=
        bnDiv_mono (mul_le_mul_of_nonneg_left passes nonneg) (mul_nonneg nonneg scale.le) scale

/-- The trigger is at most the effective target the repayment selector allows a chain other
than a lite destination. -/
theorem excessWithdrawThresholdPct_le_effectiveTargetPct {tokenConfig : TokenBalanceConfig}
    {targetOverageBuffer : Int} (nonneg : 0 ≤ tokenConfig.targetPct)
    (buffered : tokenConfig.targetOverageBuffer = some targetOverageBuffer)
    (passes : fixedPointAdjustment ≤ targetPctMultiplier targetOverageBuffer) :
    excessWithdrawThresholdPct tokenConfig.targetPct (targetPctMultiplier targetOverageBuffer) ≤
      effectiveTargetPct false tokenConfig := by
  have scale := fixedPointAdjustment_pos
  simp only [effectiveTargetPct, Bool.false_eq_true, ↓reduceIte, buffered, Option.getD_some]
  exact bnDiv_mono (mul_le_mul_of_nonneg_left (targetPctMultiplier_le passes) nonneg)
    (mul_nonneg nonneg (scale.le.trans passes)) scale

/-- For a config with `0 ≤ thresholdPct ≤ targetPct`: a chain and L2 token that
`getPossibleRebalances` plans to rebalance has no withdrawal planned for the same L1 token; and
once the multiplier passes its assertion, the trigger lies between the target and the effective
target. -/
theorem rebalance_withdrawal_exclusive (s : InventoryClient) {l1Token chainId l2Token : Nat}
    {tokenConfig : TokenBalanceConfig}
    (configured : s.tokenBalanceConfig l1Token chainId l2Token = some tokenConfig)
    (nonneg : 0 ≤ tokenConfig.thresholdPct) (ordered : tokenConfig.thresholdPct ≤ tokenConfig.targetPct) :
    (∀ rebalance ∈ s.getPossibleRebalances, rebalance.l1Token = l1Token → rebalance.chainId = chainId →
      rebalance.l2Token = l2Token → ∀ withdrawal, s.excessWithdrawal l1Token chainId l2Token ≠ .ok (some withdrawal)) ∧
    ∀ targetOverageBuffer, tokenConfig.targetOverageBuffer = some targetOverageBuffer →
      fixedPointAdjustment ≤ targetPctMultiplier targetOverageBuffer →
      tokenConfig.targetPct ≤ excessWithdrawThresholdPct tokenConfig.targetPct (targetPctMultiplier targetOverageBuffer) ∧
      excessWithdrawThresholdPct tokenConfig.targetPct (targetPctMultiplier targetOverageBuffer) ≤
        effectiveTargetPct false tokenConfig := by
  have targetNonneg := nonneg.trans ordered
  refine ⟨fun rebalance held token chain l2 withdrawal planned => ?_, fun targetOverageBuffer buffered passes =>
    ⟨le_excessWithdrawThresholdPct targetNonneg passes,
      excessWithdrawThresholdPct_le_effectiveTargetPct targetNonneg buffered passes⟩⟩
  obtain ⟨token', -, -, chain', -, -, l2', -, rebalancePlanned⟩ := InventoryClient.mem_getPossibleRebalances held
  obtain ⟨rebalanceConfig, rebalanceConfigured, under, rfl, rfl, rfl⟩ :=
    InventoryClient.plannedRebalance_eq_some rebalancePlanned
  obtain ⟨withdrawalConfig, targetOverageBuffer, withdrawalConfigured, -, passes, over, -⟩ :=
    InventoryClient.excessWithdrawal_planned planned
  subst token chain l2
  rw [configured] at rebalanceConfigured withdrawalConfigured
  cases rebalanceConfigured
  cases withdrawalConfigured
  have trigger := le_excessWithdrawThresholdPct targetNonneg passes
  omega

theorem rebalance_withdrawal_exclusive_twoChain :
    twoChainClient.tokenBalanceConfig 100 10 200 = some ⟨5 * 10 ^ 17, 25 * 10 ^ 16, none, none, none, none⟩ ∧
      ∀ rebalance ∈ twoChainClient.getPossibleRebalances, rebalance.l1Token = 100 → rebalance.chainId = 10 →
        rebalance.l2Token = 200 → ∀ withdrawal, twoChainClient.excessWithdrawal 100 10 200 ≠ .ok (some withdrawal) :=
  have configured : twoChainClient.tokenBalanceConfig 100 10 200 =
      some ⟨5 * 10 ^ 17, 25 * 10 ^ 16, none, none, none, none⟩ := rfl
  ⟨configured, (rebalance_withdrawal_exclusive twoChainClient configured (by decide) (by decide)).1⟩

/-! ## Withdrawals against the balance on the chain -/

/-- Sixty units of the L1 token in flight to chain 10, none arrived, and forty on the hub. Chain
10 targets 10% of the token with a 150% overage buffer and a withdrawal period, and its bridge
has nothing pending. -/
def inboundClient : InventoryClient :=
  { twoChainClient with
    inventoryConfig := ⟨[(100, .chains fun c => if c = 10 then
      some ⟨10 ^ 17, 5 * 10 ^ 16, some (15 * 10 ^ 17), none, none, some 86400⟩ else none)]⟩
    tokenClient := ⟨fun c t => if c = 1 ∧ t = 100 then 40 * 10 ^ 18 else 0, fun _ _ => 0⟩
    crossChainTransferClient := ⟨fun c t _ => if c = 10 ∧ t = 100 then 60 * 10 ^ 18 else 0⟩
    adapterManager := ⟨fun _ => some fun _ => true, fun _ _ _ => some 0⟩ }

/-- The transfers in flight count toward chain 10's allocation of 60%, so the pass plans to
withdraw 50 units from a chain whose token balance is 0. -/
theorem withdrawal_exceeds_token_balance :
    inboundClient.withdrawalsRequired = .ok [(10, ⟨200, 50 * 10 ^ 18⟩)] ∧
      inboundClient.tokenClient.balance 10 200 < 50 * 10 ^ 18 :=
  ⟨rfl, by decide⟩

/-- The arithmetic of an excess withdrawal: the share above a target that is not negative, of a
cumulative balance converted to other decimals, is at most the balance converted alike when the
allocation is at most the balance's share of the cumulative balance. -/
theorem withdrawnShare_le {balance cumulative allocation target : Int} (fromDecimals toDecimals : Nat)
    (cumulativeNonneg : 0 ≤ cumulative) (targetNonneg : 0 ≤ target) (over : target ≤ allocation)
    (share : allocation * cumulative ≤ balance * fixedPointAdjustment) :
    bnDiv (convertDecimals fromDecimals toDecimals cumulative * (allocation - target)) fixedPointAdjustment ≤
      convertDecimals fromDecimals toDecimals balance := by
  have scale := fixedPointAdjustment_pos
  have converted := convertDecimals_nonneg cumulativeNonneg fromDecimals toDecimals
  have floor : bnDiv (convertDecimals fromDecimals toDecimals cumulative * (allocation - target))
      fixedPointAdjustment * fixedPointAdjustment ≤ convertDecimals fromDecimals toDecimals cumulative * allocation := by
    rw [bnDiv_of_nonneg (mul_nonneg converted (by linarith)) scale.le]
    exact (Int.ediv_mul_le _ scale.ne').trans (mul_le_mul_of_nonneg_left (by linarith) converted)
  generalize bnDiv _ fixedPointAdjustment = withdrawn at floor ⊢
  unfold convertDecimals at floor ⊢
  split_ifs at floor ⊢ with up
  · have power : (0 : Int) < 10 ^ (toDecimals - fromDecimals) := by positivity
    refine le_of_mul_le_mul_right ?_ scale
    calc withdrawn * fixedPointAdjustment ≤ cumulative * 10 ^ (toDecimals - fromDecimals) * allocation := floor
      _ = 10 ^ (toDecimals - fromDecimals) * (allocation * cumulative) := by ring
      _ ≤ 10 ^ (toDecimals - fromDecimals) * (balance * fixedPointAdjustment) :=
        mul_le_mul_of_nonneg_left share power.le
      _ = balance * 10 ^ (toDecimals - fromDecimals) * fixedPointAdjustment := by ring
  · have power : (0 : Int) < 10 ^ (fromDecimals - toDecimals) := by positivity
    refine Int.le_ediv_of_mul_le power (le_of_mul_le_mul_right ?_ scale)
    calc withdrawn * 10 ^ (fromDecimals - toDecimals) * fixedPointAdjustment
        = withdrawn * fixedPointAdjustment * 10 ^ (fromDecimals - toDecimals) := by ring
      _ ≤ cumulative / 10 ^ (fromDecimals - toDecimals) * allocation * 10 ^ (fromDecimals - toDecimals) :=
        mul_le_mul_of_nonneg_right floor power.le
      _ = cumulative / 10 ^ (fromDecimals - toDecimals) * 10 ^ (fromDecimals - toDecimals) * allocation := by ring
      _ ≤ cumulative * allocation :=
        mul_le_mul_of_nonneg_right (Int.ediv_mul_le _ power.ne') (targetNonneg.trans over)
      _ ≤ balance * fixedPointAdjustment := by linarith

/-- Over a state whose amounts are not negative and whose configs target no negative share,
every withdrawal the pass plans on a chain is at most the chain's effective balance of its L2
token in that token's decimals: the token client's balance together with the transfers to it
still in flight. -/
theorem withdrawal_within_effective_balance (s : InventoryClient) (nonneg : InventoryClient.NonnegativeAmounts s)
    (targets : ∀ l1Token chainId l2Token tokenConfig,
      s.tokenBalanceConfig l1Token chainId l2Token = some tokenConfig → 0 ≤ tokenConfig.targetPct)
    {plan : List (Nat × L2Withdrawal)} (planned : s.withdrawalsRequired = .ok plan) :
    ∀ chainId withdrawal, (chainId, withdrawal) ∈ plan → ∃ l1Token ∈ s.getL1Tokens,
      withdrawal.amountToWithdraw ≤ convertDecimals (s.constants.decimals l1Token s.hubChainId)
        (s.constants.decimals withdrawal.l2Token chainId)
        (s.getBalanceOnChain chainId l1Token (some withdrawal.l2Token)) := by
  intro chainId withdrawal held
  obtain ⟨l1Token, token, decided⟩ := InventoryClient.mem_withdrawalsRequired planned held
  obtain ⟨tokenConfig, _, configured, -, passes, over, same⟩ := InventoryClient.excessWithdrawal_planned decided
  have target := targets _ _ _ _ configured
  have reached := (le_excessWithdrawThresholdPct target passes).trans over
  rw [show withdrawal.amountToWithdraw = _ from congrArg L2Withdrawal.amountToWithdraw same]
  exact ⟨l1Token, token, withdrawnShare_le _ _ (InventoryClient.getCumulativeBalance_nonneg nonneg _) target reached
    (InventoryClient.getCurrentAllocationPct_mul_le nonneg _ _ (target.trans reached))⟩

theorem withdrawal_within_effective_balance_inbound :
    (InventoryClient.NonnegativeAmounts inboundClient ∧
      (∀ l1Token chainId l2Token tokenConfig,
        inboundClient.tokenBalanceConfig l1Token chainId l2Token = some tokenConfig → 0 ≤ tokenConfig.targetPct) ∧
      inboundClient.withdrawalsRequired = .ok [(10, ⟨200, 50 * 10 ^ 18⟩)]) ∧
    ∃ l1Token ∈ inboundClient.getL1Tokens, (50 * 10 ^ 18 : Int) ≤
      convertDecimals (inboundClient.constants.decimals l1Token 1) (inboundClient.constants.decimals 200 10)
        (inboundClient.getBalanceOnChain 10 l1Token (some 200)) :=
  have nonneg : InventoryClient.NonnegativeAmounts inboundClient := by
    refine ⟨fun c t => ?_, fun _ _ => le_refl 0, fun c t _ => ?_⟩ <;>
      · simp only [inboundClient]
        split_ifs <;> norm_num
  have targets : ∀ l1Token chainId l2Token tokenConfig,
      inboundClient.tokenBalanceConfig l1Token chainId l2Token = some tokenConfig → 0 ≤ tokenConfig.targetPct := by
    intro l1Token chainId l2Token tokenConfig configured
    by_cases token : 100 = l1Token <;> by_cases chain : chainId = 10 <;>
      simp [InventoryClient.tokenBalanceConfig, InventoryClient.getTokenConfig, inboundClient, InventoryConfig.lookup,
        token, chain] at configured
    rw [← configured]
    decide
  have planned : inboundClient.withdrawalsRequired = .ok [(10, ⟨200, 50 * 10 ^ 18⟩)] := rfl
  ⟨⟨nonneg, targets, planned⟩,
    withdrawal_within_effective_balance inboundClient nonneg targets planned 10 ⟨200, 50 * 10 ^ 18⟩ (by simp)⟩

end Relayer
