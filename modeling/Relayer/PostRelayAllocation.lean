import Relayer.Redenomination
import Relayer.RepaymentSafety

/-! The post-relay allocation test of the repayment selector (lines 595–676) against the
deposit's amount. The amount enters only through a candidate's balance after the relay and
through the excess percentages of the slow-withdrawal chains. Over a divisor that is not
negative a smaller amount lowers the first and raises the second; on-chain balances, shortfalls,
outstanding transfers and refunds are not negative, so neither is the divisor, and a smaller
deposit is offered every chain a larger one is (`refundChains_kept_at_smaller_amount`).
The test divides by the cumulative balance with the refunds and has no guard for zero, unlike
`getCurrentAllocationPct` and `getChainDistribution` (`determineRefundChainId_divides_by_zero`).
As in `Redenomination`, the hub pool's and the utils' predicates on a deposit are assumed not to
read its amount (`InventoryClient.AmountBlind`). -/
namespace Relayer

open InventoryClient

/-! ## What reads the amount -/

section Blind

variable {s : InventoryClient} (blind : s.AmountBlind)
include blind

theorem refundChainIdShortcut_inputAmount (deposit : Deposit) (amount : Int) :
    s.refundChainIdShortcut { deposit with inputAmount := amount } = s.refundChainIdShortcut deposit := by
  simp only [refundChainIdShortcut, canTakeDestinationChainRepayment, blind.invalidOutputToken,
    blind.depositForcesOriginChainRepayment, blind.repaymentChainCanBeQuicklyRebalanced]
  rfl

/-- Past the shortcuts the selector reads the amount only as the argument it is given in L1
decimals. -/
theorem selectRefundChains_inputAmount (deposit : Deposit) (amount : Int) (l1Token : Nat) (inputAmount : Int)
    (totalRefundsPerChain : ChainKeyed Int) (excessChains : List Nat) :
    s.selectRefundChains { deposit with inputAmount := amount } l1Token inputAmount totalRefundsPerChain excessChains =
      s.selectRefundChains deposit l1Token inputAmount totalRefundsPerChain excessChains := by
  simp only [selectRefundChains, chainsToEvaluate, getPossibleRepaymentChainIds, canTakeDestinationChainRepayment,
    finalizeRefundChains, blind.depositForcesOriginChainRepayment]
  rfl

end Blind

/-! ## A smaller amount, one step at a time -/

section Antitone

variable {s : InventoryClient}

/-- A smaller refund leaves a larger excess, so a positive excess percentage stays positive. -/
theorem excessRunningBalancePct_pos_of_le {l1Token chainId : Nat} {excess refund refund' : Int} (le : refund' ≤ refund)
    (positive : 0 < s.excessRunningBalancePct l1Token chainId excess refund) :
    0 < s.excessRunningBalancePct l1Token chainId excess refund' := by
  unfold excessRunningBalancePct at positive ⊢
  dsimp only at positive ⊢
  split_ifs at positive ⊢ <;> try omega
  have nonzero : s.hubPoolClient.spokeTargetBalance l1Token chainId ≠ 0 := by assumption
  refine lt_of_lt_of_le positive (bnDiv_mono ?_ ?_ (abs_pos.mpr nonzero))
  · exact mul_le_mul_of_nonneg_right (by omega) fixedPointAdjustment_pos.le
  · exact mul_nonneg (by omega) fixedPointAdjustment_pos.le

theorem mem_chainsWithExcessSpokeBalances_iff {pcts : ChainKeyed Int} {c : Nat} :
    c ∈ chainsWithExcessSpokeBalances pcts ↔ ∃ pct, (c, pct) ∈ pcts.entries ∧ 0 < pct := by
  unfold chainsWithExcessSpokeBalances
  rw [((List.perm_insertionSort _ _).map Prod.fst).mem_iff]
  simp [List.mem_filter]

theorem chainsWithExcessSpokeBalances_of_le (balances : ChainKeyed Int) (l1Token : Nat) {refund refund' : Int}
    (le : refund' ≤ refund) {c : Nat}
    (held : c ∈ chainsWithExcessSpokeBalances (s._getExcessRunningBalancePcts balances l1Token refund)) :
    c ∈ chainsWithExcessSpokeBalances (s._getExcessRunningBalancePcts balances l1Token refund') := by
  obtain ⟨pct, entry, positive⟩ := mem_chainsWithExcessSpokeBalances_iff.mp held
  simp only [_getExcessRunningBalancePcts, ChainKeyed.mapValues] at entry ⊢
  obtain ⟨⟨c', excess⟩, source, same⟩ := List.mem_map.mp entry
  cases same
  exact mem_chainsWithExcessSpokeBalances_iff.mpr
    ⟨_, List.mem_map_of_mem _ source, excessRunningBalancePct_pos_of_le le positive⟩

private theorem mem_push_of_mem {l : List Nat} {c x : Nat} {cond : Bool} (held : x ∈ l) :
    x ∈ (if cond then l ++ [c] else l) := by
  split <;> simp [held]

private theorem mem_push_self {l : List Nat} {c : Nat} {cond : Bool} (pushed : l.contains c = false → cond = true) :
    c ∈ (if cond then l ++ [c] else l) := by
  cases contained : l.contains c
  · simp [pushed contained]
  · exact mem_push_of_mem (by simpa using contained)

/-- The candidates grow with the slow-withdrawal chains: the origin and the destination are
pushed whenever they are not there yet. -/
theorem chainsToEvaluate_subset {deposit : Deposit} {l1Token : Nat} {excess excess' : List Nat}
    (sub : ∀ c ∈ excess, c ∈ excess') {c : Nat} (held : c ∈ s.chainsToEvaluate deposit l1Token excess) :
    c ∈ s.chainsToEvaluate deposit l1Token excess' := by
  unfold chainsToEvaluate
  rcases mem_chainsToEvaluate held with slow | ⟨enabled, ⟨lite, rfl⟩ | ⟨canTake, rfl⟩ | ⟨rfl, spoke⟩⟩
  · exact mem_push_of_mem (mem_push_of_mem (mem_push_of_mem (sub c slow)))
  · exact mem_push_of_mem (mem_push_of_mem (mem_push_self fun absent => by rw [lite, absent, enabled]; rfl))
  · exact mem_push_of_mem (mem_push_self fun absent => by rw [canTake, absent, enabled]; rfl)
  · exact mem_push_self fun absent => by rw [absent, enabled]; simpa using spoke

/-- The loop keeps a candidate exactly when its test returns true. -/
theorem evaluateChains_mem {eligible : Nat → Except InventoryError Bool} :
    ∀ {chains kept : List Nat}, evaluateChains eligible chains = .ok kept →
      ∀ c ∈ chains, ∃ keep, eligible c = .ok keep ∧ (c ∈ kept ↔ keep = true)
  | [], _, _, _, held => by cases held
  | chainId :: rest, kept, evaluated, c, held => by
    unfold evaluateChains at evaluated
    split at evaluated
    · cases evaluated
    · cases evaluated
    rename_i keep restKept first restEvaluated
    cases evaluated
    by_cases same : c = chainId
    · subst same
      refine ⟨keep, first, ?_⟩
      cases keep
      · simp only [Bool.false_eq_true, if_false, iff_false]
        intro later
        obtain ⟨again, tested, kept⟩ :=
          evaluateChains_mem restEvaluated c ((evaluateChains_sublist restEvaluated).subset later)
        rw [first] at tested
        cases tested
        exact Bool.false_ne_true (kept.mp later)
      · simp
    · obtain ⟨keep', tested, kept⟩ := evaluateChains_mem restEvaluated c ((List.mem_cons.mp held).resolve_left same)
      refine ⟨keep', tested, ?_⟩
      split <;> simp [same, kept]

/-- The test divides by the cumulative balance with the refunds, so it returns only over a
divisor that is not zero. -/
theorem refundChainEligible_divisor {deposit : Deposit} {l1Token : Nat} {amount : Int} {refunds : ChainKeyed Int}
    {c : Nat} {keep : Bool} (tested : s.refundChainEligible deposit l1Token amount refunds c = .ok keep) :
    s.getCumulativeBalance l1Token + refunds.values.sum ≠ 0 := by
  intro zero
  unfold refundChainEligible bnDivChecked at tested
  simp only [zero, if_true] at tested
  split_ifs at tested
  split at tested
  · cases tested
  · split_ifs at tested

/-- Over a divisor that is not negative, a candidate kept at an amount is kept at any smaller
amount: only its balance after the relay reads the amount, and truncating division by a
positive divisor is monotone. -/
theorem refundChainEligible_of_le {deposit : Deposit} {l1Token : Nat} {refunds : ChainKeyed Int}
    {amount amount' : Int} (le : amount' ≤ amount) (divisor : 0 ≤ s.getCumulativeBalance l1Token + refunds.values.sum)
    {c : Nat} (kept : s.refundChainEligible deposit l1Token amount refunds c = .ok true) :
    s.refundChainEligible deposit l1Token amount' refunds c = .ok true := by
  have positive := lt_of_le_of_ne divisor (Ne.symm (refundChainEligible_divisor kept))
  unfold refundChainEligible bnDivChecked at kept ⊢
  simp only [positive.ne', if_false] at kept ⊢
  split_ifs at kept ⊢
  · exact kept
  split at kept
  · cases kept
  split_ifs at kept ⊢
  split at kept
  · exact kept
  simp only [Except.ok.injEq, decide_eq_true_eq] at kept ⊢
  exact le_trans (bnDiv_mono_left (mul_le_mul_of_nonneg_right (by omega) fixedPointAdjustment_pos.le) positive) kept

/-- A forced deposit has no slow-withdrawal chains, and its only candidate is its origin. -/
theorem chainsToEvaluate_forced {deposit : Deposit}
    (forced : s.hubPoolClient.depositForcesOriginChainRepayment deposit = true) (l1Token : Nat) :
    (s.chainsToEvaluate deposit l1Token []).Sublist [deposit.originChainId] := by
  unfold chainsToEvaluate
  simp only [canTakeDestinationChainRepayment_of_forced forced, Bool.false_and, Bool.false_eq_true, if_false]
  split_ifs <;> simp_all

private theorem mem_appendHub {l : List Nat} {hub c : Nat} :
    c ∈ (if hub ∈ l then l else l ++ [hub]) ↔ c ∈ l ∨ c = hub := by
  split_ifs with present
  · exact ⟨.inl, fun held => held.elim id fun same => same ▸ present⟩
  · simp

/-- One selection against another at a smaller amount, over the same refunds, with at least
the slow-withdrawal chains of the first and none when the deposit forces origin repayment:
every chain the first offers, the second offers. -/
theorem selectRefundChains_of_le {deposit : Deposit} {l1Token : Nat} {refunds : ChainKeyed Int}
    {amount amount' : Int} {excess excess' chains chains' : List Nat} (le : amount' ≤ amount)
    (divisor : 0 ≤ s.getCumulativeBalance l1Token + refunds.values.sum) (sub : ∀ c ∈ excess, c ∈ excess')
    (forcedAlone : s.hubPoolClient.depositForcesOriginChainRepayment deposit = true → excess' = [])
    (selected : s.selectRefundChains deposit l1Token amount refunds excess = .ok chains)
    (selected' : s.selectRefundChains deposit l1Token amount' refunds excess' = .ok chains') :
    ∀ c ∈ chains, c ∈ chains' := by
  obtain ⟨-, eligible, evaluated, rfl⟩ := selectRefundChains_ok selected
  obtain ⟨-, eligible', evaluated', rfl⟩ := selectRefundChains_ok selected'
  have keptLater : ∀ c ∈ eligible, c ∈ eligible' := by
    intro c held
    have candidate := (evaluateChains_sublist evaluated).subset held
    obtain ⟨keep, tested, kept⟩ := evaluateChains_mem evaluated c candidate
    obtain ⟨keep', tested', kept'⟩ := evaluateChains_mem evaluated' c (chainsToEvaluate_subset sub candidate)
    rw [kept.mp held] at tested
    rw [refundChainEligible_of_le le divisor tested] at tested'
    exact kept'.mpr (Except.ok.inj tested').symm
  cases forced : s.hubPoolClient.depositForcesOriginChainRepayment deposit
  · rw [finalizeRefundChains_unforced forced, finalizeRefundChains_unforced forced]
    intro c held
    rw [mem_appendHub] at held ⊢
    exact held.imp (keptLater c) id
  · have noExcess : excess = [] :=
      List.eq_nil_iff_forall_not_mem.mpr fun c held => by simpa [forcedAlone forced] using sub c held
    subst noExcess
    rw [forcedAlone forced] at evaluated'
    have within := chainsToEvaluate_forced forced l1Token
    rcases List.sublist_singleton.mp ((evaluateChains_sublist evaluated).trans within) with rfl | rfl
    · intro c held
      simp [finalizeRefundChains] at held
    rcases List.sublist_singleton.mp ((evaluateChains_sublist evaluated').trans within) with rfl | rfl
    · exact absurd (keptLater _ (List.mem_singleton_self _)) (List.not_mem_nil _)
    · exact fun c held => held

end Antitone

/-! ## Two calls on amounts that differ -/

/-- Over amounts and refunds that are not negative: of two calls from the same client and memos
on deposits that differ only in the amount, every chain offered to the larger deposit is offered
to the smaller. -/
theorem refundChains_kept_at_smaller_amount (s : InventoryClient) (blind : s.AmountBlind)
    (nonneg : NonnegativeAmounts s) (memos : Memos) (refundsNonneg : s.RefundsNonnegative memos)
    (deposit : Deposit) (amount : Int) (smaller : amount ≤ deposit.inputAmount) (l1TokenArg : Option Nat)
    {chains chains' : List Nat} (larger : (s.determineRefundChainId memos deposit l1TokenArg).2 = .ok chains)
    (lower : (s.determineRefundChainId memos { deposit with inputAmount := amount } l1TokenArg).2 = .ok chains') :
    ∀ c ∈ chains, c ∈ chains' := by
  unfold determineRefundChainId at larger lower
  rw [refundChainIdShortcut_inputAmount blind] at lower
  rcases shortcut : s.refundChainIdShortcut deposit with _ | answer
  swap
  · simp only [shortcut] at larger lower
    rw [larger, Except.ok.injEq] at lower
    exact fun c held => lower ▸ held
  simp only [shortcut] at larger lower
  rcases resolved : l1TokenArg.elim (s.getL1TokenAddress deposit.inputToken deposit.originChainId) .ok
    with e | token
  · simp only [resolved] at larger
    cases larger
  simp only [resolved] at larger lower
  rcases bundled : s.getBundleRefunds memos token with ⟨memos₁, e | refunds⟩
  · simp only [bundled] at larger
    cases larger
  simp only [bundled, blind.depositForcesOriginChainRepayment, selectRefundChains_inputAmount blind] at larger lower
  have divisor : 0 ≤ s.getCumulativeBalance token + refunds.values.sum :=
    add_nonneg (getCumulativeBalance_nonneg nonneg token) (getBundleRefunds_nonneg refundsNonneg (by rw [bundled]))
  have le : s.toL1Decimals deposit.originChainId deposit.inputToken token amount ≤
      s.toL1Decimals deposit.originChainId deposit.inputToken token deposit.inputAmount :=
    convertDecimals_mono smaller _ _
  split_ifs at larger lower with prioritized
  · rcases excessRead : s.getExcessRunningBalancePcts memos₁ token
        (s.toL1Decimals deposit.originChainId deposit.inputToken token deposit.inputAmount)
        (s.getSlowWithdrawalRepaymentChains token) with ⟨memos₂, e | pcts⟩
    · simp only [excessRead] at larger
      cases larger
    rcases excessRead' : s.getExcessRunningBalancePcts memos₁ token
        (s.toL1Decimals deposit.originChainId deposit.inputToken token amount)
        (s.getSlowWithdrawalRepaymentChains token) with ⟨memos₂', e | pcts'⟩
    · simp only [excessRead'] at lower
      cases lower
    simp only [excessRead, excessRead'] at larger lower
    have sameMemos : memos₂ = memos₂' := (congrArg Prod.fst excessRead).symm.trans (congrArg Prod.fst excessRead')
    subst sameMemos
    obtain ⟨balances, memo, rfl⟩ := getExcessRunningBalancePcts_ok excessRead
    obtain ⟨balances', memo', rfl⟩ := getExcessRunningBalancePcts_ok excessRead'
    rw [memo] at memo'
    cases memo'
    exact selectRefundChains_of_le le divisor (fun c => chainsWithExcessSpokeBalances_of_le balances token le)
      (fun forced => by simp [forced] at prioritized) larger lower
  · exact selectRefundChains_of_le le divisor (fun _ held => held) (fun _ => rfl) larger lower

/-- Sixty units from chain 10 would take it to 80% of the token, over its 75% effective target,
and are repaid only on the hub; the same deposit of none is offered chain 10 as well. -/
theorem refundChains_kept_at_smaller_amount_twoChain :
    (twoChainClient.AmountBlind ∧ NonnegativeAmounts twoChainClient ∧
      twoChainClient.RefundsNonnegative Memos.empty ∧ (0 : Int) ≤ 60 * 10 ^ 18 ∧
      (twoChainClient.determineRefundChainId Memos.empty { spokeDeposit with inputAmount := 60 * 10 ^ 18 } none).2 =
        .ok [1] ∧
      (twoChainClient.determineRefundChainId Memos.empty { spokeDeposit with inputAmount := 0 } none).2 =
        .ok [10, 1]) ∧
    ∀ c ∈ [1], c ∈ [10, 1] :=
  have blind : twoChainClient.AmountBlind := ⟨fun _ _ => rfl, fun _ _ => rfl, fun _ _ => rfl⟩
  have noRefunds : NonnegativeRefunds [] := fun _ held => absurd held (List.not_mem_nil _)
  have refundsNonneg : twoChainClient.RefundsNonnegative Memos.empty :=
    ⟨fun _ read => Option.some.inj read ▸ noRefunds, fun _ read => Option.some.inj read ▸ noRefunds,
      fun _ memo => nomatch memo⟩
  have smaller : (0 : Int) ≤ 60 * 10 ^ 18 := by decide
  have larger : (twoChainClient.determineRefundChainId Memos.empty
      { spokeDeposit with inputAmount := 60 * 10 ^ 18 } none).2 = .ok [1] := rfl
  have lower : (twoChainClient.determineRefundChainId Memos.empty
      { spokeDeposit with inputAmount := 0 } none).2 = .ok [10, 1] := rfl
  ⟨⟨blind, twoChainClient_nonnegativeAmounts, refundsNonneg, smaller, larger, lower⟩,
    refundChains_kept_at_smaller_amount twoChainClient blind twoChainClient_nonnegativeAmounts Memos.empty
      refundsNonneg { spokeDeposit with inputAmount := 60 * 10 ^ 18 } 0 smaller none larger lower⟩

/-! ## The divisor of the test -/

/-- The sample with no balance anywhere. -/
def emptyClient : InventoryClient := { twoChainClient with tokenClient := ⟨fun _ _ => 0, fun _ _ => 0⟩ }

/-- Over the empty sample, whose amounts and refunds are all zero, `getCurrentAllocationPct`
returns 0 and `getChainDistribution` no chain, while the selector evaluates chain 10 for a
deposit from it, divides by the zero sum of the cumulative balance and the refunds, and
throws. -/
theorem determineRefundChainId_divides_by_zero :
    NonnegativeAmounts emptyClient ∧ emptyClient.getCumulativeBalance 100 = 0 ∧
      emptyClient.getCurrentAllocationPct 100 10 200 = 0 ∧ (emptyClient.getChainDistribution 100).entries = [] ∧
      (emptyClient.determineRefundChainId Memos.empty spokeDeposit none).2 = .error .divisionByZero :=
  ⟨⟨fun _ _ => le_refl 0, fun _ _ => le_refl 0, fun _ _ _ => le_refl 0⟩, by decide, by decide, rfl, rfl⟩

end Relayer
