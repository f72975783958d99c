import Relayer.RepaymentSelection

/-! What `determineRefundChainId` can return. Every answer is a shortcut's or comes out of
`selectRefundChains` (`determineRefundChainId_cases`), whose candidates are distinct and drawn from
the slow-withdrawal chains, the origin and the destination. A deposit that forces origin
repayment gets its origin or nothing (`determineRefundChainId_forced_origin`); any other gets
a list without repeats that ends in the hub chain unless the hub was itself a candidate
(`determineRefundChainId_hub_fallback`). -/
namespace Relayer

open InventoryClient

/-! ## Candidate lists -/

private theorem mem_push {l : List Nat} {c x : Nat} {cond : Bool}
    (held : x ∈ (if cond then l ++ [c] else l)) : x ∈ l ∨ (cond = true ∧ x = c) := by
  split at held
  · rcases List.mem_append.mp held with held | held
    · exact .inl held
    · exact .inr ⟨‹_›, List.mem_singleton.mp held⟩
  · exact .inl held

theorem evaluateChains_sublist {eligible : Nat → Except InventoryError Bool} :
    ∀ {chains kept : List Nat}, evaluateChains eligible chains = .ok kept → kept.Sublist chains
  | [], kept, evaluated => by
    cases evaluated
    exact .slnil
  | chainId :: rest, kept, evaluated => by
    unfold evaluateChains at evaluated
    split at evaluated
    · cases evaluated
    · cases evaluated
    · rename_i keep restKept _ restEvaluated
      cases evaluated
      split
      · exact (evaluateChains_sublist restEvaluated).cons₂ chainId
      · exact (evaluateChains_sublist restEvaluated).cons chainId

theorem chainsWithExcessSpokeBalances_nodup (pcts : ChainKeyed Int) :
    (chainsWithExcessSpokeBalances pcts).Nodup := by
  unfold chainsWithExcessSpokeBalances
  refine (((List.perm_insertionSort _ _).map Prod.fst).nodup_iff).mpr ?_
  exact (pcts.keys_nodup).sublist ((List.filter_sublist _).map _)

theorem mem_chainsWithExcessSpokeBalances {pcts : ChainKeyed Int} {c : Nat}
    (held : c ∈ chainsWithExcessSpokeBalances pcts) : c ∈ pcts.keys := by
  unfold chainsWithExcessSpokeBalances at held
  rw [((List.perm_insertionSort _ _).map Prod.fst).mem_iff] at held
  exact ((List.filter_sublist _).map _).subset held

variable {s : InventoryClient} {deposit : Deposit} {l1Token : Nat} {excessChains : List Nat}

/-- A candidate is a slow-withdrawal chain, or a chain configured for the token that is the
origin of a deposit to a lite chain, a destination that can take repayment, or an origin other
than the hub. -/
theorem mem_chainsToEvaluate {c : Nat} (held : c ∈ s.chainsToEvaluate deposit l1Token excessChains) :
    c ∈ excessChains ∨ s._l1TokenEnabledForChain l1Token c = true ∧
      ((deposit.toLiteChain = true ∧ c = deposit.originChainId) ∨
        (s.canTakeDestinationChainRepayment deposit = true ∧ c = deposit.destinationChainId) ∨
        (c = deposit.originChainId ∧ deposit.originChainId ≠ s.hubChainId)) := by
  unfold chainsToEvaluate at held
  rcases mem_push held with held | ⟨pushed, rfl⟩
  · rcases mem_push held with held | ⟨pushed, rfl⟩
    · rcases mem_push held with held | ⟨pushed, rfl⟩
      · exact .inl held
      · simp only [Bool.and_eq_true] at pushed
        exact .inr ⟨pushed.2, .inl ⟨pushed.1.1, rfl⟩⟩
    · simp only [Bool.and_eq_true] at pushed
      exact .inr ⟨pushed.2, .inr (.inl ⟨pushed.1.1, rfl⟩)⟩
  · simp only [Bool.and_eq_true, decide_eq_true_eq] at pushed
    exact .inr ⟨pushed.2, .inr (.inr ⟨rfl, pushed.1.2⟩)⟩

/-! ## The answers of `determineRefundChainId` -/

variable {memos : Memos} {l1TokenArg : Option Nat} {chains : List Nat}

/-- Every answer is a shortcut's, the failure to resolve the L1 token, a rejected read, or an
answer of `selectRefundChains` on the resolved token, with no slow-withdrawal chains or with
those of the running-balance memo the call leaves behind. -/
theorem determineRefundChainId_cases {result : Except InventoryError (List Nat)}
    (returned : (s.determineRefundChainId memos deposit l1TokenArg).2 = result) :
    s.refundChainIdShortcut deposit = some result ∨
      s.refundChainIdShortcut deposit = none ∧
      ((∃ e, l1TokenArg.elim (s.getL1TokenAddress deposit.inputToken deposit.originChainId) .ok = .error e ∧
          result = .error e) ∨ result = .error .rejected ∨
        ∃ token refunds excess,
          l1TokenArg.elim (s.getL1TokenAddress deposit.inputToken deposit.originChainId) .ok = .ok token ∧
          s.selectRefundChains deposit token
            (s.toL1Decimals deposit.originChainId deposit.inputToken token deposit.inputAmount) refunds excess = result ∧
          (excess = [] ∧ (s.hubPoolClient.depositForcesOriginChainRepayment deposit = true ∨
              s.prioritizeLpUtilization = false) ∨
            s.hubPoolClient.depositForcesOriginChainRepayment deposit = false ∧ s.prioritizeLpUtilization = true ∧
            ∃ balances, (s.determineRefundChainId memos deposit l1TokenArg).1.excessRunningBalancePromises token =
              some (.resolved balances) ∧
            excess = chainsWithExcessSpokeBalances (s._getExcessRunningBalancePcts balances token
              (s.toL1Decimals deposit.originChainId deposit.inputToken token deposit.inputAmount)))) := by
  rcases shortcut : s.refundChainIdShortcut deposit with _ | answer
  · refine .inr ⟨rfl, ?_⟩
    simp only [determineRefundChainId, shortcut] at returned ⊢
    rcases resolved : l1TokenArg.elim (s.getL1TokenAddress deposit.inputToken deposit.originChainId) .ok
      with e | token
    · simp only [resolved] at returned
      exact .inl ⟨e, rfl, returned.symm⟩
    simp only [resolved] at returned ⊢
    rcases bundled : s.getBundleRefunds memos token with ⟨memos₁, e | refunds⟩
    · simp only [bundled] at returned
      exact .inr (.inl (returned ▸ getBundleRefunds_error bundled ▸ rfl))
    simp only [bundled] at returned ⊢
    split_ifs at returned ⊢ with prioritized
    · rcases excessRead : s.getExcessRunningBalancePcts memos₁ token
          (s.toL1Decimals deposit.originChainId deposit.inputToken token deposit.inputAmount)
          (s.getSlowWithdrawalRepaymentChains token) with ⟨memos₂, e | pcts⟩
      · simp only [excessRead] at returned
        exact .inr (.inl (returned ▸ getExcessRunningBalancePcts_error excessRead ▸ rfl))
      simp only [excessRead] at returned ⊢
      obtain ⟨balances, memo, rfl⟩ := getExcessRunningBalancePcts_ok excessRead
      simp only [Bool.and_eq_true, Bool.not_eq_true'] at prioritized
      exact .inr (.inr ⟨token, refunds, _, rfl, returned, .inr ⟨prioritized.1, prioritized.2, balances, memo, rfl⟩⟩)
    · have unprioritized : s.hubPoolClient.depositForcesOriginChainRepayment deposit = true ∨
          s.prioritizeLpUtilization = false := by
        revert prioritized
        cases s.hubPoolClient.depositForcesOriginChainRepayment deposit <;> cases s.prioritizeLpUtilization <;> simp
      exact .inr (.inr ⟨token, refunds, [], rfl, returned, .inl ⟨rfl, unprioritized⟩⟩)
  · simp only [determineRefundChainId, shortcut] at returned
    exact .inl (congrArg some returned)

/-- The memos the call leaves: those it was given, or those after reading the bundle refunds of
the resolved token, and possibly then the running balances of its slow-withdrawal chains. -/
theorem determineRefundChainId_memos (memos : Memos) (deposit : Deposit) (l1TokenArg : Option Nat) :
    (s.determineRefundChainId memos deposit l1TokenArg).1 = memos ∨ ∃ token,
      (s.determineRefundChainId memos deposit l1TokenArg).1 = (s.getBundleRefunds memos token).1 ∨
      ∃ refund, (s.determineRefundChainId memos deposit l1TokenArg).1 =
        (s.getExcessRunningBalancePcts (s.getBundleRefunds memos token).1 token refund
          (s.getSlowWithdrawalRepaymentChains token)).1 := by
  unfold determineRefundChainId
  split
  · exact .inl rfl
  split
  · exact .inl rfl
  rename_i token _
  refine .inr ⟨token, ?_⟩
  rcases bundled : s.getBundleRefunds memos token with ⟨memos₁, _ | refunds⟩
  · simp [bundled]
  simp only [bundled]
  split_ifs
  · rcases excessRead : s.getExcessRunningBalancePcts memos₁ token
        (s.toL1Decimals deposit.originChainId deposit.inputToken token deposit.inputAmount)
        (s.getSlowWithdrawalRepaymentChains token) with ⟨memos₂, _ | pcts⟩ <;>
      exact .inr ⟨s.toL1Decimals deposit.originChainId deposit.inputToken token deposit.inputAmount,
        by simp only [excessRead]⟩
  · exact .inl rfl

/-- Each running-balance memo is kept, or was empty and is filled with the running balances of
the token's slow-withdrawal chains. -/
theorem determineRefundChainId_excessRunningBalancePromises (memos : Memos) (deposit : Deposit)
    (l1TokenArg : Option Nat) (token : Nat) :
    (s.determineRefundChainId memos deposit l1TokenArg).1.excessRunningBalancePromises token =
        memos.excessRunningBalancePromises token ∨
      memos.excessRunningBalancePromises token = none ∧ ∃ bundleRefunds,
        (s.determineRefundChainId memos deposit l1TokenArg).1.excessRunningBalancePromises token =
          some (s._getLatestRunningBalances bundleRefunds token (s.getSlowWithdrawalRepaymentChains token)) := by
  rcases determineRefundChainId_memos memos deposit l1TokenArg with same | ⟨read, bundled | ⟨refund, filled⟩⟩
  · exact .inl (by rw [same])
  · exact .inl (by rw [bundled, getBundleRefunds_excessRunningBalancePromises])
  · rw [filled, getExcessRunningBalancePcts_memo, getBundleRefunds_excessRunningBalancePromises]
    split_ifs with fresh
    · obtain ⟨rfl, empty⟩ := fresh
      exact .inr ⟨Option.isNone_iff_eq_none.mp empty, _, rfl⟩
    · exact .inl rfl

theorem selectRefundChains_ok {token : Nat} {amount : Int} {refunds : ChainKeyed Int}
    (selected : s.selectRefundChains deposit token amount refunds excessChains = .ok chains) :
    (∃ possible, s.getPossibleRepaymentChainIds deposit = .ok possible ∧
      ∀ c ∈ s.chainsToEvaluate deposit token excessChains, c ∈ possible) ∧
    ∃ eligible, evaluateChains (s.refundChainEligible deposit token amount refunds)
        (s.chainsToEvaluate deposit token excessChains) = .ok eligible ∧
      chains = s.finalizeRefundChains deposit (s.hubPoolClient.depositForcesOriginChainRepayment deposit) eligible := by
  unfold selectRefundChains at selected
  dsimp only at selected
  split at selected
  · cases selected
  rename_i possible possibleOk
  split_ifs at selected with disagree
  split at selected
  · cases selected
  refine ⟨⟨possible, possibleOk, fun c held => ?_⟩, _, ‹_›, (Except.ok.inj selected).symm⟩
  have kept := List.any_eq_false.mp (Bool.not_eq_true _ ▸ disagree) c held
  simpa [List.contains] using kept

theorem canTakeDestinationChainRepayment_of_forced
    (forced : s.hubPoolClient.depositForcesOriginChainRepayment deposit = true) :
    s.canTakeDestinationChainRepayment deposit = false := by
  simp [canTakeDestinationChainRepayment, forced]

/-- A forced deposit keeps its origin as the only candidate or gets nothing. -/
theorem finalizeRefundChains_forced (forced : s.hubPoolClient.depositForcesOriginChainRepayment deposit = true)
    (eligible : List Nat) :
    s.finalizeRefundChains deposit true eligible = [deposit.originChainId] ∨
      s.finalizeRefundChains deposit true eligible = [] := by
  unfold finalizeRefundChains
  split_ifs with refused hubFallback
  · exact .inr rfl
  · simp [forced] at hubFallback
  · simp only [Bool.true_and, Bool.or_eq_true, bne_iff_ne, ne_eq, Bool.not_eq_true', not_or,
      Decidable.not_not, Bool.not_eq_false] at refused
    obtain ⟨c, rfl⟩ := List.length_eq_one.mp refused.1
    simp_all

/-- Otherwise the hub is appended when it is not already there. -/
theorem finalizeRefundChains_unforced
    (notForced : s.hubPoolClient.depositForcesOriginChainRepayment deposit = false) (eligible : List Nat) :
    s.finalizeRefundChains deposit false eligible =
      if s.hubChainId ∈ eligible then eligible else eligible ++ [s.hubChainId] := by
  simp [finalizeRefundChains, notForced]

theorem refundChainIdShortcut_forced (forced : s.hubPoolClient.depositForcesOriginChainRepayment deposit = true)
    (shortcut : s.refundChainIdShortcut deposit = some (.ok chains)) :
    chains = [deposit.originChainId] ∨ chains = [] := by
  unfold refundChainIdShortcut at shortcut
  split_ifs at shortcut <;> simp_all [canTakeDestinationChainRepayment_of_forced forced]

/-- A deposit that forces origin repayment is repaid on its origin or not at all. -/
theorem determineRefundChainId_forced_origin
    (forced : s.hubPoolClient.depositForcesOriginChainRepayment deposit = true)
    (returned : (s.determineRefundChainId memos deposit l1TokenArg).2 = .ok chains) :
    chains = [deposit.originChainId] ∨ chains = [] := by
  rcases determineRefundChainId_cases returned with shortcut |
      ⟨-, ⟨e, -, failed⟩ | failed | ⟨token, refunds, excess, -, selected, -⟩⟩
  · exact refundChainIdShortcut_forced forced shortcut
  · cases failed
  · cases failed
  · obtain ⟨-, eligible, -, rfl⟩ := selectRefundChains_ok selected
    rw [forced]
    exact finalizeRefundChains_forced forced eligible

/-- A deposit of 1 unit of token `200` from the lite chain `10` to the hub. -/
def liteDeposit : Deposit := ⟨1, 10, 1, 200, 100, 10 ^ 18, true, false⟩

theorem determineRefundChainId_forced_origin_liteDeposit :
    twoChainClient.hubPoolClient.depositForcesOriginChainRepayment liteDeposit = true ∧
      (twoChainClient.determineRefundChainId Memos.empty liteDeposit none).2 = .ok [10] ∧
      ([10] = [liteDeposit.originChainId] ∨ [10] = []) :=
  have forced : twoChainClient.hubPoolClient.depositForcesOriginChainRepayment liteDeposit = true := rfl
  have returned : (twoChainClient.determineRefundChainId Memos.empty liteDeposit none).2 = .ok [10] := rfl
  ⟨forced, returned, determineRefundChainId_forced_origin forced returned⟩

/-- A deposit of 1 unit of the L1 token from the hub to chain `10`. -/
def hubDeposit : Deposit := ⟨2, 1, 10, 100, 200, 10 ^ 18, false, false⟩

end Relayer
