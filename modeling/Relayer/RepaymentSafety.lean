import Relayer.Lifecycle

/-! The sanity check of the repayment selector over a client's lifetime. The selector takes its
slow-withdrawal candidates from the running-balance memo, filled once with the chains whose
route was enabled then; `getPossibleRepaymentChainIds` reads the routes as they are now. -/
namespace Relayer

open InventoryClient

/-! ## The chains priced for a deposit -/

theorem mem_addChainId {chainIds : List Nat} {chainId c : Nat} :
    c ∈ addChainId chainIds chainId ↔ c ∈ chainIds ∨ c = chainId := by
  unfold addChainId
  split_ifs with present
  · exact ⟨.inl, fun held => held.elim id fun same => same ▸ present⟩
  · simp

theorem mem_foldl_addChainId {enabled : Nat → Bool} {c : Nat} :
    ∀ (chains chainIds : List Nat), c ∈ chains.foldl (fun chainIds chainId =>
      if enabled chainId then addChainId chainIds chainId else chainIds) chainIds ↔
        c ∈ chainIds ∨ c ∈ chains ∧ enabled c = true
  | [], chainIds => by simp
  | chainId :: rest, chainIds => by
    rw [List.foldl_cons, mem_foldl_addChainId rest]
    by_cases active : enabled chainId = true
    · simp only [active, if_true, mem_addChainId, List.mem_cons]
      constructor
      · rintro ((held | rfl) | ⟨held, later⟩)
        exacts [.inl held, .inr ⟨.inl rfl, active⟩, .inr ⟨.inr held, later⟩]
      · rintro (held | ⟨rfl | held, later⟩)
        exacts [.inl (.inl held), .inl (.inr rfl), .inr ⟨held, later⟩]
    · simp only [active, Bool.false_eq_true, if_false, List.mem_cons]
      constructor
      · rintro (held | ⟨held, later⟩)
        exacts [.inl held, .inr ⟨.inr held, later⟩]
      · rintro (held | ⟨rfl | held, later⟩)
        exacts [.inl held, absurd later active, .inr ⟨held, later⟩]

private theorem mem_firstRepaymentChains (canTake : Bool) (origin destination : Nat) :
    origin ∈ (if canTake = true then addChainId [origin] destination else [origin]) ∧
    (canTake = true → destination ∈ (if canTake = true then addChainId [origin] destination else [origin])) := by
  cases canTake <;> simp [mem_addChainId]

section Possible

variable {s : InventoryClient} {deposit : Deposit} {possible : List Nat}

/-- The chains `getPossibleRepaymentChainIds` lists: the origin always; unless origin repayment
is forced, the destination when it can take repayment, the hub, and the slow-withdrawal chains
of the resolved token. -/
theorem mem_getPossibleRepaymentChainIds (possibleOk : s.getPossibleRepaymentChainIds deposit = .ok possible) :
    deposit.originChainId ∈ possible ∧
    (s.hubPoolClient.depositForcesOriginChainRepayment deposit = false →
      (s.canTakeDestinationChainRepayment deposit = true → deposit.destinationChainId ∈ possible) ∧
      s.hubChainId ∈ possible ∧
      (s.isInventoryManagementEnabled = true → ∀ token,
        s.getL1TokenAddress deposit.inputToken deposit.originChainId = .ok token →
        ∀ c ∈ s.getSlowWithdrawalRepaymentChains token, c ∈ possible)) := by
  unfold getPossibleRepaymentChainIds at possibleOk
  by_cases forced : s.hubPoolClient.depositForcesOriginChainRepayment deposit = true
  · simp only [forced, if_true, Except.ok.injEq] at possibleOk
    subst possibleOk
    exact ⟨List.mem_singleton_self _, fun notForced => by simp [forced] at notForced⟩
  simp only [forced, Bool.false_eq_true, if_false] at possibleOk
  split at possibleOk
  · cases possibleOk
  rename_i slowChains slowRead
  cases possibleOk
  have first := mem_firstRepaymentChains (s.canTakeDestinationChainRepayment deposit) deposit.originChainId
    deposit.destinationChainId
  generalize (if s.canTakeDestinationChainRepayment deposit = true then
    addChainId [deposit.originChainId] deposit.destinationChainId else [deposit.originChainId]) = chainIds
    at slowRead first
  have kept : (deposit.originChainId ∈ slowChains ∧
      (s.canTakeDestinationChainRepayment deposit = true → deposit.destinationChainId ∈ slowChains)) ∧
      (s.isInventoryManagementEnabled = true → ∀ token,
        s.getL1TokenAddress deposit.inputToken deposit.originChainId = .ok token →
        ∀ c ∈ s.getSlowWithdrawalRepaymentChains token, c ∈ slowChains) := by
    split_ifs at slowRead with enabled
    · split at slowRead
      · cases slowRead
      rename_i token resolved
      cases slowRead
      refine ⟨⟨(mem_foldl_addChainId _ _).mpr (.inl first.1),
        fun canTake => (mem_foldl_addChainId _ _).mpr (.inl (first.2 canTake))⟩, fun _ token' resolved' c slow => ?_⟩
      rw [resolved] at resolved'
      cases resolved'
      exact (mem_foldl_addChainId _ _).mpr (.inr ⟨slow, (Bool.and_eq_true _ _ ▸ (List.mem_filter.mp slow).2).2⟩)
    · cases slowRead
      exact ⟨first, fun switchedOn => absurd switchedOn enabled⟩
  exact ⟨mem_addChainId.mpr (.inl kept.1.1), fun _ => ⟨fun canTake => mem_addChainId.mpr (.inl (kept.1.2 canTake)),
    mem_addChainId.mpr (.inr rfl), fun enabled token resolved c slow =>
      mem_addChainId.mpr (.inl (kept.2 enabled token resolved c slow))⟩⟩

theorem getL1TokenAddress_error {l2Token chainId : Nat} {e : InventoryError}
    (failed : s.getL1TokenAddress l2Token chainId = .error e) : e = .unknownL1Token l2Token chainId := by
  unfold getL1TokenAddress at failed
  split at failed
  · cases failed
  · exact (Except.error.inj failed).symm

/-- `getPossibleRepaymentChainIds` fails only when the input token has no L1 token. -/
theorem getPossibleRepaymentChainIds_error {e : InventoryError}
    (failed : s.getPossibleRepaymentChainIds deposit = .error e) :
    e = .unknownL1Token deposit.inputToken deposit.originChainId := by
  rcases resolved : s.getL1TokenAddress deposit.inputToken deposit.originChainId with e' | token <;>
    simp only [getPossibleRepaymentChainIds, resolved] at failed <;> split_ifs at failed
  cases failed
  exact getL1TokenAddress_error resolved

end Possible

/-! ## What the selector refuses -/

section Refusals

variable {s : InventoryClient} {deposit : Deposit} {e : InventoryError}

theorem evaluateChains_error {eligible : Nat → Except InventoryError Bool} :
    ∀ {chains : List Nat}, evaluateChains eligible chains = .error e → ∃ c ∈ chains, eligible c = .error e
  | [], failed => by cases failed
  | chainId :: rest, failed => by
    unfold evaluateChains at failed
    split at failed
    · cases failed
      exact ⟨chainId, List.mem_cons_self _ _, ‹_›⟩
    · cases failed
      obtain ⟨c, held, refused⟩ := evaluateChains_error ‹evaluateChains eligible rest = _›
      exact ⟨c, List.mem_cons_of_mem _ held, refused⟩
    · cases failed

/-- The candidate check refuses a chain as not enabled only when its token config is missing,
and otherwise only for a missing repayment token or route, or a division by zero. -/
theorem refundChainEligible_error {l1Token : Nat} {amount : Int} {refunds : ChainKeyed Int} {c : Nat}
    (failed : s.refundChainEligible deposit l1Token amount refunds c = .error e) :
    (e = .tokenNotEnabled l1Token c ∧ s._l1TokenEnabledForChain l1Token c = false) ∨
      e = .noRepaymentToken l1Token c ∨ (∃ token, e = .noPoolRebalanceRoute token c l1Token) ∨
      e = .divisionByZero := by
  unfold refundChainEligible at failed
  dsimp only at failed
  split at failed
  · rename_i disabled
    cases failed
    exact .inl ⟨rfl, by simpa using disabled⟩
  split at failed
  · cases failed
    exact .inr (.inl rfl)
  split at failed
  · cases failed
    exact .inr (.inr (.inl ⟨_, rfl⟩))
  split at failed
  · rename_i divided
    unfold bnDivChecked at divided
    split at divided
    · cases divided
      cases failed
      exact .inr (.inr (.inr rfl))
    · cases divided
  · split at failed <;> cases failed

theorem selectRefundChains_error {token : Nat} {amount : Int} {refunds : ChainKeyed Int} {excess : List Nat}
    (failed : s.selectRefundChains deposit token amount refunds excess = .error e) :
    s.getPossibleRepaymentChainIds deposit = .error e ∨
    (∃ possible, s.getPossibleRepaymentChainIds deposit = .ok possible ∧
      e = .repaymentChainsDisagree possible (s.chainsToEvaluate deposit token excess) ∧
      ∃ c ∈ s.chainsToEvaluate deposit token excess, c ∉ possible) ∨
    ∃ c ∈ s.chainsToEvaluate deposit token excess, s.refundChainEligible deposit token amount refunds c = .error e := by
  unfold selectRefundChains at failed
  dsimp only at failed
  split at failed
  · cases failed
    exact .inl ‹_›
  rename_i possible possibleOk
  split_ifs at failed with disagree
  · cases failed
    obtain ⟨c, held, absent⟩ := List.any_eq_true.mp disagree
    exact .inr (.inl ⟨possible, possibleOk, rfl, c, held, by simpa [List.contains] using absent⟩)
  split at failed
  · cases failed
    exact .inr (.inr (evaluateChains_error ‹_›))
  · cases failed

theorem mem_finalizeRefundChains {forced : Bool} {eligible : List Nat} {c : Nat}
    (held : c ∈ s.finalizeRefundChains deposit forced eligible) :
    c ∈ eligible ∨ s.hubPoolClient.depositForcesOriginChainRepayment deposit = false ∧ c = s.hubChainId := by
  unfold finalizeRefundChains at held
  split_ifs at held with refused appended
  · cases held
  · rcases List.mem_append.mp held with held | held
    · exact .inl held
    · simp only [Bool.and_eq_true, Bool.not_eq_true'] at appended
      exact .inr ⟨appended.1, List.mem_singleton.mp held⟩
  · exact .inl held

theorem refundChainIdShortcut_none (unanswered : s.refundChainIdShortcut deposit = none) :
    s.isInventoryManagementEnabled = true := by
  unfold refundChainIdShortcut at unanswered
  revert unanswered
  cases s.constants.invalidOutputToken deposit <;> cases s.isInventoryManagementEnabled <;> simp

theorem refundChainIdShortcut_error (failed : s.refundChainIdShortcut deposit = some (.error e)) :
    e = .unexpectedOutputToken deposit.destinationChainId deposit.originChainId deposit.depositId
      deposit.inputToken deposit.outputToken := by
  unfold refundChainIdShortcut at failed
  split_ifs at failed <;> cases failed
  rfl

theorem depositForcesOriginChainRepayment_of_canTake
    (canTake : s.canTakeDestinationChainRepayment deposit = true) :
    s.hubPoolClient.depositForcesOriginChainRepayment deposit = false := by
  by_contra forced
  simp [canTakeDestinationChainRepayment_of_forced (by simpa using forced)] at canTake

/-- A shortcut answers with chains `getPossibleRepaymentChainIds` lists. -/
theorem refundChainIdShortcut_possible {chains : List Nat}
    (answered : s.refundChainIdShortcut deposit = some (.ok chains)) :
    ∀ c ∈ chains, ∃ possible, s.getPossibleRepaymentChainIds deposit = .ok possible ∧ c ∈ possible := by
  intro c held
  have readable : s.hubPoolClient.depositForcesOriginChainRepayment deposit = true ∨
      s.isInventoryManagementEnabled = false → ∃ possible, s.getPossibleRepaymentChainIds deposit = .ok possible := by
    intro easy
    rcases possibleEq : s.getPossibleRepaymentChainIds deposit with e | possible
    · exfalso
      by_cases forced : s.hubPoolClient.depositForcesOriginChainRepayment deposit = true
      · simp [getPossibleRepaymentChainIds, forced] at possibleEq
      · simp [getPossibleRepaymentChainIds, forced, easy.resolve_left forced] at possibleEq
    · exact ⟨possible, rfl⟩
  unfold refundChainIdShortcut at answered
  split_ifs at answered with invalid disabled refused invalidOutput quick <;> cases answered
  · cases held
  · obtain ⟨possible, possibleOk⟩ := readable (.inr (by simpa using disabled))
    exact ⟨possible, possibleOk, List.mem_singleton.mp held ▸ (mem_getPossibleRepaymentChainIds possibleOk).1⟩
  · obtain ⟨possible, possibleOk⟩ := readable (.inr (by simpa using disabled))
    have canTake : s.canTakeDestinationChainRepayment deposit = true := by simpa using refused
    exact ⟨possible, possibleOk, List.mem_singleton.mp held ▸
      ((mem_getPossibleRepaymentChainIds possibleOk).2 (depositForcesOriginChainRepayment_of_canTake canTake)).1
        canTake⟩
  · simp only [Bool.and_eq_true] at quick
    obtain ⟨possible, possibleOk⟩ := readable (.inl quick.1)
    exact ⟨possible, possibleOk, List.mem_singleton.mp held ▸ (mem_getPossibleRepaymentChainIds possibleOk).1⟩

end Refusals

/-! ## Over a client's lifetime -/

/-- Every chain memoized for a token is a slow-withdrawal chain configured for the token. -/
def MemoSound (s : InventoryClient) (memos : Memos) : Prop :=
  ∀ token balances, memos.excessRunningBalancePromises token = some (.resolved balances) →
    ∀ c ∈ balances.keys, c ∈ s.constants.slowWithdrawalChains ∧ s._l1TokenEnabledForChain token c = true

section Lifetime

variable {s : InventoryClient} {memos : Memos}

theorem mem_getSlowWithdrawalRepaymentChains {token c : Nat} (held : c ∈ s.getSlowWithdrawalRepaymentChains token) :
    c ∈ s.constants.slowWithdrawalChains ∧ s._l1TokenEnabledForChain token c = true ∧
      s.hubPoolClient.l2TokenEnabledForL1Token token c = true := by
  obtain ⟨slow, both⟩ := List.mem_filter.mp held
  simp only [Bool.and_eq_true] at both
  exact ⟨slow, both⟩

theorem determineRefundChainId_memoSound (sound : MemoSound s memos) (deposit : Deposit) (l1TokenArg : Option Nat) :
    MemoSound s (s.determineRefundChainId memos deposit l1TokenArg).1 := by
  intro token balances filled c key
  rcases determineRefundChainId_excessRunningBalancePromises memos deposit l1TokenArg token
    with kept | ⟨-, bundleRefunds, fresh⟩
  · exact sound token balances (kept ▸ filled) c key
  · have chosen := mem_getSlowWithdrawalRepaymentChains
      (_getLatestRunningBalances_keys (Option.some.inj (fresh.symm.trans filled)) c key)
    exact ⟨chosen.1, chosen.2.1⟩

theorem Operation.run_memoSound (operation : Operation) {state : InventoryClient × Memos}
    (sound : MemoSound state.1 state.2) : MemoSound (operation.run state).1 (operation.run state).2 := by
  obtain ⟨s, memos⟩ := state
  cases operation with
  | update => dsimp only [Operation.run]; split_ifs <;> exact sound
  | clientsUpdated => exact sound
  | determineRefundChainId deposit l1Token => exact determineRefundChainId_memoSound sound deposit l1Token

/-- Every state a new client reaches memoizes only configured slow-withdrawal chains. -/
theorem runOperations_memoSound (s₀ : InventoryClient) (operations : List Operation) :
    MemoSound (runOperations (s₀, Memos.empty) operations).1 (runOperations (s₀, Memos.empty) operations).2 := by
  suffices general : ∀ state : InventoryClient × Memos, MemoSound state.1 state.2 →
      MemoSound (runOperations state operations).1 (runOperations state operations).2 from
    general _ fun _ _ filled => by cases filled
  induction operations with
  | nil => exact fun _ sound => sound
  | cons operation rest ih => exact fun state sound => ih _ (operation.run_memoSound sound)

end Lifetime

/-! ## The candidates against the possible chains -/

section Candidates

variable {s : InventoryClient} {deposit : Deposit} {token : Nat} {amount : Int} {refunds : ChainKeyed Int}
  {excess : List Nat}

theorem selectRefundChains_enabled (enabled : ∀ c ∈ excess, s._l1TokenEnabledForChain token c = true) (t c : Nat) :
    s.selectRefundChains deposit token amount refunds excess ≠ .error (.tokenNotEnabled t c) := by
  intro failed
  rcases selectRefundChains_error failed with possibleFailed | ⟨possible, -, disagree, -⟩ |
      ⟨candidate, held, refused⟩
  · cases getPossibleRepaymentChainIds_error possibleFailed
  · cases disagree
  · rcases refundChainEligible_error refused with ⟨-, disabled⟩ | bad | ⟨_, bad⟩ | bad
    · rcases mem_chainsToEvaluate held with slow | ⟨configured, -⟩
      · rw [enabled candidate slow] at disabled; cases disabled
      · rw [configured] at disabled; cases disabled
    all_goals cases bad

theorem selectRefundChains_possible {chains : List Nat}
    (selected : s.selectRefundChains deposit token amount refunds excess = .ok chains) :
    ∀ c ∈ chains, ∃ possible, s.getPossibleRepaymentChainIds deposit = .ok possible ∧ c ∈ possible := by
  obtain ⟨⟨possible, possibleOk, listed⟩, eligible, evaluated, rfl⟩ := selectRefundChains_ok selected
  intro c held
  refine ⟨possible, possibleOk, ?_⟩
  rcases mem_finalizeRefundChains held with kept | ⟨notForced, rfl⟩
  · exact listed c ((evaluateChains_sublist evaluated).subset kept)
  · exact ((mem_getPossibleRepaymentChainIds possibleOk).2 notForced).2.1

/-- A disagreement is always over a slow-withdrawal candidate: the origin and a destination that
can take repayment are always possible. -/
theorem selectRefundChains_disagree {possible evaluated : List Nat}
    (failed : s.selectRefundChains deposit token amount refunds excess =
      .error (.repaymentChainsDisagree possible evaluated)) :
    ∃ listed, s.getPossibleRepaymentChainIds deposit = .ok listed ∧ ∃ c ∈ excess, c ∉ listed := by
  rcases selectRefundChains_error failed with possibleFailed | ⟨listed, listedOk, -, c, held, absent⟩ |
      ⟨c, -, refused⟩
  · cases getPossibleRepaymentChainIds_error possibleFailed
  · refine ⟨listed, listedOk, c, ?_, absent⟩
    have facts := mem_getPossibleRepaymentChainIds listedOk
    rcases mem_chainsToEvaluate held with slow | ⟨-, ⟨-, rfl⟩ | ⟨canTake, rfl⟩ | ⟨rfl, -⟩⟩
    · exact slow
    · exact absurd facts.1 absent
    · exact absurd ((facts.2 (depositForcesOriginChainRepayment_of_canTake canTake)).1 canTake) absent
    · exact absurd facts.1 absent
  · rcases refundChainEligible_error refused with ⟨bad, -⟩ | bad | ⟨_, bad⟩ | bad <;> cases bad

end Candidates

/-- For a client whose memos hold only configured slow-withdrawal chains, and an L1 token
argument that is omitted or the one `getL1TokenAddress` resolves: no candidate is refused as not
enabled; the selector disagrees with `getPossibleRepaymentChainIds` only over a memoized chain
whose route the hub pool has disabled since; and every chain it returns is a possible one. -/
theorem determineRefundChainId_sound {s : InventoryClient} {memos : Memos} (sound : MemoSound s memos)
    (deposit : Deposit) (l1TokenArg : Option Nat)
    (resolvedArg : ∀ token, l1TokenArg = some token →
      s.getL1TokenAddress deposit.inputToken deposit.originChainId = .ok token) :
    (∀ t c, (s.determineRefundChainId memos deposit l1TokenArg).2 ≠ .error (.tokenNotEnabled t c)) ∧
    (∀ possible evaluated, (s.determineRefundChainId memos deposit l1TokenArg).2 =
        .error (.repaymentChainsDisagree possible evaluated) →
      ∃ token balances c, memos.excessRunningBalancePromises token = some (.resolved balances) ∧
        c ∈ balances.keys ∧ s.hubPoolClient.l2TokenEnabledForL1Token token c = false) ∧
    ∀ chains, (s.determineRefundChainId memos deposit l1TokenArg).2 = .ok chains →
      ∀ c ∈ chains, ∃ possible, s.getPossibleRepaymentChainIds deposit = .ok possible ∧ c ∈ possible := by
  have after := determineRefundChainId_memoSound sound deposit l1TokenArg
  rcases determineRefundChainId_cases (rfl : (s.determineRefundChainId memos deposit l1TokenArg).2 = _) with
    shortcut | ⟨unanswered, ⟨e, resolveFailed, failed⟩ | rejected | ⟨token, refunds, excess, resolved,
      selected, slow⟩⟩
  · refine ⟨fun t c failed => ?_, fun possible evaluated failed => ?_, fun chains returned => ?_⟩
    · rw [failed] at shortcut; cases refundChainIdShortcut_error shortcut
    · rw [failed] at shortcut; cases refundChainIdShortcut_error shortcut
    · rw [returned] at shortcut; exact refundChainIdShortcut_possible shortcut
  · have unknown : e = .unknownL1Token deposit.inputToken deposit.originChainId := by
      cases l1TokenArg with
      | none => exact getL1TokenAddress_error resolveFailed
      | some t => cases resolveFailed
    subst unknown
    refine ⟨fun t c bad => ?_, fun p q bad => ?_, fun chains bad => ?_⟩ <;> rw [failed] at bad <;> cases bad
  · refine ⟨fun t c bad => ?_, fun p q bad => ?_, fun chains bad => ?_⟩ <;> rw [rejected] at bad <;> cases bad
  have fromMemo : ∀ c ∈ excess, s.hubPoolClient.depositForcesOriginChainRepayment deposit = false ∧ ∃ balances,
      (s.determineRefundChainId memos deposit l1TokenArg).1.excessRunningBalancePromises token =
        some (.resolved balances) ∧ c ∈ balances.keys := by
    intro c held
    rcases slow with ⟨rfl, -⟩ | ⟨notForced, -, balances, memo, rfl⟩
    · cases held
    · exact ⟨notForced, balances, memo,
        by simpa [_getExcessRunningBalancePcts] using mem_chainsWithExcessSpokeBalances held⟩
  have resolvedToken : s.getL1TokenAddress deposit.inputToken deposit.originChainId = .ok token := by
    cases l1TokenArg with
    | none => exact resolved
    | some t =>
      cases resolved
      exact resolvedArg _ rfl
  refine ⟨fun t c => ?_, fun possible evaluated failed => ?_, fun chains returned => ?_⟩
  · rw [← selected]
    refine selectRefundChains_enabled (fun c held => ?_) t c
    obtain ⟨-, balances, memo, key⟩ := fromMemo c held
    exact (after token balances memo c key).2
  · rw [← selected] at failed
    obtain ⟨listed, listedOk, c, held, absent⟩ := selectRefundChains_disagree failed
    obtain ⟨notForced, balances, memo, key⟩ := fromMemo c held
    have listedSlow := ((mem_getPossibleRepaymentChainIds listedOk).2 notForced).2.2
      (refundChainIdShortcut_none unanswered) token resolvedToken
    rcases determineRefundChainId_excessRunningBalancePromises memos deposit l1TokenArg token
      with kept | ⟨-, bundleRefunds, fresh⟩
    · have configured := sound token balances (kept ▸ memo) c key
      refine ⟨token, balances, c, kept ▸ memo, key, ?_⟩
      by_contra routed
      exact absent (listedSlow c (List.mem_filter.mpr ⟨configured.1, by simp_all⟩))
    · exact absurd (listedSlow c (_getLatestRunningBalances_keys (Option.some.inj (fresh.symm.trans memo)) c key))
        absent
  · rw [← selected] at returned
    exact selectRefundChains_possible returned


/-- The sample client with a third chain `42`, a slow-withdrawal chain whose last running
balance shows an excess of 50 units, and LP utilization prioritized. -/
def slowChainClient : InventoryClient :=
  { twoChainClient with
    inventoryConfig := ⟨[(100, .chains fun c => if c = 10 ∨ c = 42 then some
      ⟨5 * 10 ^ 17, 25 * 10 ^ 16, none, none, none, none⟩ else none)]⟩
    chainIdList := [1, 10, 42]
    chainIdList_nodup := by decide
    prioritizeLpUtilization := true
    constants := { twoChainClient.constants with
      remoteToken := fun l1Token c =>
        if l1Token = 100 ∧ c = 10 then some 200 else if l1Token = 100 ∧ c = 42 then some 300 else none
      l1TokenAddress := fun token c =>
        if token = 200 ∧ c = 10 ∨ token = 300 ∧ c = 42 ∨ token = 100 ∧ c = 1 then some 100 else none
      slowWithdrawalChains := [42] }
    hubPoolClient := { twoChainClient.hubPoolClient with
      l2TokenForL1Token := fun _ c => if c = 10 then some 200 else if c = 42 then some 300 else some 100
      runningBalance := fun c _ => if c = 42 then -(50 * 10 ^ 18) else 0 } }

/-- A deposit of 1 unit of token `200` from chain `10` to the hub. -/
def spokeDeposit : Deposit := ⟨3, 10, 1, 200, 100, 10 ^ 18, false, false⟩

/-- A call that memoizes the running balance of chain 42, then the hub pool disables the route
of the L1 token to chain 42. -/
def routeChangeRun : InventoryClient × Memos :=
  runOperations (slowChainClient, Memos.empty)
    [.determineRefundChainId spokeDeposit none,
      .clientsUpdated { slowChainClient.hubPoolClient with l2TokenEnabledForL1Token := fun _ c => c ≠ 42 }
        slowChainClient.tokenClient slowChainClient.bundleDataClient slowChainClient.adapterManager]

set_option maxRecDepth 4000 in
/-- The first call succeeds; after the route change the memoized chain 42 is still a candidate,
`getPossibleRepaymentChainIds` no longer lists it, and the selector throws. -/
theorem determineRefundChainId_disagrees_after_route_change :
    (slowChainClient.determineRefundChainId Memos.empty spokeDeposit none).2 = .ok [42, 10, 1] ∧
      (routeChangeRun.1.determineRefundChainId routeChangeRun.2 spokeDeposit none).2 =
        .error (.repaymentChainsDisagree [10, 1] [42, 10]) :=
  ⟨rfl, rfl⟩

/-- In every state a new client reaches, over any run of updates and calls, with an L1 token
argument omitted or the one resolved: no candidate is refused as not enabled; the selector
disagrees with `getPossibleRepaymentChainIds` only over a memoized chain whose route the hub pool
has disabled since; and every chain it returns is a possible one. -/
theorem runOperations_determineRefundChainId_sound (s₀ : InventoryClient) (operations : List Operation)
    (deposit : Deposit) (l1TokenArg : Option Nat)
    (resolvedArg : ∀ token, l1TokenArg = some token →
      (runOperations (s₀, Memos.empty) operations).1.getL1TokenAddress deposit.inputToken deposit.originChainId =
        .ok token) :
    (∀ t c, ((runOperations (s₀, Memos.empty) operations).1.determineRefundChainId
        (runOperations (s₀, Memos.empty) operations).2 deposit l1TokenArg).2 ≠ .error (.tokenNotEnabled t c)) ∧
    (∀ possible evaluated, ((runOperations (s₀, Memos.empty) operations).1.determineRefundChainId
        (runOperations (s₀, Memos.empty) operations).2 deposit l1TokenArg).2 =
          .error (.repaymentChainsDisagree possible evaluated) →
      ∃ token balances c, (runOperations (s₀, Memos.empty) operations).2.excessRunningBalancePromises token =
          some (.resolved balances) ∧ c ∈ balances.keys ∧
        (runOperations (s₀, Memos.empty) operations).1.hubPoolClient.l2TokenEnabledForL1Token token c = false) ∧
    ∀ chains, ((runOperations (s₀, Memos.empty) operations).1.determineRefundChainId
        (runOperations (s₀, Memos.empty) operations).2 deposit l1TokenArg).2 = .ok chains →
      ∀ c ∈ chains, ∃ possible,
        (runOperations (s₀, Memos.empty) operations).1.getPossibleRepaymentChainIds deposit = .ok possible ∧
          c ∈ possible :=
  determineRefundChainId_sound (runOperations_memoSound s₀ operations) deposit l1TokenArg resolvedArg

set_option maxRecDepth 4000 in
/-- After the route change the selector's disagreement is over chain 42, which the first call
memoized and whose route is now disabled. -/
theorem runOperations_determineRefundChainId_sound_routeChange :
    ∃ token balances c, routeChangeRun.2.excessRunningBalancePromises token = some (.resolved balances) ∧
      c ∈ balances.keys ∧ routeChangeRun.1.hubPoolClient.l2TokenEnabledForL1Token token c = false :=
  (runOperations_determineRefundChainId_sound slowChainClient
    [.determineRefundChainId spokeDeposit none,
      .clientsUpdated { slowChainClient.hubPoolClient with l2TokenEnabledForL1Token := fun _ c => c ≠ 42 }
        slowChainClient.tokenClient slowChainClient.bundleDataClient slowChainClient.adapterManager]
    spokeDeposit none fun _ given => nomatch given).2.1 [10, 1] [42, 10] rfl

end Relayer
