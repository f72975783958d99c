import Relayer.RepaymentSafety

/-! The order of the chains `determineRefundChainId` returns. The candidates are pushed in a
fixed order, each only when absent and routed; the loop keeps some of them in order, and the hub
is appended after them unless one of them is the hub. -/
namespace Relayer

open InventoryClient

/-! ## Adding a chain -/

theorem addChainId_of_mem {chainIds : List Nat} {chainId : Nat} (held : chainId ∈ chainIds) :
    addChainId chainIds chainId = chainIds := if_pos held

theorem addChainId_of_not_mem {chainIds : List Nat} {chainId : Nat} (absent : chainId ∉ chainIds) :
    addChainId chainIds chainId = chainIds ++ [chainId] := if_neg absent

theorem sublist_addChainId {chains chainIds : List Nat} (sub : chains.Sublist chainIds) (chainId : Nat) :
    chains.Sublist (addChainId chainIds chainId) := by
  unfold addChainId
  split
  exacts [sub, sub.trans (List.sublist_append_left _ _)]

/-- Adding a chain to both lists keeps the first a sublist of the second, unless the chain is
already in the second list only. -/
theorem addChainId_sublist {chains chainIds : List Nat} {chainId : Nat} (sub : chains.Sublist chainIds)
    (present : chainId ∈ chainIds → chainId ∈ chains) :
    (addChainId chains chainId).Sublist (addChainId chainIds chainId) := by
  by_cases held : chainId ∈ chainIds
  · rw [addChainId_of_mem (present held), addChainId_of_mem held]
    exact sub
  · rw [addChainId_of_not_mem held, addChainId_of_not_mem fun pushed => held (sub.subset pushed)]
    exact sub.append_right _

/-- Adding chains without repeats, none of them already there, appends them. -/
theorem foldl_addChainId_of_nodup :
    ∀ {chains : List Nat} (chainIds : List Nat), chains.Nodup → (∀ c ∈ chains, c ∉ chainIds) →
      chains.foldl addChainId chainIds = chainIds ++ chains
  | [], chainIds, _, _ => by simp
  | c :: rest, chainIds, distinct, fresh => by
    obtain ⟨later, distinct⟩ := List.nodup_cons.mp distinct
    have freshRest : ∀ x ∈ rest, x ∉ chainIds ++ [c] := fun x held pushed =>
      (List.mem_append.mp pushed).elim (fresh x (List.mem_cons_of_mem c held))
        fun same => later (List.mem_singleton.mp same ▸ held)
    rw [List.foldl_cons, addChainId_of_not_mem (fresh c (List.mem_cons_self c rest)),
      foldl_addChainId_of_nodup _ distinct freshRest, List.append_assoc, List.singleton_append]

/-! ## The candidate sequence -/

/-- The slow-withdrawal chains of the sequence are the chains with a positive excess, highest
first. -/
theorem chainsWithExcessSpokeBalances_ranked (pcts : ChainKeyed Int) :
    ∃ ranked : List (Nat × Int), ranked.Sorted (fun a b => b.2 ≤ a.2) ∧
      ranked.Perm (pcts.entries.filter fun entry => 0 < entry.2) ∧
      chainsWithExcessSpokeBalances pcts = ranked.map Prod.fst :=
  have : IsTotal (Nat × Int) fun a b => b.2 ≤ a.2 := ⟨fun a b => le_total b.2 a.2⟩
  have : IsTrans (Nat × Int) fun a b => b.2 ≤ a.2 := ⟨fun _ _ _ first second => second.trans first⟩
  ⟨_, List.sorted_insertionSort _ _, List.perm_insertionSort _ _, rfl⟩

/-- The repayment candidates in the order the selector's description lists them, each chain
kept at its first position: the slow-withdrawal chains `excessChains`, the origin of a deposit to
a lite chain, the destination, the origin. -/
def refundCandidateOrder (deposit : Deposit) (excessChains : List Nat) : List Nat :=
  (excessChains ++ (if deposit.toLiteChain then [deposit.originChainId] else []) ++
    [deposit.destinationChainId, deposit.originChainId]).foldl addChainId []

theorem refundCandidateOrder_eq {deposit : Deposit} {excessChains : List Nat} (distinct : excessChains.Nodup) :
    refundCandidateOrder deposit excessChains =
      addChainId (addChainId (if deposit.toLiteChain then addChainId excessChains deposit.originChainId
        else excessChains) deposit.destinationChainId) deposit.originChainId := by
  unfold refundCandidateOrder
  rw [List.foldl_append, List.foldl_append,
    foldl_addChainId_of_nodup [] distinct fun _ _ absent => List.not_mem_nil _ absent, List.nil_append]
  split <;> rfl

section Pushes

variable {enabled : Nat → Bool} {origin destination : Nat}

/-- The first push of the candidate list and of the sequence agree, or the sequence pushes an
origin whose route is disabled. -/
private theorem litePush_cases (excessChains : List Nat) (lite : Bool) :
    (if lite && enabled origin then addChainId excessChains origin else excessChains) =
        (if lite then addChainId excessChains origin else excessChains) ∨
      (if lite && enabled origin then addChainId excessChains origin else excessChains) = excessChains ∧
        (if lite then addChainId excessChains origin else excessChains) = addChainId excessChains origin ∧
        enabled origin = false := by
  cases lite <;> cases routed : enabled origin <;> simp

/-- After the first push: the candidates so far are a sublist of the sequence so far, and a
chain of the sequence missing from them is the origin with its route disabled, so the later
pushes keep the order. A destination skipped and pushed back as the origin goes last in both. -/
private theorem laterPushes_sublist {chains order : List Nat} (canTake notHub : Bool)
    (sub : chains.Sublist order)
    (skipped : ∀ c ∈ order, c ∉ chains → c = origin ∧ enabled origin = false) :
    (let chains := if canTake && enabled destination then addChainId chains destination else chains
     if notHub && enabled origin then addChainId chains origin else chains).Sublist
      (addChainId (addChainId order destination) origin) := by
  have fromOrder {c} (held : c ∈ order) (routed : enabled c = true) : c ∈ chains :=
    Classical.byContradiction fun absent => by
      obtain ⟨rfl, disabled⟩ := skipped c held absent
      simp [routed] at disabled
  dsimp only
  by_cases pushedDestination : (canTake && enabled destination) = true
  · rw [if_pos pushedDestination]
    have routed := (Bool.and_eq_true _ _).mp pushedDestination
    have sub₂ := addChainId_sublist sub (fromOrder · routed.2)
    split
    · rename_i pushedOrigin
      refine addChainId_sublist sub₂ fun held => mem_addChainId.mpr ?_
      rcases mem_addChainId.mp held with held | same
      exacts [.inl (fromOrder held ((Bool.and_eq_true _ _).mp pushedOrigin).2), .inr same]
    · exact sublist_addChainId sub₂ origin
  · rw [if_neg pushedDestination]
    have sub₂ := sublist_addChainId sub destination
    split
    · rename_i pushedOrigin
      have routed := ((Bool.and_eq_true _ _).mp pushedOrigin).2
      by_cases held : origin ∈ chains
      · rw [addChainId_of_mem held]
        exact sublist_addChainId sub₂ origin
      have fresh : origin ∉ order := fun inOrder => held (fromOrder inOrder routed)
      by_cases same : origin = destination
      · rw [addChainId_of_not_mem held, ← same, addChainId_of_not_mem fresh,
          addChainId_of_mem (List.mem_append_right _ (List.mem_singleton_self _))]
        exact sub.append_right _
      · refine addChainId_sublist sub₂ fun inOrder => ?_
        rcases mem_addChainId.mp inOrder with inOrder | pushed
        exacts [absurd inOrder fresh, absurd pushed same]
    · exact sublist_addChainId sub₂ origin

/-- The three guarded pushes of `chainsToEvaluate`, each made only when the chain is routed,
give a sublist of the same pushes made unconditionally. -/
theorem guardedPushes_sublist (excessChains : List Nat) (lite canTake notHub : Bool) :
    (let chains := if lite && enabled origin then addChainId excessChains origin else excessChains
     let chains := if canTake && enabled destination then addChainId chains destination else chains
     if notHub && enabled origin then addChainId chains origin else chains).Sublist
      (addChainId (addChainId (if lite then addChainId excessChains origin else excessChains)
        destination) origin) := by
  dsimp only
  rcases @litePush_cases enabled origin excessChains lite with same | ⟨kept, pushed, disabled⟩
  · rw [same]
    exact laterPushes_sublist canTake notHub (List.Sublist.refl _) fun c held absent => absurd held absent
  · rw [kept, pushed]
    refine laterPushes_sublist canTake notHub (sublist_addChainId (List.Sublist.refl _) origin) ?_
    intro c held absent
    rcases mem_addChainId.mp held with held | rfl
    exacts [absurd held absent, ⟨rfl, disabled⟩]

end Pushes

/-! ## The candidates of one deposit -/

private theorem guardedPush_eq {chainIds : List Nat} {chainId : Nat} (a b : Bool) :
    (if a && !chainIds.contains chainId && b then chainIds ++ [chainId] else chainIds) =
      if a && b then addChainId chainIds chainId else chainIds := by
  by_cases held : chainId ∈ chainIds <;> cases a <;> cases b <;> simp [addChainId, held]

private theorem guardedPush_eq_of_absent {chainIds : List Nat} {chainId : Nat} (a b : Bool) :
    (if !chainIds.contains chainId && a && b then chainIds ++ [chainId] else chainIds) =
      if a && b then addChainId chainIds chainId else chainIds := by
  by_cases held : chainId ∈ chainIds <;> cases a <;> cases b <;> simp [addChainId, held]

variable {s : InventoryClient} {deposit : Deposit} {l1Token : Nat} {excessChains : List Nat}

/-- The candidates come in the order of the candidate sequence. -/
theorem chainsToEvaluate_sublist (distinct : excessChains.Nodup) :
    (s.chainsToEvaluate deposit l1Token excessChains).Sublist (refundCandidateOrder deposit excessChains) := by
  rw [refundCandidateOrder_eq distinct]
  simp only [chainsToEvaluate, guardedPush_eq, guardedPush_eq_of_absent]
  exact guardedPushes_sublist excessChains _ _ _

/-! ## The chains returned -/

/-- A deposit that does not force origin repayment, with a valid output token and inventory
management on, gets the candidates it keeps in the order of the candidate sequence, then the hub
unless it is one of them. The slow-withdrawal chains heading the sequence are none when the client
does not prioritize LP utilization, and otherwise the chains with a positive excess in the
running-balance memo the call leaves, highest excess first. -/
theorem refundChains_in_candidate_order (s : InventoryClient) (memos : Memos) (deposit : Deposit)
    (l1TokenArg : Option Nat) (enabled : s.isInventoryManagementEnabled = true)
    (notForced : s.hubPoolClient.depositForcesOriginChainRepayment deposit = false)
    (validOutput : s.constants.invalidOutputToken deposit = false) {chains : List Nat}
    (returned : (s.determineRefundChainId memos deposit l1TokenArg).2 = .ok chains) :
    ∃ excessChains, (s.prioritizeLpUtilization = false ∧ excessChains = [] ∨
        s.prioritizeLpUtilization = true ∧ ∃ token balances, ∃ ranked : List (Nat × Int),
          l1TokenArg.elim (s.getL1TokenAddress deposit.inputToken deposit.originChainId) .ok = .ok token ∧
          (s.determineRefundChainId memos deposit l1TokenArg).1.excessRunningBalancePromises token =
            some (.resolved balances) ∧
          ranked.Sorted (fun a b => b.2 ≤ a.2) ∧
          ranked.Perm ((s._getExcessRunningBalancePcts balances token
            (s.toL1Decimals deposit.originChainId deposit.inputToken token deposit.inputAmount)).entries.filter
              fun entry => 0 < entry.2) ∧
          excessChains = ranked.map Prod.fst) ∧
      ∃ eligible, eligible.Sublist (refundCandidateOrder deposit excessChains) ∧
        chains = if s.hubChainId ∈ eligible then eligible else eligible ++ [s.hubChainId] := by
  rcases determineRefundChainId_cases returned with shortcut |
      ⟨-, ⟨e, -, failed⟩ | failed | ⟨token, refunds, excess, resolved, selected, slow⟩⟩
  · unfold refundChainIdShortcut at shortcut
    split_ifs at shortcut <;> simp_all
  · cases failed
  · cases failed
  obtain ⟨-, eligible, evaluated, rfl⟩ := selectRefundChains_ok selected
  have distinct : excess.Nodup := by
    rcases slow with ⟨rfl, -⟩ | ⟨-, -, -, -, rfl⟩
    exacts [List.nodup_nil, chainsWithExcessSpokeBalances_nodup _]
  refine ⟨excess, ?_, eligible, (evaluateChains_sublist evaluated).trans (chainsToEvaluate_sublist distinct), ?_⟩
  · rcases slow with ⟨rfl, forced | unprioritized⟩ | ⟨-, prioritized, balances, memo, rfl⟩
    · rw [forced] at notForced; cases notForced
    · exact .inl ⟨unprioritized, rfl⟩
    · obtain ⟨ranked, sorted, perm, ranks⟩ := chainsWithExcessSpokeBalances_ranked
        (s._getExcessRunningBalancePcts balances token
          (s.toL1Decimals deposit.originChainId deposit.inputToken token deposit.inputAmount))
      exact .inr ⟨prioritized, token, balances, ranked, resolved, memo, sorted, perm, ranks⟩
  · rw [notForced, finalizeRefundChains_unforced notForced]

theorem refundChains_in_candidate_order_hubDeposit :
    (twoChainClient.determineRefundChainId Memos.empty hubDeposit none).2 = .ok [10, 1] ∧
      ∃ excessChains, excessChains = [] ∧ ∃ eligible,
        eligible.Sublist (refundCandidateOrder hubDeposit excessChains) ∧
        [10, 1] = if twoChainClient.hubChainId ∈ eligible then eligible else eligible ++ [twoChainClient.hubChainId] :=
  have returned : (twoChainClient.determineRefundChainId Memos.empty hubDeposit none).2 = .ok [10, 1] := rfl
  have ordered := refundChains_in_candidate_order twoChainClient Memos.empty hubDeposit none rfl rfl rfl returned
  ⟨returned, [], rfl, by
    obtain ⟨excessChains, slow, ordered⟩ := ordered
    rcases slow with ⟨-, rfl⟩ | ⟨prioritized, -⟩
    · exact ordered
    · cases prioritized⟩

/-- The destination of `spokeDeposit` is the hub, which has no token config: it is not a
candidate, and comes back after the origin as the fallback, where the sequence of candidates
then the hub has it first. -/
theorem refundChains_hub_after_origin :
    (twoChainClient.determineRefundChainId Memos.empty spokeDeposit none).2 = .ok [10, 1] ∧
      twoChainClient.isInventoryManagementEnabled = true ∧
      twoChainClient.hubPoolClient.depositForcesOriginChainRepayment spokeDeposit = false ∧
      twoChainClient.constants.invalidOutputToken spokeDeposit = false ∧
      twoChainClient.prioritizeLpUtilization = false ∧
      addChainId (refundCandidateOrder spokeDeposit []) twoChainClient.hubChainId = [1, 10] ∧
      ¬ [10, 1].Sublist [1, 10] :=
  ⟨rfl, rfl, rfl, rfl, rfl, rfl, by decide⟩

end Relayer
