import Relayer.Reservations

/-! The rebalancing pass as a whole. The selection loop of `rebalanceInventoryIfNeeded`
reserves each rebalance it keeps with `trackCrossChainTransfer`, so the client it leaves is the
starting client with the kept amounts moved out of the hub's balance and into the transfers
outstanding to their chains, and nothing else changed (`selectRebalances_moves`). A reservation
moves inventory between enabled chains: the pass leaves the cumulative balance of every token as
it found it. The plan names each L1 token, chain and L2 token at most once, so each kept
rebalance is the only transfer to its chain and L2 token, and lands its allocation at its
target whatever else the pass keeps. -/
namespace Relayer

open InventoryClient

/-- The L1 token, chain and L2 token a rebalance is for. -/
def Rebalance.route (rebalance : Rebalance) : Nat × Nat × Nat :=
  (rebalance.l1Token, rebalance.chainId, rebalance.l2Token)

/-- The client a pass may leave: the starting one with its local balances and its outstanding
transfers changed, and nothing else. -/
def MovesInventory (s client : InventoryClient) : Prop :=
  ∃ balance outstanding, client =
    { s with tokenClient := { s.tokenClient with balance := balance }, crossChainTransferClient := ⟨outstanding⟩ }

section Loop

variable {s : InventoryClient} {selection : Selection}

/-- One step keeps the client, or reserves the rebalance in it. -/
theorem selectStep_client (selection : Selection) (rebalance : Rebalance) (currentBalance : Int) :
    (selectStep selection rebalance currentBalance).client = selection.client ∨
      (selectStep selection rebalance currentBalance).client =
        selection.client.trackCrossChainTransfer rebalance.l1Token rebalance.l2Token rebalance.amount
          rebalance.chainId := by
  dsimp only [selectStep]
  split_ifs
  exacts [.inr rfl, .inl rfl, .inl rfl]

/-- One step keeps the rebalance last, or keeps nothing. -/
theorem selectStep_possibleRebalances (selection : Selection) (rebalance : Rebalance) (currentBalance : Int) :
    (selectStep selection rebalance currentBalance).possibleRebalances = selection.possibleRebalances ++ [rebalance] ∨
      (selectStep selection rebalance currentBalance).possibleRebalances = selection.possibleRebalances := by
  dsimp only [selectStep]
  split_ifs
  exacts [.inl rfl, .inr rfl, .inr rfl]

theorem MovesInventory.trackCrossChainTransfer {client : InventoryClient} (moves : MovesInventory s client)
    (l1Token l2Token : Nat) (amount : Int) (chainId : Nat) :
    MovesInventory s (client.trackCrossChainTransfer l1Token l2Token amount chainId) := by
  obtain ⟨balance, outstanding, rfl⟩ := moves
  exact ⟨_, _, rfl⟩

theorem selectRebalances_moves (moves : MovesInventory s selection.client) :
    ∀ steps, MovesInventory s (selectRebalances selection steps).client := by
  intro steps
  induction steps generalizing selection with
  | nil => exact moves
  | cons step rest ih =>
    refine ih ?_
    rcases selectStep_client selection step.1 step.2 with same | tracked
    · rwa [same]
    · rw [tracked]
      exact moves.trackCrossChainTransfer _ _ _ _

/-- The loop keeps rebalances in the order of the plan, after those it started with. -/
theorem selectRebalances_kept : ∀ (selection : Selection) (steps : List (Rebalance × Int)),
    ∃ kept, (selectRebalances selection steps).possibleRebalances = selection.possibleRebalances ++ kept ∧
      kept.Sublist (steps.map Prod.fst)
  | selection, [] => ⟨[], (List.append_nil _).symm, .slnil⟩
  | selection, (rebalance, currentBalance) :: rest => by
    obtain ⟨kept, same, sub⟩ := selectRebalances_kept (selectStep selection rebalance currentBalance) rest
    rw [selectRebalances, same]
    rcases selectStep_possibleRebalances selection rebalance currentBalance with pushed | unchanged
    · exact ⟨rebalance :: kept, by rw [pushed, List.append_assoc, List.singleton_append], sub.cons₂ _⟩
    · exact ⟨kept, by rw [unchanged], sub.cons _⟩

/-- A loop over rebalances to enabled spokes, with the hub enabled, leaves every cumulative
balance as it found it. -/
theorem selectRebalances_getCumulativeBalance (selection : Selection)
    (hubEnabled : selection.client.hubChainId ∈ selection.client.chainIdList) :
    ∀ steps : List (Rebalance × Int),
      (∀ step ∈ steps, step.1.chainId ≠ selection.client.hubChainId ∧ step.1.chainId ∈ selection.client.chainIdList) →
      ∀ token, (selectRebalances selection steps).client.getCumulativeBalance token =
        selection.client.getCumulativeBalance token := by
  intro steps
  induction steps generalizing selection with
  | nil => exact fun _ _ => rfl
  | cons step rest ih =>
    intro spokes token
    obtain ⟨spoke, enabled⟩ := spokes step (List.mem_cons_self _ _)
    rcases selectStep_client selection step.1 step.2 with same | tracked
    · rw [selectRebalances, ih _ (same ▸ hubEnabled)
        (fun later held => same ▸ spokes later (List.mem_cons_of_mem _ held)), same]
    · rw [selectRebalances, ih _ (by simpa [tracked] using hubEnabled)
          (fun later held => by simpa [tracked] using spokes later (List.mem_cons_of_mem _ held)),
        tracked, getCumulativeBalance_trackCrossChainTransfer spoke enabled hubEnabled]

end Loop

/-! ## Each route is planned once -/

section Plan

variable {s : InventoryClient}

theorem getRemoteTokensForL1Token_nodup (l1Token chainId : Nat) : (s.getRemoteTokensForL1Token l1Token chainId).Nodup := by
  unfold getRemoteTokensForL1Token
  split_ifs
  · exact List.nodup_singleton _
  split
  · exact List.nodup_nil
  · rename_i distinct _
    exact distinct.sublist ((List.filter_sublist _).map _)
  · cases s.getRemoteTokenForL1Token l1Token chainId <;> simp

private theorem route_of_planned {l1Token chainId l2Token : Nat} {cumulativeBalance : Int} {route : Nat × Nat × Nat}
    (held : route ∈ (s.plannedRebalance l1Token cumulativeBalance chainId l2Token).map Rebalance.route) :
    route = (l1Token, chainId, l2Token) := by
  obtain ⟨rebalance, planned, rfl⟩ := Option.mem_map.mp held
  obtain ⟨-, -, -, token, chain, l2⟩ := plannedRebalance_eq_some planned
  simp [Rebalance.route, token, chain, l2]

private theorem route_of_mem_block {l1Token chainId : Nat} {cumulativeBalance : Int} {route : Nat × Nat × Nat}
    (held : route ∈ ((s.getRemoteTokensForL1Token l1Token chainId).filterMap
      (s.plannedRebalance l1Token cumulativeBalance chainId)).map Rebalance.route) :
    route.1 = l1Token ∧ route.2.1 = chainId := by
  obtain ⟨rebalance, kept, rfl⟩ := List.mem_map.mp held
  obtain ⟨l2Token, -, planned⟩ := List.mem_filterMap.mp kept
  rw [route_of_planned (Option.mem_map_of_mem Rebalance.route planned)]
  exact ⟨rfl, rfl⟩

private theorem route_of_mem_token_block {l1Token : Nat} {cumulativeBalance : Int} {chains : List Nat}
    {route : Nat × Nat × Nat}
    (held : route ∈ (chains.flatMap fun chainId => (s.getRemoteTokensForL1Token l1Token chainId).filterMap
      (s.plannedRebalance l1Token cumulativeBalance chainId)).map Rebalance.route) :
    route.1 = l1Token := by
  obtain ⟨rebalance, kept, rfl⟩ := List.mem_map.mp held
  obtain ⟨chainId, -, planned⟩ := List.mem_flatMap.mp kept
  exact (route_of_mem_block (List.mem_map_of_mem Rebalance.route planned)).1

/-- Over a configuration that names each L1 token once, no two planned rebalances share their
L1 token, chain and L2 token. -/
theorem getPossibleRebalances_routes_nodup (distinct : s.getL1Tokens.Nodup) :
    (s.getPossibleRebalances.map Rebalance.route).Nodup := by
  unfold getPossibleRebalances
  rw [List.map_flatMap]
  refine List.nodup_flatMap.mpr ⟨fun l1Token _ => ?_, distinct.imp fun {a b} different x inA inB => ?_⟩
  · dsimp only
    split_ifs
    · exact List.nodup_nil
    rw [List.map_flatMap]
    refine List.nodup_flatMap.mpr ⟨fun chainId _ => ?_,
      (s.chainIdList_nodup.filter _ |>.filter _).imp fun {c d} different x inC inD => ?_⟩
    · rw [List.map_filterMap]
      refine (getRemoteTokensForL1Token_nodup _ _).filterMap fun a a' x held held' => ?_
      have first := route_of_planned held
      have second := route_of_planned held'
      rw [first] at second
      exact (Prod.mk.inj (Prod.mk.inj second).2).2
    · exact different ((route_of_mem_block inC).2.symm.trans (route_of_mem_block inD).2)
  · dsimp only at inA inB
    split_ifs at inA inB
    · cases inA
    · cases inA
    · cases inB
    · exact different ((route_of_mem_token_block inA).symm.trans (route_of_mem_token_block inB))

/-- Among rebalances with distinct routes, the one with a given route is that rebalance alone. -/
theorem filter_route_eq {rebalances : List Rebalance} (distinct : (rebalances.map Rebalance.route).Nodup)
    {rebalance : Rebalance} (held : rebalance ∈ rebalances) :
    rebalances.filter (fun other => decide (other.route = rebalance.route)) = [rebalance] := by
  induction rebalances with
  | nil => cases held
  | cons head rest ih =>
    obtain ⟨fresh, distinct⟩ := List.nodup_cons.mp distinct
    rcases List.mem_cons.mp held with rfl | later
    · have others : rest.filter (fun other => decide (other.route = rebalance.route)) = [] :=
        List.filter_eq_nil_iff.mpr fun other inRest same =>
          fresh (of_decide_eq_true same ▸ List.mem_map_of_mem Rebalance.route inRest)
      simp [others]
    · have different : head.route ≠ rebalance.route := fun same =>
        fresh (same ▸ List.mem_map_of_mem Rebalance.route later)
      simp [different, ih distinct later]

end Plan

/-! ## The pass -/

section Pass

variable {s : InventoryClient}

/-- The selection a pass makes is the loop over some plan drawn, in order, from
`getPossibleRebalances`: all of it, or nothing when inventory management is off or there is no
plan. -/
theorem rebalanceInventoryIfNeeded_selection (s : InventoryClient) (onChainBalance : Nat → Int)
    (sendSucceeds : Nat → Bool) :
    ∃ steps : List (Rebalance × Int), (steps.map Prod.fst).Sublist s.getPossibleRebalances ∧
      (s.rebalanceInventoryIfNeeded onChainBalance sendSucceeds).1 = selectRebalances ⟨s, [], []⟩ steps := by
  dsimp only [rebalanceInventoryIfNeeded]
  split_ifs
  · exact ⟨[], List.nil_sublist _, rfl⟩
  · exact ⟨[], List.nil_sublist _, rfl⟩
  · refine ⟨_, ?_, rfl⟩
    rw [List.map_map]
    show (s.getPossibleRebalances.enum.map Prod.snd).Sublist _
    rw [List.enum_map_snd]

theorem rebalanceInventoryIfNeeded_snd (s : InventoryClient) (onChainBalance : Nat → Int) (sendSucceeds : Nat → Bool) :
    (s.rebalanceInventoryIfNeeded onChainBalance sendSucceeds).2 =
      submitInOrder sendSucceeds 0 (s.rebalanceInventoryIfNeeded onChainBalance sendSucceeds).1.possibleRebalances := by
  dsimp only [rebalanceInventoryIfNeeded]
  split_ifs <;> rfl

/-- Every transfer a pass submits is one of `getPossibleRebalances`, in their order. -/
theorem rebalanceInventoryIfNeeded_submitted (s : InventoryClient) (onChainBalance : Nat → Int)
    (sendSucceeds : Nat → Bool) :
    (s.rebalanceInventoryIfNeeded onChainBalance sendSucceeds).2.Sublist s.getPossibleRebalances := by
  obtain ⟨steps, planned, selected⟩ := rebalanceInventoryIfNeeded_selection s onChainBalance sendSucceeds
  obtain ⟨kept, same, sub⟩ := selectRebalances_kept ⟨s, [], []⟩ steps
  rw [rebalanceInventoryIfNeeded_snd, selected, same, List.nil_append]
  exact (submitInOrder_isPrefix sendSucceeds 0 kept).sublist.trans (sub.trans planned)

/-- Every planned rebalance is to an enabled chain other than the hub. -/
theorem getPossibleRebalances_spoke {rebalance : Rebalance} (held : rebalance ∈ s.getPossibleRebalances) :
    rebalance.chainId ≠ s.hubChainId ∧ rebalance.chainId ∈ s.chainIdList := by
  obtain ⟨l1Token, -, -, chainId, l2Chain, -, l2Token, -, planned⟩ := mem_getPossibleRebalances held
  obtain ⟨-, -, -, -, rfl, -⟩ := plannedRebalance_eq_some planned
  obtain ⟨enabled, spoke⟩ := List.mem_filter.mp l2Chain
  exact ⟨of_decide_eq_true spoke, enabled⟩

/-- Over a plan drawn from `getPossibleRebalances`, with the hub enabled and each L1 token named
once, the allocation of a kept rebalance's chain and L2 token after the loop is the one its
amount alone gives. -/
theorem selectRebalances_getCurrentAllocationPct (hubEnabled : s.hubChainId ∈ s.chainIdList)
    (distinct : s.getL1Tokens.Nodup) {steps : List (Rebalance × Int)}
    (planned : (steps.map Prod.fst).Sublist s.getPossibleRebalances) {rebalance : Rebalance}
    (kept : rebalance ∈ (selectRebalances ⟨s, [], []⟩ steps).possibleRebalances)
    (positive : s.getCumulativeBalance rebalance.l1Token ≠ 0) :
    (selectRebalances ⟨s, [], []⟩ steps).client.getCurrentAllocationPct rebalance.l1Token rebalance.chainId
        rebalance.l2Token =
      bnDiv ((s.getBalanceOnChain rebalance.chainId rebalance.l1Token (some rebalance.l2Token) -
        s.toL1Decimals rebalance.chainId rebalance.l2Token rebalance.l1Token
          (s.tokenClient.shortfall rebalance.chainId rebalance.l2Token) + rebalance.amount) * fixedPointAdjustment)
        (s.getCumulativeBalance rebalance.l1Token) := by
  obtain ⟨kept', same, sub⟩ := selectRebalances_kept ⟨s, [], []⟩ steps
  rw [same, List.nil_append] at kept
  have fromPlan := sub.trans planned
  have spokes : ∀ step ∈ steps, step.1.chainId ≠ s.hubChainId ∧ step.1.chainId ∈ s.chainIdList :=
    fun step held => getPossibleRebalances_spoke (planned.subset (List.mem_map_of_mem Prod.fst held))
  have cumulative := selectRebalances_getCumulativeBalance ⟨s, [], []⟩ hubEnabled steps spokes rebalance.l1Token
  obtain ⟨-, balances, transfers⟩ := selectRebalances_reserved (reserved_start s) steps
  have transferred : (selectRebalances ⟨s, [], []⟩ steps).transferredAmount rebalance.chainId rebalance.l1Token
      (some rebalance.l2Token) = rebalance.amount := by
    have only := filter_route_eq ((getPossibleRebalances_routes_nodup distinct).sublist (fromPlan.map _)) kept
    unfold Selection.transferredAmount
    rw [same, List.nil_append, List.filter_congr fun other _ => ?_, only]
    · simp
    · simp only [Rebalance.route, Option.some.injEq, Option.some_ne_none, false_or, Prod.mk.injEq,
        decide_eq_decide]
      exact ⟨fun ⟨chain, token, l2⟩ => ⟨token.symm, chain.symm, l2.symm⟩,
        fun ⟨token, chain, l2⟩ => ⟨chain.symm, token.symm, l2.symm⟩⟩
  have start : MovesInventory s (⟨s, [], []⟩ : Selection).client :=
    ⟨s.tokenClient.balance, s.crossChainTransferClient.outstanding, rfl⟩
  obtain ⟨balance, outstanding, moved⟩ := selectRebalances_moves start steps
  have spoke := (getPossibleRebalances_spoke (fromPlan.subset kept)).1
  rw [moved] at balances transfers cumulative ⊢
  simp only [getCurrentAllocationPct, cumulative, if_neg positive]
  simp only [getBalanceOnChain, toL1Decimals] at balances transfers ⊢
  rw [balances, transfers, transferred, if_neg spoke, sub_zero]
  ring_nf

end Pass

/-- A rebalancing pass moves inventory between the hub and the spokes: with the hub enabled,
over any on-chain reads and any submissions, the client it leaves has the cumulative balance of
every L1 token it started with. -/
theorem rebalanceInventoryIfNeeded_conserves (s : InventoryClient) (hubEnabled : s.hubChainId ∈ s.chainIdList)
    (onChainBalance : Nat → Int) (sendSucceeds : Nat → Bool) (l1Token : Nat) :
    (s.rebalanceInventoryIfNeeded onChainBalance sendSucceeds).1.client.getCumulativeBalance l1Token =
      s.getCumulativeBalance l1Token := by
  obtain ⟨steps, planned, selected⟩ := rebalanceInventoryIfNeeded_selection s onChainBalance sendSucceeds
  rw [selected]
  exact selectRebalances_getCumulativeBalance ⟨s, [], []⟩ hubEnabled steps
    (fun step held => getPossibleRebalances_spoke (planned.subset (List.mem_map_of_mem Prod.fst held))) l1Token

theorem rebalanceInventoryIfNeeded_conserves_twoChain :
    twoChainClient.hubChainId ∈ twoChainClient.chainIdList ∧
      (twoChainClient.rebalanceInventoryIfNeeded (fun _ => 80 * 10 ^ 18) fun _ => true).1.client.getCumulativeBalance 100 =
        twoChainClient.getCumulativeBalance 100 :=
  have hubEnabled : twoChainClient.hubChainId ∈ twoChainClient.chainIdList := by decide
  ⟨hubEnabled, rebalanceInventoryIfNeeded_conserves twoChainClient hubEnabled _ _ 100⟩

/-- With the hub enabled and each L1 token configured once, every rebalance a pass keeps lands
the allocation of its chain and L2 token at most at its target and less than
`10^18 / cumulative + 2` under it, whatever else the pass keeps and whatever the on-chain reads. -/
theorem rebalanceInventoryIfNeeded_reaches_targets (s : InventoryClient) (hubEnabled : s.hubChainId ∈ s.chainIdList)
    (distinct : s.getL1Tokens.Nodup) (onChainBalance : Nat → Int) (sendSucceeds : Nat → Bool) {rebalance : Rebalance}
    (kept : rebalance ∈ (s.rebalanceInventoryIfNeeded onChainBalance sendSucceeds).1.possibleRebalances)
    (positive : 0 < s.getCumulativeBalance rebalance.l1Token) (nonneg : 0 ≤ rebalance.thresholdPct)
    (ordered : rebalance.thresholdPct ≤ rebalance.targetPct) :
    rebalance.targetPct - fixedPointAdjustment / s.getCumulativeBalance rebalance.l1Token - 2 ≤
        (s.rebalanceInventoryIfNeeded onChainBalance sendSucceeds).1.client.getCurrentAllocationPct
          rebalance.l1Token rebalance.chainId rebalance.l2Token ∧
      (s.rebalanceInventoryIfNeeded onChainBalance sendSucceeds).1.client.getCurrentAllocationPct
          rebalance.l1Token rebalance.chainId rebalance.l2Token ≤ rebalance.targetPct := by
  obtain ⟨steps, planned, selected⟩ := rebalanceInventoryIfNeeded_selection s onChainBalance sendSucceeds
  rw [selected] at kept ⊢
  rw [selectRebalances_getCurrentAllocationPct hubEnabled distinct planned kept positive.ne']
  obtain ⟨kept', same, sub⟩ := selectRebalances_kept ⟨s, [], []⟩ steps
  rw [same, List.nil_append] at kept
  obtain ⟨l1Token, -, -, chainId, -, -, l2Token, -, plannedOne⟩ :=
    mem_getPossibleRebalances ((sub.trans planned).subset kept)
  obtain ⟨tokenConfig, -, under, rfl⟩ := plannedRebalance_spec plannedOne
  dsimp only at positive nonneg ordered ⊢
  have current : s.getCurrentAllocationPct l1Token chainId l2Token =
      bnDiv ((s.getBalanceOnChain chainId l1Token (some l2Token) -
        s.toL1Decimals chainId l2Token l1Token (s.tokenClient.shortfall chainId l2Token)) * fixedPointAdjustment)
        (s.getCumulativeBalance l1Token) := by
    simp [getCurrentAllocationPct, positive.ne']
  rw [current] at under ⊢
  exact allocation_after_planned positive (nonneg.trans ordered) (under.trans_le ordered)

theorem rebalanceInventoryIfNeeded_reaches_targets_twoChain :
    (twoChainClient.hubChainId ∈ twoChainClient.chainIdList ∧ twoChainClient.getL1Tokens.Nodup ∧
      twoChainRebalance ∈ (twoChainClient.rebalanceInventoryIfNeeded (fun _ => 80 * 10 ^ 18) fun _ => true).1.possibleRebalances ∧
      0 < twoChainClient.getCumulativeBalance twoChainRebalance.l1Token ∧
      0 ≤ twoChainRebalance.thresholdPct ∧ twoChainRebalance.thresholdPct ≤ twoChainRebalance.targetPct) ∧
    (twoChainClient.rebalanceInventoryIfNeeded (fun _ => 80 * 10 ^ 18) fun _ => true).1.client.getCurrentAllocationPct
      100 10 200 ≤ twoChainRebalance.targetPct :=
  have hubEnabled : twoChainClient.hubChainId ∈ twoChainClient.chainIdList := by decide
  have distinct : twoChainClient.getL1Tokens.Nodup := by decide
  have kept : twoChainRebalance ∈
      (twoChainClient.rebalanceInventoryIfNeeded (fun _ => 80 * 10 ^ 18) fun _ => true).1.possibleRebalances := by
    decide
  have positive : 0 < twoChainClient.getCumulativeBalance twoChainRebalance.l1Token := by decide
  have nonneg : 0 ≤ twoChainRebalance.thresholdPct := by decide
  have ordered : twoChainRebalance.thresholdPct ≤ twoChainRebalance.targetPct := by decide
  ⟨⟨hubEnabled, distinct, kept, positive, nonneg, ordered⟩,
    (rebalanceInventoryIfNeeded_reaches_targets twoChainClient hubEnabled distinct _ _ kept positive nonneg ordered).2⟩

/-- A pass never sends two transfers on one route: with each L1 token configured once, the
transfers it submits have distinct (L1 token, chain, L2 token), whatever the on-chain reads and
whichever submissions fail. -/
theorem rebalanceInventoryIfNeeded_sends_each_route_once (s : InventoryClient) (distinct : s.getL1Tokens.Nodup)
    (onChainBalance : Nat → Int) (sendSucceeds : Nat → Bool) :
    ((s.rebalanceInventoryIfNeeded onChainBalance sendSucceeds).2.map Rebalance.route).Nodup :=
  (getPossibleRebalances_routes_nodup distinct).sublist
    ((rebalanceInventoryIfNeeded_submitted s onChainBalance sendSucceeds).map _)

theorem rebalanceInventoryIfNeeded_sends_each_route_once_twoChain :
    twoChainClient.getL1Tokens.Nodup ∧
      ((twoChainClient.rebalanceInventoryIfNeeded (fun _ => 80 * 10 ^ 18) fun _ => true).2.map Rebalance.route).Nodup :=
  have distinct : twoChainClient.getL1Tokens.Nodup := by decide
  ⟨distinct, rebalanceInventoryIfNeeded_sends_each_route_once twoChainClient distinct _ _⟩

end Relayer
