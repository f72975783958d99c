import Relayer.ExcessWithdrawal

/-! What the three passes that move inventory reserve in the client's own books, against what
they submit. `rebalanceInventoryIfNeeded` reserves every rebalance it selects before it submits
any, and keeps the reservations when a submission fails; `unwrapWeth` lowers the local WETH
balance just before each submission, the failing one included, and stops at the first failure
(`UnwrapsRun`); `withdrawExcessBalances` writes nothing (`passes_reserve`). -/
namespace Relayer

/-- `ChainInfo`; `balance` is the native balance `getBalance` reads. -/
structure ChainInfo where
  chainId : Nat
  weth : Nat
  unwrapWethThreshold : Int
  unwrapWethTarget : Int
  balance : Int
  deriving DecidableEq, Repr

/-- `Unwrap`. -/
structure Unwrap where
  chainInfo : ChainInfo
  amount : Int
  deriving DecidableEq, Repr

/-- Lines 1194–1199: each unwrap lowers the local WETH balance, then is submitted (the `i`-th
succeeds when `unwrapSucceeds i`); the first failure ends the pass with its decrement made. The
client after the loop, and the unwraps submitted. -/
def executeUnwraps (unwrapSucceeds : Nat → Bool) : Nat → TokenClient → List Unwrap → TokenClient × List Unwrap
  | _, client, [] => (client, [])
  | index, client, unwrap :: rest =>
    let client := client.decrementLocalBalance unwrap.chainInfo.chainId unwrap.chainInfo.weth unwrap.amount
    if unwrapSucceeds index then
      ((executeUnwraps unwrapSucceeds (index + 1) client rest).1,
        unwrap :: (executeUnwraps unwrapSucceeds (index + 1) client rest).2)
    else (client, [])

namespace InventoryClient

variable (s : InventoryClient)

/-- Lines 1124–1146, one enabled chain: its WETH and unwrap thresholds, when it has both and
ETH is its gas token. -/
def unwrapWethConfig (l1Weth chainId : Nat) : Except InventoryError (Option (Nat × Int × Int)) :=
  match s.getTokenConfig l1Weth chainId none with
  | .error e => .error e
  | .ok none => .ok none
  | .ok (some tokenConfig) =>
    match tokenConfig.unwrapWethThreshold, tokenConfig.unwrapWethTarget with
    | some unwrapWethThreshold, some unwrapWethTarget =>
      if s.constants.nativeTokenSymbol chainId ≠ "ETH" then .ok none else
      match s.constants.wethAddress chainId with
      | none => .error (.noWethDefinition chainId)
      | some weth => .ok (some (weth, unwrapWethThreshold, unwrapWethTarget))
    | _, _ => .ok none

/-- Lines 1120–1160: the chains to consider, with their native balances (`nativeBalance`, `none`
when `getBalance` rejects). Every throw lands in the same `catch`, so which one comes first does
not matter. -/
def unwrapChains (nativeBalance : Nat → Option Int) : Except InventoryError (List ChainInfo) :=
  match s.constants.wethAddress s.hubChainId with
  | none => .error .rejected
  | some l1Weth =>
    forEachPush s.getEnabledChains fun chainId =>
      match s.unwrapWethConfig l1Weth chainId with
      | .error e => .error e
      | .ok none => .ok []
      | .ok (some (weth, unwrapWethThreshold, unwrapWethTarget)) =>
        match nativeBalance chainId with
        | none => .error .rejected
        | some balance => .ok [⟨chainId, weth, unwrapWethThreshold, unwrapWethTarget, balance⟩]

/-- Lines 1164–1182: `unwrapsRequired`, the chains whose native balance is under the threshold
and whose local WETH covers the amount that restores the target. -/
def unwrapsRequired (chains : List ChainInfo) : List Unwrap :=
  chains.filterMap fun chainInfo =>
    if chainInfo.balance < chainInfo.unwrapWethThreshold ∧
        chainInfo.unwrapWethTarget - chainInfo.balance ≤ s.tokenClient.balance chainInfo.chainId chainInfo.weth
    then some ⟨chainInfo, chainInfo.unwrapWethTarget - chainInfo.balance⟩ else none

/-- `unwrapWeth`: the client after the pass and the unwraps submitted. -/
def unwrapWeth (nativeBalance : Nat → Option Int) (unwrapSucceeds : Nat → Bool) : InventoryClient × List Unwrap :=
  if !s.isInventoryManagementEnabled then (s, []) else
  match s.unwrapChains nativeBalance with
  | .error _ => (s, [])
  | .ok chains =>
    let (tokenClient, executed) := executeUnwraps unwrapSucceeds 0 s.tokenClient (s.unwrapsRequired chains)
    ({ s with tokenClient := tokenClient }, executed)

end InventoryClient

/-! ## Reservations against submissions -/

/-- The WETH the unwraps in `unwraps` take from `token` on `chainId`. -/
def unwrappedAmount (unwraps : List Unwrap) (chainId token : Nat) : Int :=
  ((unwraps.filter fun unwrap => chainId = unwrap.chainInfo.chainId ∧ token = unwrap.chainInfo.weth).map
    (·.amount)).sum

theorem submitInOrder_isPrefix {α : Type} (succeeds : Nat → Bool) :
    ∀ (index : Nat) (items : List α), submitInOrder succeeds index items <+: items
  | _, [] => List.prefix_refl _
  | index, x :: rest => by
    unfold submitInOrder
    split
    · exact (List.prefix_cons_inj x).mpr (submitInOrder_isPrefix succeeds (index + 1) rest)
    · exact List.nil_prefix

/-- How the unwrap loop ended over `unwraps`, its `i`-th submission succeeding when
`unwrapSucceeds (index + i)`: it submitted a prefix of them, each successfully, then stopped at the
first failure `failed` or ran out; each local balance lost the amounts of the unwraps submitted and
of the one that failed. -/
structure UnwrapsRun (unwrapSucceeds : Nat → Bool) (index : Nat) (before after : TokenClient)
    (unwraps submitted : List Unwrap) (failed : Option Unwrap) : Prop where
  attempted_prefix : submitted ++ failed.toList <+: unwraps
  submitted_succeeded : ∀ i < submitted.length, unwrapSucceeds (index + i) = true
  completed : failed = none → submitted = unwraps
  stopped : failed.isSome → unwrapSucceeds (index + submitted.length) = false
  balances : ∀ c t, after.balance c t = before.balance c t - unwrappedAmount (submitted ++ failed.toList) c t

/-- Taking the first unwrap out of the balances and submitting it successfully, then the run of
the rest, is a run of the whole list. -/
theorem UnwrapsRun.cons {unwrapSucceeds : Nat → Bool} {index : Nat} {before after : TokenClient}
    {unwrap : Unwrap} {rest submitted : List Unwrap} {failed : Option Unwrap}
    (sent : unwrapSucceeds index = true)
    (run : UnwrapsRun unwrapSucceeds (index + 1)
      (before.decrementLocalBalance unwrap.chainInfo.chainId unwrap.chainInfo.weth unwrap.amount) after rest
      submitted failed) :
    UnwrapsRun unwrapSucceeds index before after (unwrap :: rest) (unwrap :: submitted) failed where
  attempted_prefix := (List.prefix_cons_inj unwrap).mpr run.attempted_prefix
  submitted_succeeded
    | 0, _ => sent
    | i + 1, within => by
      simpa [Nat.add_right_comm, Nat.add_assoc] using run.submitted_succeeded i (Nat.lt_of_succ_lt_succ within)
  completed finished := by rw [run.completed finished]
  stopped stoppedAt := by simpa [Nat.add_right_comm, Nat.add_assoc] using run.stopped stoppedAt
  balances c t := by
    rw [run.balances]
    by_cases hit : c = unwrap.chainInfo.chainId ∧ t = unwrap.chainInfo.weth <;>
      simp [unwrappedAmount, List.filter_cons, hit, sub_sub]

/-- Every run of the unwrap loop is an `UnwrapsRun` for some failure. -/
theorem executeUnwraps_run (unwrapSucceeds : Nat → Bool) :
    ∀ (index : Nat) (client : TokenClient) (unwraps : List Unwrap), ∃ failed,
      UnwrapsRun unwrapSucceeds index client (executeUnwraps unwrapSucceeds index client unwraps).1 unwraps
        (executeUnwraps unwrapSucceeds index client unwraps).2 failed
  | _, _, [] => ⟨none, ⟨List.prefix_refl _, fun _ within => absurd within (Nat.not_lt_zero _), fun _ => rfl,
      fun stoppedAt => absurd stoppedAt (by simp), fun _ _ => by simp [executeUnwraps, unwrappedAmount]⟩⟩
  | index, client, unwrap :: rest => by
    by_cases sent : unwrapSucceeds index
    · obtain ⟨failed, run⟩ := executeUnwraps_run unwrapSucceeds (index + 1)
        (client.decrementLocalBalance unwrap.chainInfo.chainId unwrap.chainInfo.weth unwrap.amount) rest
      simp only [executeUnwraps, sent, if_true]
      exact ⟨failed, run.cons sent⟩
    · simp only [executeUnwraps, sent]
      refine ⟨some unwrap, ⟨(List.prefix_cons_inj unwrap).mpr List.nil_prefix, fun _ within => absurd within
        (Nat.not_lt_zero _), fun finished => (nomatch finished), fun _ => by simpa using sent, fun c t => ?_⟩⟩
      by_cases hit : c = unwrap.chainInfo.chainId ∧ t = unwrap.chainInfo.weth <;> simp [unwrappedAmount, hit]

/-- What each pass leaves in the client's books, however its submissions go. A
`rebalanceInventoryIfNeeded` pass reserves every rebalance it selected, its amount out of the
hub balance and into the transfers outstanding to its chain, and submits a prefix of them. An
`unwrapWeth` pass with inventory management on and its chains read submits the unwraps required
in order until one fails, and takes from each local WETH balance the unwraps it submitted and the
one that failed; otherwise it does nothing; it leaves the transfers outstanding as they were. A
`withdrawExcessBalances` pass writes nothing, whether it resolves or rejects. -/
theorem passes_reserve (s : InventoryClient) (onChainBalance : Nat → Int) (sendSucceeds : Nat → Bool)
    (nativeBalance : Nat → Option Int) (unwrapSucceeds withdrawSucceeds : Nat → Bool) :
    (Reserved s (s.rebalanceInventoryIfNeeded onChainBalance sendSucceeds).1 ∧
      (s.rebalanceInventoryIfNeeded onChainBalance sendSucceeds).2 <+:
        (s.rebalanceInventoryIfNeeded onChainBalance sendSucceeds).1.possibleRebalances) ∧
    ((∀ chains, s.isInventoryManagementEnabled = true → s.unwrapChains nativeBalance = .ok chains →
        ∃ failed, UnwrapsRun unwrapSucceeds 0 s.tokenClient (s.unwrapWeth nativeBalance unwrapSucceeds).1.tokenClient
          (s.unwrapsRequired chains) (s.unwrapWeth nativeBalance unwrapSucceeds).2 failed) ∧
      ((s.isInventoryManagementEnabled = false ∨ ∃ e, s.unwrapChains nativeBalance = .error e) →
        s.unwrapWeth nativeBalance unwrapSucceeds = (s, [])) ∧
      (s.unwrapWeth nativeBalance unwrapSucceeds).1.crossChainTransferClient = s.crossChainTransferClient) ∧
    (s.withdrawExcessBalances withdrawSucceeds).1 = s := by
  refine ⟨?_, ⟨fun chains enabled read => ?_, fun skipped => ?_, ?_⟩, ?_⟩
  · dsimp only [InventoryClient.rebalanceInventoryIfNeeded]
    split_ifs
    · exact ⟨reserved_start s, List.nil_prefix⟩
    · exact ⟨reserved_start s, List.nil_prefix⟩
    · exact ⟨selectRebalances_reserved (reserved_start s) _, submitInOrder_isPrefix _ _ _⟩
  · simp only [InventoryClient.unwrapWeth, enabled, read, Bool.not_true, Bool.false_eq_true, if_false]
    exact executeUnwraps_run unwrapSucceeds 0 s.tokenClient (s.unwrapsRequired chains)
  · rcases skipped with disabled | ⟨e, failed⟩
    · simp [InventoryClient.unwrapWeth, disabled]
    · simp [InventoryClient.unwrapWeth, failed]
  · unfold InventoryClient.unwrapWeth
    split_ifs
    · rfl
    split <;> rfl
  · unfold InventoryClient.withdrawExcessBalances
    split <;> rfl

/-- The rebalance of 30 units of the sample client is reserved and its submission fails: nothing
is submitted, yet the hub balance has dropped from 80 to 50 units. -/
theorem rebalanceInventoryIfNeeded_failed_send :
    (twoChainClient.rebalanceInventoryIfNeeded (fun _ => 80 * 10 ^ 18) fun _ => false).2 = [] ∧
      (twoChainClient.rebalanceInventoryIfNeeded (fun _ => 80 * 10 ^ 18) fun _ => false).1.client.tokenClient.balance
          1 100 = 50 * 10 ^ 18 ∧
      twoChainClient.tokenClient.balance 1 100 = 80 * 10 ^ 18 := by
  decide

end Relayer
