import Relayer.Accounting

/-! The two memoized reads of the repayment selector: the upcoming bundle refunds per chain
(`getBundleRefunds`), and the running balance of each slow-withdrawal chain, estimated from the
last validated bundle, with its excess over the spoke target as a percentage
(`getExcessRunningBalancePcts`). A memo is filled by the first call and read by every later one;
the promise memoized may have rejected. -/
namespace Relayer

/-- Awaiting a settled promise: its value, or the rejection thrown. -/
def Settled.await {α : Type} : Settled α → Except InventoryError α
  | .resolved value => .ok value
  | .rejected => .error .rejected

/-- Every refund of a list of bundles is non-negative, as a bundle's refund amounts are. -/
def NonnegativeRefunds (refunds : List CombinedRefunds) : Prop :=
  ∀ bundle ∈ refunds, ∀ chainId token entry, entry ∈ bundle.refunds chainId token → 0 ≤ entry.2

theorem NonnegativeRefunds.append {first second : List CombinedRefunds} (early : NonnegativeRefunds first)
    (late : NonnegativeRefunds second) : NonnegativeRefunds (first ++ second) :=
  fun bundle held => (List.mem_append.mp held).elim (early bundle) (late bundle)

theorem getTotalRefund_nonneg {refunds : List CombinedRefunds} (nonneg : NonnegativeRefunds refunds)
    (relayer chainId token : Nat) : 0 ≤ getTotalRefund refunds relayer chainId token := by
  refine List.sum_nonneg fun refund held => ?_
  obtain ⟨bundle, bundleHeld, rfl⟩ := List.mem_map.mp held
  rcases found : (bundle.refunds chainId token).find? (·.1 = relayer) with _ | entry <;> rw [found]
  · exact le_refl 0
  · exact nonneg bundle bundleHeld chainId token entry (List.mem_of_find?_eq_some found)

namespace InventoryClient

variable (s : InventoryClient)

/-- `getAllBundleRefunds`: the refunds of the pending bundles followed by those of the next. -/
def getAllBundleRefunds : Settled (List CombinedRefunds) :=
  match s.bundleDataClient.pendingRefundsFromValidBundles, s.bundleDataClient.nextBundleRefunds with
  | some pending, some next => .resolved (pending ++ next)
  | _, _ => .rejected

/-- Lines 335–351 of `getBundleRefunds`: per enabled chain, the relayer's refunds in the chain's
repayment token, in L1 decimals (zero without a repayment token). -/
def totalRefundsPerChain (refunds : List CombinedRefunds) (l1Token : Nat) : ChainKeyed Int :=
  ChainKeyed.ofEntries (s.getEnabledChains.map fun chainId =>
    (chainId, match s.getRemoteTokenForL1Token l1Token chainId with
      | none => 0
      | some destinationToken =>
        s.toL1Decimals chainId destinationToken l1Token (getTotalRefund refunds s.relayer chainId destinationToken)))

/-- `getBundleRefunds`: fill `bundleRefundsPromise` if it is empty, then await it. -/
def getBundleRefunds (memos : Memos) (l1Token : Nat) : Memos × Except InventoryError (ChainKeyed Int) :=
  let memos := match memos.bundleRefundsPromise with
    | some _ => memos
    | none => { memos with bundleRefundsPromise := some s.getAllBundleRefunds }
  (memos, match memos.bundleRefundsPromise with
    | some (.resolved refunds) => .ok (s.totalRefundsPerChain refunds l1Token)
    | _ => .error .rejected)

/-- Lines 709–785 of `_getLatestRunningBalances`, one chain: the last validated running balance,
minus the deposits and plus the refunds since the bundle that validated it, made absolute when
negative (the spoke holds an excess) and zero otherwise. `none` when the computation throws: no
route for the L1 token, a bundle without the chain's index, or no bundle refunds to read. -/
def latestRunningBalance (bundleRefunds : Option (Settled (List CombinedRefunds))) (l1Token chainId : Nat) :
    Option Int := do
  let lastValidatedRunningBalance := s.hubPoolClient.runningBalance chainId l1Token
  let l2Token ← s.hubPoolClient.l2TokenForL1Token l1Token chainId
  let lastValidatedBundleEndBlock ← match s.hubPoolClient.latestExecutedRootBundle chainId l1Token with
    | none => some 0
    | some block => match s.hubPoolClient.latestFullyExecutedRootBundle block with
      | none => some 0
      | some bundleEvaluationBlockNumbers =>
        bundleEvaluationBlockNumbers.get? (s.hubPoolClient.chainIdIndices.indexOf chainId)
  let upcomingDepositsAfterLastValidatedBundle := s.toL1Decimals chainId l2Token l1Token
    (s.bundleDataClient.upcomingDepositAmount chainId l2Token lastValidatedBundleEndBlock)
  let allBundleRefunds ← match bundleRefunds with
    | some (.resolved refunds) => some refunds
    | _ => none
  let upcomingRefundsAfterLastValidatedBundle :=
    (((match allBundleRefunds.getLast? with
      | some bundle => bundle.refunds chainId l2Token
      | none => []) : List (Nat × Int)).map fun entry => s.toL1Decimals chainId l2Token l1Token entry.2).sum
  let latestRunningBalance :=
    lastValidatedRunningBalance - upcomingDepositsAfterLastValidatedBundle + upcomingRefundsAfterLastValidatedBundle
  pure (if latestRunningBalance < 0 then -latestRunningBalance else 0)

/-- The entries of `_getLatestRunningBalances`, one per chain; `none` when one of them throws. -/
def latestRunningBalanceEntries (bundleRefunds : Option (Settled (List CombinedRefunds))) (l1Token : Nat) :
    List Nat → Option (List (Nat × Int))
  | [] => some []
  | chainId :: rest => do
    let balance ← s.latestRunningBalance bundleRefunds l1Token chainId
    let entries ← latestRunningBalanceEntries bundleRefunds l1Token rest
    pure ((chainId, balance) :: entries)

/-- `_getLatestRunningBalances`: the settled promise of the absolute running balances of
`chainsToEvaluate`, which rejects when any chain's computation throws. -/
def _getLatestRunningBalances (bundleRefunds : Option (Settled (List CombinedRefunds)))
    (l1Token : Nat) (chainsToEvaluate : List Nat) : Settled (ChainKeyed Int) :=
  match s.latestRunningBalanceEntries bundleRefunds l1Token chainsToEvaluate with
  | some entries => .resolved (ChainKeyed.ofEntries entries)
  | none => .rejected

/-- `_getExcessRunningBalancePcts`, one chain: how far the excess left after this refund
exceeds the spoke target, relative to the target; `MAX_UINT_VAL` over a zero target. -/
def excessRunningBalancePct (l1Token chainId : Nat) (excess refundAmountInL1TokenDecimals : Int) : Int :=
  let target := s.hubPoolClient.spokeTargetBalance l1Token chainId
  let excessPostRelay := excess - refundAmountInL1TokenDecimals
  if excessPostRelay ≤ target then 0
  else if target = 0 then maxUintVal
  else bnDiv ((excessPostRelay - target) * fixedPointAdjustment) |target|

def _getExcessRunningBalancePcts (excessRunningBalances : ChainKeyed Int) (l1Token : Nat)
    (refundAmountInL1TokenDecimals : Int) : ChainKeyed Int :=
  excessRunningBalances.mapValues fun chainId excess =>
    s.excessRunningBalancePct l1Token chainId excess refundAmountInL1TokenDecimals

/-- `getExcessRunningBalancePcts`: fill the memo of `l1Token` if it is empty, then await it. -/
def getExcessRunningBalancePcts (memos : Memos) (l1Token : Nat) (refundAmountInL1TokenDecimals : Int)
    (chainsToEvaluate : List Nat) : Memos × Except InventoryError (ChainKeyed Int) :=
  let memos := match memos.excessRunningBalancePromises l1Token with
    | some _ => memos
    | none => { memos with
        excessRunningBalancePromises := fun token => if token = l1Token
          then some (s._getLatestRunningBalances memos.bundleRefundsPromise l1Token chainsToEvaluate)
          else memos.excessRunningBalancePromises token }
  (memos, match memos.excessRunningBalancePromises l1Token with
    | some (.resolved excessRunningBalances) =>
      .ok (s._getExcessRunningBalancePcts excessRunningBalances l1Token refundAmountInL1TokenDecimals)
    | _ => .error .rejected)

/-! ## What the memos keep -/

variable {s}

@[simp] theorem getBundleRefunds_excessRunningBalancePromises (memos : Memos) (l1Token : Nat) :
    (s.getBundleRefunds memos l1Token).1.excessRunningBalancePromises = memos.excessRunningBalancePromises := by
  unfold getBundleRefunds
  split <;> rfl

/-- A filled bundle-refund memo is never replaced. -/
theorem getBundleRefunds_keeps {memos : Memos} {promise : Settled (List CombinedRefunds)}
    (filled : memos.bundleRefundsPromise = some promise) (l1Token : Nat) :
    (s.getBundleRefunds memos l1Token).1 = memos := by
  simp [getBundleRefunds, filled]

@[simp] theorem getExcessRunningBalancePcts_bundleRefundsPromise (memos : Memos) (l1Token : Nat) (refund : Int)
    (chains : List Nat) :
    (s.getExcessRunningBalancePcts memos l1Token refund chains).1.bundleRefundsPromise = memos.bundleRefundsPromise := by
  unfold getExcessRunningBalancePcts
  split <;> rfl

/-- Only the memo of the token asked for can change, and only from empty. -/
theorem getExcessRunningBalancePcts_memo (memos : Memos) (l1Token : Nat) (refund : Int) (chains : List Nat)
    (token : Nat) :
    (s.getExcessRunningBalancePcts memos l1Token refund chains).1.excessRunningBalancePromises token =
      if token = l1Token ∧ (memos.excessRunningBalancePromises l1Token).isNone
      then some (s._getLatestRunningBalances memos.bundleRefundsPromise l1Token chains)
      else memos.excessRunningBalancePromises token := by
  unfold getExcessRunningBalancePcts
  split <;> rename_i memo <;> by_cases same : token = l1Token <;> simp_all

/-- A filled bundle-refund memo answers the read: the refunds it holds, in the client's current
repayment tokens and decimals, or a rejection. The bundle data client is not read again. -/
theorem getBundleRefunds_of_filled {memos : Memos} {promise : Settled (List CombinedRefunds)}
    (filled : memos.bundleRefundsPromise = some promise) (l1Token : Nat) :
    (s.getBundleRefunds memos l1Token).2 = promise.await.map (s.totalRefundsPerChain · l1Token) := by
  cases promise <;> simp [getBundleRefunds, filled, Settled.await, Except.map]

/-- A filled running-balance memo answers the read from the balances it holds, whatever chains
are asked for, or with a rejection. The hub pool client is not read again. -/
theorem getExcessRunningBalancePcts_of_filled {memos : Memos} {l1Token : Nat}
    {promise : Settled (ChainKeyed Int)} (filled : memos.excessRunningBalancePromises l1Token = some promise)
    (refund : Int) (chains : List Nat) :
    (s.getExcessRunningBalancePcts memos l1Token refund chains).2 =
      promise.await.map (s._getExcessRunningBalancePcts · l1Token refund) := by
  cases promise <;> simp [getExcessRunningBalancePcts, filled, Settled.await, Except.map]

theorem getBundleRefunds_error {memos memos' : Memos} {l1Token : Nat} {e : InventoryError}
    (read : s.getBundleRefunds memos l1Token = (memos', .error e)) : e = .rejected := by
  simp only [getBundleRefunds, Prod.mk.injEq] at read
  obtain ⟨-, read⟩ := read
  split at read
  · cases read
  · exact (Except.error.inj read).symm

theorem getExcessRunningBalancePcts_error {memos memos' : Memos} {l1Token : Nat} {refund : Int}
    {chains : List Nat} {e : InventoryError}
    (read : s.getExcessRunningBalancePcts memos l1Token refund chains = (memos', .error e)) : e = .rejected := by
  simp only [getExcessRunningBalancePcts, Prod.mk.injEq] at read
  obtain ⟨-, read⟩ := read
  split at read
  · cases read
  · exact (Except.error.inj read).symm

/-- A successful read comes from a memo resolved to running balances. -/
theorem getExcessRunningBalancePcts_ok {memos memos' : Memos} {l1Token : Nat} {refund : Int} {chains : List Nat}
    {pcts : ChainKeyed Int} (read : s.getExcessRunningBalancePcts memos l1Token refund chains = (memos', .ok pcts)) :
    ∃ balances, memos'.excessRunningBalancePromises l1Token = some (.resolved balances) ∧
      pcts = s._getExcessRunningBalancePcts balances l1Token refund := by
  simp only [getExcessRunningBalancePcts, Prod.mk.injEq] at read
  obtain ⟨rfl, read⟩ := read
  split at read
  · exact ⟨_, ‹_›, (Except.ok.inj read).symm⟩
  · cases read

/-- The refunds a read of `getBundleRefunds` can await are not negative: those the bundle data
client holds, and those of a filled memo. -/
def RefundsNonnegative (s : InventoryClient) (memos : Memos) : Prop :=
  (∀ pending, s.bundleDataClient.pendingRefundsFromValidBundles = some pending → NonnegativeRefunds pending) ∧
  (∀ next, s.bundleDataClient.nextBundleRefunds = some next → NonnegativeRefunds next) ∧
  ∀ refunds, memos.bundleRefundsPromise = some (.resolved refunds) → NonnegativeRefunds refunds

theorem totalRefundsPerChain_sum_nonneg {refunds : List CombinedRefunds} (nonneg : NonnegativeRefunds refunds)
    (l1Token : Nat) : 0 ≤ (s.totalRefundsPerChain refunds l1Token).values.sum := by
  refine List.sum_nonneg fun refund held => ?_
  obtain ⟨⟨chainId, _⟩, entry, rfl⟩ := List.mem_map.mp held
  rcases ChainKeyed.mem_ofEntries _ entry with entry | entry
  · cases entry
  obtain ⟨c, -, same⟩ := List.mem_map.mp entry
  cases same
  split
  · exact le_refl 0
  · exact convertDecimals_nonneg (getTotalRefund_nonneg nonneg _ _ _) _ _

/-- Over refunds that are not negative, the refunds a read returns sum to a non-negative amount. -/
theorem getBundleRefunds_nonneg {memos : Memos} (nonneg : s.RefundsNonnegative memos) {l1Token : Nat}
    {totals : ChainKeyed Int} (read : (s.getBundleRefunds memos l1Token).2 = .ok totals) : 0 ≤ totals.values.sum := by
  rcases memo : memos.bundleRefundsPromise with _ | promise
  · simp only [getBundleRefunds, memo, getAllBundleRefunds] at read
    rcases pending : s.bundleDataClient.pendingRefundsFromValidBundles with _ | pending <;>
      rcases next : s.bundleDataClient.nextBundleRefunds with _ | next <;> simp [pending, next] at read
    rw [← read]
    exact totalRefundsPerChain_sum_nonneg ((nonneg.1 _ pending).append (nonneg.2.1 _ next)) l1Token
  · rw [getBundleRefunds_of_filled memo] at read
    cases promise with
    | resolved refunds =>
      cases read
      exact totalRefundsPerChain_sum_nonneg (nonneg.2.2 _ memo) l1Token
    | rejected => cases read

/-- The running balances are keyed by the chains they were asked for. -/
theorem latestRunningBalanceEntries_keys {bundleRefunds : Option (Settled (List CombinedRefunds))}
    {l1Token : Nat} : ∀ {chains : List Nat} {entries : List (Nat × Int)},
      s.latestRunningBalanceEntries bundleRefunds l1Token chains = some entries → entries.map Prod.fst = chains
  | [], entries, computed => by
    simp only [latestRunningBalanceEntries, Option.some.injEq] at computed
    simp [← computed]
  | chainId :: rest, entries, computed => by
    simp only [latestRunningBalanceEntries, Option.bind_eq_bind, Option.bind_eq_some, Option.pure_def,
      Option.some.injEq] at computed
    obtain ⟨balance, -, restEntries, restComputed, rfl⟩ := computed
    simp [latestRunningBalanceEntries_keys restComputed]

theorem _getLatestRunningBalances_keys {bundleRefunds : Option (Settled (List CombinedRefunds))}
    {l1Token : Nat} {chains : List Nat} {balances : ChainKeyed Int}
    (resolved : s._getLatestRunningBalances bundleRefunds l1Token chains = .resolved balances) :
    ∀ c ∈ balances.keys, c ∈ chains := by
  unfold _getLatestRunningBalances at resolved
  split at resolved
  · rename_i entries computed
    cases resolved
    intro c held
    simpa [latestRunningBalanceEntries_keys computed] using ChainKeyed.mem_keys_ofEntries held
  · cases resolved

end InventoryClient

end Relayer
