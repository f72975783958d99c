import Relayer.Clients
import Mathlib.Algebra.Order.BigOperators.Group.List
import Mathlib.Tactic.Ring
import Mathlib.Tactic.Linarith

/-! Virtual-balance accounting (§4.5). The effective balance of an L1 token on a chain is the
local balance of each of its L2 tokens in L1 decimals plus the transfers in flight to the chain;
the cumulative balance sums it over the enabled chains, and allocations are fractions of that
sum. `trackCrossChainTransfer` moves an amount from the hub chain to a spoke without changing
any cumulative balance (`trackCrossChainTransfer_conserves`), and the per-token balances
partition the cumulative balance (`balances_partition_cumulative`). -/
namespace Relayer

/-- `inventoryConfig.tokenConfig[l1Token]`. -/
def InventoryConfig.lookup (config : InventoryConfig) (l1Token : Nat) : Option TokenConfig :=
  (config.tokenConfig.find? (·.1 = l1Token)).map Prod.snd

namespace InventoryClient

variable (s : InventoryClient)

def getEnabledChains : List Nat := s.chainIdList

def getEnabledL2Chains : List Nat := s.getEnabledChains.filter (· ≠ s.hubChainId)

/-- `getL1Tokens`: the `||` never reaches the hub pool's tokens, since an array is truthy. -/
def getL1Tokens : List Nat := s.inventoryConfig.tokenConfig.map Prod.fst

def isInventoryManagementEnabled : Bool := !s.inventoryConfig.tokenConfig.isEmpty

def getTokenConfig (l1Token chainId : Nat) (l2Token : Option Nat) :
    Except InventoryError (Option TokenBalanceConfig) :=
  match s.inventoryConfig.lookup l1Token with
  | none => .ok none
  | some (.aliases entries _) =>
    match l2Token with
    | none => .error (.ambiguousTokenConfig chainId l1Token)
    | some l2Token => .ok ((entries.find? (·.1 = l2Token)).bind fun entry => entry.2 chainId)
  | some (.chains chainMap) => .ok (chainMap chainId)

/-- `getTokenConfig` with the L2 token supplied, which never throws. -/
def tokenBalanceConfig (l1Token chainId l2Token : Nat) : Option TokenBalanceConfig :=
  match s.getTokenConfig l1Token chainId (some l2Token) with
  | .ok config => config
  | .error _ => none

/-- `_l1TokenEnabledForChain`. For a direct config the `some` over its keys indexes a
`TokenBalanceConfig` by a chain ID, which is undefined, so only the direct lookup counts. -/
def _l1TokenEnabledForChain (l1Token chainId : Nat) : Bool :=
  match s.inventoryConfig.lookup l1Token with
  | none => false
  | some (.chains chainMap) => (chainMap chainId).isSome
  | some (.aliases entries _) => entries.any fun entry => (entry.2 chainId).isSome

def getRemoteTokenForL1Token (l1Token chainId : Nat) : Option Nat :=
  if chainId = s.hubChainId then some l1Token else s.constants.remoteToken l1Token chainId

def getRemoteTokensForL1Token (l1Token chainId : Nat) : List Nat :=
  if chainId = s.hubChainId then [l1Token] else
  match s.inventoryConfig.lookup l1Token with
  | none => []
  | some (.aliases entries _) => (entries.filter fun entry => (entry.2 chainId).isSome).map Prod.fst
  | some (.chains _) => (s.getRemoteTokenForL1Token l1Token chainId).toList

/-- `sdkUtils.ConvertDecimals(l2TokenDecimals, l1TokenDecimals)`, which the client applies to
every amount of `token` on `chainId` it aggregates for `l1Token`. -/
def toL1Decimals (chainId token l1Token : Nat) (amount : Int) : Int :=
  convertDecimals (s.constants.decimals token chainId) (s.constants.decimals l1Token s.hubChainId) amount

def getBalanceOnChain (chainId l1Token : Nat) : Option Nat → Int
  | some l2Token =>
    s.toL1Decimals chainId l2Token l1Token (s.tokenClient.balance chainId l2Token) +
      s.crossChainTransferClient.outstanding chainId l1Token (some l2Token)
  | none =>
    ((s.getRemoteTokensForL1Token l1Token chainId).map fun l2Token =>
        s.toL1Decimals chainId l2Token l1Token (s.tokenClient.balance chainId l2Token)).sum +
      s.crossChainTransferClient.outstanding chainId l1Token none

def getCumulativeBalance (l1Token : Nat) : Int :=
  (s.getEnabledChains.map fun chainId => s.getBalanceOnChain chainId l1Token none).sum

/-- `getChainDistribution`: `distribution[chainId]` is assigned for every enabled chain that
is the hub or configured for the token, unless the cumulative balance is zero. A
`TokenDistribution` is keyed by the chain's remote tokens, which are distinct. -/
def getChainDistribution (l1Token : Nat) : ChainKeyed (List (Nat × Int)) :=
  let cumulativeBalance := s.getCumulativeBalance l1Token
  ChainKeyed.ofEntries ((s.getEnabledChains.filter fun chainId =>
      (chainId = s.hubChainId ∨ s._l1TokenEnabledForChain l1Token chainId) ∧ cumulativeBalance ≠ 0).map
    fun chainId => (chainId, (s.getRemoteTokensForL1Token l1Token chainId).map fun l2Token =>
      (l2Token, bnDiv (s.getBalanceOnChain chainId l1Token (some l2Token) * fixedPointAdjustment)
        cumulativeBalance)))

def getTokenDistributionPerL1Token : List (Nat × ChainKeyed (List (Nat × Int))) :=
  s.getL1Tokens.map fun l1Token => (l1Token, s.getChainDistribution l1Token)

def getCurrentAllocationPct (l1Token chainId l2Token : Nat) : Int :=
  let cumulativeBalance := s.getCumulativeBalance l1Token
  if cumulativeBalance = 0 then 0 else
  let shortfall := s.toL1Decimals chainId l2Token l1Token (s.tokenClient.shortfall chainId l2Token)
  let currentBalance := s.getBalanceOnChain chainId l1Token (some l2Token) - shortfall
  bnDiv (currentBalance * fixedPointAdjustment) cumulativeBalance

def trackCrossChainTransfer (l1Token l2Token : Nat) (rebalance : Int) (chainId : Nat) : InventoryClient :=
  { s with
    tokenClient := s.tokenClient.decrementLocalBalance s.hubChainId l1Token rebalance
    crossChainTransferClient :=
      s.crossChainTransferClient.increaseOutstandingTransfer l1Token l2Token rebalance chainId }

@[simp] theorem getRemoteTokensForL1Token_hub (l1Token : Nat) :
    s.getRemoteTokensForL1Token l1Token s.hubChainId = [l1Token] := by
  simp [getRemoteTokensForL1Token]

/-! ## Moving a reservation to a spoke -/

section Track

variable {s} {l1Token l2Token chainId : Nat} {amount : Int}

@[simp] theorem trackCrossChainTransfer_chainIdList :
    (s.trackCrossChainTransfer l1Token l2Token amount chainId).chainIdList = s.chainIdList := rfl

@[simp] theorem trackCrossChainTransfer_hubChainId :
    (s.trackCrossChainTransfer l1Token l2Token amount chainId).hubChainId = s.hubChainId := rfl

@[simp] theorem trackCrossChainTransfer_getRemoteTokensForL1Token :
    (s.trackCrossChainTransfer l1Token l2Token amount chainId).getRemoteTokensForL1Token =
      s.getRemoteTokensForL1Token := rfl

@[simp] theorem trackCrossChainTransfer_toL1Decimals :
    (s.trackCrossChainTransfer l1Token l2Token amount chainId).toL1Decimals = s.toL1Decimals := rfl

@[simp] theorem trackCrossChainTransfer_shortfall :
    (s.trackCrossChainTransfer l1Token l2Token amount chainId).tokenClient.shortfall = s.tokenClient.shortfall := rfl

/-- The one effect of `trackCrossChainTransfer` on an effective balance: the amount leaves the
hub's balance of the L1 token and arrives in the spoke's. -/
theorem getBalanceOnChain_trackCrossChainTransfer (spoke : chainId ≠ s.hubChainId) (c token : Nat) :
    (s.trackCrossChainTransfer l1Token l2Token amount chainId).getBalanceOnChain c token none =
      s.getBalanceOnChain c token none + (if token = l1Token ∧ c = chainId then amount else 0) +
        (if token = l1Token ∧ c = s.hubChainId then -amount else 0) := by
  by_cases atHub : c = s.hubChainId
  · subst c
    by_cases same : token = l1Token <;>
      simp [getBalanceOnChain, toL1Decimals, trackCrossChainTransfer, same, Ne.symm spoke, sub_eq_add_neg,
        add_right_comm]
  · have balances : ∀ l2 ∈ s.getRemoteTokensForL1Token token c,
        s.toL1Decimals c l2 token ((s.trackCrossChainTransfer l1Token l2Token amount chainId).tokenClient.balance c l2) =
          s.toL1Decimals c l2 token (s.tokenClient.balance c l2) := by
      intro l2 _
      simp [trackCrossChainTransfer, atHub]
    simp only [getBalanceOnChain, trackCrossChainTransfer_getRemoteTokensForL1Token,
      trackCrossChainTransfer_toL1Decimals, List.map_congr_left balances]
    by_cases same : token = l1Token <;> by_cases atSpoke : c = chainId <;>
      simp [trackCrossChainTransfer, same, atSpoke, atHub, spoke, add_assoc]

private theorem sum_single {l : List Nat} (distinct : l.Nodup) {x : Nat} (held : x ∈ l) (a : Int) :
    (l.map fun c => if c = x then a else 0).sum = a := by
  induction l with
  | nil => simp at held
  | cons y rest ih =>
    obtain ⟨fresh, distinctRest⟩ := List.nodup_cons.mp distinct
    by_cases same : y = x
    · subst y
      have zero : ∀ c ∈ rest, (if c = x then a else 0) = 0 :=
        fun c later => if_neg (by rintro rfl; exact fresh later)
      simp [List.map_congr_left zero]
    · simp [same, ih distinctRest ((List.mem_cons.mp held).resolve_left (Ne.symm same))]

theorem getCumulativeBalance_trackCrossChainTransfer (spoke : chainId ≠ s.hubChainId)
    (enabled : chainId ∈ s.chainIdList) (hubEnabled : s.hubChainId ∈ s.chainIdList) (token : Nat) :
    (s.trackCrossChainTransfer l1Token l2Token amount chainId).getCumulativeBalance token =
      s.getCumulativeBalance token := by
  simp only [getCumulativeBalance, getEnabledChains, trackCrossChainTransfer_chainIdList,
    getBalanceOnChain_trackCrossChainTransfer spoke, List.sum_map_add]
  by_cases same : token = l1Token
  · simp only [same, true_and, sum_single s.chainIdList_nodup enabled, sum_single s.chainIdList_nodup hubEnabled]
    ring
  · simp [same]

/-- On the spoke, the effective balance of the L2 token the transfer names rises by the amount. -/
theorem getBalanceOnChain_some_trackCrossChainTransfer (spoke : chainId ≠ s.hubChainId) :
    (s.trackCrossChainTransfer l1Token l2Token amount chainId).getBalanceOnChain chainId l1Token (some l2Token) =
      s.getBalanceOnChain chainId l1Token (some l2Token) + amount := by
  simp [getBalanceOnChain, trackCrossChainTransfer, toL1Decimals, spoke, add_assoc]

/-- Over a spoke, with the hub enabled, the allocation a transfer leaves is the one its amount
gives when added to the spoke's balance of the L2 token. -/
theorem getCurrentAllocationPct_trackCrossChainTransfer (spoke : chainId ≠ s.hubChainId)
    (enabled : chainId ∈ s.chainIdList) (hubEnabled : s.hubChainId ∈ s.chainIdList) :
    (s.trackCrossChainTransfer l1Token l2Token amount chainId).getCurrentAllocationPct l1Token chainId l2Token =
      if s.getCumulativeBalance l1Token = 0 then 0 else
        bnDiv ((s.getBalanceOnChain chainId l1Token (some l2Token) -
          s.toL1Decimals chainId l2Token l1Token (s.tokenClient.shortfall chainId l2Token) + amount) *
            fixedPointAdjustment) (s.getCumulativeBalance l1Token) := by
  simp only [getCurrentAllocationPct, getCumulativeBalance_trackCrossChainTransfer spoke enabled hubEnabled,
    getBalanceOnChain_some_trackCrossChainTransfer spoke, trackCrossChainTransfer_toL1Decimals,
    trackCrossChainTransfer_shortfall, add_sub_right_comm]

/-- `trackCrossChainTransfer` conserves every cumulative balance; the hub's balance of the
L1 token drops by the amount, the spoke's rises by it, and no other chain's changes. -/
theorem trackCrossChainTransfer_conserves (spoke : chainId ≠ s.hubChainId)
    (enabled : chainId ∈ s.chainIdList) (hubEnabled : s.hubChainId ∈ s.chainIdList) :
    (∀ token, (s.trackCrossChainTransfer l1Token l2Token amount chainId).getCumulativeBalance token =
      s.getCumulativeBalance token) ∧
    (s.trackCrossChainTransfer l1Token l2Token amount chainId).getBalanceOnChain s.hubChainId l1Token none =
      s.getBalanceOnChain s.hubChainId l1Token none - amount ∧
    (s.trackCrossChainTransfer l1Token l2Token amount chainId).getBalanceOnChain chainId l1Token none =
      s.getBalanceOnChain chainId l1Token none + amount ∧
    ∀ c, c ≠ s.hubChainId → c ≠ chainId →
      (s.trackCrossChainTransfer l1Token l2Token amount chainId).getBalanceOnChain c l1Token none =
        s.getBalanceOnChain c l1Token none := by
  refine ⟨getCumulativeBalance_trackCrossChainTransfer spoke enabled hubEnabled, ?_, ?_, fun c notHub notSpoke => ?_⟩
  · simp [getBalanceOnChain_trackCrossChainTransfer spoke, Ne.symm spoke, sub_eq_add_neg]
  · simp [getBalanceOnChain_trackCrossChainTransfer spoke, spoke]
  · simp [getBalanceOnChain_trackCrossChainTransfer spoke, notHub, notSpoke]

theorem trackCrossChainTransfer_conserves_twoChain :
    (10 ≠ twoChainClient.hubChainId ∧ 10 ∈ twoChainClient.chainIdList ∧
      twoChainClient.hubChainId ∈ twoChainClient.chainIdList) ∧
    (twoChainClient.trackCrossChainTransfer 100 200 (30 * 10 ^ 18) 10).getCumulativeBalance 100 =
      twoChainClient.getCumulativeBalance 100 :=
  ⟨⟨by decide, by decide, by decide⟩, (trackCrossChainTransfer_conserves (by decide) (by decide) (by decide)).1 100⟩

end Track

/-! ## The cumulative balance and its parts -/

section Partition

variable {s} {l1Token : Nat}

/-- No collaborator reports a negative amount. -/
def NonnegativeAmounts (s : InventoryClient) : Prop :=
  (∀ c t, 0 ≤ s.tokenClient.balance c t) ∧ (∀ c t, 0 ≤ s.tokenClient.shortfall c t) ∧
    ∀ c t l2, 0 ≤ s.crossChainTransferClient.outstanding c t l2

/-- On every enabled chain, the transfers of `l1Token` in flight are the sum of those of its
remote tokens. -/
def OutstandingSplits (s : InventoryClient) (l1Token : Nat) : Prop :=
  ∀ c ∈ s.chainIdList, s.crossChainTransferClient.outstanding c l1Token none =
    ((s.getRemoteTokensForL1Token l1Token c).map fun l2 =>
      s.crossChainTransferClient.outstanding c l1Token (some l2)).sum

theorem getBalanceOnChain_nonneg (nonneg : NonnegativeAmounts s) (c : Nat) :
    ∀ l2Token, 0 ≤ s.getBalanceOnChain c l1Token l2Token
  | some l2 => add_nonneg (convertDecimals_nonneg (nonneg.1 c l2) _ _) (nonneg.2.2 c l1Token _)
  | none => add_nonneg (List.sum_nonneg fun x held => by
      obtain ⟨l2, -, rfl⟩ := List.mem_map.mp held
      exact convertDecimals_nonneg (nonneg.1 c l2) _ _) (nonneg.2.2 c l1Token _)

theorem getCumulativeBalance_nonneg (nonneg : NonnegativeAmounts s) (l1Token : Nat) :
    0 ≤ s.getCumulativeBalance l1Token :=
  List.sum_nonneg fun _ held => by
    obtain ⟨c, -, rfl⟩ := List.mem_map.mp held
    exact getBalanceOnChain_nonneg nonneg c none

/-- An allocation that is not negative is at most the chain's share of the cumulative balance:
the shortfall only lowers it, and the division truncates. -/
theorem getCurrentAllocationPct_mul_le (nonneg : NonnegativeAmounts s) (chainId l2Token : Nat)
    (allocated : 0 ≤ s.getCurrentAllocationPct l1Token chainId l2Token) :
    s.getCurrentAllocationPct l1Token chainId l2Token * s.getCumulativeBalance l1Token ≤
      s.getBalanceOnChain chainId l1Token (some l2Token) * fixedPointAdjustment := by
  have balance : 0 ≤ s.getBalanceOnChain chainId l1Token (some l2Token) :=
    getBalanceOnChain_nonneg nonneg chainId (some l2Token)
  have shortfall : 0 ≤ s.toL1Decimals chainId l2Token l1Token (s.tokenClient.shortfall chainId l2Token) :=
    convertDecimals_nonneg (nonneg.2.1 _ _) _ _
  have scale := fixedPointAdjustment_pos
  unfold getCurrentAllocationPct at allocated ⊢
  dsimp only at allocated ⊢
  split_ifs at allocated ⊢ with zero
  · rw [zero_mul]
    positivity
  have cumulative := lt_of_le_of_ne (getCumulativeBalance_nonneg nonneg l1Token) (Ne.symm zero)
  rcases le_or_lt 0 ((s.getBalanceOnChain chainId l1Token (some l2Token) -
      s.toL1Decimals chainId l2Token l1Token (s.tokenClient.shortfall chainId l2Token)) * fixedPointAdjustment)
    with sign | sign
  · rw [bnDiv_of_nonneg sign cumulative.le]
    exact (Int.ediv_mul_le _ cumulative.ne').trans (mul_le_mul_of_nonneg_right (by linarith) scale.le)
  · rw [le_antisymm (bnDiv_nonpos sign.le cumulative.le) allocated, zero_mul]
    positivity

theorem sum_getBalanceOnChain_remote (splits : OutstandingSplits s l1Token) {c : Nat}
    (held : c ∈ s.chainIdList) :
    ((s.getRemoteTokensForL1Token l1Token c).map fun l2 => s.getBalanceOnChain c l1Token (some l2)).sum =
      s.getBalanceOnChain c l1Token none := by
  simp only [getBalanceOnChain, List.sum_map_add, splits c held]

theorem getBalanceOnChain_le_cumulative (nonneg : NonnegativeAmounts s) {c : Nat}
    (held : c ∈ s.chainIdList) : s.getBalanceOnChain c l1Token none ≤ s.getCumulativeBalance l1Token :=
  List.single_le_sum (fun _ member => by
      obtain ⟨c', -, rfl⟩ := List.mem_map.mp member
      exact getBalanceOnChain_nonneg nonneg c' none) _ (List.mem_map_of_mem _ held)

/-- The per-token balances of the chains in `chains`, flattened. -/
private theorem sum_remote_parts (splits : OutstandingSplits s l1Token) (chains : List Nat)
    (enabled : ∀ c ∈ chains, c ∈ s.chainIdList) :
    (chains.flatMap fun c => (s.getRemoteTokensForL1Token l1Token c).map fun l2 =>
        s.getBalanceOnChain c l1Token (some l2)).sum =
      (chains.map fun c => s.getBalanceOnChain c l1Token none).sum := by
  rw [List.flatMap_def, List.sum_flatten, List.map_map]
  exact congrArg List.sum (List.map_congr_left fun c held =>
    sum_getBalanceOnChain_remote splits (enabled c held))

private theorem sum_quotients_le {total : Int} (positive : 0 < total) (parts : List Int) :
    (parts.map fun x => x * fixedPointAdjustment / total).sum * total ≤ parts.sum * fixedPointAdjustment := by
  induction parts with
  | nil => simp
  | cons x rest ih =>
    have := Int.ediv_mul_le (x * fixedPointAdjustment) positive.ne'
    simp only [List.map_cons, List.sum_cons, add_mul]
    linarith

private theorem sum_quotients_ge {total : Int} (positive : 0 < total) (parts : List Int) :
    parts.sum * fixedPointAdjustment ≤
      ((parts.map fun x => x * fixedPointAdjustment / total).sum + parts.length) * total := by
  induction parts with
  | nil => simp
  | cons x rest ih =>
    have := Int.lt_ediv_add_one_mul_self (x * fixedPointAdjustment) positive
    simp only [List.map_cons, List.sum_cons, List.length_cons, add_mul, Nat.cast_succ] at ih ⊢
    linarith

/-- The fractions of `getChainDistribution` are the quotients of the per-token balances of the
hub and the configured chains. -/
theorem getChainDistribution_fractions (nonzero : s.getCumulativeBalance l1Token ≠ 0) :
    ((s.getChainDistribution l1Token).values.flatten.map Prod.snd).Perm
      (((s.chainIdList.filter fun c => c = s.hubChainId ∨ s._l1TokenEnabledForChain l1Token c).flatMap
          fun c => (s.getRemoteTokensForL1Token l1Token c).map fun l2 => s.getBalanceOnChain c l1Token (some l2)).map
        fun x => bnDiv (x * fixedPointAdjustment) (s.getCumulativeBalance l1Token)) := by
  unfold getChainDistribution
  refine (((ChainKeyed.ofEntries_perm ?_).map Prod.snd).flatten.map Prod.snd).trans (.of_eq ?_)
  · simp only [List.map_map, Function.comp_def, List.map_id']
    exact s.chainIdList_nodup.filter _
  · simp [List.flatMap_def, List.map_flatten, List.map_map, Function.comp_def, nonzero, getEnabledChains]

theorem getTokenDistributionPerL1Token_find {distribution : ChainKeyed (List (Nat × Int))}
    (found : distribution ∈ (s.getTokenDistributionPerL1Token.find? (·.1 = l1Token)).map Prod.snd) :
    distribution = s.getChainDistribution l1Token := by
  obtain ⟨entry, held, rfl⟩ := Option.mem_map.mp found
  have key := List.find?_some held
  obtain ⟨token, -, rfl⟩ := List.mem_map.mp (List.mem_of_find?_eq_some held)
  simp only [decide_eq_true_eq] at key
  rw [key]

/-- Every L1 token of the configuration has its entry in the distribution, and it is the token's
chain distribution. -/
theorem getTokenDistributionPerL1Token_find_of_mem (held : l1Token ∈ s.getL1Tokens) :
    (s.getTokenDistributionPerL1Token.find? (·.1 = l1Token)).map Prod.snd = some (s.getChainDistribution l1Token) := by
  have present : (s.getTokenDistributionPerL1Token.find? (·.1 = l1Token)).isSome :=
    List.find?_isSome.mpr ⟨(l1Token, s.getChainDistribution l1Token),
      List.mem_map_of_mem (fun t => (t, s.getChainDistribution t)) held, by simp⟩
  obtain ⟨entry, found⟩ := Option.isSome_iff_exists.mp present
  rw [found]
  exact congrArg some (getTokenDistributionPerL1Token_find (by rw [found]; rfl))

/-- The fractions of a token's distribution sum to at most 100%, and to within one unit per
entry of 100% when every enabled chain is the hub or configured. -/
theorem getChainDistribution_sum (nonneg : NonnegativeAmounts s) (splits : OutstandingSplits s l1Token)
    (positive : 0 < s.getCumulativeBalance l1Token) :
    (((s.getChainDistribution l1Token).values.flatten.map Prod.snd).sum ≤ fixedPointAdjustment) ∧
      ((∀ c ∈ s.getEnabledChains, c = s.hubChainId ∨ s._l1TokenEnabledForChain l1Token c) →
        fixedPointAdjustment - (s.getChainDistribution l1Token).values.flatten.length ≤
          ((s.getChainDistribution l1Token).values.flatten.map Prod.snd).sum) := by
  have scale := fixedPointAdjustment_pos
  set parts := (s.chainIdList.filter fun c => c = s.hubChainId ∨ s._l1TokenEnabledForChain l1Token c).flatMap
    fun c => (s.getRemoteTokensForL1Token l1Token c).map fun l2 => s.getBalanceOnChain c l1Token (some l2)
  have fractions := getChainDistribution_fractions positive.ne'
  have floors : parts.map (fun x => bnDiv (x * fixedPointAdjustment) (s.getCumulativeBalance l1Token)) =
      parts.map fun x => x * fixedPointAdjustment / s.getCumulativeBalance l1Token := by
    refine List.map_congr_left fun x held => bnDiv_of_nonneg ?_ positive.le
    obtain ⟨c, -, member⟩ := List.mem_flatMap.mp held
    obtain ⟨l2, -, rfl⟩ := List.mem_map.mp member
    exact mul_nonneg (getBalanceOnChain_nonneg nonneg c _) scale.le
  have count := fractions.length_eq
  rw [List.length_map, List.length_map] at count
  rw [fractions.sum_eq, floors, count]
  have partsSum := sum_remote_parts splits (s.chainIdList.filter
    fun c => c = s.hubChainId ∨ s._l1TokenEnabledForChain l1Token c) fun c held => List.mem_of_mem_filter held
  constructor
  · have within : parts.sum ≤ s.getCumulativeBalance l1Token := by
      rw [partsSum]
      exact ((List.filter_sublist _).map _).sum_le_sum fun _ member => by
        obtain ⟨c', -, rfl⟩ := List.mem_map.mp member
        exact getBalanceOnChain_nonneg nonneg c' none
    refine le_of_mul_le_mul_right ?_ positive
    calc _ ≤ parts.sum * fixedPointAdjustment := sum_quotients_le positive parts
      _ ≤ s.getCumulativeBalance l1Token * fixedPointAdjustment := mul_le_mul_of_nonneg_right within scale.le
      _ = fixedPointAdjustment * s.getCumulativeBalance l1Token := mul_comm _ _
  · intro everywhere
    have whole : parts.sum = s.getCumulativeBalance l1Token := by
      rw [partsSum, List.filter_eq_self.mpr (by simpa using everywhere)]
      rfl
    have bound := sum_quotients_ge positive parts
    rw [whole, mul_comm (s.getCumulativeBalance l1Token)] at bound
    have := le_of_mul_le_mul_right bound positive
    linarith

/-- No allocation of an enabled chain's token exceeds 100%. -/
theorem getCurrentAllocationPct_le_one (nonneg : NonnegativeAmounts s) (splits : OutstandingSplits s l1Token)
    (positive : 0 < s.getCumulativeBalance l1Token) {c l2 : Nat} (enabled : c ∈ s.chainIdList)
    (remote : l2 ∈ s.getRemoteTokensForL1Token l1Token c) :
    s.getCurrentAllocationPct l1Token c l2 ≤ fixedPointAdjustment := by
  have part : s.getBalanceOnChain c l1Token (some l2) ≤ s.getBalanceOnChain c l1Token none := by
    rw [← sum_getBalanceOnChain_remote splits enabled]
    exact List.single_le_sum (fun _ member => by
        obtain ⟨l2', -, rfl⟩ := List.mem_map.mp member
        exact getBalanceOnChain_nonneg nonneg c _) _ (List.mem_map_of_mem _ remote)
  have shortfall := convertDecimals_nonneg (nonneg.2.1 c l2)
    (s.constants.decimals l2 c) (s.constants.decimals l1Token s.hubChainId)
  have whole : s.getBalanceOnChain c l1Token none ≤ s.getCumulativeBalance l1Token :=
    getBalanceOnChain_le_cumulative nonneg enabled
  simp only [getCurrentAllocationPct, positive.ne', if_false]
  refine bnDiv_le_of_le_mul positive fixedPointAdjustment_pos.le ?_
  rw [mul_comm fixedPointAdjustment]
  exact mul_le_mul_of_nonneg_right (by unfold toL1Decimals; linarith) fixedPointAdjustment_pos.le

/-- The per-token effective balances partition the cumulative balance; the distribution of a
configured token is its chain distribution, whose fractions sum to at most 100%, and to within one unit per entry of 100% when every enabled chain
is the hub or configured; and no allocation exceeds 100%. -/
theorem balances_partition_cumulative (nonneg : NonnegativeAmounts s)
    (splits : OutstandingSplits s l1Token) (positive : 0 < s.getCumulativeBalance l1Token) :
    (s.getEnabledChains.map fun c => ((s.getRemoteTokensForL1Token l1Token c).map fun l2 =>
        s.getBalanceOnChain c l1Token (some l2)).sum).sum = s.getCumulativeBalance l1Token ∧
    ((l1Token ∈ s.getL1Tokens → (s.getTokenDistributionPerL1Token.find? (·.1 = l1Token)).map Prod.snd =
        some (s.getChainDistribution l1Token)) ∧
      ((s.getChainDistribution l1Token).values.flatten.map Prod.snd).sum ≤ fixedPointAdjustment ∧
      ((∀ c ∈ s.getEnabledChains, c = s.hubChainId ∨ s._l1TokenEnabledForChain l1Token c) →
        fixedPointAdjustment - (s.getChainDistribution l1Token).values.flatten.length ≤
          ((s.getChainDistribution l1Token).values.flatten.map Prod.snd).sum)) ∧
    ∀ c ∈ s.getEnabledL2Chains, ∀ l2 ∈ s.getRemoteTokensForL1Token l1Token c,
      s.getCurrentAllocationPct l1Token c l2 ≤ fixedPointAdjustment :=
  ⟨congrArg List.sum (List.map_congr_left fun _ held => sum_getBalanceOnChain_remote splits held),
    ⟨getTokenDistributionPerL1Token_find_of_mem, getChainDistribution_sum nonneg splits positive⟩,
    fun _ held _ remote => getCurrentAllocationPct_le_one nonneg splits positive (List.mem_filter.mp held).1 remote⟩

theorem twoChainClient_nonnegativeAmounts : NonnegativeAmounts twoChainClient := by
  refine ⟨fun c t => ?_, fun _ _ => le_refl 0, fun _ _ _ => le_refl 0⟩
  simp only [twoChainClient]
  split_ifs <;> norm_num

theorem balances_partition_cumulative_twoChain :
    NonnegativeAmounts twoChainClient ∧ OutstandingSplits twoChainClient 100 ∧
      0 < twoChainClient.getCumulativeBalance 100 ∧
      ∀ c ∈ twoChainClient.getEnabledL2Chains, ∀ l2 ∈ twoChainClient.getRemoteTokensForL1Token 100 c,
        twoChainClient.getCurrentAllocationPct 100 c l2 ≤ fixedPointAdjustment :=
  have splits : OutstandingSplits twoChainClient 100 := by unfold OutstandingSplits; decide
  have positive : 0 < twoChainClient.getCumulativeBalance 100 := by decide
  ⟨twoChainClient_nonnegativeAmounts, splits, positive,
    (balances_partition_cumulative twoChainClient_nonnegativeAmounts splits positive).2.2⟩

end Partition

end InventoryClient

end Relayer
