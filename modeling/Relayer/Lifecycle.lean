import Relayer.RepaymentSelectionProofs

/-! The inventory client over its lifetime. Between two calls of `determineRefundChainId` the
client may be updated (`update()` refreshes the cross-chain transfer client) and the clients it
reads may update themselves, the hub pool's routes included. Neither touches the two memos: once
filled, a memo keeps its value, resolved or rejected, and every later call answers from it
(`runOperations_memos_persist`). -/
namespace Relayer

/-- What happens to a client between two of its reads. -/
inductive Operation where
  /-- `update()`: the cross-chain transfer client refreshes its outstanding transfers. -/
  | update (crossChainTransferClient : CrossChainTransferClient)
  /-- The clients the inventory client reads update themselves, or a pass moves inventory. -/
  | clientsUpdated (hubPoolClient : HubPoolClient) (tokenClient : TokenClient)
      (bundleDataClient : BundleDataClient) (adapterManager : AdapterManager)
  /-- A call of `determineRefundChainId`. -/
  | determineRefundChainId (deposit : Deposit) (l1Token : Option Nat)

def Operation.run : Operation → InventoryClient × Memos → InventoryClient × Memos
  | .update crossChainTransferClient, (s, memos) =>
    (if s.isInventoryManagementEnabled then { s with crossChainTransferClient := crossChainTransferClient } else s,
      memos)
  | .clientsUpdated hubPoolClient tokenClient bundleDataClient adapterManager, (s, memos) =>
    ({ s with hubPoolClient := hubPoolClient, tokenClient := tokenClient, bundleDataClient := bundleDataClient
              adapterManager := adapterManager }, memos)
  | .determineRefundChainId deposit l1Token, (s, memos) => (s, (s.determineRefundChainId memos deposit l1Token).1)

def runOperations (state : InventoryClient × Memos) (operations : List Operation) : InventoryClient × Memos :=
  operations.foldl (fun state operation => operation.run state) state

/-! ## Filled memos persist -/

/-- A memo filled before an operation is filled with the same value after it. -/
def MemosExtend (before after : Memos) : Prop :=
  (∀ promise, before.bundleRefundsPromise = some promise → after.bundleRefundsPromise = some promise) ∧
  ∀ token promise, before.excessRunningBalancePromises token = some promise →
    after.excessRunningBalancePromises token = some promise

theorem MemosExtend.refl (memos : Memos) : MemosExtend memos memos :=
  ⟨fun _ => id, fun _ _ => id⟩

theorem MemosExtend.trans {first second third : Memos} (early : MemosExtend first second)
    (late : MemosExtend second third) : MemosExtend first third :=
  ⟨fun promise filled => late.1 promise (early.1 promise filled),
    fun token promise filled => late.2 token promise (early.2 token promise filled)⟩

theorem getBundleRefunds_extends (s : InventoryClient) (memos : Memos) (l1Token : Nat) :
    MemosExtend memos (s.getBundleRefunds memos l1Token).1 := by
  refine ⟨fun promise filled => ?_, fun token promise filled => ?_⟩
  · rw [InventoryClient.getBundleRefunds_keeps filled, filled]
  · rw [InventoryClient.getBundleRefunds_excessRunningBalancePromises, filled]

theorem getExcessRunningBalancePcts_extends (s : InventoryClient) (memos : Memos) (l1Token : Nat) (refund : Int)
    (chains : List Nat) : MemosExtend memos (s.getExcessRunningBalancePcts memos l1Token refund chains).1 := by
  refine ⟨fun promise filled => ?_, fun token promise filled => ?_⟩
  · rw [InventoryClient.getExcessRunningBalancePcts_bundleRefundsPromise, filled]
  · rw [InventoryClient.getExcessRunningBalancePcts_memo]
    split_ifs with fresh
    · obtain ⟨rfl, empty⟩ := fresh
      simp [filled] at empty
    · exact filled

theorem determineRefundChainId_extends (s : InventoryClient) (memos : Memos) (deposit : Deposit)
    (l1Token : Option Nat) : MemosExtend memos (s.determineRefundChainId memos deposit l1Token).1 := by
  rcases determineRefundChainId_memos memos deposit l1Token with same | ⟨token, bundled | ⟨refund, filled⟩⟩
  · rw [same]; exact .refl memos
  · rw [bundled]; exact getBundleRefunds_extends s memos token
  · rw [filled]
    exact (getBundleRefunds_extends s memos token).trans (getExcessRunningBalancePcts_extends s _ token refund _)

theorem Operation.run_extends (operation : Operation) (state : InventoryClient × Memos) :
    MemosExtend state.2 (operation.run state).2 := by
  obtain ⟨s, memos⟩ := state
  cases operation with
  | update => exact .refl memos
  | clientsUpdated => exact .refl memos
  | determineRefundChainId deposit l1Token => exact determineRefundChainId_extends s memos deposit l1Token

/-- The reads of a client answer from every promise of `filled`: the bundle refunds from the
memoized refunds, a token's running-balance percentages from its memoized running balances, and
a rejected promise with a rejection, whatever the client's collaborators hold by then. -/
def AnswersFrom (filled : Memos) (state : InventoryClient × Memos) : Prop :=
  (∀ promise, filled.bundleRefundsPromise = some promise → ∀ l1Token,
    (state.1.getBundleRefunds state.2 l1Token).2 = promise.await.map (state.1.totalRefundsPerChain · l1Token)) ∧
  ∀ token promise, filled.excessRunningBalancePromises token = some promise → ∀ refund chains,
    (state.1.getExcessRunningBalancePcts state.2 token refund chains).2 =
      promise.await.map (state.1._getExcessRunningBalancePcts · token refund)

/-- Memos that keep the promises of `filled` answer every read from them. -/
theorem MemosExtend.answersFrom {filled memos : Memos} (kept : MemosExtend filled memos) (s : InventoryClient) :
    AnswersFrom filled (s, memos) :=
  ⟨fun _ held l1Token => s.getBundleRefunds_of_filled (kept.1 _ held) l1Token,
    fun _ _ held refund chains => s.getExcessRunningBalancePcts_of_filled (kept.2 _ _ held) refund chains⟩

/-- Over any run, update() included, a memo once filled keeps its value, resolved or rejected,
and every read at the end of the run answers from it rather than fetching anew. -/
theorem runOperations_memos_persist (state : InventoryClient × Memos) (operations : List Operation) :
    MemosExtend state.2 (runOperations state operations).2 ∧ AnswersFrom state.2 (runOperations state operations) := by
  have kept : MemosExtend state.2 (runOperations state operations).2 := by
    induction operations generalizing state with
    | nil => exact .refl state.2
    | cons operation rest ih => exact (operation.run_extends state).trans (ih (operation.run state))
  exact ⟨kept, kept.answersFrom _⟩

/-! ## Runs of the sample client -/

/-- The sample client while its bundle data client cannot read the pending bundles. -/
def rejectingClient : InventoryClient :=
  { twoChainClient with bundleDataClient := ⟨none, some [], fun _ _ _ => 0⟩ }

/-- A call while the refunds cannot be read, then `update()`, then the bundle data client
recovers. -/
def recoveryRun : InventoryClient × Memos :=
  runOperations (rejectingClient, Memos.empty)
    [.determineRefundChainId hubDeposit none, .update twoChainClient.crossChainTransferClient,
      .clientsUpdated twoChainClient.hubPoolClient twoChainClient.tokenClient twoChainClient.bundleDataClient
        twoChainClient.adapterManager]

/-- After the update the call still rejects on the memoized refunds, where a client with fresh
memos in the same state answers. -/
theorem determineRefundChainId_rejects_after_update :
    (recoveryRun.1.determineRefundChainId recoveryRun.2 hubDeposit none).2 = .error .rejected ∧
      (recoveryRun.1.determineRefundChainId Memos.empty hubDeposit none).2 = .ok [10, 1] :=
  ⟨rfl, rfl⟩

end Relayer
