import Relayer.ProfitState

/-! Properties of the profit client over every run of updates and profitability queries. -/
namespace Relayer

/-! ## Reading a calculation -/

namespace ProfitClient

variable {client : ProfitClient}

/-- A price read is the cached price, or 0, of the address the token resolves to. -/
theorem getPriceOfToken_ok {token : String} {price : Int} (priced : client.getPriceOfToken token = .ok price) :
    ∃ address, client.resolveTokenAddress token = .ok address ∧ price = (client.tokenPrices address).getD 0 := by
  obtain ⟨address, resolved, priced⟩ := bind_eq_ok priced
  cases priced
  exact ⟨address, resolved, rfl⟩

/-- What a returned calculation rests on: the prices of the symbols of the deposit's input and
output tokens, a gas estimate, and, when it is profitable, positive prices. -/
theorem calculateFillProfitability_ok {deposit : FillDeposit} {lpFeePct minRelayerFeePct : Int}
    {fill : FillProfit} (returned : client.calculateFillProfitability deposit lpFeePct minRelayerFeePct = .ok fill) :
    (∃ info, client.getTokenInfoForAddress deposit.inputToken deposit.originChainId = .ok info ∧
        client.getPriceOfToken info.symbol = .ok fill.inputTokenPriceUsd) ∧
      (∃ info, client.getTokenInfoForAddress deposit.outputToken deposit.destinationChainId = .ok info ∧
        client.getPriceOfToken info.symbol = .ok fill.outputTokenPriceUsd) ∧
      (∃ cost, client.estimateFillCost deposit = .ok cost) ∧
      (fill.profitable = true → 0 < fill.inputTokenPriceUsd ∧ 0 < fill.outputTokenPriceUsd) := by
  unfold calculateFillProfitability at returned
  obtain ⟨_, inputInfo, returned⟩ := bind_eq_ok returned
  obtain ⟨_, input, returned⟩ := bind_eq_ok returned
  obtain ⟨_, -, returned⟩ := bind_eq_ok returned
  obtain ⟨_, outputInfo, returned⟩ := bind_eq_ok returned
  obtain ⟨_, output, returned⟩ := bind_eq_ok returned
  obtain ⟨_, -, returned⟩ := bind_eq_ok returned
  obtain ⟨_, -, returned⟩ := bind_eq_ok returned
  obtain ⟨_, -, returned⟩ := bind_eq_ok returned
  obtain ⟨cost, estimated, returned⟩ := bind_eq_ok returned
  cases returned
  refine ⟨⟨_, inputInfo, input⟩, ⟨_, outputInfo, output⟩, ⟨cost, estimated⟩, fun profitable => ?_⟩
  simp only [Bool.and_eq_true, decide_eq_true_eq] at profitable
  exact profitable.1

/-- A gas figure of `uint256Max` makes the estimate throw. -/
theorem estimateFillCost_of_unknown {deposit : FillDeposit}
    (unknown : (client.getTotalGasCost deposit).nativeGasCost = uint256Max) (cost : FillCost) :
    client.estimateFillCost deposit ≠ .ok cost := by
  intro estimated
  unfold estimateFillCost at estimated
  obtain ⟨_, -, estimated⟩ := bind_eq_ok estimated
  obtain ⟨_, -, estimated⟩ := bind_eq_ok estimated
  obtain ⟨_, checked, -⟩ := bind_eq_ok estimated
  simp [checkGasField, unknown] at checked

/-- Off testnet a profitable decision rests on a returned, profitable calculation. -/
theorem isFillProfitable_profitable (mainnet : client.isTestnet = false) {deposit : FillDeposit}
    {lpFeePct minRelayerFeePct : Int} (profitable : (client.isFillProfitable deposit lpFeePct minRelayerFeePct).profitable) :
    ∃ fill, client.calculateFillProfitability deposit lpFeePct minRelayerFeePct = .ok fill ∧ fill.profitable := by
  unfold isFillProfitable at profitable
  cases returned : client.calculateFillProfitability deposit lpFeePct minRelayerFeePct with
  | error _ => simp [returned, mainnet] at profitable
  | ok fill => exact ⟨fill, rfl, by simpa [returned, mainnet] using profitable⟩

/-- A calculation that cannot return reads as unprofitable, on testnet too. -/
theorem isFillProfitable_of_throws {deposit : FillDeposit} {lpFeePct minRelayerFeePct : Int}
    (throws : ∀ fill, client.calculateFillProfitability deposit lpFeePct minRelayerFeePct ≠ .ok fill) :
    (client.isFillProfitable deposit lpFeePct minRelayerFeePct).profitable = false := by
  unfold isFillProfitable
  cases returned : client.calculateFillProfitability deposit lpFeePct minRelayerFeePct with
  | error _ => simp
  | ok fill => exact absurd returned (throws fill)

/-! ## What each update writes -/

variable (environment : ProfitEnvironment)

theorem prePopulate_frame (client : ProfitClient) (tokens : List (String × Nat)) :
    ∃ tokenSymbolMap tokenPrices, client.prePopulate tokens =
      { client with tokenSymbolMap := tokenSymbolMap, tokenPrices := tokenPrices } := by
  induction tokens generalizing client with
  | nil => exact ⟨_, _, rfl⟩
  | cons entry tokens ih =>
    obtain ⟨tokenSymbolMap, tokenPrices, populated⟩ := ih
      { client with tokenSymbolMap := assignIfUndefined client.tokenSymbolMap entry.1 entry.2,
                    tokenPrices := assignIfUndefined client.tokenPrices entry.2 0 }
    exact ⟨tokenSymbolMap, tokenPrices, populated⟩

/-- `updateTokenPrices` writes only the symbol map and the prices. -/
theorem updateTokenPrices_frame (client : ProfitClient) (fetched : Except String (List (Nat × String))) :
    ∃ tokenSymbolMap tokenPrices, (client.updateTokenPrices environment fetched).1 =
      { client with tokenSymbolMap := tokenSymbolMap, tokenPrices := tokenPrices } := by
  unfold updateTokenPrices
  split
  · exact ⟨_, _, rfl⟩
  · obtain ⟨tokenSymbolMap, tokenPrices, populated⟩ := client.prePopulate_frame _
    split
    · exact ⟨tokenSymbolMap, tokenPrices, populated⟩
    · exact ⟨tokenSymbolMap, _, by rw [populated]⟩

/-- `updateGasCosts` writes only the gas costs. -/
theorem updateGasCosts_frame (client : ProfitClient)
    (simulateGasCosts : FillDeposit → Option TransactionCostEstimate) :
    ∃ totalGasCosts, (client.updateGasCosts environment simulateGasCosts).1 =
      { client with totalGasCosts := totalGasCosts } := by
  refine List.foldlRecOn (motive := fun written : ProfitClient × Except UpdateError Unit =>
      ∃ totalGasCosts, written.1 = { client with totalGasCosts := totalGasCosts })
    _ _ _ ⟨_, rfl⟩ fun written ⟨totalGasCosts, kept⟩ chainId _ => ?_
  unfold updateGasCost
  split
  · exact ⟨totalGasCosts, kept⟩
  · exact ⟨_, by rw [kept]⟩

end ProfitClient

/-- What an operation does to the client's tables; a query leaves them as they are. -/
def ProfitOperation.apply (environment : ProfitEnvironment) (client : ProfitClient) : ProfitOperation → ProfitClient
  | .updateTokenPrices fetched => (client.updateTokenPrices environment fetched).1
  | .updateGasCosts simulateGasCosts => (client.updateGasCosts environment simulateGasCosts).1
  | .isFillProfitable .. => client

namespace ProfitState

variable (environment : ProfitEnvironment)

theorem minRelayerFeePct_client {state state' : ProfitState} {symbol : String} {srcChainId dstChainId : Nat}
    {fee : Int} (resolved : state.minRelayerFeePct environment symbol srcChainId dstChainId = .ok (fee, state')) :
    state'.client = state.client := by
  dsimp only [minRelayerFeePct] at resolved
  split at resolved
  · cases resolved
    rfl
  · obtain ⟨_, -, resolved⟩ := bind_ok_inv resolved
    cases resolved
    rfl

/-- The query decides as the client does at the minimum fee it resolves; a fee that throws reads
as unprofitable. -/
theorem isFillProfitable_fst (state : ProfitState) (deposit : FillDeposit) (lpFeePct : Int) (l1Token : Nat) :
    (state.isFillProfitable environment deposit lpFeePct l1Token).1 =
      match state.minRelayerFeePct environment (environment.getTokenSymbol l1Token environment.hubChainId)
          deposit.originChainId deposit.destinationChainId with
      | .ok (fee, _) => state.client.isFillProfitable deposit lpFeePct fee
      | .error _ => ⟨false, uint256Max, uint256Max, uint256Max, 0⟩ := by
  dsimp only [isFillProfitable, getFillProfitability]
  cases resolved : state.minRelayerFeePct environment (environment.getTokenSymbol l1Token environment.hubChainId)
    deposit.originChainId deposit.destinationChainId with
  | error _ => simp
  | ok result =>
    obtain ⟨fee, state'⟩ := result
    rw [← minRelayerFeePct_client environment resolved]
    unfold ProfitClient.isFillProfitable
    dsimp only
    cases state'.client.calculateFillProfitability deposit lpFeePct fee <;> rfl

/-- The state after a query: the one the minimum fee leaves. -/
theorem isFillProfitable_snd (state : ProfitState) (deposit : FillDeposit) (lpFeePct : Int) (l1Token : Nat) :
    (state.isFillProfitable environment deposit lpFeePct l1Token).2 =
      match state.minRelayerFeePct environment (environment.getTokenSymbol l1Token environment.hubChainId)
          deposit.originChainId deposit.destinationChainId with
      | .ok (_, state) => state
      | .error _ => state := by
  dsimp only [isFillProfitable, getFillProfitability]
  cases state.minRelayerFeePct environment (environment.getTokenSymbol l1Token environment.hubChainId)
    deposit.originChainId deposit.destinationChainId <;> rfl

/-- The tables evolve by the operations alone, whatever the memo holds. -/
theorem step_client (state : ProfitState) (operation : ProfitOperation) :
    (state.step environment operation).1.client = operation.apply environment state.client := by
  cases operation with
  | updateTokenPrices fetched => rfl
  | updateGasCosts simulateGasCosts => rfl
  | isFillProfitable deposit lpFeePct l1Token =>
    show (state.isFillProfitable environment deposit lpFeePct l1Token).2.client = state.client
    rw [isFillProfitable_snd]
    cases resolved : state.minRelayerFeePct environment (environment.getTokenSymbol l1Token environment.hubChainId)
      deposit.originChainId deposit.destinationChainId with
    | error _ => rfl
    | ok result => exact minRelayerFeePct_client environment resolved

theorem run_client (state : ProfitState) (operations : List ProfitOperation) :
    (state.run environment operations).1.client =
      operations.foldl (ProfitOperation.apply environment) state.client := by
  induction operations generalizing state with
  | nil => rfl
  | cons operation operations ih =>
    simp only [run, List.foldl_cons, ← step_client environment state operation]
    exact ih _

end ProfitState

/-! ## The memo of minimum fees

`minRelayerFeePct` looks a fee up under the route's key and then under the token's, and writes
only route keys. For symbols without an underscore a token key is never a route key, and a route
key names its symbol, so every memoised fee is the one the environment sets for the route that
reads it: the memo never changes an answer. -/

theorem eq_of_append_cons_eq {α : Type} {c : α} {z₁ z₂ : List α} :
    ∀ {x₁ x₂ : List α}, c ∉ x₁ → c ∉ x₂ → x₁ ++ c :: z₁ = x₂ ++ c :: z₂ → x₁ = x₂
  | [], [], _, _, _ => rfl
  | [], b :: _, _, absent, joined => absurd (List.cons.inj joined).1 fun same => absent (same ▸ List.mem_cons_self _ _)
  | a :: _, [], absent, _, joined => absurd (List.cons.inj joined).1 fun same => absent (same ▸ List.mem_cons_self _ _)
  | a :: x₁, b :: x₂, absent₁, absent₂, joined => by
    obtain ⟨rfl, rest⟩ := List.cons.inj joined
    rw [eq_of_append_cons_eq (fun held => absent₁ (.tail _ held)) (fun held => absent₂ (.tail _ held)) rest]

private theorem underscore_data : "_".data = ['_'] := rfl

/-- A token key without an underscore in its symbol is no route key. -/
theorem tokenKey_ne_routeKey {symbol : String} (plain : '_' ∉ symbol.data) (other : String)
    (srcChainId dstChainId : Nat) : tokenKey symbol ≠ routeKey other srcChainId dstChainId := by
  intro same
  have joined := congrArg String.data same
  simp only [tokenKey, routeKey, String.data_append, List.append_assoc, List.append_cancel_left_eq,
    underscore_data] at joined
  exact plain (joined ▸ by simp)

/-- A route key names its symbol, for symbols without an underscore. -/
theorem routeKey_symbol {symbol symbol' : String} (plain : '_' ∉ symbol.data) (plain' : '_' ∉ symbol'.data)
    {srcChainId dstChainId srcChainId' dstChainId' : Nat}
    (same : routeKey symbol srcChainId dstChainId = routeKey symbol' srcChainId' dstChainId') : symbol = symbol' := by
  have joined := congrArg String.data same
  simp only [tokenKey, routeKey, String.data_append, List.append_assoc, List.append_cancel_left_eq,
    underscore_data, List.singleton_append] at joined
  exact String.ext (eq_of_append_cons_eq plain plain' joined)

namespace ProfitEnvironment

variable (environment : ProfitEnvironment)

/-- The configured fee reads the environment at the two keys only. -/
theorem configuredMinRelayerFeePct_congr {symbol : String} {srcChainId dstChainId srcChainId' dstChainId' : Nat}
    (same : routeKey symbol srcChainId dstChainId = routeKey symbol srcChainId' dstChainId') :
    environment.configuredMinRelayerFeePct symbol srcChainId dstChainId =
      environment.configuredMinRelayerFeePct symbol srcChainId' dstChainId' := by
  unfold configuredMinRelayerFeePct
  rw [same]

/-- Every memoised fee sits at the route key of a symbol without an underscore and is the fee the
environment sets for that route. -/
def MemoSound (minRelayerFees : String → Option Int) : Prop :=
  ∀ key fee, minRelayerFees key = some fee → ∃ symbol srcChainId dstChainId, '_' ∉ symbol.data ∧
    key = routeKey symbol srcChainId dstChainId ∧
    environment.configuredMinRelayerFeePct symbol srcChainId dstChainId = .ok fee

theorem memoSound_empty : environment.MemoSound fun _ => none := fun _ _ absent => absurd absent (by simp)

theorem MemoSound.memoise {minRelayerFees : String → Option Int} (sound : environment.MemoSound minRelayerFees)
    {symbol : String} (plain : '_' ∉ symbol.data) {srcChainId dstChainId : Nat} {fee : Int}
    (configured : environment.configuredMinRelayerFeePct symbol srcChainId dstChainId = .ok fee) :
    environment.MemoSound (assign minRelayerFees (routeKey symbol srcChainId dstChainId) fee) := by
  intro key held memoised
  unfold assign at memoised
  split_ifs at memoised with routed
  · cases memoised
    exact ⟨symbol, srcChainId, dstChainId, plain, routed, configured⟩
  · exact sound key held memoised

end ProfitEnvironment

namespace ProfitState

variable (environment : ProfitEnvironment)

/-- Over a sound memo the lookup answers the configured fee and leaves a sound memo. -/
theorem minRelayerFeePct_sound (state : ProfitState) (sound : environment.MemoSound state.minRelayerFees)
    {symbol : String} (plain : '_' ∉ (state.client.effectiveSymbol symbol).data) (srcChainId dstChainId : Nat) :
    ∃ minRelayerFees, environment.MemoSound minRelayerFees ∧
      state.minRelayerFeePct environment symbol srcChainId dstChainId =
        (environment.configuredMinRelayerFeePct (state.client.effectiveSymbol symbol) srcChainId dstChainId).map
          fun fee => (fee, { state with minRelayerFees := minRelayerFees }) := by
  dsimp only [minRelayerFeePct]
  cases routed : state.minRelayerFees (routeKey (state.client.effectiveSymbol symbol) srcChainId dstChainId) with
  | some fee =>
    obtain ⟨symbol', _, _, plain', same, configured⟩ := sound _ _ routed
    obtain rfl := routeKey_symbol plain plain' same
    refine ⟨state.minRelayerFees, sound, ?_⟩
    rw [environment.configuredMinRelayerFeePct_congr same, configured]
    rfl
  | none =>
    cases tokened : state.minRelayerFees (tokenKey (state.client.effectiveSymbol symbol)) with
    | some fee =>
      obtain ⟨_, _, _, _, same, _⟩ := sound _ _ tokened
      exact absurd same (tokenKey_ne_routeKey plain _ _ _)
    | none =>
      cases configured : environment.configuredMinRelayerFeePct (state.client.effectiveSymbol symbol)
        srcChainId dstChainId with
      | error _ => exact ⟨state.minRelayerFees, sound, rfl⟩
      | ok fee => exact ⟨_, sound.memoise environment plain configured, rfl⟩

end ProfitState

namespace ProfitOperation

variable (environment : ProfitEnvironment)

/-- An operation writes only the symbol map, the prices and the gas costs. -/
theorem apply_frame (client : ProfitClient) (operation : ProfitOperation) :
    ∃ tokenSymbolMap tokenPrices totalGasCosts, operation.apply environment client =
      { client with tokenSymbolMap := tokenSymbolMap, tokenPrices := tokenPrices, totalGasCosts := totalGasCosts } := by
  cases operation with
  | updateTokenPrices fetched =>
    obtain ⟨tokenSymbolMap, tokenPrices, updated⟩ := client.updateTokenPrices_frame environment fetched
    exact ⟨tokenSymbolMap, tokenPrices, _, updated⟩
  | updateGasCosts simulateGasCosts =>
    obtain ⟨totalGasCosts, updated⟩ := client.updateGasCosts_frame environment simulateGasCosts
    exact ⟨_, _, totalGasCosts, updated⟩
  | isFillProfitable deposit lpFeePct l1Token => exact ⟨_, _, _, rfl⟩

theorem apply_effectiveSymbol (client : ProfitClient) (operation : ProfitOperation) :
    (operation.apply environment client).effectiveSymbol = client.effectiveSymbol := by
  obtain ⟨_, _, _, applied⟩ := apply_frame environment client operation
  rw [applied]
  rfl

end ProfitOperation

namespace ProfitState

variable (environment : ProfitEnvironment)

/-- One operation over a sound memo decides as over an empty one and leaves a sound memo. -/
theorem step_without_memo {state : ProfitState} (sound : environment.MemoSound state.minRelayerFees)
    (plain : ∀ token, '_' ∉ (state.client.effectiveSymbol (environment.getTokenSymbol token environment.hubChainId)).data)
    (operation : ProfitOperation) :
    (state.step environment operation).2 =
        (({ state with minRelayerFees := fun _ => none } : ProfitState).step environment operation).2 ∧
      environment.MemoSound (state.step environment operation).1.minRelayerFees := by
  cases operation with
  | updateTokenPrices fetched => exact ⟨rfl, sound⟩
  | updateGasCosts simulateGasCosts => exact ⟨rfl, sound⟩
  | isFillProfitable deposit lpFeePct l1Token =>
    obtain ⟨_, memoised, resolved⟩ :=
      minRelayerFeePct_sound environment state sound (plain l1Token) deposit.originChainId deposit.destinationChainId
    obtain ⟨_, -, fresh⟩ := minRelayerFeePct_sound environment { state with minRelayerFees := fun _ => none }
      environment.memoSound_empty (plain l1Token) deposit.originChainId deposit.destinationChainId
    dsimp only at fresh
    constructor
    · show some (state.isFillProfitable environment deposit lpFeePct l1Token).1 =
        some (({ state with minRelayerFees := fun _ => none } : ProfitState).isFillProfitable environment
          deposit lpFeePct l1Token).1
      rw [isFillProfitable_fst, isFillProfitable_fst, resolved, fresh]
      cases environment.configuredMinRelayerFeePct _ _ _ <;> rfl
    · show environment.MemoSound (state.isFillProfitable environment deposit lpFeePct l1Token).2.minRelayerFees
      rw [isFillProfitable_snd, resolved]
      cases environment.configuredMinRelayerFeePct _ _ _
      · exact sound
      · exact memoised

theorem run_snd_of_sound {state state' : ProfitState} (sameClient : state.client = state'.client)
    (sound : environment.MemoSound state.minRelayerFees)
    (plain : ∀ token, '_' ∉ (state.client.effectiveSymbol (environment.getTokenSymbol token environment.hubChainId)).data)
    (operations : List ProfitOperation) :
    (state.run environment operations).2 = (state'.runWithoutMemo environment operations).2 := by
  induction operations generalizing state state' with
  | nil => rfl
  | cons operation operations ih =>
    obtain ⟨decided, sound'⟩ := step_without_memo environment sound plain operation
    have forgotten : ({ state' with minRelayerFees := fun _ => none } : ProfitState) =
        { state with minRelayerFees := fun _ => none } := by rw [sameClient]
    show (state.step environment operation).2.toList ++ ((state.step environment operation).1.run environment operations).2 =
      (({ state' with minRelayerFees := fun _ => none } : ProfitState).step environment operation).2.toList ++
        ((({ state' with minRelayerFees := fun _ => none } : ProfitState).step environment operation).1.runWithoutMemo
          environment operations).2
    rw [forgotten, ← decided]
    refine congrArg _ (ih ?_ sound' ?_)
    · rw [step_client, step_client]
    · rw [step_client, ProfitOperation.apply_effectiveSymbol]
      exact plain

/-- The memo of minimum fees never changes a decision: over every run from a client with no
memoised fee, each query decides exactly as it would with every minimum fee read from the
environment afresh, as long as no symbol the client resolves for a token has an underscore. -/
theorem run_decides_as_without_memo (client : ProfitClient)
    (plain : ∀ token, '_' ∉ (client.effectiveSymbol (environment.getTokenSymbol token environment.hubChainId)).data)
    (operations : List ProfitOperation) :
    (ProfitState.run environment ⟨client, fun _ => none⟩ operations).2 =
      (ProfitState.runWithoutMemo environment ⟨client, fun _ => none⟩ operations).2 :=
  run_snd_of_sound environment rfl environment.memoSound_empty plain operations

theorem run_decides_as_without_memo_usdc :
    (∀ token, '_' ∉ (usdcClient.effectiveSymbol (usdcEnvironment.getTokenSymbol token usdcEnvironment.hubChainId)).data) ∧
      (ProfitState.run usdcEnvironment ⟨usdcClient, fun _ => none⟩
          [.updateTokenPrices (.ok [(100, "1")]), .isFillProfitable usdcDeposit 0 100, .isFillProfitable usdcDeposit 0 100]).2 =
        (ProfitState.runWithoutMemo usdcEnvironment ⟨usdcClient, fun _ => none⟩
          [.updateTokenPrices (.ok [(100, "1")]), .isFillProfitable usdcDeposit 0 100, .isFillProfitable usdcDeposit 0 100]).2 := by
  have plain : ∀ token, '_' ∉ (usdcClient.effectiveSymbol (usdcEnvironment.getTokenSymbol token usdcEnvironment.hubChainId)).data := by
    intro token
    by_cases listed : token = 100 <;> simp [ProfitClient.effectiveSymbol, ProfitEnvironment.getTokenSymbol, usdcEnvironment,
      usdcClient, unpricedClient, listed]
  exact ⟨plain, run_decides_as_without_memo _ _ plain _⟩

end ProfitState

/-! ## Prices over a run -/

namespace ProfitClient

variable (environment : ProfitEnvironment)

theorem prePopulate_price {client : ProfitClient} {tokens : List (String × Nat)} {address : Nat} {price : Int}
    (held : (client.prePopulate tokens).tokenPrices address = some price) :
    client.tokenPrices address = some price ∨ price = 0 := by
  induction tokens generalizing client with
  | nil => exact .inl held
  | cons entry tokens ih => exact (ih held).elim assignIfUndefined_eq_some .inr

theorem writePrices_price {tokenPrices : Nat → Option Int} {prices : List (Nat × String)} {address : Nat} {price : Int}
    (held : (writePrices environment tokenPrices prices).1 address = some price) :
    tokenPrices address = some price ∨ ∃ text, (address, text) ∈ prices ∧ environment.toBNWei text = .ok price := by
  induction prices generalizing tokenPrices with
  | nil => exact .inl held
  | cons entry prices ih =>
    obtain ⟨written, text⟩ := entry
    unfold writePrices at held
    cases parsed : environment.toBNWei text with
    | error _ =>
      rw [parsed] at held
      exact .inl held
    | ok value =>
      rw [parsed] at held
      rcases ih held with earlier | ⟨text', listed, parsed'⟩
      · unfold assign at earlier
        split_ifs at earlier with same
        · cases earlier
          exact .inr ⟨text, same ▸ .head _, parsed⟩
        · exact .inl earlier
      · exact .inr ⟨text', .tail _ listed, parsed'⟩

/-- A price after `updateTokenPrices` was there before, is the zero it records for a new address,
or was returned by the feed for that address. -/
theorem updateTokenPrices_price {client : ProfitClient} {fetched : Except String (List (Nat × String))}
    {address : Nat} {price : Int} (held : (client.updateTokenPrices environment fetched).1.tokenPrices address = some price) :
    client.tokenPrices address = some price ∨ price = 0 ∨
      ∃ prices, fetched = .ok prices ∧ ∃ text, (address, text) ∈ prices ∧ environment.toBNWei text = .ok price := by
  unfold updateTokenPrices at held
  split at held
  · exact .inl held
  · cases fetched with
    | error _ => exact (prePopulate_price held).imp_right .inl
    | ok prices =>
      rcases writePrices_price environment held with populated | fed
      · exact (prePopulate_price populated).imp_right .inl
      · exact .inr (.inr ⟨prices, rfl, fed⟩)

end ProfitClient

namespace ProfitOperation

variable (environment : ProfitEnvironment)

theorem foldl_apply_frame (client : ProfitClient) (operations : List ProfitOperation) :
    ∃ tokenSymbolMap tokenPrices totalGasCosts, operations.foldl (apply environment) client =
      { client with tokenSymbolMap := tokenSymbolMap, tokenPrices := tokenPrices, totalGasCosts := totalGasCosts } :=
  List.foldlRecOn (motive := fun applied => ∃ tokenSymbolMap tokenPrices totalGasCosts, applied =
      { client with tokenSymbolMap := tokenSymbolMap, tokenPrices := tokenPrices, totalGasCosts := totalGasCosts })
    _ _ _ ⟨_, _, _, rfl⟩ fun applied ⟨_, _, _, framed⟩ operation _ => by
      obtain ⟨tokenSymbolMap, tokenPrices, totalGasCosts, stepped⟩ := apply_frame environment applied operation
      exact ⟨tokenSymbolMap, tokenPrices, totalGasCosts, by rw [stepped, framed]⟩

/-- The feed returned this price for this address in one of the operations' updates. -/
def FedPrice (operations : List ProfitOperation) (address : Nat) (price : Int) : Prop :=
  ∃ prices, updateTokenPrices (.ok prices) ∈ operations ∧
    ∃ text, (address, text) ∈ prices ∧ environment.toBNWei text = .ok price

/-- Every price the client holds is zero or one the feed returned in the operations' updates. -/
def PricesFed (operations : List ProfitOperation) (client : ProfitClient) : Prop :=
  ∀ address price, client.tokenPrices address = some price → price = 0 ∨ FedPrice environment operations address price

theorem apply_pricesFed {operations : List ProfitOperation} {client : ProfitClient}
    (fed : PricesFed environment operations client) {operation : ProfitOperation} (listed : operation ∈ operations) :
    PricesFed environment operations (operation.apply environment client) := by
  intro address price held
  cases operation with
  | updateTokenPrices fetched =>
    rcases ProfitClient.updateTokenPrices_price environment held with earlier | zero | ⟨prices, rfl, returned⟩
    · exact fed address price earlier
    · exact .inl zero
    · exact .inr ⟨prices, listed, returned⟩
  | updateGasCosts simulateGasCosts =>
    obtain ⟨_, updated⟩ := client.updateGasCosts_frame environment simulateGasCosts
    exact fed address price (by rw [apply, updated] at held; exact held)
  | isFillProfitable deposit lpFeePct l1Token => exact fed address price held

theorem foldl_apply_pricesFed {client : ProfitClient} (unpriced : ∀ address, client.tokenPrices address = none)
    (operations : List ProfitOperation) :
    PricesFed environment operations (operations.foldl (apply environment) client) :=
  List.foldlRecOn (motive := PricesFed environment operations) _ _ _
    (fun address price held => absurd held (by simp [unpriced])) fun _ fed _ listed => apply_pricesFed environment fed listed

/-- A positive price a fed client reads is one the feed returned for the address the token
resolves to. -/
theorem PricesFed.getPriceOfToken {operations : List ProfitOperation} {client : ProfitClient}
    (fed : PricesFed environment operations client) {token : String} {price : Int}
    (priced : client.getPriceOfToken token = .ok price) (positive : 0 < price) :
    ∃ address, client.resolveTokenAddress token = .ok address ∧ FedPrice environment operations address price := by
  obtain ⟨address, resolved, rfl⟩ := ProfitClient.getPriceOfToken_ok priced
  cases held : client.tokenPrices address with
  | none => simp [held] at positive
  | some price =>
    rw [held] at positive
    exact ⟨address, resolved, (fed address price held).resolve_left positive.ne'⟩

end ProfitOperation

namespace ProfitState

open ProfitOperation

variable (environment : ProfitEnvironment)

/-- Off testnet the client never judges a fill profitable on a price the feed did not give: after
any run from a client without prices, a query that reports a fill profitable rests on a returned,
profitable calculation whose input and output prices the feed returned in the run's updates for
the addresses the client resolves the symbols of the deposit's input and output tokens to. -/
theorem profitable_on_fed_prices (client : ProfitClient) (unpriced : ∀ address, client.tokenPrices address = none)
    (mainnet : client.isTestnet = false) (minRelayerFees : String → Option Int) (operations : List ProfitOperation)
    (deposit : FillDeposit) (lpFeePct : Int) (l1Token : Nat)
    (profitable : ((ProfitState.run environment ⟨client, minRelayerFees⟩ operations).1.isFillProfitable environment
      deposit lpFeePct l1Token).1.profitable) :
    ∃ minRelayerFeePct fill,
      (ProfitState.run environment ⟨client, minRelayerFees⟩ operations).1.client.calculateFillProfitability deposit
        lpFeePct minRelayerFeePct = .ok fill ∧ fill.profitable ∧
      (∃ inputInfo inputAddress,
        (ProfitState.run environment ⟨client, minRelayerFees⟩ operations).1.client.getTokenInfoForAddress
          deposit.inputToken deposit.originChainId = .ok inputInfo ∧
        (ProfitState.run environment ⟨client, minRelayerFees⟩ operations).1.client.resolveTokenAddress
          inputInfo.symbol = .ok inputAddress ∧
        FedPrice environment operations inputAddress fill.inputTokenPriceUsd) ∧
      (∃ outputInfo outputAddress,
        (ProfitState.run environment ⟨client, minRelayerFees⟩ operations).1.client.getTokenInfoForAddress
          deposit.outputToken deposit.destinationChainId = .ok outputInfo ∧
        (ProfitState.run environment ⟨client, minRelayerFees⟩ operations).1.client.resolveTokenAddress
          outputInfo.symbol = .ok outputAddress ∧
        FedPrice environment operations outputAddress fill.outputTokenPriceUsd) := by
  generalize ran : ProfitState.run environment ⟨client, minRelayerFees⟩ operations = final at profitable ⊢
  have applied : final.1.client = operations.foldl (apply environment) client := by
    rw [← ran, run_client]
  have fed : PricesFed environment operations final.1.client :=
    applied ▸ foldl_apply_pricesFed environment unpriced operations
  have stillMainnet : final.1.client.isTestnet = false := by
    obtain ⟨_, _, _, framed⟩ := foldl_apply_frame environment client operations
    rw [applied, framed]
    exact mainnet
  rw [isFillProfitable_fst] at profitable
  split at profitable
  · next minRelayerFeePct _ _ =>
    obtain ⟨fill, returned, fillProfitable⟩ := ProfitClient.isFillProfitable_profitable stillMainnet profitable
    obtain ⟨⟨inputInfo, inputFound, input⟩, ⟨outputInfo, outputFound, output⟩, -, positive⟩ :=
      ProfitClient.calculateFillProfitability_ok returned
    obtain ⟨inputAddress, inputResolved, inputFed⟩ := fed.getPriceOfToken environment input (positive fillProfitable).1
    obtain ⟨outputAddress, outputResolved, outputFed⟩ :=
      fed.getPriceOfToken environment output (positive fillProfitable).2
    exact ⟨minRelayerFeePct, fill, returned, fillProfitable, ⟨inputInfo, inputAddress, inputFound, inputResolved, inputFed⟩,
      ⟨outputInfo, outputAddress, outputFound, outputResolved, outputFed⟩⟩
  · simp at profitable

set_option maxRecDepth 4000 in
/-- After the first tick the 1 USDC deposit to chain 10 is profitable at the configured 0.01%
minimum, on the prices the feed gave. -/
theorem profitable_on_fed_prices_usdc :
    (∀ address, usdcClient.tokenPrices address = none) ∧ usdcClient.isTestnet = false ∧
      ((ProfitState.run usdcEnvironment ⟨usdcClient, fun _ => none⟩ usdcUpdates).1.isFillProfitable usdcEnvironment
        usdcDeposit (10 ^ 14) 100).1.profitable ∧
      ∃ minRelayerFeePct fill,
        (ProfitState.run usdcEnvironment ⟨usdcClient, fun _ => none⟩ usdcUpdates).1.client.calculateFillProfitability
          usdcDeposit (10 ^ 14) minRelayerFeePct = .ok fill ∧ fill.profitable :=
  have profitable : ((ProfitState.run usdcEnvironment ⟨usdcClient, fun _ => none⟩ usdcUpdates).1.isFillProfitable
      usdcEnvironment usdcDeposit (10 ^ 14) 100).1.profitable := by decide
  have onFed := profitable_on_fed_prices usdcEnvironment usdcClient (fun _ => rfl) rfl _ _ _ _ _ profitable
  ⟨fun _ => rfl, rfl, profitable, onFed.imp fun _ => Exists.imp fun _ found => ⟨found.1, found.2.1⟩⟩

end ProfitState

/-! ## The two halves of `update`

`update` runs `updateTokenPrices` and `updateGasCosts` concurrently. The first reads and writes
only the symbol map and the prices, the second only the gas costs, so they commute. -/

namespace ProfitClient

variable (environment : ProfitEnvironment)

theorem prePopulate_totalGasCosts (client : ProfitClient) (totalGasCosts : Nat → Option TransactionCostEstimate)
    (tokens : List (String × Nat)) :
    { client with totalGasCosts := totalGasCosts }.prePopulate tokens =
      { client.prePopulate tokens with totalGasCosts := totalGasCosts } := by
  induction tokens generalizing client with
  | nil => rfl
  | cons entry tokens ih =>
    exact ih { client with tokenSymbolMap := assignIfUndefined client.tokenSymbolMap entry.1 entry.2,
                           tokenPrices := assignIfUndefined client.tokenPrices entry.2 0 }

theorem updateTokenPrices_totalGasCosts (client : ProfitClient) (totalGasCosts : Nat → Option TransactionCostEstimate)
    (fetched : Except String (List (Nat × String))) :
    { client with totalGasCosts := totalGasCosts }.updateTokenPrices environment fetched =
      ({ (client.updateTokenPrices environment fetched).1 with totalGasCosts := totalGasCosts },
        (client.updateTokenPrices environment fetched).2) := by
  have reads : tokensToPrice environment { client with totalGasCosts := totalGasCosts } =
      tokensToPrice environment client := rfl
  unfold updateTokenPrices
  rw [reads]
  split
  · rfl
  · rw [prePopulate_totalGasCosts]
    cases fetched <;> rfl

theorem updateGasCost_prices (simulateGasCosts : FillDeposit → Option TransactionCostEstimate)
    (written : ProfitClient × Except UpdateError Unit) (tokenSymbolMap : String → Option Nat)
    (tokenPrices : Nat → Option Int) (chainId : Nat) :
    updateGasCost environment simulateGasCosts
        ({ written.1 with tokenSymbolMap := tokenSymbolMap, tokenPrices := tokenPrices }, written.2) chainId =
      ({ (updateGasCost environment simulateGasCosts written chainId).1 with
          tokenSymbolMap := tokenSymbolMap, tokenPrices := tokenPrices },
        (updateGasCost environment simulateGasCosts written chainId).2) := by
  have reads : sampleDeposit environment { written.1 with tokenSymbolMap := tokenSymbolMap, tokenPrices := tokenPrices }
      chainId = sampleDeposit environment written.1 chainId := rfl
  unfold updateGasCost
  rw [reads]
  split <;> rfl

theorem updateGasCosts_prices (client : ProfitClient) (tokenSymbolMap : String → Option Nat)
    (tokenPrices : Nat → Option Int) (simulateGasCosts : FillDeposit → Option TransactionCostEstimate) :
    { client with tokenSymbolMap := tokenSymbolMap, tokenPrices := tokenPrices }.updateGasCosts environment
        simulateGasCosts =
      ({ (client.updateGasCosts environment simulateGasCosts).1 with
          tokenSymbolMap := tokenSymbolMap, tokenPrices := tokenPrices },
        (client.updateGasCosts environment simulateGasCosts).2) := by
  suffices each : ∀ (chains : List Nat) (written : ProfitClient × Except UpdateError Unit),
      chains.foldl (updateGasCost environment simulateGasCosts)
          ({ written.1 with tokenSymbolMap := tokenSymbolMap, tokenPrices := tokenPrices }, written.2) =
        ({ (chains.foldl (updateGasCost environment simulateGasCosts) written).1 with
            tokenSymbolMap := tokenSymbolMap, tokenPrices := tokenPrices },
          (chains.foldl (updateGasCost environment simulateGasCosts) written).2) from
    each environment.enabledChainIds (client, .ok ())
  intro chains
  induction chains with
  | nil => exact fun _ => rfl
  | cons chainId chains ih =>
    intro written
    rw [List.foldl_cons, List.foldl_cons, updateGasCost_prices, ih]

/-- The two halves of `update` commute: whichever of `updateTokenPrices` and `updateGasCosts`
lands first, the client ends in the same state, and each half succeeds or throws as it would
alone. -/
theorem update_halves_commute (client : ProfitClient) (fetched : Except String (List (Nat × String)))
    (simulateGasCosts : FillDeposit → Option TransactionCostEstimate) :
    ((client.updateTokenPrices environment fetched).1.updateGasCosts environment simulateGasCosts).1 =
        ((client.updateGasCosts environment simulateGasCosts).1.updateTokenPrices environment fetched).1 ∧
      ((client.updateTokenPrices environment fetched).1.updateGasCosts environment simulateGasCosts).2 =
        (client.updateGasCosts environment simulateGasCosts).2 ∧
      ((client.updateGasCosts environment simulateGasCosts).1.updateTokenPrices environment fetched).2 =
        (client.updateTokenPrices environment fetched).2 := by
  obtain ⟨tokenSymbolMap, tokenPrices, priced⟩ := client.updateTokenPrices_frame environment fetched
  obtain ⟨totalGasCosts, gassed⟩ := client.updateGasCosts_frame environment simulateGasCosts
  refine ⟨?_, ?_, ?_⟩
  · rw [priced, updateGasCosts_prices, gassed, updateTokenPrices_totalGasCosts, priced]
  · rw [priced, updateGasCosts_prices]
  · rw [gassed, updateTokenPrices_totalGasCosts]

end ProfitClient

/-! ## A rejected gas simulation -/

namespace ProfitClient

variable (environment : ProfitEnvironment)

theorem sampleDeposit_congr {client client' : ProfitClient} (same : client.tokenSymbolsMap = client'.tokenSymbolsMap)
    (chainId : Nat) : client.sampleDeposit environment chainId = client'.sampleDeposit environment chainId := by
  unfold sampleDeposit tokenAddressOn
  rw [same]

/-- The update stores at an enabled chain the cost of the chain's sample deposit. -/
theorem updateGasCosts_totalGasCosts (client : ProfitClient)
    (simulateGasCosts : FillDeposit → Option TransactionCostEstimate) {chainId : Nat} {sample : FillDeposit}
    (enabled : chainId ∈ environment.enabledChainIds) (sampled : client.sampleDeposit environment chainId = .ok sample) :
    (client.updateGasCosts environment simulateGasCosts).1.totalGasCosts chainId =
      some ((simulateGasCosts sample).getD ⟨uint256Max, uint256Max, uint256Max⟩) := by
  unfold updateGasCosts
  suffices stored : ∀ (chains : List Nat) (written : ProfitClient × Except UpdateError Unit),
      written.1.tokenSymbolsMap = client.tokenSymbolsMap →
      (chainId ∈ chains ∨ written.1.totalGasCosts chainId = some ((simulateGasCosts sample).getD ⟨uint256Max, uint256Max, uint256Max⟩)) →
      (chains.foldl (updateGasCost environment simulateGasCosts) written).1.totalGasCosts chainId =
        some ((simulateGasCosts sample).getD ⟨uint256Max, uint256Max, uint256Max⟩) from
    stored _ _ rfl (.inl enabled)
  intro chains
  induction chains with
  | nil => exact fun _ _ pending => pending.resolve_left (List.not_mem_nil _)
  | cons next chains ih =>
    intro written same pending
    refine ih _ ?_ ?_
    · unfold updateGasCost
      split <;> exact same
    · unfold updateGasCost
      by_cases here : next = chainId
      · subst here
        rw [sampleDeposit_congr environment same, sampled]
        exact .inr (by simp [assign])
      · have later : chainId ∈ chains ∨
            written.1.totalGasCosts chainId = some ((simulateGasCosts sample).getD ⟨uint256Max, uint256Max, uint256Max⟩) :=
          pending.imp_left fun listed => (List.mem_cons.mp listed).resolve_left (Ne.symm here)
        split
        · exact later
        · simpa [assign, Ne.symm here] using later

end ProfitClient

namespace ProfitOperation

/-- Only a gas update writes the gas costs. -/
theorem apply_totalGasCosts (environment : ProfitEnvironment) (client : ProfitClient)
    {operation : ProfitOperation} (notGas : ∀ simulate, operation ≠ .updateGasCosts simulate) :
    (operation.apply environment client).totalGasCosts = client.totalGasCosts := by
  cases operation with
  | updateTokenPrices fetched =>
    obtain ⟨_, _, updated⟩ := client.updateTokenPrices_frame environment fetched
    rw [apply, updated]
  | updateGasCosts simulate => exact absurd rfl (notGas simulate)
  | isFillProfitable deposit lpFeePct l1Token => rfl

end ProfitOperation

namespace ProfitState

open ProfitOperation

variable (environment : ProfitEnvironment)

/-- A rejected gas simulation is cached and served: once an update has stored the `uint256Max`
figures for a chain whose sample deposit the simulation rejected, every query for a deposit
without a message to that chain reads as unprofitable, on testnet too, until the next gas update,
however the prices change meanwhile. -/
theorem unprofitable_after_rejected_simulation (state : ProfitState)
    (simulateGasCosts : FillDeposit → Option TransactionCostEstimate) {chainId : Nat} {sample : FillDeposit}
    (enabled : chainId ∈ environment.enabledChainIds) (sampled : state.client.sampleDeposit environment chainId = .ok sample)
    (rejected : simulateGasCosts sample = none) (operations : List ProfitOperation)
    (noGasUpdate : ∀ operation ∈ operations, ∀ simulate, operation ≠ .updateGasCosts simulate)
    (deposit : FillDeposit) (toChain : deposit.destinationChainId = chainId) (noMessage : deposit.messageEmpty)
    (lpFeePct : Int) (l1Token : Nat) :
    (((state.step environment (.updateGasCosts simulateGasCosts)).1.run environment operations).1.isFillProfitable
      environment deposit lpFeePct l1Token).1.profitable = false := by
  generalize ran : (state.step environment (.updateGasCosts simulateGasCosts)).1.run environment operations = final
  have cached : final.1.client.totalGasCosts chainId = some ⟨uint256Max, uint256Max, uint256Max⟩ := by
    rw [← ran, run_client, step_client]
    refine List.foldlRecOn (motive := fun client : ProfitClient =>
      client.totalGasCosts chainId = some ⟨uint256Max, uint256Max, uint256Max⟩) _ _ _ ?_
      fun client held operation listed => by
        dsimp only
        rw [apply_totalGasCosts environment client (noGasUpdate _ listed)]
        exact held
    dsimp only [apply]
    rw [ProfitClient.updateGasCosts_totalGasCosts environment _ _ enabled sampled, rejected]
    rfl
  have unknown : (final.1.client.getTotalGasCost deposit).nativeGasCost = uint256Max := by
    simp [ProfitClient.getTotalGasCost, noMessage, toChain, cached]
  rw [isFillProfitable_fst]
  split
  · refine ProfitClient.isFillProfitable_of_throws fun fill returned => ?_
    obtain ⟨-, -, ⟨cost, estimated⟩, -⟩ := ProfitClient.calculateFillProfitability_ok returned
    exact ProfitClient.estimateFillCost_of_unknown unknown cost estimated
  · rfl

/-- A tick whose simulation rejects on every chain leaves the 1 USDC deposit to chain 10
unprofitable after a later price update. -/
theorem unprofitable_after_rejected_simulation_usdc :
    10 ∈ usdcEnvironment.enabledChainIds ∧
      usdcClient.sampleDeposit usdcEnvironment 10 =
        .ok { toDeposit := ⟨0, 0, 10, 0, 200, 101, false, false⟩, outputAmount := 100,
              updatedOutputAmount := none, messageEmpty := true } ∧
      (∀ operation ∈ [ProfitOperation.updateTokenPrices (.ok [(100, "1"), (1, "3000")])], ∀ simulate,
        operation ≠ .updateGasCosts simulate) ∧
      usdcDeposit.destinationChainId = 10 ∧ usdcDeposit.messageEmpty ∧
      ((((ProfitState.mk usdcClient fun _ => none).step usdcEnvironment (.updateGasCosts fun _ => none)).1.run
        usdcEnvironment [.updateTokenPrices (.ok [(100, "1"), (1, "3000")])]).1.isFillProfitable usdcEnvironment
          usdcDeposit (10 ^ 14) 100).1.profitable = false := by
  have enabled : 10 ∈ usdcEnvironment.enabledChainIds := by decide
  have sampled : usdcClient.sampleDeposit usdcEnvironment 10 =
      .ok { toDeposit := ⟨0, 0, 10, 0, 200, 101, false, false⟩, outputAmount := 100,
            updatedOutputAmount := none, messageEmpty := true } := rfl
  have noGasUpdate : ∀ operation ∈ [ProfitOperation.updateTokenPrices (.ok [(100, "1"), (1, "3000")])],
      ∀ simulate, operation ≠ .updateGasCosts simulate := by
    simp
  exact ⟨enabled, sampled, noGasUpdate, rfl, rfl,
    unprofitable_after_rejected_simulation usdcEnvironment ⟨usdcClient, fun _ => none⟩ (fun _ => none) enabled sampled rfl
      _ noGasUpdate usdcDeposit rfl rfl _ _⟩

end ProfitState

end Relayer
