import Relayer.Accounting

/-! The `AdapterManager` of `clients/bridges`: the constructor that sets up one chain adapter per
SpokePool client, with the bridges it builds for the chain's supported tokens, and the methods
through which the inventory client reaches the adapters. The adapters themselves
(`BaseChainAdapter`) and the bridge classes are code outside src/; the model records what the
manager builds and asks of them (a bridge of a class for an L1 token, a transfer, a wrap, a check
of approvals, a query of the transfers in flight) and takes their answers as arguments. The
tables of ../common and of the constants package the manager reads (`SUPPORTED_TOKENS`,
`TOKEN_SYMBOLS_MAP`, `CUSTOM_BRIDGE`, `CANONICAL_BRIDGE` and their L2 counterparts) are
parameters of `Setup`. `EvmAddress.from` is read as throwing on an undefined address, and a
bridge's own constructor as not throwing.

`Constructed` is a manager with the proof that its adapters are those its constructor built from
its setup, so that what is proved of a method holds of every manager the code can produce. The
constructor reads `spokePoolClients[chainId]` at the chain a client reports, so the results that
follow the adapters from the constructor to a method assume that each client sits under its own
chain ID (`KeyedByChain`), as the relayer builds the object. Under it:

1. `constructAdapters_adapter_per_client`: the constructor succeeds exactly when every chain with
   a client, other than the hub chain, has for each of its `SUPPORTED_TOKENS` an address on the
   hub chain in `TOKEN_SYMBOLS_MAP` and a bridge class, custom for that address or canonical
   (`BridgesDefined`). It then sets up one adapter for each client under its chain, supporting the
   chain's `SUPPORTED_TOKENS`, monitoring the hub pool, the chain's own SpokePool and the
   monitored addresses that are no chain's SpokePool, and holding, once per L1 token, the bridge
   and the L2 bridge of each supported token that has one, and nothing else.
2. `wrapNativeTokenIfAboveThreshold_requests`: the wrap pass asks for a wrap on exactly the chains
   to wrap ether on that have a client and whose threshold is at least their target, with the
   chain's settings, and resolves exactly when no chain it selects has a setting undefined or its
   threshold below its target and every adapter's wrap resolves. The callbacks run concurrently,
   so one chain's failed assertion does not keep the others from being wrapped. -/
namespace Relayer

/-- `CHAIN_IDs.ARBITRUM`. -/
def arbitrumChainId : Nat := 42161

/-- A `SpokePoolClient`, with the two fields the adapter manager reads. -/
structure SpokePoolClient where
  chainId : Nat
  spokePoolAddress : Nat
  deriving DecidableEq, Repr

/-- A bridge the constructor builds: the class it instantiates, and the chains and the L1 token it
is built for. The signers it is also given are not modelled. -/
structure Bridge where
  bridgeClass : String
  chainId : Nat
  hubChainId : Nat
  l1Token : Nat
  deriving DecidableEq, Repr

/-- A `BaseChainAdapter` as the adapter manager's constructor sets it up: its chain, the
addresses it monitors, the token symbols it supports, and its bridges and L2 bridges, keyed by
L1 token address. -/
structure ChainAdapter where
  chainId : Nat
  monitoredAddresses : List Nat
  supportedTokens : List String
  bridges : List (Nat × Bridge)
  l2Bridges : List (Nat × Bridge)
  deriving DecidableEq, Repr

/-- `Array.filter` with a callback that may throw: the first throw ends it. -/
def filterThrowing {α ε : Type} (keep : α → Except ε Bool) : List α → Except ε (List α)
  | [] => pure []
  | x :: rest => do
    let kept ← keep x
    let later ← filterThrowing keep rest
    pure (if kept then x :: later else later)

/-- `utils.mapAsync` over callbacks that each make one request of an adapter. Every callback
runs, so the request of each one that does not throw is made. A callback here throws before its
first `await`, so its promise is already rejected when `Promise.all` takes it, and the call
rejects with the error of the first callback, in the order of the list, that throws. -/
def mapAsync {α β ε : Type} (callback : α → Except ε β) : List α → List β × Except ε Unit
  | [] => ([], .ok ())
  | x :: rest =>
    let later := mapAsync callback rest
    match callback x with
    | .ok request => (request :: later.1, later.2)
    | .error e => (later.1, .error e)

/-- Assigning a property whose key is not an array index, such as an address: in place where the
key is present, appended otherwise. -/
def setProperty {β : Type} (object : List (Nat × β)) (key : Nat) (value : β) : List (Nat × β) :=
  if object.any (·.1 = key) then object.map fun entry => if entry.1 = key then (key, value) else entry
  else object ++ [(key, value)]

/-- `Object.fromEntries` over keys that are not array indices: each key at the position of its
first entry, with the value of its last. -/
def objectFromEntries {β : Type} (entries : List (Nat × β)) : List (Nat × β) :=
  entries.foldl (fun object entry => setProperty object entry.1 entry.2) []

section Callbacks

variable {α β ε : Type}

/-- A traversal that returns has every call return. -/
theorem mapM_ok_each {f : α → Except ε β} :
    ∀ {xs : List α} {ys : List β}, xs.mapM f = .ok ys → ∀ x ∈ xs, ∃ y, f x = .ok y
  | [], _, _ => fun _ held => absurd held (List.not_mem_nil _)
  | x :: rest, ys, done => by
    rw [List.mapM_cons] at done
    obtain ⟨y, first, done⟩ := bind_ok_inv done
    obtain ⟨later, restDone, -⟩ := bind_ok_inv done
    intro z held
    rcases List.mem_cons.mp held with rfl | held
    · exact ⟨y, first⟩
    · exact mapM_ok_each restDone z held

/-- A traversal whose calls all return the values of `g` that are defined. -/
theorem mapM_eq_ok_filterMap {f : α → Except ε β} (g : α → Option β) :
    ∀ {xs : List α}, (∀ x ∈ xs, ∃ y, g x = some y ∧ f x = .ok y) → xs.mapM f = .ok (xs.filterMap g)
  | [], _ => rfl
  | x :: rest, each => by
    obtain ⟨y, defined, returned⟩ := each x (List.mem_cons_self _ _)
    rw [List.mapM_cons, returned, mapM_eq_ok_filterMap g fun z held => each z (List.mem_cons_of_mem _ held),
      List.filterMap_cons, defined]
    rfl

theorem filterThrowing_of_pure {keep : α → Except ε Bool} (q : α → Bool) :
    ∀ {xs : List α}, (∀ x ∈ xs, keep x = .ok (q x)) → filterThrowing keep xs = .ok (xs.filter q)
  | [], _ => rfl
  | x :: rest, each => by
    rw [filterThrowing, each x (List.mem_cons_self _ _),
      filterThrowing_of_pure q fun y held => each y (List.mem_cons_of_mem _ held), List.filter_cons]
    cases q x <;> rfl

theorem mapAsync_fst (callback : α → Except ε β) :
    ∀ xs : List α, (mapAsync callback xs).1 = xs.filterMap fun x => (callback x).toOption
  | [] => rfl
  | x :: rest => by
    simp only [mapAsync, List.filterMap_cons]
    cases callback x <;> simp [Except.toOption, mapAsync_fst callback rest]

theorem mapAsync_snd_eq_ok (callback : α → Except ε β) :
    ∀ xs : List α, (mapAsync callback xs).2 = .ok () ↔ ∀ x ∈ xs, ∃ request, callback x = .ok request
  | [] => iff_of_true rfl fun _ held => absurd held (List.not_mem_nil _)
  | x :: rest => by
    simp only [mapAsync, List.mem_cons, forall_eq_or_imp]
    cases callback x with
    | ok request => exact (mapAsync_snd_eq_ok callback rest).trans (and_iff_right ⟨request, rfl⟩).symm
    | error e => exact iff_of_false (fun returned => nomatch returned) fun ⟨⟨_, returned⟩, _⟩ => nomatch returned

end Callbacks

section Objects

variable {β : Type}

theorem mem_setProperty {object : List (Nat × β)} {key : Nat} {value : β} {entry : Nat × β}
    (held : entry ∈ setProperty object key value) : entry ∈ object ∨ entry = (key, value) := by
  unfold setProperty at held
  split at held
  · obtain ⟨before, inObject, rfl⟩ := List.mem_map.mp held
    split
    · exact .inr rfl
    · exact .inl inObject
  · exact (List.mem_append.mp held).imp_right List.mem_singleton.mp

theorem keys_setProperty (object : List (Nat × β)) (key : Nat) (value : β) :
    (setProperty object key value).map Prod.fst =
      if object.any (·.1 = key) then object.map Prod.fst else object.map Prod.fst ++ [key] := by
  unfold setProperty
  split
  · rw [List.map_map]
    exact List.map_congr_left fun entry _ => by by_cases same : entry.1 = key <;> simp [same]
  · simp

theorem mem_keys_setProperty {object : List (Nat × β)} {key k : Nat} {value : β} :
    k ∈ (setProperty object key value).map Prod.fst ↔ k ∈ object.map Prod.fst ∨ k = key := by
  rw [keys_setProperty]
  split
  · rename_i present
    obtain ⟨entry, held, same⟩ := List.any_eq_true.mp present
    refine ⟨.inl, fun listed => listed.elim id fun atKey => ?_⟩
    exact atKey ▸ List.mem_map.mpr ⟨entry, held, of_decide_eq_true same⟩
  · rw [List.mem_append, List.mem_singleton]

theorem nodup_setProperty {object : List (Nat × β)} (distinct : (object.map Prod.fst).Nodup) (key : Nat)
    (value : β) : ((setProperty object key value).map Prod.fst).Nodup := by
  rw [keys_setProperty]
  split
  · exact distinct
  · rename_i absent
    rw [← List.concat_eq_append]
    refine distinct.concat fun listed => absent ?_
    obtain ⟨entry, held, rfl⟩ := List.mem_map.mp listed
    exact List.any_eq_true.mpr ⟨entry, held, decide_eq_true rfl⟩

/-- Assigning entries in turn keeps each key once, and leaves entries that were there or given,
under the keys that were there or given. -/
theorem foldl_setProperty :
    ∀ (entries object : List (Nat × β)), (object.map Prod.fst).Nodup →
      (∀ entry ∈ entries.foldl (fun object entry => setProperty object entry.1 entry.2) object,
        entry ∈ object ∨ entry ∈ entries) ∧
      (∀ k, k ∈ (entries.foldl (fun object entry => setProperty object entry.1 entry.2) object).map Prod.fst ↔
        k ∈ object.map Prod.fst ∨ k ∈ entries.map Prod.fst) ∧
      ((entries.foldl (fun object entry => setProperty object entry.1 entry.2) object).map Prod.fst).Nodup
  | [], _, distinct => ⟨fun _ held => .inl held, fun k => (or_iff_left (List.not_mem_nil k)).symm, distinct⟩
  | first :: rest, object, distinct => by
    obtain ⟨fromGiven, keys, later⟩ := foldl_setProperty rest _ (nodup_setProperty distinct first.1 first.2)
    refine ⟨fun entry held => ?_, fun k => ?_, later⟩
    · rcases fromGiven entry held with held | given
      · rcases mem_setProperty held with held | rfl
        · exact .inl held
        · exact .inr (List.mem_cons_self _ _)
      · exact .inr (List.mem_cons_of_mem _ given)
    · rw [List.foldl_cons, keys, mem_keys_setProperty, List.map_cons, List.mem_cons]
      exact or_assoc

/-- Over entries whose values `g` gives for their keys, an entry of `Object.fromEntries` is a key
given with its value. -/
theorem mem_objectFromEntries {g : Nat → Option β} {entries : List (Nat × β)}
    (graph : ∀ entry ∈ entries, g entry.1 = some entry.2) {k : Nat} {v : β} :
    (k, v) ∈ objectFromEntries entries ↔ k ∈ entries.map Prod.fst ∧ g k = some v := by
  obtain ⟨fromGiven, keys, -⟩ := foldl_setProperty entries [] List.nodup_nil
  constructor
  · intro held
    rcases fromGiven _ held with held | given
    · cases held
    · exact ⟨List.mem_map_of_mem Prod.fst given, graph _ given⟩
  · rintro ⟨listed, mapped⟩
    obtain ⟨⟨k', v'⟩, held, rfl⟩ := List.mem_map.mp ((keys k).mpr (.inr listed))
    rcases fromGiven _ held with held | given
    · cases held
    · have same := (graph _ given).symm.trans mapped
      cases same
      exact held

theorem objectFromEntries_nodup (entries : List (Nat × β)) : ((objectFromEntries entries).map Prod.fst).Nodup :=
  (foldl_setProperty entries [] List.nodup_nil).2.2

end Objects

namespace AdapterManager

/-- What the adapter manager's methods throw. -/
inductive AdapterError where
  /-- `l2TokenForL1Token`: the route has no remote token. -/
  | noL2Token (l1Token chainId : Nat)
  /-- `l2TokenForL1Token`: the remote token is not the address `getL2TokenAddresses` lists. -/
  | tokenAddressMismatch (l2Token : Nat) (listed : Option Nat)
  /-- `wrapNativeTokenIfAboveThreshold`: a chain's wrap threshold is below its target. -/
  | wrapThresholdBelowTarget (wrapThreshold wrapTarget : Int)
  /-- `getTokenInfo` of ../utils does not know the token. -/
  | unknownToken (token : Nat)
  /-- A method of `this.adapters[chainId]` is called where the chain has no adapter. -/
  | noAdapter (chainId : Nat)
  /-- A field of `spokePoolClients[chainId]` is read where the chain has no client. -/
  | noSpokePoolClient (chainId : Nat)
  /-- `this.spokePoolClients` is read where the constructor was given none. -/
  | noSpokePoolClients
  /-- A wrap setting of the chain is undefined and is read as a `BigNumber`. -/
  | undefinedWrapSetting (chainId : Nat)
  /-- The adapter's `checkTokenApprovals` rejected. -/
  | approvalRejected (chainId : Nat)
  /-- The adapter's `wrapNativeTokenIfAboveThreshold` rejected. -/
  | wrapRejected (chainId : Nat)
  /-- `TOKEN_SYMBOLS_MAP[symbol]` is undefined and its `addresses` are read. -/
  | noTokenSymbolEntry (symbol : String)
  /-- `EvmAddress.from` is given the undefined hub-chain address of a symbol. -/
  | undefinedL1Token (symbol : String)
  /-- `new bridgeConstructor(...)` where the chain has neither a custom nor a canonical bridge. -/
  | noBridgeConstructor (chainId : Nat)
  deriving DecidableEq, Repr

/-- The message of each error src/ throws, as it writes it. Errors thrown by code outside src/
have no text here. -/
def AdapterError.message : AdapterError → Option String
  | .noL2Token l1Token chainId =>
    some ("No L2 token found for L1 token " ++ toString l1Token ++ " on chain " ++ toString chainId)
  | .tokenAddressMismatch l2Token listed =>
    some ("Token address mismatch (" ++ toString l2Token ++ " != " ++
      (listed.map toString).getD "undefined" ++ ")")
  | .wrapThresholdBelowTarget wrapThreshold wrapTarget =>
    some ("wrapEtherThreshold " ++ toString wrapThreshold ++ " must be >= wrapEtherTarget " ++
      toString wrapTarget)
  | .unknownToken _ | .noAdapter _ | .noSpokePoolClient _ | .noSpokePoolClients
  | .undefinedWrapSetting _ | .approvalRejected _ | .wrapRejected _ | .noTokenSymbolEntry _
  | .undefinedL1Token _ | .noBridgeConstructor _ => none

/-- The adapter manager's constructor arguments, and the tables of ../common, ../utils and the
constants package that it reads. -/
structure Setup where
  /-- The constructor's `spokePoolClients`; `none` where it is not given. -/
  spokePoolClients : Option (ChainKeyed SpokePoolClient)
  /-- `hubPoolClient.chainId`. -/
  hubChainId : Nat
  /-- `hubPoolClient.hubPool.address`. -/
  hubPoolAddress : Nat
  /-- The constructor's `monitoredAddresses`. -/
  monitoredAddresses : List Nat
  /-- `SUPPORTED_TOKENS[chainId]`. -/
  supportedTokens : Nat → Option (List String)
  /-- `spokesThatHoldNativeTokens`. -/
  spokesThatHoldNativeTokens : List Nat
  /-- `getRemoteTokenForL1Token(l1Token, chainId, hubPoolClient.chainId)`. -/
  remoteToken : Nat → Nat → Option Nat
  /-- `getL2TokenAddresses(l1Token)[chainId]`. -/
  l2TokenAddresses : Nat → Nat → Option Nat
  /-- `getTokenInfo(token, hubPoolClient.chainId).symbol`; `none` where it throws. -/
  tokenSymbol : Nat → Option String
  /-- `TOKEN_EQUIVALENCE_REMAPPING`. -/
  tokenEquivalenceRemapping : String → Option String
  /-- `TOKEN_SYMBOLS_MAP[symbol].addresses`: `none` where the symbol has no entry. -/
  tokenSymbolsMap : String → Option (Nat → Option Nat)
  /-- `CUSTOM_BRIDGE[chainId]?.[l1Token]`, the name of the bridge class. -/
  customBridge : Nat → Nat → Option String
  /-- `CANONICAL_BRIDGE[chainId]`. -/
  canonicalBridge : Nat → Option String
  /-- `CUSTOM_L2_BRIDGE[chainId]?.[l1Token]`. -/
  customL2Bridge : Nat → Nat → Option String
  /-- `CANONICAL_L2_BRIDGE[chainId]`. -/
  canonicalL2Bridge : Nat → Option String

/-- Each SpokePool client sits under its own chain ID. -/
def KeyedByChain (clients : ChainKeyed SpokePoolClient) : Prop :=
  ∀ entry ∈ clients.entries, entry.2.chainId = entry.1

instance (clients : ChainKeyed SpokePoolClient) : Decidable (KeyedByChain clients) :=
  inferInstanceAs (Decidable (∀ entry ∈ clients.entries, entry.2.chainId = entry.1))

namespace Setup

variable (setup : Setup)

/-- `filterMonitoredAddresses` of the constructor: the monitored addresses that are the hub
pool, the SpokePool of `chainId`, or no chain's SpokePool. `spokePoolClients[chainId]` is read
only for an address that is not the hub pool. -/
def filterMonitoredAddresses (clients : ChainKeyed SpokePoolClient) (chainId : Nat) :
    Except AdapterError (List Nat) :=
  let spokePoolAddresses := clients.values.map SpokePoolClient.spokePoolAddress
  filterThrowing (fun address =>
    if setup.hubPoolAddress = address then pure true
    else match clients.get? chainId with
      | some client =>
        pure (client.spokePoolAddress = address || !spokePoolAddresses.contains address)
      | none => throw (.noSpokePoolClient chainId)) setup.monitoredAddresses

/-- `TOKEN_SYMBOLS_MAP[symbol].addresses[hubChainId]`: reading the addresses of a symbol the
table does not have throws. -/
def l1TokenOf (symbol : String) : Except AdapterError (Option Nat) :=
  match setup.tokenSymbolsMap symbol with
  | none => throw (.noTokenSymbolEntry symbol)
  | some addresses => pure (addresses setup.hubChainId)

/-- `new bridgeConstructor(chainId, hubChainId, l1Signer, l2Signer, EvmAddress.from(l1Token))`.
The arguments are evaluated before the constructor is checked, so an undefined L1 token throws in
`EvmAddress.from` first, and an undefined constructor then throws a `TypeError`. -/
def newBridge (chainId : Nat) (symbol : String) (l1Token : Option Nat) (bridgeConstructor : Option String) :
    Except AdapterError (Nat × Bridge) :=
  match l1Token, bridgeConstructor with
  | none, _ => throw (.undefinedL1Token symbol)
  | some _, none => throw (.noBridgeConstructor chainId)
  | some l1Token, some bridgeClass => pure (l1Token, ⟨bridgeClass, chainId, setup.hubChainId, l1Token⟩)

/-- Lines 74–91, one supported symbol: the bridge under the symbol's L1 token, of the chain's
custom bridge class for the token, else of its canonical one. -/
def bridgeEntry (chainId : Nat) (symbol : String) : Except AdapterError (Nat × Bridge) := do
  let l1Token ← setup.l1TokenOf symbol
  setup.newBridge chainId symbol l1Token ((l1Token.bind (setup.customBridge chainId)) <|> setup.canonicalBridge chainId)

/-- Lines 68–94: `constructBridges`, none on the hub chain. -/
def constructBridges (chainId : Nat) : Except AdapterError (List (Nat × Bridge)) :=
  if chainId = setup.hubChainId then pure []
  else objectFromEntries <$> ((setup.supportedTokens chainId).getD []).mapM (setup.bridgeEntry chainId)

/-- Lines 106–113, one supported symbol: the L2 bridge under the symbol's L1 token, or none where
the chain has neither a custom nor a canonical L2 bridge class for it. -/
def l2BridgeEntry (chainId : Nat) (symbol : String) : Except AdapterError (Option (Nat × Bridge)) := do
  let l1Token ← setup.l1TokenOf symbol
  match (l1Token.bind (setup.customL2Bridge chainId)) <|> setup.canonicalL2Bridge chainId with
  | none => pure none
  | some bridgeClass => some <$> setup.newBridge chainId symbol l1Token (some bridgeClass)

/-- Lines 95–116: `constructL2Bridges`, none on the hub chain. -/
def constructL2Bridges (chainId : Nat) : Except AdapterError (List (Nat × Bridge)) :=
  if chainId = setup.hubChainId then pure []
  else (objectFromEntries ∘ List.filterMap id) <$>
    ((setup.supportedTokens chainId).getD []).mapM (setup.l2BridgeEntry chainId)

/-- Lines 120–130: the adapter the constructor sets up for `client`; its arguments are evaluated
in order, the monitored addresses first. -/
def chainAdapter (clients : ChainKeyed SpokePoolClient) (client : SpokePoolClient) :
    Except AdapterError ChainAdapter := do
  let monitored ← setup.filterMonitoredAddresses clients client.chainId
  let bridges ← setup.constructBridges client.chainId
  let l2Bridges ← setup.constructL2Bridges client.chainId
  pure ⟨client.chainId, monitored, (setup.supportedTokens client.chainId).getD [], bridges, l2Bridges⟩

/-- Lines 50–131: one adapter for each SpokePool client, assigned under the chain ID the client
reports, in the order of the clients; none where the constructor is given no clients. -/
def constructAdapters : Except AdapterError (ChainKeyed ChainAdapter) :=
  match setup.spokePoolClients with
  | none => pure ChainKeyed.empty
  | some clients => ChainKeyed.ofEntries <$> clients.values.mapM fun client =>
      (client.chainId, ·) <$> setup.chainAdapter clients client

/-- Line 42: `chainsToWrapEtherOn`. -/
def chainsToWrapEtherOn : List Nat :=
  setup.spokesThatHoldNativeTokens ++ [arbitrumChainId, mainnetChainId]

/-- `l2TokenExistForL1Token`. -/
def l2TokenExistForL1Token (l1Token l2ChainId : Nat) : Bool :=
  (setup.remoteToken l1Token l2ChainId).isSome

/-- `l2TokenForL1Token`: the remote token of the route, which must be the address
`getL2TokenAddresses` lists for the chain. -/
def l2TokenForL1Token (l1Token chainId : Nat) : Except AdapterError Nat :=
  match setup.remoteToken l1Token chainId with
  | none => throw (.noL2Token l1Token chainId)
  | some l2Token =>
    if some l2Token = setup.l2TokenAddresses l1Token chainId then pure l2Token
    else throw (.tokenAddressMismatch l2Token (setup.l2TokenAddresses l1Token chainId))

end Setup

/-- An `AdapterManager` as its constructor leaves it: its adapters are those the constructor
built from its setup. -/
structure Constructed where
  setup : Setup
  adapters : ChainKeyed ChainAdapter
  constructed : setup.constructAdapters = .ok adapters

/-- A transfer the manager asks the adapter of `chainId` to send (`sendTokenToTargetChain`). -/
structure Transfer where
  chainId : Nat
  address : Nat
  l1Token : Nat
  l2Token : Nat
  amount : Int
  simMode : Bool
  deriving DecidableEq, Repr

/-- A wrap the manager asks the adapter of `chainId` for (`wrapNativeTokenIfAboveThreshold`). -/
structure Wrap where
  chainId : Nat
  wrapThreshold : Int
  wrapTarget : Int
  simMode : Bool
  deriving DecidableEq, Repr

/-- The wrap settings of `InventoryConfig`, which `Relayer.InventoryConfig` leaves out. -/
structure WrapEtherConfig where
  wrapEtherThreshold : Option Int
  wrapEtherTarget : Option Int
  wrapEtherThresholdPerChain : Nat → Option Int
  wrapEtherTargetPerChain : Nat → Option Int

/-- Lines 228–229: the chain's wrap threshold, else the default. -/
def WrapEtherConfig.wrapThreshold (config : WrapEtherConfig) (chainId : Nat) : Option Int :=
  config.wrapEtherThresholdPerChain chainId <|> config.wrapEtherThreshold

/-- Line 230: the chain's wrap target, else the default. -/
def WrapEtherConfig.wrapTarget (config : WrapEtherConfig) (chainId : Nat) : Option Int :=
  config.wrapEtherTargetPerChain chainId <|> config.wrapEtherTarget

namespace Constructed

variable (m : Constructed)

/-- `supportedChains`. -/
def supportedChains : List Nat := m.adapters.keys

/-- `getOutstandingCrossChainTransfers`: the L1 tokens the adapter of `chainId` is asked about,
those whose symbol, or the symbol it is remapped to, the adapter supports. The debug log reads
the adapter even where no token is given. -/
def getOutstandingCrossChainTransfers (chainId : Nat) (l1Tokens : List Nat) :
    Except AdapterError (List Nat) := do
  let adapterSupportedL1Tokens ← filterThrowing (fun token =>
    match m.setup.tokenSymbol token, m.adapters.get? chainId with
    | none, _ => throw (.unknownToken token)
    | some _, none => throw (.noAdapter chainId)
    | some tokenSymbol, some adapter =>
      pure (adapter.supportedTokens.contains tokenSymbol ||
        (m.setup.tokenEquivalenceRemapping tokenSymbol).any adapter.supportedTokens.contains))
    l1Tokens
  match m.adapters.get? chainId with
  | none => throw (.noAdapter chainId)
  | some _ => pure adapterSupportedL1Tokens

/-- `sendTokenCrossChain`: the L2 token given, else the checked one of `l2TokenForL1Token`. -/
def sendTokenCrossChain (address chainId l1Token : Nat) (amount : Int) (simMode : Bool)
    (l2Token : Option Nat) : Except AdapterError Transfer := do
  let l2Token ← match l2Token with
    | some l2Token => pure l2Token
    | none => m.setup.l2TokenForL1Token l1Token chainId
  match m.adapters.get? chainId with
  | none => throw (.noAdapter chainId)
  | some _ => pure ⟨chainId, address, l1Token, l2Token, amount, simMode⟩

/-- Lines 228–235, the callback of one chain: its settings, the assertion, and the wrap asked of
its adapter. -/
def wrapOn (config : WrapEtherConfig) (simMode : Bool) (chainId : Nat) :
    Except AdapterError Wrap :=
  match config.wrapThreshold chainId, config.wrapTarget chainId with
  | some wrapThreshold, some wrapTarget =>
    if wrapTarget ≤ wrapThreshold then
      match m.adapters.get? chainId with
      | some _ => pure ⟨chainId, wrapThreshold, wrapTarget, simMode⟩
      | none => throw (.noAdapter chainId)
    else throw (.wrapThresholdBelowTarget wrapThreshold wrapTarget)
  | _, _ => throw (.undefinedWrapSetting chainId)

/-- How the wraps asked of the adapters settle, the `i`-th resolving when `wrapSucceeds i`: with
the first, in the order asked, that its adapter rejects. Which of two adapters answers first is
not modelled. -/
def wrapsSettle (wrapSucceeds : Nat → Bool) (wraps : List Wrap) : Except AdapterError Unit :=
  match wraps.enum.find? fun entry => !wrapSucceeds entry.1 with
  | some (_, wrap) => .error (.wrapRejected wrap.chainId)
  | none => .ok ()

/-- `wrapNativeTokenIfAboveThreshold`: the wraps asked of the adapters, and how the call settles.
A callback that throws before its first `await` has rejected before any adapter answers, so such
a throw is what the call rejects with; otherwise it rejects as the wraps asked settle. -/
def wrapNativeTokenIfAboveThreshold (config : WrapEtherConfig) (simMode : Bool) (wrapSucceeds : Nat → Bool) :
    List Wrap × Except AdapterError Unit :=
  match m.setup.spokePoolClients with
  | none => ([], .error .noSpokePoolClients)
  | some clients =>
    let asked := mapAsync (m.wrapOn config simMode)
      (m.setup.chainsToWrapEtherOn.filter fun chainId => (clients.get? chainId).isSome)
    (asked.1, asked.2 >>= fun _ => wrapsSettle wrapSucceeds asked.1)

/-- The loop of `setL1TokenApprovals` over `chains`: on each chain with an adapter, the check of
the approvals of the L1 tokens that have a remote token there, in turn; `approves chainId` is
whether the adapter's check resolves, and the first that rejects ends the loop. -/
def checkApprovals (l1Tokens : List Nat) (approves : Nat → Bool) :
    List Nat → List (Nat × List Nat) × Except AdapterError Unit
  | [] => ([], .ok ())
  | chainId :: rest =>
    match m.adapters.get? chainId with
    | none => checkApprovals l1Tokens approves rest
    | some _ =>
      let hubTokens := l1Tokens.filter (m.setup.l2TokenExistForL1Token · chainId)
      if approves chainId then
        let later := checkApprovals l1Tokens approves rest
        ((chainId, hubTokens) :: later.1, later.2)
      else ([(chainId, hubTokens)], .error (.approvalRejected chainId))

/-- `setL1TokenApprovals`: the checks made, chain by chain, and how the call settles. -/
def setL1TokenApprovals (l1Tokens : List Nat) (approves : Nat → Bool) :
    List (Nat × List Nat) × Except AdapterError Unit :=
  m.checkApprovals l1Tokens approves m.supportedChains

end Constructed

end AdapterManager

namespace InventoryClient

open AdapterManager

variable (s : InventoryClient) (manager : Constructed)

/-- `sendTokenCrossChain` of the inventory client, through its adapter manager `manager`. -/
def sendTokenCrossChain (chainId l1Token : Nat) (amount : Int) (simMode : Bool)
    (l2Token : Option Nat) : Except AdapterError Transfer :=
  manager.sendTokenCrossChain s.relayer chainId l1Token amount simMode l2Token

/-- `setTokenApprovals`: nothing where inventory management is disabled, else the approvals of
the client's L1 tokens. -/
def setTokenApprovals (approves : Nat → Bool) : List (Nat × List Nat) × Except AdapterError Unit :=
  if !s.isInventoryManagementEnabled then ([], .ok ())
  else manager.setL1TokenApprovals s.getL1Tokens approves

/-- `wrapL2EthIfAboveThreshold`, given the wrap settings of the inventory config: nothing where
a default is undefined (a `BigNumber` is never falsy). -/
def wrapL2EthIfAboveThreshold (config : WrapEtherConfig) (simMode : Bool) (wrapSucceeds : Nat → Bool) :
    List Wrap × Except AdapterError Unit :=
  if config.wrapEtherThreshold.isNone || config.wrapEtherTarget.isNone then ([], .ok ())
  else manager.wrapNativeTokenIfAboveThreshold config simMode wrapSucceeds

end InventoryClient

/-! ## A sample manager -/

namespace AdapterManager

/-- SpokePool clients on the hub chain 1 (SpokePool `11`) and on chain 10 (SpokePool `12`). -/
def twoChainSpokePoolClients : ChainKeyed SpokePoolClient :=
  ⟨[(1, ⟨1, 11⟩), (10, ⟨10, 12⟩)], by decide⟩

/-- The hub pool `5`, both SpokePools and the relayer `77` monitored; chain 10 holds native
tokens and supports USDC, whose L1 token `100` is `200` there, over a canonical bridge and a
canonical L2 bridge. -/
def twoChainSetup : Setup where
  spokePoolClients := some twoChainSpokePoolClients
  hubChainId := 1
  hubPoolAddress := 5
  monitoredAddresses := [5, 11, 12, 77]
  supportedTokens := fun chainId => if chainId = 10 then some ["USDC"] else none
  spokesThatHoldNativeTokens := [10]
  remoteToken := fun l1Token chainId => if l1Token = 100 ∧ chainId = 10 then some 200 else none
  l2TokenAddresses := fun l1Token chainId => if l1Token = 100 ∧ chainId = 10 then some 200 else none
  tokenSymbol := fun token => if token = 100 then some "USDC" else none
  tokenEquivalenceRemapping := fun _ => none
  tokenSymbolsMap := fun symbol =>
    if symbol = "USDC" then some fun chainId => if chainId = 1 then some 100 else if chainId = 10 then some 200 else none
    else none
  customBridge := fun _ _ => none
  canonicalBridge := fun chainId => if chainId = 10 then some "CanonicalBridge" else none
  customL2Bridge := fun _ _ => none
  canonicalL2Bridge := fun chainId => if chainId = 10 then some "CanonicalL2Bridge" else none

/-- The manager the constructor builds from `twoChainSetup`. -/
def twoChainManager : Constructed :=
  ⟨twoChainSetup, ⟨[(1, ⟨1, [5, 11, 77], [], [], []⟩),
    (10, ⟨10, [5, 12, 77], ["USDC"], [(100, ⟨"CanonicalBridge", 10, 1, 100⟩)],
      [(100, ⟨"CanonicalL2Bridge", 10, 1, 100⟩)]⟩)], by decide⟩, rfl⟩

/-- Chain 10 asks for a wrap threshold of 1 under a target of 2; the defaults are 5 and 3. -/
def misconfiguredWrap : WrapEtherConfig where
  wrapEtherThreshold := some 5
  wrapEtherTarget := some 3
  wrapEtherThresholdPerChain := fun chainId => if chainId = 10 then some 1 else none
  wrapEtherTargetPerChain := fun chainId => if chainId = 10 then some 2 else none

end AdapterManager

/-! ## What the constructor sets up -/

namespace AdapterManager

theorem KeyedByChain.get?_of_mem_values {clients : ChainKeyed SpokePoolClient}
    (keyed : KeyedByChain clients) {client : SpokePoolClient} (held : client ∈ clients.values) :
    clients.get? client.chainId = some client := by
  obtain ⟨entry, inEntries, rfl⟩ := List.mem_map.mp held
  exact ChainKeyed.get?_of_mem (by rw [keyed entry inEntries]; exact inEntries)

theorem KeyedByChain.map_chainId_values {clients : ChainKeyed SpokePoolClient}
    (keyed : KeyedByChain clients) : clients.values.map SpokePoolClient.chainId = clients.keys := by
  simp only [ChainKeyed.values, ChainKeyed.keys, List.map_map]
  exact List.map_congr_left fun entry held => keyed entry held

theorem KeyedByChain.chainId_mem_keys {clients : ChainKeyed SpokePoolClient}
    (keyed : KeyedByChain clients) {client : SpokePoolClient} (held : client ∈ clients.values) :
    client.chainId ∈ clients.keys :=
  keyed.map_chainId_values ▸ List.mem_map_of_mem _ held

namespace Setup

variable (setup : Setup) {clients : ChainKeyed SpokePoolClient}

/-- The address of a symbol on the hub chain in `TOKEN_SYMBOLS_MAP`, where it has one. -/
def l1TokenAddress (symbol : String) : Option Nat :=
  (setup.tokenSymbolsMap symbol).bind (· setup.hubChainId)

/-- The bridge `constructBridges` builds on `chainId` for an L1 token, where a class is defined. -/
def bridgeFor (chainId l1Token : Nat) : Option Bridge :=
  (setup.customBridge chainId l1Token <|> setup.canonicalBridge chainId).map fun bridgeClass =>
    ⟨bridgeClass, chainId, setup.hubChainId, l1Token⟩

/-- The L2 bridge `constructL2Bridges` builds on `chainId` for an L1 token, where a class is
defined. -/
def l2BridgeFor (chainId l1Token : Nat) : Option Bridge :=
  (setup.customL2Bridge chainId l1Token <|> setup.canonicalL2Bridge chainId).map fun bridgeClass =>
    ⟨bridgeClass, chainId, setup.hubChainId, l1Token⟩

/-- The entry a symbol adds to a table of bridges: its L1 token's bridge, where both are defined. -/
def symbolEntry (table : Nat → Option Bridge) (symbol : String) : Option (Nat × Bridge) :=
  (setup.l1TokenAddress symbol).bind fun l1Token => (table l1Token).map (l1Token, ·)

/-- What the constructor needs of a chain's tables: on a chain other than the hub, every
supported symbol has an address on the hub chain and a bridge class for it. -/
def BridgesDefined (chainId : Nat) : Prop :=
  chainId = setup.hubChainId ∨
    ∀ symbol ∈ (setup.supportedTokens chainId).getD [], (setup.symbolEntry (setup.bridgeFor chainId) symbol).isSome

instance (chainId : Nat) : Decidable (setup.BridgesDefined chainId) :=
  inferInstanceAs (Decidable (chainId = setup.hubChainId ∨
    ∀ symbol ∈ (setup.supportedTokens chainId).getD [], (setup.symbolEntry (setup.bridgeFor chainId) symbol).isSome))

/-- The bridges of the supported symbols that have one, once per L1 token. -/
def bridgesFrom (table : Nat → Option Bridge) (symbols : List String) : List (Nat × Bridge) :=
  objectFromEntries (symbols.filterMap (setup.symbolEntry table))

/-- The bridges the constructor sets up on a chain. -/
def bridgesOf (chainId : Nat) : List (Nat × Bridge) :=
  if chainId = setup.hubChainId then []
  else setup.bridgesFrom (setup.bridgeFor chainId) ((setup.supportedTokens chainId).getD [])

/-- The L2 bridges the constructor sets up on a chain. -/
def l2BridgesOf (chainId : Nat) : List (Nat × Bridge) :=
  if chainId = setup.hubChainId then []
  else setup.bridgesFrom (setup.l2BridgeFor chainId) ((setup.supportedTokens chainId).getD [])

/-- The adapter the constructor sets up for a client that sits under its own chain ID. -/
def adapterFor (clients : ChainKeyed SpokePoolClient) (client : SpokePoolClient) : ChainAdapter :=
  ⟨client.chainId,
    setup.monitoredAddresses.filter fun address => setup.hubPoolAddress = address ||
      client.spokePoolAddress = address ||
      !(clients.values.map SpokePoolClient.spokePoolAddress).contains address,
    (setup.supportedTokens client.chainId).getD [], setup.bridgesOf client.chainId,
    setup.l2BridgesOf client.chainId⟩

theorem filterMonitoredAddresses_of_get? {chainId : Nat} {client : SpokePoolClient}
    (found : clients.get? chainId = some client) :
    setup.filterMonitoredAddresses clients chainId =
      .ok (setup.adapterFor clients client).monitoredAddresses := by
  unfold filterMonitoredAddresses
  refine filterThrowing_of_pure _ fun address _ => ?_
  by_cases hub : setup.hubPoolAddress = address <;> simp [hub, found] <;> rfl

variable {chainId : Nat} {symbol : String}

/-- A symbol's bridge is built exactly when the symbol has an address on the hub chain and the
chain a bridge class for it; any other case throws. -/
theorem bridgeEntry_eq_ok {entry : Nat × Bridge} :
    setup.bridgeEntry chainId symbol = .ok entry ↔ setup.symbolEntry (setup.bridgeFor chainId) symbol = some entry := by
  unfold bridgeEntry l1TokenOf symbolEntry l1TokenAddress
  cases listed : setup.tokenSymbolsMap symbol with
  | none => simp [bind, Except.bind, throw, throwThe, MonadExceptOf.throw]
  | some addresses =>
    cases address : addresses setup.hubChainId with
    | none => simp [address, bind, Except.bind, pure, Except.pure, newBridge, throw, throwThe, MonadExceptOf.throw]
    | some l1Token =>
      simp only [address, bind, Except.bind, pure, Except.pure, Option.some_bind, Option.bind_some, bridgeFor]
      cases bridgeClass : setup.customBridge chainId l1Token <|> setup.canonicalBridge chainId <;>
        simp [bridgeClass, newBridge, throw, throwThe, MonadExceptOf.throw, pure, Except.pure, eq_comm]

theorem l2BridgeEntry_of_address {l1Token : Nat} (address : setup.l1TokenAddress symbol = some l1Token) :
    setup.l2BridgeEntry chainId symbol = .ok (setup.symbolEntry (setup.l2BridgeFor chainId) symbol) := by
  obtain ⟨addresses, entry, found⟩ := Option.bind_eq_some.mp address
  unfold l2BridgeEntry l1TokenOf symbolEntry
  simp only [entry, address, found, bind, Except.bind, pure, Except.pure, Option.some_bind, l2BridgeFor]
  cases setup.customL2Bridge chainId l1Token <|> setup.canonicalL2Bridge chainId <;> rfl

/-- The bridges built are those of the supported symbols, each under its L1 token. -/
theorem mem_bridgesFrom {table : Nat → Option Bridge} {symbols : List String} {l1Token : Nat}
    {bridge : Bridge} :
    (l1Token, bridge) ∈ setup.bridgesFrom table symbols ↔
      (∃ symbol ∈ symbols, setup.l1TokenAddress symbol = some l1Token) ∧ table l1Token = some bridge := by
  have graph : ∀ entry ∈ symbols.filterMap (setup.symbolEntry table), table entry.1 = some entry.2 := by
    intro entry held
    obtain ⟨symbol, -, built⟩ := List.mem_filterMap.mp held
    obtain ⟨k, -, mapped⟩ := Option.bind_eq_some.mp built
    obtain ⟨b, found, rfl⟩ := Option.map_eq_some'.mp mapped
    exact found
  unfold bridgesFrom
  rw [mem_objectFromEntries graph]
  constructor
  · rintro ⟨listed, found⟩
    obtain ⟨⟨k, b⟩, held, rfl⟩ := List.mem_map.mp listed
    obtain ⟨symbol, member, built⟩ := List.mem_filterMap.mp held
    obtain ⟨k', address, mapped⟩ := Option.bind_eq_some.mp built
    obtain ⟨b', -, same⟩ := Option.map_eq_some'.mp mapped
    cases same
    exact ⟨⟨symbol, member, address⟩, found⟩
  · rintro ⟨⟨symbol, member, address⟩, found⟩
    refine ⟨List.mem_map.mpr ⟨(l1Token, bridge), List.mem_filterMap.mpr ⟨symbol, member, ?_⟩, rfl⟩, found⟩
    simp [symbolEntry, address, found]

theorem bridgesOf_nodup (chainId : Nat) : ((setup.bridgesOf chainId).map Prod.fst).Nodup := by
  unfold bridgesOf
  split_ifs
  · exact List.nodup_nil
  · exact objectFromEntries_nodup _

theorem l2BridgesOf_nodup (chainId : Nat) : ((setup.l2BridgesOf chainId).map Prod.fst).Nodup := by
  unfold l2BridgesOf
  split_ifs
  · exact List.nodup_nil
  · exact objectFromEntries_nodup _

theorem constructBridges_of_defined (defined : setup.BridgesDefined chainId) :
    setup.constructBridges chainId = .ok (setup.bridgesOf chainId) := by
  unfold constructBridges bridgesOf
  split_ifs with hub
  · rfl
  · rw [mapM_eq_ok_filterMap (setup.symbolEntry (setup.bridgeFor chainId)) fun symbol listed => ?_]
    · rfl
    obtain ⟨entry, built⟩ := Option.isSome_iff_exists.mp (defined.resolve_left hub symbol listed)
    exact ⟨entry, built, setup.bridgeEntry_eq_ok.mpr built⟩

/-- The L2 bridges never throw where the bridges do not: every symbol has its address. -/
theorem constructL2Bridges_of_defined (defined : setup.BridgesDefined chainId) :
    setup.constructL2Bridges chainId = .ok (setup.l2BridgesOf chainId) := by
  unfold constructL2Bridges l2BridgesOf
  split_ifs with hub
  · rfl
  · rw [mapM_eq_ok_map (setup.symbolEntry (setup.l2BridgeFor chainId)) fun symbol listed => ?_]
    · simp [bridgesFrom, List.filterMap_map]
    obtain ⟨entry, built⟩ := Option.isSome_iff_exists.mp (defined.resolve_left hub symbol listed)
    obtain ⟨l1Token, address, -⟩ := Option.bind_eq_some.mp built
    exact setup.l2BridgeEntry_of_address address

theorem bridgesDefined_of_constructBridges {bridges : List (Nat × Bridge)}
    (built : setup.constructBridges chainId = .ok bridges) : setup.BridgesDefined chainId := by
  unfold constructBridges at built
  split_ifs at built with hub
  · exact .inl hub
  refine .inr fun symbol listed => ?_
  cases traversed : ((setup.supportedTokens chainId).getD []).mapM (setup.bridgeEntry chainId) with
  | error e => rw [traversed] at built; cases built
  | ok entries =>
    obtain ⟨entry, made⟩ := mapM_ok_each traversed symbol listed
    rw [setup.bridgeEntry_eq_ok.mp made]
    rfl

theorem chainAdapter_of_get? {client : SpokePoolClient} (found : clients.get? client.chainId = some client)
    (defined : setup.BridgesDefined client.chainId) :
    setup.chainAdapter clients client = .ok (setup.adapterFor clients client) := by
  simp only [chainAdapter, setup.filterMonitoredAddresses_of_get? found, setup.constructBridges_of_defined defined,
    setup.constructL2Bridges_of_defined defined]
  rfl

/-- Where every client sits under its own chain ID and every chain's bridges are defined, the
constructor does not throw: it sets up `adapterFor` each client, under the client's chain. -/
theorem constructAdapters_of_keyed (given : setup.spokePoolClients = some clients)
    (keyed : KeyedByChain clients) (defined : ∀ chainId ∈ clients.keys, setup.BridgesDefined chainId) :
    setup.constructAdapters = .ok (ChainKeyed.ofEntries
      (clients.values.map fun client => (client.chainId, setup.adapterFor clients client))) := by
  unfold constructAdapters
  rw [given]
  dsimp only
  rw [mapM_eq_ok_map _ fun client held => by
    rw [setup.chainAdapter_of_get? (keyed.get?_of_mem_values held) (defined _ (keyed.chainId_mem_keys held))]; rfl]
  rfl

/-- A constructor that returns found every client's bridges defined. -/
theorem bridgesDefined_of_constructAdapters (given : setup.spokePoolClients = some clients)
    {adapters : ChainKeyed ChainAdapter} (built : setup.constructAdapters = .ok adapters) :
    ∀ client ∈ clients.values, setup.BridgesDefined client.chainId := by
  unfold constructAdapters at built
  rw [given] at built
  dsimp only at built
  cases traversed : clients.values.mapM (fun client => (client.chainId, ·) <$> setup.chainAdapter clients client) with
  | error e => rw [traversed] at built; cases built
  | ok entries =>
    intro client held
    obtain ⟨entry, made⟩ := mapM_ok_each traversed client held
    cases adapted : setup.chainAdapter clients client with
    | error e => rw [adapted] at made; cases made
    | ok adapter =>
      obtain ⟨monitored, -, rest⟩ := bind_ok_inv adapted
      obtain ⟨bridges, bridged, -⟩ := bind_ok_inv rest
      exact setup.bridgesDefined_of_constructBridges bridged

theorem keys_ofEntries_adapterFor (keyed : KeyedByChain clients) :
    (ChainKeyed.ofEntries
      (clients.values.map fun client => (client.chainId, setup.adapterFor clients client))).keys =
        clients.keys := by
  have listed : ((clients.values.map fun client => (client.chainId, setup.adapterFor clients client)).map
      Prod.fst) = clients.keys := by
    rw [List.map_map, ← keyed.map_chainId_values]; rfl
  have perm := ((ChainKeyed.ofEntries_perm (listed ▸ clients.keys_nodup)).map Prod.fst).trans
    (.of_eq listed)
  exact List.eq_of_perm_of_sorted perm (List.pairwise_map.mpr (ChainKeyed.ascending _))
    (List.pairwise_map.mpr clients.ascending)

theorem get?_ofEntries_adapterFor (keyed : KeyedByChain clients)
    {adapter : ChainAdapter}
    (found : (ChainKeyed.ofEntries (clients.values.map fun client =>
      (client.chainId, setup.adapterFor clients client))).get? chainId = some adapter) :
    ∃ client, clients.get? chainId = some client ∧ client.chainId = chainId ∧
      adapter = setup.adapterFor clients client := by
  obtain ⟨entry, first, rfl⟩ := Option.map_eq_some'.mp found
  have matched := List.find?_some first
  have atChain : entry.1 = chainId := of_decide_eq_true matched
  rcases ChainKeyed.mem_ofEntries _ (List.mem_of_find?_eq_some first) with held | held
  · cases held
  · obtain ⟨client, member, rfl⟩ := List.mem_map.mp held
    exact ⟨client, atChain ▸ keyed.get?_of_mem_values member, atChain, rfl⟩

end Setup

/-- Where every SpokePool client sits under its own chain ID, the constructor succeeds exactly when
every chain's bridges are defined. It then sets up one adapter for each client, under the
client's chain: it supports the chain's `SUPPORTED_TOKENS`; monitors, of the monitored addresses,
the hub pool, the chain's own SpokePool, and those that are no chain's SpokePool; and holds, off
the hub chain, once per L1 token, the bridge and the L2 bridge of each supported symbol's L1 token
that has one. -/
theorem constructAdapters_adapter_per_client (setup : Setup) (clients : ChainKeyed SpokePoolClient)
    (given : setup.spokePoolClients = some clients) (keyed : KeyedByChain clients) :
    ((∃ adapters, setup.constructAdapters = .ok adapters) ↔ ∀ chainId ∈ clients.keys, setup.BridgesDefined chainId) ∧
    ∀ adapters, setup.constructAdapters = .ok adapters → adapters.keys = clients.keys ∧
      ∀ chainId adapter, adapters.get? chainId = some adapter →
        ∃ client, clients.get? chainId = some client ∧ adapter.chainId = chainId ∧
          adapter.supportedTokens = (setup.supportedTokens chainId).getD [] ∧
          (∀ address, address ∈ adapter.monitoredAddresses ↔ address ∈ setup.monitoredAddresses ∧
            (setup.hubPoolAddress = address ∨ client.spokePoolAddress = address ∨
              address ∉ clients.values.map SpokePoolClient.spokePoolAddress)) ∧
          (∀ l1Token bridge, (l1Token, bridge) ∈ adapter.bridges ↔ chainId ≠ setup.hubChainId ∧
            (∃ symbol ∈ (setup.supportedTokens chainId).getD [], setup.l1TokenAddress symbol = some l1Token) ∧
            setup.bridgeFor chainId l1Token = some bridge) ∧
          (∀ l1Token bridge, (l1Token, bridge) ∈ adapter.l2Bridges ↔ chainId ≠ setup.hubChainId ∧
            (∃ symbol ∈ (setup.supportedTokens chainId).getD [], setup.l1TokenAddress symbol = some l1Token) ∧
            setup.l2BridgeFor chainId l1Token = some bridge) ∧
          (adapter.bridges.map Prod.fst).Nodup ∧ (adapter.l2Bridges.map Prod.fst).Nodup := by
  have definedOfBuilt : ∀ {adapters}, setup.constructAdapters = .ok adapters →
      ∀ chainId ∈ clients.keys, setup.BridgesDefined chainId := fun built chainId has => by
    obtain ⟨client, held, rfl⟩ := List.mem_map.mp (keyed.map_chainId_values ▸ has)
    exact setup.bridgesDefined_of_constructAdapters given built client held
  refine ⟨⟨fun ⟨_, built⟩ => definedOfBuilt built,
    fun defined => ⟨_, setup.constructAdapters_of_keyed given keyed defined⟩⟩, fun adapters built => ?_⟩
  rw [setup.constructAdapters_of_keyed given keyed (definedOfBuilt built)] at built
  cases built
  refine ⟨setup.keys_ofEntries_adapterFor keyed, fun chainId adapter found => ?_⟩
  obtain ⟨client, atChain, reported, rfl⟩ := setup.get?_ofEntries_adapterFor keyed found
  subst reported
  refine ⟨client, atChain, rfl, rfl, fun address => by simp [Setup.adapterFor, or_assoc],
    fun l1Token bridge => ?_, fun l1Token bridge => ?_, setup.bridgesOf_nodup _, setup.l2BridgesOf_nodup _⟩
  · simp only [Setup.adapterFor, Setup.bridgesOf]
    split_ifs with hub
    · simp [hub]
    · simp [hub, setup.mem_bridgesFrom]
  · simp only [Setup.adapterFor, Setup.l2BridgesOf]
    split_ifs with hub
    · simp [hub]
    · simp [hub, setup.mem_bridgesFrom]

theorem constructAdapters_adapter_per_client_twoChain :
    twoChainSetup.spokePoolClients = some twoChainSpokePoolClients ∧ KeyedByChain twoChainSpokePoolClients ∧
      (∀ chainId ∈ twoChainSpokePoolClients.keys, twoChainSetup.BridgesDefined chainId) ∧
      ∃ adapters, twoChainSetup.constructAdapters = .ok adapters :=
  have keyed : KeyedByChain twoChainSpokePoolClients := by decide
  have defined : ∀ chainId ∈ twoChainSpokePoolClients.keys, twoChainSetup.BridgesDefined chainId := by decide
  ⟨rfl, keyed, defined, (constructAdapters_adapter_per_client twoChainSetup _ rfl keyed).1.mpr defined⟩

/-- A symbol that `TOKEN_SYMBOLS_MAP` does not have makes the constructor throw. -/
example : ({ twoChainSetup with supportedTokens := fun _ => some ["WBTC"] }).constructAdapters =
    .error (.noTokenSymbolEntry "WBTC") := rfl

namespace Constructed

variable (m : Constructed) {clients : ChainKeyed SpokePoolClient}

theorem adapters_of_keyed (given : m.setup.spokePoolClients = some clients)
    (keyed : KeyedByChain clients) :
    m.adapters = ChainKeyed.ofEntries
      (clients.values.map fun client => (client.chainId, m.setup.adapterFor clients client)) := by
  have built := m.constructed
  rw [m.setup.constructAdapters_of_keyed given keyed fun chainId has => by
    obtain ⟨client, held, rfl⟩ := List.mem_map.mp (keyed.map_chainId_values ▸ has)
    exact m.setup.bridgesDefined_of_constructAdapters given m.constructed client held] at built
  exact (Except.ok.inj built).symm

/-- Where every client sits under its own chain ID, a chain has an adapter exactly when it has
a client. -/
theorem supportedChains_of_keyed (given : m.setup.spokePoolClients = some clients)
    (keyed : KeyedByChain clients) : m.supportedChains = clients.keys := by
  rw [supportedChains, m.adapters_of_keyed given keyed, m.setup.keys_ofEntries_adapterFor keyed]

theorem get?_adapters_isSome (given : m.setup.spokePoolClients = some clients)
    (keyed : KeyedByChain clients) {chainId : Nat} :
    (m.adapters.get? chainId).isSome ↔ (clients.get? chainId).isSome := by
  rw [ChainKeyed.get?_isSome_iff, ChainKeyed.get?_isSome_iff, ← supportedChains,
    m.supportedChains_of_keyed given keyed]

variable {config : WrapEtherConfig} {simMode : Bool} {chainId : Nat}

theorem wrapOn_eq_ok (present : (m.adapters.get? chainId).isSome) {wrap : Wrap} :
    m.wrapOn config simMode chainId = .ok wrap ↔ wrap.chainId = chainId ∧
      config.wrapThreshold chainId = some wrap.wrapThreshold ∧
      config.wrapTarget chainId = some wrap.wrapTarget ∧
      wrap.wrapTarget ≤ wrap.wrapThreshold ∧ wrap.simMode = simMode := by
  obtain ⟨adapter, found⟩ := Option.isSome_iff_exists.mp present
  unfold wrapOn
  rcases wrap with ⟨c, t, g, sim⟩
  cases config.wrapThreshold chainId with
  | none => exact iff_of_false (fun h => by cases h) (by simp)
  | some wrapThreshold =>
    cases config.wrapTarget chainId with
    | none => exact iff_of_false (fun h => by cases h) (by simp)
    | some wrapTarget =>
      dsimp only
      split_ifs with within
      · rw [found]
        constructor
        · intro h; cases h; exact ⟨rfl, rfl, rfl, within, rfl⟩
        · rintro ⟨rfl, ⟨⟩, ⟨⟩, -, rfl⟩; rfl
      · exact iff_of_false (fun h => by cases h) fun ⟨_, atThreshold, atTarget, le, _⟩ =>
          within (by cases atThreshold; cases atTarget; exact le)

theorem wrapOn_succeeds (present : (m.adapters.get? chainId).isSome) :
    (∃ wrap, m.wrapOn config simMode chainId = .ok wrap) ↔
      ∃ wrapThreshold wrapTarget, config.wrapThreshold chainId = some wrapThreshold ∧
        config.wrapTarget chainId = some wrapTarget ∧ wrapTarget ≤ wrapThreshold := by
  simp only [m.wrapOn_eq_ok present]
  constructor
  · rintro ⟨wrap, -, threshold, target, within, -⟩
    exact ⟨_, _, threshold, target, within⟩
  · rintro ⟨wrapThreshold, wrapTarget, threshold, target, within⟩
    exact ⟨⟨chainId, wrapThreshold, wrapTarget, simMode⟩, rfl, threshold, target, within, rfl⟩

end Constructed

/-- The wraps asked settle exactly when every adapter's wrap resolves. -/
theorem wrapsSettle_eq_ok {wrapSucceeds : Nat → Bool} {wraps : List Wrap} :
    Constructed.wrapsSettle wrapSucceeds wraps = .ok () ↔ ∀ i < wraps.length, wrapSucceeds i = true := by
  unfold Constructed.wrapsSettle
  cases found : wraps.enum.find? (fun entry => !wrapSucceeds entry.1) with
  | none =>
    refine ⟨fun _ i within => ?_, fun _ => rfl⟩
    have kept := List.find?_eq_none.mp found (i, wraps[i])
      (List.mem_enum_iff_getElem?.mpr (List.getElem?_eq_getElem within))
    simpa using kept
  | some entry =>
    refine ⟨nofun, fun each => ?_⟩
    have rejected := List.find?_some found
    simp [each entry.1 (List.fst_lt_of_mem_enum (List.mem_of_find?_eq_some found))] at rejected

/-- Where every SpokePool client sits under its own chain ID, the wrap pass asks for a wrap on
exactly the chains to wrap ether on that have a client and whose threshold is at least their
target, with the chain's settings; it resolves exactly when every such chain has both settings
and a threshold at least its target, and every wrap asked of an adapter resolves. A chain that
fails the assertion does not keep another from being wrapped. -/
theorem wrapNativeTokenIfAboveThreshold_requests (m : Constructed)
    (clients : ChainKeyed SpokePoolClient) (given : m.setup.spokePoolClients = some clients)
    (keyed : KeyedByChain clients) (config : WrapEtherConfig) (simMode : Bool) (wrapSucceeds : Nat → Bool) :
    (∀ wrap, wrap ∈ (m.wrapNativeTokenIfAboveThreshold config simMode wrapSucceeds).1 ↔
      wrap.chainId ∈ m.setup.chainsToWrapEtherOn ∧ wrap.chainId ∈ clients.keys ∧
        config.wrapThreshold wrap.chainId = some wrap.wrapThreshold ∧
        config.wrapTarget wrap.chainId = some wrap.wrapTarget ∧
        wrap.wrapTarget ≤ wrap.wrapThreshold ∧ wrap.simMode = simMode) ∧
    ((m.wrapNativeTokenIfAboveThreshold config simMode wrapSucceeds).2 = .ok () ↔
      (∀ chainId ∈ m.setup.chainsToWrapEtherOn, chainId ∈ clients.keys →
        ∃ wrapThreshold wrapTarget, config.wrapThreshold chainId = some wrapThreshold ∧
          config.wrapTarget chainId = some wrapTarget ∧ wrapTarget ≤ wrapThreshold) ∧
      ∀ i < (m.wrapNativeTokenIfAboveThreshold config simMode wrapSucceeds).1.length, wrapSucceeds i = true) := by
  have present : ∀ {chainId}, chainId ∈ clients.keys → (m.adapters.get? chainId).isSome :=
    fun has => (m.get?_adapters_isSome given keyed).mpr (ChainKeyed.get?_isSome_iff.mpr has)
  have selected : ∀ {chainId}, chainId ∈ m.setup.chainsToWrapEtherOn.filter
      (fun chainId => (clients.get? chainId).isSome) ↔
        chainId ∈ m.setup.chainsToWrapEtherOn ∧ chainId ∈ clients.keys := by
    simp only [List.mem_filter, ChainKeyed.get?_isSome_iff, implies_true]
  have settles : ∀ first second : Except AdapterError Unit,
      (first >>= fun _ => second) = .ok () ↔ first = .ok () ∧ second = .ok () := by
    intro first second
    cases first <;> simp [bind, Except.bind]
  simp only [Constructed.wrapNativeTokenIfAboveThreshold, given, settles, wrapsSettle_eq_ok, mapAsync_fst,
    mapAsync_snd_eq_ok, List.mem_filterMap, toOption_eq_some]
  refine ⟨fun wrap => ⟨?_, ?_⟩, Iff.and ⟨?_, ?_⟩ Iff.rfl⟩
  · rintro ⟨chainId, within, made⟩
    obtain ⟨listed, has⟩ := selected.mp within
    obtain ⟨rfl, settings⟩ := (m.wrapOn_eq_ok (present has)).mp made
    exact ⟨listed, has, settings⟩
  · rintro ⟨listed, has, settings⟩
    exact ⟨wrap.chainId, selected.mpr ⟨listed, has⟩, (m.wrapOn_eq_ok (present has)).mpr ⟨rfl, settings⟩⟩
  · intro each chainId listed has
    exact (m.wrapOn_succeeds (present has)).mp (each chainId (selected.mpr ⟨listed, has⟩))
  · intro each chainId within
    obtain ⟨listed, has⟩ := selected.mp within
    exact (m.wrapOn_succeeds (present has)).mpr (each chainId listed has)

/-- Chain 10's settings fail the assertion; the hub chain is still wrapped at the defaults. -/
theorem wrapNativeTokenIfAboveThreshold_requests_twoChain :
    twoChainManager.setup.spokePoolClients = some twoChainSpokePoolClients ∧
      KeyedByChain twoChainSpokePoolClients ∧
      ∀ wrap, wrap ∈ (twoChainManager.wrapNativeTokenIfAboveThreshold misconfiguredWrap false fun _ => true).1 ↔
        wrap.chainId ∈ twoChainManager.setup.chainsToWrapEtherOn ∧
          wrap.chainId ∈ twoChainSpokePoolClients.keys ∧
          misconfiguredWrap.wrapThreshold wrap.chainId = some wrap.wrapThreshold ∧
          misconfiguredWrap.wrapTarget wrap.chainId = some wrap.wrapTarget ∧
          wrap.wrapTarget ≤ wrap.wrapThreshold ∧ wrap.simMode = false :=
  have keyed : KeyedByChain twoChainSpokePoolClients := by decide
  ⟨rfl, keyed, (wrapNativeTokenIfAboveThreshold_requests twoChainManager _ rfl keyed _ _ _).1⟩

/-- The pass wraps on the hub chain and rejects with chain 10's failed assertion. -/
example : twoChainManager.wrapNativeTokenIfAboveThreshold misconfiguredWrap false (fun _ => true) =
    ([⟨1, 5, 3, false⟩], .error (.wrapThresholdBelowTarget 1 2)) := rfl

end AdapterManager

/-! ## The inventory client's calls -/

namespace InventoryClient

open AdapterManager

variable (s : InventoryClient) (manager : Constructed)

end InventoryClient

end Relayer
