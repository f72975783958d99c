import Mathlib.Data.List.Nodup

/-! The WETH bridge between the hub and Linea (`LineaWethBridge`). A transfer starts as a
`MessageSent` log of the hub's message service and is finalized by the `MessageClaimed` log with
the same message hash on Linea; the bridge joins the two by hash.

The logs are what the message services' providers return, in chain order, and the filters are
the node's: a filter keeps the logs of its block window whose indexed arguments match, an
argument given a list of values matches any of them, and an empty list of values matches every
log, as go-ethereum reads an empty topic set. That reading is of code outside this repository. -/
namespace Relayer

/-- `EventSearchConfig`: the block window `from`..`to` of a query. -/
structure EventSearchConfig where
  fromBlock : Nat
  toBlock : Nat
  deriving DecidableEq, Repr

/-- The place of a log on its chain. -/
structure LogCoordinates where
  blockNumber : Nat
  transactionIndex : Nat
  logIndex : Nat
  transactionHash : Nat
  deriving DecidableEq, Repr

/-- A `MessageSent` log of the hub's message service, with the arguments the bridge reads: the
recipient `_to`, the `_value` sent and the `_messageHash`. -/
structure MessageSent where
  _to : Nat
  _value : Nat
  _messageHash : Nat
  log : LogCoordinates
  deriving DecidableEq, Repr

/-- A `MessageClaimed` log of Linea's message service. -/
structure MessageClaimed where
  _messageHash : Nat
  log : LogCoordinates
  deriving DecidableEq, Repr

/-- `BridgeEvent`: an amount and the place of the log that reports it. -/
structure BridgeEvent where
  amount : Nat
  blockNumber : Nat
  txnIndex : Nat
  logIndex : Nat
  txnRef : Nat
  deriving DecidableEq, Repr

/-- `BridgeEvents`: the events keyed by L2 token, an object with one key or with none. -/
abbrev BridgeEvents := List (Nat × List BridgeEvent)

/-- The place of the log an event reports. -/
def BridgeEvent.place (event : BridgeEvent) : LogCoordinates :=
  ⟨event.blockNumber, event.txnIndex, event.logIndex, event.txnRef⟩

/-- `processEvent(event, "_value")`: the amount from `_value`, at the place of the log. -/
def processEvent (event : MessageSent) : BridgeEvent :=
  ⟨event._value, event.log.blockNumber, event.log.transactionIndex, event.log.logIndex,
    event.log.transactionHash⟩

def EventSearchConfig.contains (config : EventSearchConfig) (log : LogCoordinates) : Bool :=
  config.fromBlock ≤ log.blockNumber && log.blockNumber ≤ config.toBlock

/-- The query of the filter `MessageSent(undefined, recipient)` over a window. -/
def queryMessageSent (logs : List MessageSent) (recipient : Nat) (config : EventSearchConfig) :
    List MessageSent :=
  logs.filter fun event => config.contains event.log && event._to == recipient

/-- The query of the filter `MessageClaimed(messageHashes)` over a window; an empty list of
hashes matches every log. -/
def queryMessageClaimed (logs : List MessageClaimed) (messageHashes : List Nat) (config : EventSearchConfig) :
    List MessageClaimed :=
  logs.filter fun event => config.contains event.log &&
    (messageHashes.isEmpty || messageHashes.contains event._messageHash)

/-- A `LineaWethBridge` with what its providers return: the logs of the hub's message service and
of Linea's, the timestamps of Linea's blocks (`getBlock`), and the block finder's hub block at a
timestamp (`getBlockForTimestamp`). -/
structure LineaWethBridge where
  l2chainId : Nat
  hubChainId : Nat
  l1BridgeLogs : List MessageSent
  l2BridgeLogs : List MessageClaimed
  l2BlockTimestamp : Nat → Nat
  getBlockForTimestamp : Nat → Nat
  resolveL2TokenAddress : Nat → Nat

namespace LineaWethBridge

variable (bridge : LineaWethBridge)

/-- Lines 54–73: the transfers sent to `toAddress` in the window, without the messages of zero
value (those of each relayed root bundle). -/
def queryL1BridgeInitiationEvents (l1Token _fromAddress toAddress : Nat) (eventConfig : EventSearchConfig) :
    BridgeEvents :=
  let events := queryMessageSent bridge.l1BridgeLogs toAddress eventConfig
  [(bridge.resolveL2TokenAddress l1Token, (events.map processEvent).filter fun event => 0 < event.amount)]

/-- Lines 83–95: the hub window between the hub blocks at the timestamps of the window's ends. -/
def l1SearchConfig (eventConfig : EventSearchConfig) : EventSearchConfig :=
  ⟨bridge.getBlockForTimestamp (bridge.l2BlockTimestamp eventConfig.fromBlock),
    bridge.getBlockForTimestamp (bridge.l2BlockTimestamp eventConfig.toBlock)⟩

/-- Lines 117–131, one finalization: the first initiation with its hash, at the finalization's
place. -/
def matchFinalization (initiatedQueryResult : List MessageSent) (finalized : MessageClaimed) :
    Option BridgeEvent :=
  (initiatedQueryResult.find? fun initiated => initiated._messageHash == finalized._messageHash).map
    fun queryEvent => { processEvent queryEvent with
      blockNumber := finalized.log.blockNumber
      txnIndex := finalized.log.transactionIndex
      logIndex := finalized.log.logIndex
      txnRef := finalized.log.transactionHash }

/-- Lines 96–100: the initiations sent to `toAddress` in the hub window. -/
def initiatedQueryResult (toAddress : Nat) (eventConfig : EventSearchConfig) : List MessageSent :=
  queryMessageSent bridge.l1BridgeLogs toAddress (bridge.l1SearchConfig eventConfig)

/-- Lines 108–110: the hashes of the initiations of positive value. -/
def internalMessageHashes (initiatedQueryResult : List MessageSent) : List Nat :=
  (initiatedQueryResult.filter fun initiated => 0 < initiated._value).map MessageSent._messageHash

/-- Lines 75–137: the finalizations of the window with the hashes of the initiations of positive
value, each joined to the first initiation with its hash, of all those of the hub window. -/
def queryL2BridgeFinalizationEvents (l1Token _fromAddress toAddress : Nat) (eventConfig : EventSearchConfig) :
    BridgeEvents :=
  let initiatedQueryResult := bridge.initiatedQueryResult toAddress eventConfig
  if initiatedQueryResult.length = 0 then [] else
  let events := queryMessageClaimed bridge.l2BridgeLogs (internalMessageHashes initiatedQueryResult) eventConfig
  [(bridge.resolveL2TokenAddress l1Token, events.filterMap (matchFinalization initiatedQueryResult))]

/-! ## The join -/

section Join

variable {initiated : List MessageSent}

/-- A joined finalization carries the value of the first initiation with its hash, at the
finalization's place. -/
theorem matchFinalization_eq_some {finalized : MessageClaimed} {event : BridgeEvent}
    (matched : matchFinalization initiated finalized = some event) :
    ∃ queryEvent ∈ initiated, queryEvent._messageHash = finalized._messageHash ∧
      (initiated.find? fun i => i._messageHash == finalized._messageHash) = some queryEvent ∧
      event.amount = queryEvent._value ∧ event.place = finalized.log := by
  unfold matchFinalization at matched
  obtain ⟨queryEvent, found, rfl⟩ := Option.map_eq_some'.mp matched
  exact ⟨queryEvent, List.mem_of_find?_eq_some found, by simpa using List.find?_some found, found, rfl, rfl⟩

theorem matchFinalization_isSome (finalized : MessageClaimed) :
    (matchFinalization initiated finalized).isSome =
      initiated.any fun i => i._messageHash == finalized._messageHash := by
  rw [matchFinalization, Option.isSome_map', Bool.eq_iff_iff, List.find?_isSome, List.any_eq_true]

/-- The join yields one event for each finalization with the hash of some initiation, at that
finalization's place and in its order, and none for the others. -/
theorem filterMap_matchFinalization_places :
    ∀ events : List MessageClaimed, (events.filterMap (matchFinalization initiated)).map BridgeEvent.place =
      (events.filter fun finalized => initiated.any fun i => i._messageHash == finalized._messageHash).map
        MessageClaimed.log
  | [] => rfl
  | finalized :: rest => by
    rw [List.filterMap_cons, List.filter_cons, ← matchFinalization_isSome]
    rcases matched : matchFinalization initiated finalized with _ | event
    · exact filterMap_matchFinalization_places rest
    · obtain ⟨-, -, -, -, -, place⟩ := matchFinalization_eq_some matched
      rw [Option.isSome_some, if_pos rfl, List.map_cons, List.map_cons, place,
        filterMap_matchFinalization_places rest]

end Join

/-! ## The reported finalizations -/

section Reported

variable {l1Token fromAddress toAddress : Nat} {eventConfig : EventSearchConfig}

/-- The finalizations the L2 query returns: those of the window with a hash asked for, or every
one of the window when no hash is. -/
theorem mem_queryMessageClaimed {logs : List MessageClaimed} {messageHashes : List Nat}
    {finalized : MessageClaimed} :
    finalized ∈ queryMessageClaimed logs messageHashes eventConfig ↔ finalized ∈ logs ∧
      eventConfig.contains finalized.log = true ∧ (messageHashes = [] ∨ finalized._messageHash ∈ messageHashes) := by
  simp [queryMessageClaimed, List.isEmpty_iff]

/-- A hub window with an initiation gives one key, the L2 token, whose events are the join of
the finalizations the L2 query returns. -/
theorem queryL2BridgeFinalizationEvents_of_ne_nil
    (initiations : bridge.initiatedQueryResult toAddress eventConfig ≠ []) :
    bridge.queryL2BridgeFinalizationEvents l1Token fromAddress toAddress eventConfig =
      [(bridge.resolveL2TokenAddress l1Token,
        (queryMessageClaimed bridge.l2BridgeLogs (internalMessageHashes (bridge.initiatedQueryResult toAddress eventConfig))
          eventConfig).filterMap (matchFinalization (bridge.initiatedQueryResult toAddress eventConfig)))] := by
  rw [queryL2BridgeFinalizationEvents, if_neg (mt List.length_eq_zero.mp initiations)]

/-- Every event reported is at the place of a finalization of the window, and carries the value
of an initiation sent to the recipient in the hub window with the finalization's hash. -/
theorem mem_queryL2BridgeFinalizationEvents {key : Nat} {events : List BridgeEvent} {event : BridgeEvent}
    (reported : (key, events) ∈ bridge.queryL2BridgeFinalizationEvents l1Token fromAddress toAddress eventConfig)
    (held : event ∈ events) :
    key = bridge.resolveL2TokenAddress l1Token ∧ ∃ finalized ∈ bridge.l2BridgeLogs,
      eventConfig.contains finalized.log = true ∧ event.place = finalized.log ∧
      ∃ queryEvent ∈ bridge.initiatedQueryResult toAddress eventConfig,
        queryEvent._messageHash = finalized._messageHash ∧ event.amount = queryEvent._value := by
  by_cases initiations : bridge.initiatedQueryResult toAddress eventConfig = []
  · simp [queryL2BridgeFinalizationEvents, initiations] at reported
  rw [queryL2BridgeFinalizationEvents_of_ne_nil bridge initiations, List.mem_singleton,
    Prod.mk.injEq] at reported
  obtain ⟨rfl, rfl⟩ := reported
  obtain ⟨finalized, returned, matched⟩ := List.mem_filterMap.mp held
  obtain ⟨queryEvent, initiation, sameHash, -, amount, place⟩ := matchFinalization_eq_some matched
  obtain ⟨logged, window, -⟩ := mem_queryMessageClaimed.mp returned
  exact ⟨rfl, finalized, logged, window, place, queryEvent, initiation, sameHash, amount⟩

/-- Each finalization the L2 query returns yields one event when an initiation of the hub window
has its hash, in particular one of positive value, and none otherwise. -/
theorem queryL2BridgeFinalizationEvents_places
    (initiations : bridge.initiatedQueryResult toAddress eventConfig ≠ []) :
    ∃ events, bridge.queryL2BridgeFinalizationEvents l1Token fromAddress toAddress eventConfig =
        [(bridge.resolveL2TokenAddress l1Token, events)] ∧
      events.map BridgeEvent.place =
        ((queryMessageClaimed bridge.l2BridgeLogs (internalMessageHashes (bridge.initiatedQueryResult toAddress eventConfig))
          eventConfig).filter fun finalized => (bridge.initiatedQueryResult toAddress eventConfig).any
            fun i => i._messageHash == finalized._messageHash).map MessageClaimed.log :=
  ⟨_, queryL2BridgeFinalizationEvents_of_ne_nil bridge initiations, filterMap_matchFinalization_places _⟩

/-- When some initiation of the hub window has a positive value and the initiations' hashes are
distinct, the L2 query reports one list for the token: an event at each finalization it returns
that an initiation's hash matches, in order, and each carries a positive value that the hub query
reports for the hub window and recipient. -/
theorem queryL2BridgeFinalizationEvents_positive
    (distinct : ((bridge.initiatedQueryResult toAddress eventConfig).map MessageSent._messageHash).Nodup)
    (valued : ∃ initiation ∈ bridge.initiatedQueryResult toAddress eventConfig, 0 < initiation._value) :
    (∃ events, bridge.queryL2BridgeFinalizationEvents l1Token fromAddress toAddress eventConfig =
        [(bridge.resolveL2TokenAddress l1Token, events)] ∧
      events.map BridgeEvent.place =
        ((queryMessageClaimed bridge.l2BridgeLogs (internalMessageHashes (bridge.initiatedQueryResult toAddress eventConfig))
          eventConfig).filter fun finalized => (bridge.initiatedQueryResult toAddress eventConfig).any
            fun i => i._messageHash == finalized._messageHash).map MessageClaimed.log) ∧
    ∀ key events event,
      (key, events) ∈ bridge.queryL2BridgeFinalizationEvents l1Token fromAddress toAddress eventConfig →
      event ∈ events → 0 < event.amount ∧ ∃ l1Events, (key, l1Events) ∈
        bridge.queryL1BridgeInitiationEvents l1Token fromAddress toAddress (bridge.l1SearchConfig eventConfig) ∧
        ∃ initiation ∈ l1Events, initiation.amount = event.amount := by
  obtain ⟨initiation, initiated, positive⟩ := valued
  have initiations : bridge.initiatedQueryResult toAddress eventConfig ≠ [] := List.ne_nil_of_mem initiated
  refine ⟨bridge.queryL2BridgeFinalizationEvents_places initiations, fun key events event reported held => ?_⟩
  rw [queryL2BridgeFinalizationEvents_of_ne_nil bridge initiations, List.mem_singleton,
    Prod.mk.injEq] at reported
  obtain ⟨rfl, rfl⟩ := reported
  obtain ⟨finalized, returned, matched⟩ := List.mem_filterMap.mp held
  obtain ⟨queryEvent, joined, sameHash, -, amount, -⟩ := matchFinalization_eq_some matched
  obtain ⟨-, -, asked⟩ := mem_queryMessageClaimed.mp returned
  have asked : finalized._messageHash ∈ internalMessageHashes (bridge.initiatedQueryResult toAddress eventConfig) := by
    refine asked.resolve_left fun noHash => ?_
    rw [internalMessageHashes, List.map_eq_nil_iff] at noHash
    exact List.not_mem_nil _ (noHash ▸ List.mem_filter.mpr ⟨initiated, decide_eq_true positive⟩)
  obtain ⟨hashed, kept, hashSame⟩ := List.mem_map.mp asked
  obtain ⟨hashedInitiated, hashedPositive⟩ := List.mem_filter.mp kept
  have same : hashed = queryEvent :=
    List.inj_on_of_nodup_map distinct hashedInitiated joined (hashSame.trans sameHash.symm)
  have valuePositive : 0 < queryEvent._value := same ▸ by simpa using hashedPositive
  refine ⟨amount ▸ valuePositive, _, List.mem_singleton_self _, processEvent queryEvent, ?_, amount.symm⟩
  exact List.mem_filter.mpr ⟨List.mem_map_of_mem _ joined, by simpa [processEvent] using valuePositive⟩

/-- Three messages to the spoke pool `5` in the hub window, of values 0, 10 and 20 with hashes 1,
2 and 3; Linea claims the hashes 2, 3 and 4. -/
def threeMessageBridge : LineaWethBridge :=
  ⟨59144, 1, [⟨5, 0, 1, ⟨100, 0, 0, 11⟩⟩, ⟨5, 10, 2, ⟨101, 0, 0, 12⟩⟩, ⟨5, 20, 3, ⟨102, 0, 0, 13⟩⟩],
    [⟨2, ⟨50, 0, 0, 22⟩⟩, ⟨3, ⟨51, 0, 0, 23⟩⟩, ⟨4, ⟨52, 0, 0, 24⟩⟩], id, id, fun _ => 300⟩

/-- The hashes are distinct and two messages have value: the claims of hashes 2 and 3 are
reported, with values 10 and 20. -/
theorem queryL2BridgeFinalizationEvents_positive_threeMessages :
    ((threeMessageBridge.initiatedQueryResult 5 ⟨0, 1000⟩).map MessageSent._messageHash).Nodup ∧
      (∃ initiation ∈ threeMessageBridge.initiatedQueryResult 5 ⟨0, 1000⟩, 0 < initiation._value) ∧
      ∀ key events event, (key, events) ∈ threeMessageBridge.queryL2BridgeFinalizationEvents 100 7 5 ⟨0, 1000⟩ →
        event ∈ events → 0 < event.amount :=
  have distinct : ((threeMessageBridge.initiatedQueryResult 5 ⟨0, 1000⟩).map MessageSent._messageHash).Nodup := by
    decide
  have valued : ∃ initiation ∈ threeMessageBridge.initiatedQueryResult 5 ⟨0, 1000⟩, 0 < initiation._value :=
    ⟨⟨5, 10, 2, ⟨101, 0, 0, 12⟩⟩, by decide, by decide⟩
  ⟨distinct, valued, fun key events event reported held =>
    ((queryL2BridgeFinalizationEvents_positive threeMessageBridge distinct valued).2 key events event reported held).1⟩

example : threeMessageBridge.queryL2BridgeFinalizationEvents 100 7 5 ⟨0, 1000⟩ =
    [(300, [⟨10, 50, 0, 0, 22⟩, ⟨20, 51, 0, 0, 23⟩])] := rfl

/-- The only message to the spoke pool `5` in the hub window is of zero value (a relayed root
bundle), and Linea claims it at block 50. -/
def rootBundleBridge : LineaWethBridge :=
  ⟨59144, 1, [⟨5, 0, 77, ⟨100, 0, 0, 900⟩⟩], [⟨77, ⟨50, 0, 0, 901⟩⟩], id, id, fun _ => 300⟩

/-- With only initiations of zero value in the hub window no hash is asked for, and every
finalization of the window with the hash of one of them is reported, with amount 0. -/
theorem queryL2BridgeFinalizationEvents_zero_values
    (initiations : bridge.initiatedQueryResult toAddress eventConfig ≠ [])
    (unvalued : ∀ initiation ∈ bridge.initiatedQueryResult toAddress eventConfig, initiation._value = 0) :
    bridge.queryL2BridgeFinalizationEvents l1Token fromAddress toAddress eventConfig =
      [(bridge.resolveL2TokenAddress l1Token,
        (bridge.l2BridgeLogs.filter fun finalized => eventConfig.contains finalized.log).filterMap
          (matchFinalization (bridge.initiatedQueryResult toAddress eventConfig)))] ∧
    ∀ key events, (key, events) ∈ bridge.queryL2BridgeFinalizationEvents l1Token fromAddress toAddress eventConfig →
      ∀ event ∈ events, event.amount = 0 := by
  have noHash : internalMessageHashes (bridge.initiatedQueryResult toAddress eventConfig) = [] := by
    simp only [internalMessageHashes, List.map_eq_nil_iff, List.filter_eq_nil_iff]
    intro initiation held
    simp [unvalued initiation held]
  refine ⟨?_, fun key events reported event held => ?_⟩
  · rw [queryL2BridgeFinalizationEvents_of_ne_nil bridge initiations, noHash]
    simp [queryMessageClaimed]
  · obtain ⟨-, -, -, -, -, queryEvent, initiated, -, amount⟩ :=
      mem_queryL2BridgeFinalizationEvents bridge reported held
    rw [amount, unvalued queryEvent initiated]

/-- The root bundle's message is the only one, of zero value: the zero-value law applies. -/
theorem queryL2BridgeFinalizationEvents_zero_values_rootBundle :
    rootBundleBridge.initiatedQueryResult 5 ⟨0, 1000⟩ ≠ [] ∧
      (∀ initiation ∈ rootBundleBridge.initiatedQueryResult 5 ⟨0, 1000⟩, initiation._value = 0) ∧
      ∀ key events, (key, events) ∈ rootBundleBridge.queryL2BridgeFinalizationEvents 100 7 5 ⟨0, 1000⟩ →
        ∀ event ∈ events, event.amount = 0 :=
  have initiations : rootBundleBridge.initiatedQueryResult 5 ⟨0, 1000⟩ ≠ [] := by decide
  have unvalued : ∀ initiation ∈ rootBundleBridge.initiatedQueryResult 5 ⟨0, 1000⟩, initiation._value = 0 := by
    decide
  ⟨initiations, unvalued, (queryL2BridgeFinalizationEvents_zero_values rootBundleBridge initiations unvalued).2⟩

/-- The root bundle's claim is reported with amount 0, where the hub query reports no event. -/
theorem queryL2BridgeFinalizationEvents_reports_zero_value :
    rootBundleBridge.queryL2BridgeFinalizationEvents 100 7 5 ⟨0, 1000⟩ = [(300, [⟨0, 50, 0, 0, 901⟩])] ∧
      rootBundleBridge.queryL1BridgeInitiationEvents 100 7 5 (rootBundleBridge.l1SearchConfig ⟨0, 1000⟩) =
        [(300, [])] :=
  ⟨rfl, rfl⟩

end Reported

end LineaWethBridge

end Relayer
