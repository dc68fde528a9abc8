import Zclassic.Snapshot.Download

/-!
# Chunks in Flight

The client side of a snapshot download is a `CSnapshotDownloadCoordinator` and the
`CSnapshotDownloadState` it points to, driven by the message handlers: they ask the coordinator
for a peer, record the request, report its outcome, reap the requests that timed out, drop
disconnected peers and mark the chunks that arrived. `Client` is that pair and `ClientCall` one
such call; a run is a list of calls, each with the time it is made at, and the client after it
is `Client.after`, a left fold, so that a run is extended at its end.

`mapChunkToNode` records which peer each chunk in flight was asked of. Three facts about it
hold over whole runs, and each differs from what the comments around it suggest.

The selector offers only the first chunk not received (`GetNextChunkToRequest`). While that
chunk is in flight it returns `-1`, whatever other chunks are missing and whichever peers are
idle, so a client that requests what the selector offers keeps one chunk in flight, not the
`MAX_CONCURRENT_PEER_REQUESTS` of the comment "Download from multiple peers simultaneously"
(`selectPeerForNextChunk_stalls`).

`GetTimedOutRequests` measures an entry's age from its peer's `nLastRequestTime`, which every
`RecordRequest` to that peer overwrites. The reaper therefore gives up on a chunk when the
peer's last request, for any chunk, is more than `REQUEST_TIMEOUT_SEC` old, not when the
chunk's own request is (`getTimedOutRequests_lastRequest`). The invariant behind it is
`Stamped`: every chunk in flight goes to a peer that has a state, whose last request time is
that of the run's last `RecordRequest` to it. `RemovePeer` drops a peer's state only with its
chunks, and the selector creates states but never overwrites one.

`RecordSuccess` and `RecordFailure` erase the chunk's entry whichever peer reports. An entry
`c → n` leaves the map exactly by a report for `c` from any peer, a `RecordRequest` of `c` to
another peer, `RemovePeer(n)` or a reap that returns it (`inFlight_leaves_iff`).

## Main definitions

* `Client`, `ClientCall`, `Client.step`, `Client.after`: Runs of the client.
* `lastRequestTo`: The time of a run's last `RecordRequest` to a peer.
* `Stamped`: The invariant of the in-flight map.

## Theorems

* `Stamped.after`: Every run from start-up keeps the in-flight map stamped.
* `getTimedOutRequests_lastRequest`: What a reap returns and keeps, after every run.
* `inFlight_leaves_iff`: Which calls take an entry out of the in-flight map.
* `selectPeerForNextChunk_stalls`: A run after which the selector idles with work to give.
-/

namespace Zclassic

namespace Snapshot

/-- The client side of a download: the coordinator and the download state it points to. -/
structure Client where
  ds : DownloadState
  co : Coordinator

/-- A call the message handlers make on the coordinator or on the download state. -/
inductive ClientCall
  | selectPeerForNextChunk (vAvailablePeers : List Int) (nChunkOut : Nat)
  | recordRequest (node : Int) (nChunk : Nat)
  | recordSuccess (node : Int) (nChunk : Nat)
  | recordFailure (node : Int) (nChunk : Nat)
  | getTimedOutRequests
  | removePeer (node : Int)
  | markChunkReceived (nChunk : Nat)
  deriving DecidableEq, Repr

/-- Whether a call is `RecordRequest(node, _)`. -/
def ClientCall.isRequestTo (node : Int) : ClientCall → Bool
  | .recordRequest n _ => n == node
  | _ => false

namespace Client

/-- A download of `nTotalChunks` chunks at its start. -/
def init (nTotalChunks : Nat) : Client := ⟨.init nTotalChunks, .init⟩

/-- One call at time `nNow`. -/
def step (cl : Client) (nNow : Int) : ClientCall → Client
  | .selectPeerForNextChunk peers c =>
    { cl with co := (selectPeerForNextChunk (some cl.ds) cl.co peers c nNow).2.2 }
  | .recordRequest node c => { cl with co := cl.co.recordRequest node c nNow }
  | .recordSuccess node c => { cl with co := cl.co.recordSuccess node c }
  | .recordFailure node c => { cl with co := cl.co.recordFailure node c nNow }
  | .getTimedOutRequests => { cl with co := (cl.co.getTimedOutRequests nNow).2 }
  | .removePeer node => { cl with co := cl.co.removePeer node }
  | .markChunkReceived c => { cl with ds := cl.ds.markChunkReceived c }

/-- The client after a run. -/
def after (cl : Client) (evs : List (Int × ClientCall)) : Client :=
  evs.foldl (fun cl e => cl.step e.1 e.2) cl

@[simp] theorem after_nil (cl : Client) : cl.after [] = cl := rfl

@[simp] theorem after_append_singleton (cl : Client) (evs : List (Int × ClientCall)) (t : Int)
    (call : ClientCall) : cl.after (evs ++ [(t, call)]) = (cl.after evs).step t call := by
  simp [after]

end Client

/-- The time of the last `RecordRequest` to `node` in a run, if there is one. -/
def lastRequestTo (node : Int) (evs : List (Int × ClientCall)) : Option Int :=
  ((evs.filter fun e => e.2.isRequestTo node).getLast?).map Prod.fst

theorem lastRequestTo_append_singleton (node : Int) (evs : List (Int × ClientCall)) (t : Int)
    (call : ClientCall) : lastRequestTo node (evs ++ [(t, call)]) =
      if call.isRequestTo node then some t else lastRequestTo node evs := by
  unfold lastRequestTo
  split_ifs with h <;> simp [List.filter_append, h]

/-! ### The in-flight map over runs -/

/-- Every chunk in flight goes to a peer with a state, whose last request time is the time of
    the run's last `RecordRequest` to that peer. -/
def Stamped (evs : List (Int × ClientCall)) (co : Coordinator) : Prop :=
  ∀ c n, co.mapChunkToNode.find? c = some n →
    ∃ state, co.mapPeerStates n = some state ∧ lastRequestTo n evs = some state.nLastRequestTime

/-- A call that is no request keeps the stamps of the chunks still in flight, as long as it
    keeps their peers' last request times. -/
theorem Stamped.of_frame {evs : List (Int × ClientCall)} {co co' : Coordinator} {t : Int}
    {call : ClientCall} (h : Stamped evs co) (hreq : ∀ n, call.isRequestTo n = false)
    (hfind : ∀ c n, co'.mapChunkToNode.find? c = some n → co.mapChunkToNode.find? c = some n)
    (hstate : ∀ c n state, co'.mapChunkToNode.find? c = some n → co.mapPeerStates n = some state →
      ∃ state', co'.mapPeerStates n = some state' ∧
        state'.nLastRequestTime = state.nLastRequestTime) :
    Stamped (evs ++ [(t, call)]) co' := by
  intro c n hc
  obtain ⟨state, hs, hτ⟩ := h c n (hfind c n hc)
  obtain ⟨state', hs', heq⟩ := hstate c n state hc hs
  exact ⟨state', hs', by rw [lastRequestTo_append_singleton, hreq, heq]; exact hτ⟩

/-- A state rewritten by a report keeps its last request time. -/
theorem report_frame (co : Coordinator) (node : Int)
    (f : PeerDownloadState → PeerDownloadState)
    (hf : ∀ s, (f s).nLastRequestTime = s.nLastRequestTime) (n : Int) (state : PeerDownloadState)
    (h : co.mapPeerStates n = some state) :
    ∃ state', Function.update co.mapPeerStates node (some (f (co.peerState node))) n =
      some state' ∧ state'.nLastRequestTime = state.nLastRequestTime := by
  by_cases hn : n = node
  · subst hn
    exact ⟨_, Function.update_same _ _ _, by rw [hf, Coordinator.peerState, h]; rfl⟩
  · exact ⟨state, by rw [Function.update_noteq hn, h], rfl⟩

/-- `RecordRequest(node, nChunk)` at `t` stamps `node` with `t`. -/
theorem Stamped.recordRequest {evs : List (Int × ClientCall)} {co : Coordinator}
    (h : Stamped evs co) (node : Int) (nChunk : Nat) (t : Int) :
    Stamped (evs ++ [(t, .recordRequest node nChunk)]) (co.recordRequest node nChunk t) := by
  intro c n hc
  simp only [Coordinator.recordRequest, ChunkMap.find?_assign] at hc
  simp only [Coordinator.recordRequest, lastRequestTo_append_singleton, ClientCall.isRequestTo]
  by_cases hn : n = node
  · subst hn
    exact ⟨_, Function.update_same _ _ _, by simp⟩
  · have hold : co.mapChunkToNode.find? c = some n := by
      split_ifs at hc with hcn
      · exact absurd (Option.some_inj.mp hc).symm hn
      · exact hc
    obtain ⟨state, hs, hτ⟩ := h c n hold
    exact ⟨state, by rw [Function.update_noteq hn, hs], by simpa [Ne.symm hn] using hτ⟩

/-- Every call keeps the in-flight map stamped. -/
theorem Stamped.step {evs : List (Int × ClientCall)} {cl : Client} (h : Stamped evs cl.co)
    (t : Int) (call : ClientCall) : Stamped (evs ++ [(t, call)]) (cl.step t call).co := by
  cases call with
  | selectPeerForNextChunk peers c =>
    obtain ⟨hmap, hstates⟩ := selectPeerForNextChunk_frame (some cl.ds) cl.co peers c t
    exact h.of_frame (fun _ => rfl) (fun c n hc => by rwa [Client.step, hmap] at hc)
      fun _ n state _ hs => ⟨state, hstates n state hs, rfl⟩
  | recordRequest node c => exact h.recordRequest node c t
  | recordSuccess node c =>
    exact h.of_frame (fun _ => rfl) (fun _ _ hc => (ChunkMap.find?_erase_eq_some.mp hc).1)
      fun _ n state _ hs => report_frame cl.co node
        (fun s => { s with nConsecutiveFailures := 0, nBackoffUntil := 0 }) (fun _ => rfl)
        n state hs
  | recordFailure node c =>
    exact h.of_frame (fun _ => rfl) (fun _ _ hc => (ChunkMap.find?_erase_eq_some.mp hc).1)
      fun _ n state _ hs => report_frame cl.co node (fun s => { s with
        nConsecutiveFailures := s.nConsecutiveFailures + 1
        nBackoffUntil := t + Coordinator.backoffTime (s.nConsecutiveFailures + 1) })
        (fun _ => rfl) n state hs
  | getTimedOutRequests =>
    exact h.of_frame (fun _ => rfl) (fun _ _ hc => (ChunkMap.find?_filter_eq_some.mp hc).1)
      fun _ n state _ hs => ⟨state, hs, rfl⟩
  | removePeer node =>
    refine h.of_frame (fun _ => rfl) (fun _ _ hc => (ChunkMap.find?_filter_eq_some.mp hc).1) ?_
    intro c n state hc hs
    have hn : n ≠ node := by simpa using (ChunkMap.find?_filter_eq_some.mp hc).2
    exact ⟨state, by simp [Client.step, Coordinator.removePeer, Function.update_noteq hn, hs], rfl⟩
  | markChunkReceived c =>
    exact h.of_frame (fun _ => rfl) (fun _ _ hc => hc) fun _ n state _ hs => ⟨state, hs, rfl⟩

theorem Stamped.init (evs : List (Int × ClientCall)) : Stamped evs Coordinator.init :=
  fun c n hc => by simp [Coordinator.init] at hc

/-- Every run from start-up keeps the in-flight map stamped. -/
theorem Stamped.after (nTotalChunks : Nat) (evs : List (Int × ClientCall)) :
    Stamped evs ((Client.init nTotalChunks).after evs).co := by
  induction evs using List.reverseRecOn with
  | nil => exact Stamped.init []
  | append_singleton evs e ih =>
    obtain ⟨t, call⟩ := e
    rw [Client.after_append_singleton]
    exact ih.step t call

/-! ### Reaping -/

theorem mem_getTimedOutRequests {co : Coordinator} {t : Int} {n : Int} {c : Nat} :
    (n, c) ∈ (co.getTimedOutRequests t).1 ↔
      co.mapChunkToNode.find? c = some n ∧ co.timedOut t (c, n) = true := by
  rw [ChunkMap.find?_eq_some_iff, ← List.mem_filter]
  simp only [Coordinator.getTimedOutRequests, List.mem_map]
  constructor
  · rintro ⟨⟨a, b⟩, he, hab⟩
    cases hab
    exact he
  · exact fun he => ⟨_, he, rfl⟩

theorem find?_getTimedOutRequests {co : Coordinator} {t : Int} {n : Int} {c : Nat} :
    (co.getTimedOutRequests t).2.mapChunkToNode.find? c = some n ↔
      co.mapChunkToNode.find? c = some n ∧ co.timedOut t (c, n) = false := by
  simp [Coordinator.getTimedOutRequests, ChunkMap.find?_filter_eq_some]

/-- In a stamped coordinator a chunk in flight times out when its peer's last request is more
    than `REQUEST_TIMEOUT_SEC` old. -/
theorem Stamped.timedOut {evs : List (Int × ClientCall)} {co : Coordinator}
    (h : Stamped evs co) {c : Nat} {n : Int} (hc : co.mapChunkToNode.find? c = some n)
    (t : Int) : ∃ τ, lastRequestTo n evs = some τ ∧
      co.timedOut t (c, n) = decide (t - τ > requestTimeoutSec) := by
  obtain ⟨state, hs, hτ⟩ := h c n hc
  exact ⟨_, hτ, by simp [Coordinator.timedOut, hs]⟩

/-- After any run from start-up, `GetTimedOutRequests` at `t` returns, and takes out of the
    in-flight map, exactly the chunks in flight whose peer's last `RecordRequest`, for whatever
    chunk, was more than `REQUEST_TIMEOUT_SEC` before `t`; every other chunk in flight stays. -/
theorem getTimedOutRequests_lastRequest (nTotalChunks : Nat) (evs : List (Int × ClientCall))
    (t : Int) (n : Int) (c : Nat) :
    ((n, c) ∈ (((Client.init nTotalChunks).after evs).co.getTimedOutRequests t).1 ↔
      ((Client.init nTotalChunks).after evs).co.mapChunkToNode.find? c = some n ∧
        ∃ τ, lastRequestTo n evs = some τ ∧ t - τ > requestTimeoutSec) ∧
    ((((Client.init nTotalChunks).after evs).co.getTimedOutRequests t).2.mapChunkToNode.find? c =
        some n ↔
      ((Client.init nTotalChunks).after evs).co.mapChunkToNode.find? c = some n ∧
        ∃ τ, lastRequestTo n evs = some τ ∧ t - τ ≤ requestTimeoutSec) := by
  rw [mem_getTimedOutRequests, find?_getTimedOutRequests]
  constructor <;> refine and_congr_right fun hc => ?_ <;>
    obtain ⟨τ, hτ, hto⟩ := (Stamped.after nTotalChunks evs).timedOut hc t <;>
    simp [hτ, hto]

/-- Peer `1` asked for chunk `0` at 1000 and for chunk `1` at 1050. -/
def askedTwice : Client :=
  (Client.init 2).after [(1000, .recordRequest 1 0), (1050, .recordRequest 1 1)]

/-- At 1100 the request for chunk `0`, made 100 seconds before, is neither returned nor taken
    out of flight: the request for chunk `1` renewed the peer's last request time. -/
theorem getTimedOutRequests_keeps_old_request :
    askedTwice.co.mapChunkToNode.find? 0 = some 1 ∧ (1100 : Int) - 1000 > requestTimeoutSec ∧
    (askedTwice.co.getTimedOutRequests 1100).1 = [] ∧
    (askedTwice.co.getTimedOutRequests 1100).2.mapChunkToNode.find? 0 = some 1 := by
  decide

/-! ### Reports -/

/-- An entry `c → n` of the in-flight map leaves it, in one call, exactly by a report for `c`
    from any peer, a request for `c` to another peer, the removal of `n`, or a reap that returns
    `(n, c)`. -/
theorem inFlight_leaves_iff (cl : Client) (t : Int) (call : ClientCall) (c : Nat) (n : Int)
    (h : cl.co.mapChunkToNode.find? c = some n) :
    (cl.step t call).co.mapChunkToNode.find? c ≠ some n ↔
      (∃ m, call = .recordSuccess m c ∨ call = .recordFailure m c) ∨
      (∃ m, m ≠ n ∧ call = .recordRequest m c) ∨ call = .removePeer n ∨
      (call = .getTimedOutRequests ∧ (n, c) ∈ (cl.co.getTimedOutRequests t).1) := by
  cases call with
  | selectPeerForNextChunk peers k =>
    simp [Client.step, (selectPeerForNextChunk_frame _ cl.co peers k t).1, h]
  | recordRequest m k =>
    by_cases hk : c = k <;> simp [Client.step, Coordinator.recordRequest, hk, h, eq_comm]
  | recordSuccess m k =>
    simp [Client.step, Coordinator.recordSuccess, ChunkMap.find?_erase_eq_some, h]
    exact eq_comm
  | recordFailure m k =>
    simp [Client.step, Coordinator.recordFailure, ChunkMap.find?_erase_eq_some, h]
    exact eq_comm
  | getTimedOutRequests =>
    simp [Client.step, find?_getTimedOutRequests, mem_getTimedOutRequests, h]
  | removePeer m =>
    simp [Client.step, Coordinator.removePeer, ChunkMap.find?_filter_eq_some, h]
    exact eq_comm
  | markChunkReceived k => simp [Client.step, h]

/-- Peer `1` was asked for chunk `0` at 10. -/
def askedOne : Client := (Client.init 1).after [(10, .recordRequest 1 0)]

/-- A failure of chunk `0` reported by peer `2` takes peer `1`'s request out of flight. -/
theorem inFlight_leaves_iff_otherPeer :
    askedOne.co.mapChunkToNode.find? 0 = some 1 ∧
    (askedOne.step 20 (.recordFailure 2 0)).co.mapChunkToNode.find? 0 ≠ some 1 :=
  have h : askedOne.co.mapChunkToNode.find? 0 = some 1 := by decide
  ⟨h, (inFlight_leaves_iff askedOne 20 (.recordFailure 2 0) 0 1 h).mpr (.inl ⟨2, .inr rfl⟩)⟩

/-- Peer `1`'s request for chunk `0`, cancelled by a failure peer `2` reports for it. -/
theorem recordFailure_cancels_other_peer :
    askedOne.co.mapChunkToNode.find? 0 = some 1 ∧
    ((Client.init 1).after
      [(10, .recordRequest 1 0), (20, .recordFailure 2 0)]).co.mapChunkToNode.find? 0 = none := by
  decide

/-! ### The selector's one chunk -/

/-- A download of two chunks after the selector, at 10, offered peer `1` chunk `0` and the
    handler recorded that request. -/
def stalled : Client :=
  (Client.init 2).after [(10, .selectPeerForNextChunk [1] 0), (10, .recordRequest 1 0)]

/-- The selector gave chunk `0` to peer `1` at 10. At 100, with chunk `1` missing and not in
    flight, one request in flight of twelve allowed, and the idle peer `2` offered, it returns
    `-1`: the first missing chunk is in flight. -/
theorem selectPeerForNextChunk_stalls :
    (selectPeerForNextChunk (some (DownloadState.init 2)) Coordinator.init [1] 0 10).1 = 1 ∧
    (selectPeerForNextChunk (some (DownloadState.init 2)) Coordinator.init [1] 0 10).2.1 = 0 ∧
    stalled.ds.isComplete = false ∧
    stalled.co.mapChunkToNode.size < maxConcurrentPeerRequests ∧
    stalled.ds.isChunkReceived 1 = false ∧ stalled.co.mapChunkToNode.find? 1 = none ∧
    Eligible (stalled.co.peerState 2) 100 ∧
    (selectPeerForNextChunk (some stalled.ds) stalled.co [2] 0 100).1 = -1 := by
  decide

end Snapshot

end Zclassic
