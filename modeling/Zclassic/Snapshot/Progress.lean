import Zclassic.Snapshot.Pipeline
import Zclassic.Snapshot.Backoff
import Zclassic.Snapshot.Cleanup

/-!
# A Download Can Always Finish

Rate limits, bans, backoffs, duplicate suppression and the one-chunk pipeline each make a
client wait, and none of them makes it wait forever. From the session after any run, with
events in any order and at any times, with messages lost, bad data, bans, timeouts, server
cleanups and removed peers, a client with one serving peer that answers can still finish the
download: four events per missing chunk, all later than every event so far, are enough
(`download_completes`).

The argument bounds what the session remembers. `Settled T` says that no time the client, or a
serving peer about the client's address, has stored is after `T`, that no backoff or ban runs
past `T + 300`, that every chunk in flight is on a peer with a state, and that every serving
peer has its default limits and no transfer open. Every event at a time up to `T` keeps it
(`Settled.step`). At `T + 61` a reap finds every request timed out and empties the in-flight
map. At `T + 362` every backoff, ban, minimum interval, duplicate window and per-minute deque
has run out, so the selector offers the first missing chunk to the peer, the peer admits the
`GetChunk`, and the data that comes back marks the chunk received (`Settled.progress`).

Once the download is complete the client goes quiet: it stays complete whatever follows, and
the selector offers no peer, so no `GetChunk` is sent again (`quiet_after_complete`).

## Main definitions

* `PeerRequestInfo.Before`, `Coordinator.Settled`, `ServerSettled`, `Settled`: Nothing
  remembered after `T`.
* `progressBlock`: Reap, request, serve and deliver one chunk.
* `Later`: A run after a time, in time order, asking one peer.
* `DownloadState.missing`: The chunks not yet received.

## Theorems

* `admitPeer_default_of_before`: A `GetChunk` long after everything remembered is admitted.
* `Settled.step`: Every event up to `T` keeps the session settled at `T`.
* `Settled.progress`: The four events of `progressBlock` mark the first missing chunk received.
* `download_completes`: After every run, some later run completes the download.
* `quiet_after_complete`: A complete download stays complete, and the client sends no more
  requests.
-/

namespace Zclassic

namespace Snapshot

/-! ### Entries of a serving peer -/

/-- An entry that holds no time after `T`, and no ban past `T + 300`, the default
    `nBanDurationSec`. -/
structure PeerRequestInfo.Before (T : Int) (info : PeerRequestInfo) : Prop where
  requestTimes : ∀ τ ∈ info.requestTimes, τ ≤ T
  servedChunks : ∀ c τ, info.servedChunks c = some τ → τ ≤ T
  nLastRequestTime : info.nLastRequestTime ≤ T
  nBanUntil : info.nBanUntil ≤ T + 300

/-- `AllowRequest` leaves the ban time as it was, clears it with an expired ban, or sets a ban
    of `nBanDurationSec` from the time of the call. -/
theorem admitPeer_nBanUntil_cases (lim : Limits) (n : UInt32) (info : PeerRequestInfo) (c : Nat)
    (t : Int) :
    (admitPeer lim n info c t).2.nBanUntil = info.nBanUntil ∨
      (admitPeer lim n info c t).2.nBanUntil = 0 ∨
      (admitPeer lim n info c t).2.nBanUntil = t + lim.nBanDurationSec.toNat := by
  have hunban : info.unban.nBanUntil = info.nBanUntil ∨ info.unban.nBanUntil = 0 ∨
      info.unban.nBanUntil = t + lim.nBanDurationSec.toNat := by
    unfold PeerRequestInfo.unban; split <;> simp
  unfold admitPeer
  dsimp only
  split_ifs
  · exact .inl rfl
  · exact hunban
  · exact hunban
  split
  · exact hunban
  unfold admitWithinRate
  dsimp only
  split_ifs
  · exact .inr (.inr rfl)
  · exact hunban
  · exact hunban

theorem trimRequestTimes_eq_nil {t : Int} {l : List Int} (h : ∀ τ ∈ l, t - τ > 60) :
    trimRequestTimes t l = [] := by
  induction l with
  | nil => rfl
  | cons τ l ih =>
    rw [trimRequestTimes, if_pos (h τ (.head _))]
    exact ih fun τ' hτ' => h τ' (.tail _ hτ')

namespace PeerRequestInfo.Before

variable {T : Int} {info : PeerRequestInfo}

theorem mono (h : info.Before T) {T' : Int} (hT : T ≤ T') : info.Before T' :=
  ⟨fun τ hτ => (h.requestTimes τ hτ).trans hT, fun c τ hc => (h.servedChunks c τ hc).trans hT,
    h.nLastRequestTime.trans hT, h.nBanUntil.trans (Int.add_le_add_right hT 300)⟩

theorem empty (hT : 0 ≤ T) : PeerRequestInfo.empty.Before T :=
  ⟨fun _ h => (nomatch h), fun _ _ h => by simp [PeerRequestInfo.empty] at h, hT,
    by simp only [PeerRequestInfo.empty]; omega⟩

/-- `AllowRequest` under the default limits at a time up to `T` keeps the entry before `T`. -/
theorem admitPeer (h : info.Before T) (hT : 0 ≤ T) {t : Int} (ht : t ≤ T) (n : UInt32)
    (c : Nat) : (Snapshot.admitPeer .default n info c t).2.Before T := by
  refine ⟨fun τ hτ => ?_, fun c' τ hc => ?_, ?_, ?_⟩
  · rcases admitPeer_requestTimes .default n info c t with ⟨-, hm⟩ | ⟨-, hm⟩
    · exact h.requestTimes τ (hm τ hτ)
    · rcases hm τ hτ with hm | rfl
      exacts [h.requestTimes τ hm, ht]
  · exact h.servedChunks c' τ (by rwa [admitPeer_servedChunks] at hc)
  · rcases admitPeer_requestTimes .default n info c t with ⟨hl, -⟩ | ⟨hl, -⟩ <;> rw [hl]
    exacts [h.nLastRequestTime, ht]
  · have hdur : (Limits.default.nBanDurationSec.toNat : Int) = 300 := rfl
    rcases admitPeer_nBanUntil_cases .default n info c t with hb | hb | hb <;> rw [hb]
    · exact h.nBanUntil
    · omega
    · omega

end PeerRequestInfo.Before

/-- Under the default limits and with no transfer open, a `GetChunk` more than 300 seconds after
    every time an entry holds is admitted: its ban, minimum interval, duplicate window and
    per-minute deque have all run out. -/
theorem admitPeer_default_of_before {U : Int} {info : PeerRequestInfo} (h : info.Before U)
    {t : Int} (ht : U + 301 ≤ t) (c : Nat) :
    (admitPeer .default 0 info c t).1 = .allowed := by
  have hlast : info.unban.nLastRequestTime ≤ U := by
    rw [unban_nLastRequestTime]; exact h.nLastRequestTime
  have hwindow : (Limits.default.nDuplicateChunkWindowSec.toNat : Int) = 300 := rfl
  have hserved : info.unban.servedWithin c t Limits.default.nDuplicateChunkWindowSec.toNat =
      none := by
    unfold PeerRequestInfo.servedWithin
    rw [unban_servedChunks]
    cases hc : info.servedChunks c with
    | none => rfl
    | some τ =>
      have := h.servedChunks c τ hc
      exact if_neg (by omega)
  have htrim : trimRequestTimes t info.unban.requestTimes = [] :=
    trimRequestTimes_eq_nil fun τ hτ => by
      have := h.requestTimes τ (mem_of_mem_unban hτ); omega
  have hban := h.nBanUntil
  have hmin : (Limits.default.nMinSecondsBetweenRequests.toNat : Int) = 2 := rfl
  unfold admitPeer admitWithinRate
  rw [if_neg (by omega), if_neg (by decide), if_neg (by omega), hserved]
  dsimp only
  rw [htrim, if_neg (by decide)]

/-! ### Serving peers -/

variable {Addr : Type} [DecidableEq Addr]

/-- A serving peer with its default limits, no transfer open, and an entry for `me` that holds
    nothing after `T`. -/
structure ServerSettled (me : Addr) (T : Int) (srv : RateLimiter Addr) : Prop where
  limits : srv.limits = .default
  idle : srv.nActiveTransfers = 0
  entry : (srv.info me).Before T

omit [DecidableEq Addr] in
theorem ServerSettled.mono {me : Addr} {T T' : Int} {srv : RateLimiter Addr}
    (h : ServerSettled me T srv) (hT : T ≤ T') : ServerSettled me T' srv :=
  ⟨h.limits, h.idle, h.entry.mono hT⟩

omit [DecidableEq Addr] in
/-- `Cleanup` keeps the serving peer settled: it keeps the entry or leaves the empty one. -/
theorem ServerSettled.cleanup {me : Addr} {T : Int} {srv : RateLimiter Addr}
    (h : ServerSettled me T srv) (hT : 0 ≤ T) (t : Int) : ServerSettled me T (srv.cleanup t) := by
  refine ⟨(RateLimiter.cleanup_limits srv t).trans h.limits,
    (RateLimiter.cleanup_nActiveTransfers srv t).trans h.idle, ?_⟩
  rw [RateLimiter.info_cleanup]
  split_ifs
  exacts [h.entry, .empty hT]

/-- Serving a `GetChunk` from `me` at a time up to `T` keeps the serving peer settled: an
    admitted transfer is completed at once, and the chunk is recorded as served at that time. -/
theorem ServerSettled.serveGetChunk {me : Addr} {T : Int} {srv : RateLimiter Addr}
    (h : ServerSettled me T srv) (hT : 0 ≤ T) {t : Int} (ht : t ≤ T) (c b : Nat) :
    ServerSettled me T (Snapshot.serveGetChunk srv me c b t).2 := by
  have hentry := h.entry.admitPeer hT ht srv.nActiveTransfers c
  rw [← h.limits] at hentry
  have hfst : (srv.allowRequest me c t).1 =
      (admitPeer srv.limits srv.nActiveTransfers (srv.info me) c t).1 := rfl
  unfold Snapshot.serveGetChunk
  dsimp only
  split_ifs with ha <;> rw [hfst] at ha
  · refine ⟨by simp [h.limits], ?_, ?_⟩
    · have hone : ((srv.allowRequest me c t).2.recordServed me c b t).nActiveTransfers = 1 := by
        rw [RateLimiter.recordServed_nActiveTransfers]
        show (if (admitPeer srv.limits srv.nActiveTransfers (srv.info me) c t).1 = .allowed
          then srv.nActiveTransfers + 1 else srv.nActiveTransfers) = 1
        rw [if_pos ha, h.idle]
        rfl
      unfold RateLimiter.completeTransfer
      rw [hone, if_pos (by decide)]
      rfl
    · simp only [RateLimiter.completeTransfer_info, RateLimiter.info_recordServed, if_true,
        RateLimiter.info_allowRequest]
      refine ⟨hentry.requestTimes, fun c' τ hc => ?_, hentry.nLastRequestTime, hentry.nBanUntil⟩
      by_cases hc' : c' = c
      · subst hc'
        simp only [Function.update_same, Option.some.injEq] at hc
        exact hc ▸ ht
      · exact hentry.servedChunks c' τ (by simpa [Function.update_noteq hc'] using hc)
  · refine ⟨h.limits, ?_, ?_⟩
    · show (if (admitPeer srv.limits srv.nActiveTransfers (srv.info me) c t).1 = .allowed
        then srv.nActiveTransfers + 1 else srv.nActiveTransfers) = 0
      rw [if_neg ha, h.idle]
    · simpa using hentry

/-! ### The client's coordinator -/

/-- The coordinator holds no request time after `T` and no backoff past `T + 300`, and every
    chunk in flight is on a peer with a state. -/
structure Coordinator.Settled (T : Int) (co : Coordinator) : Prop where
  lastRequest : ∀ n, (co.peerState n).nLastRequestTime ≤ T
  backoff : ∀ n, (co.peerState n).nBackoffUntil ≤ T + 300
  hasState : ∀ c n, co.mapChunkToNode.find? c = some n → (co.mapPeerStates n).isSome

namespace Coordinator.Settled

variable {T : Int} {co : Coordinator}

theorem mono (h : co.Settled T) {T' : Int} (hT : T ≤ T') : co.Settled T' :=
  ⟨fun n => (h.lastRequest n).trans hT, fun n => (h.backoff n).trans (Int.add_le_add_right hT 300),
    h.hasState⟩

theorem init (hT : 0 ≤ T) : Coordinator.init.Settled T :=
  ⟨fun _ => hT, fun _ => by simp only [peerState_init, PeerDownloadState.empty]; omega,
    fun _ _ hc => by simp [Coordinator.init] at hc⟩

/-- A report keeps the in-flight map's peers with states: it gives its peer a state, changes
    no other, and only erases an entry. -/
theorem hasState_report {co' : Coordinator} (h : co.Settled T) {node : Int} {c : Nat}
    (hmap : co'.mapChunkToNode = co.mapChunkToNode.erase c)
    (hstates : ∀ n, n ≠ node → co'.mapPeerStates n = co.mapPeerStates n)
    (hnode : (co'.mapPeerStates node).isSome) :
    ∀ c' n, co'.mapChunkToNode.find? c' = some n → (co'.mapPeerStates n).isSome := by
  intro c' n hc
  rw [hmap, ChunkMap.find?_erase_eq_some] at hc
  by_cases hn : n = node
  · exact hn ▸ hnode
  · rw [hstates n hn]
    exact h.hasState c' n hc.1

theorem recordSuccess (h : co.Settled T) (hT : 0 ≤ T) (node : Int) (c : Nat) :
    (co.recordSuccess node c).Settled T := by
  refine ⟨fun n => ?_, fun n => ?_, h.hasState_report rfl
    (fun n hn => Function.update_noteq hn _ _) (by simp [Coordinator.recordSuccess])⟩
  · rw [lastRequest_recordSuccess]; exact h.lastRequest n
  · rw [peerState_recordSuccess]
    split_ifs
    · show (0 : Int) ≤ T + 300; omega
    · exact h.backoff n

theorem recordFailure (h : co.Settled T) {t : Int} (ht : t ≤ T) (node : Int) (c : Nat) :
    (co.recordFailure node c t).Settled T := by
  refine ⟨fun n => ?_, fun n => ?_, h.hasState_report rfl
    (fun n hn => Function.update_noteq hn _ _) (by simp [Coordinator.recordFailure])⟩
  · rw [lastRequest_recordFailure]; exact h.lastRequest n
  · rw [peerState_recordFailure]
    split_ifs
    · have := backoffTime_le ((co.peerState node).nConsecutiveFailures + 1)
      show t + _ ≤ T + 300; omega
    · exact h.backoff n

theorem recordRequest (h : co.Settled T) {t : Int} (ht : t ≤ T) (node : Int) (c : Nat) :
    (co.recordRequest node c t).Settled T := by
  refine ⟨fun n => ?_, fun n => ?_, fun c' n hc => ?_⟩
  · rw [peerState_recordRequest]
    split_ifs
    exacts [ht, h.lastRequest n]
  · rw [peerState_recordRequest]
    split_ifs
    exacts [h.backoff node, h.backoff n]
  · change (co.mapChunkToNode.assign c node).find? c' = some n at hc
    show (Function.update co.mapPeerStates node _ n).isSome
    rw [ChunkMap.find?_assign] at hc
    by_cases hn : n = node
    · rw [hn, Function.update_same]; rfl
    · rw [Function.update_noteq hn]
      split_ifs at hc
      · exact absurd (Option.some.inj hc).symm hn
      · exact h.hasState c' n hc

theorem removePeer (h : co.Settled T) (hT : 0 ≤ T) (node : Int) :
    (co.removePeer node).Settled T := by
  refine ⟨fun n => ?_, fun n => ?_, fun c n hc => ?_⟩
  · rw [peerState_removePeer]
    split_ifs
    exacts [hT, h.lastRequest n]
  · rw [peerState_removePeer]
    split_ifs
    · show (0 : Int) ≤ T + 300; omega
    · exact h.backoff n
  · obtain ⟨hc, hn⟩ := ChunkMap.find?_filter_eq_some.mp hc
    show (Function.update co.mapPeerStates node none n).isSome
    rw [Function.update_noteq (by simpa using hn)]
    exact h.hasState c n hc

theorem foldl_recordFailure (h : co.Settled T) {t : Int} (ht : t ≤ T) (l : List (Int × Nat)) :
    (l.foldl (fun co e => co.recordFailure e.1 e.2 t) co).Settled T := by
  induction l generalizing co with
  | nil => exact h
  | cons e l ih => exact ih (h.recordFailure ht e.1 e.2)

theorem getTimedOutRequests (h : co.Settled T) (t : Int) : (co.getTimedOutRequests t).2.Settled T :=
  ⟨h.lastRequest, h.backoff, fun c n hc =>
    h.hasState c n (ChunkMap.find?_filter_eq_some.mp hc).1⟩

theorem select (h : co.Settled T) (ds : Option DownloadState) (peers : List Int) (k : Nat)
    (t : Int) : (selectPeerForNextChunk ds co peers k t).2.2.Settled T := by
  obtain ⟨-, hstate⟩ := selectPeerForNextChunk_eligible ds co peers k t
  obtain ⟨hmap, hkeep⟩ := selectPeerForNextChunk_frame ds co peers k t
  refine ⟨fun n => hstate ▸ h.lastRequest n, fun n => hstate ▸ h.backoff n, fun c n hc => ?_⟩
  rw [hmap] at hc
  obtain ⟨state, hs⟩ := Option.isSome_iff_exists.mp (h.hasState c n hc)
  rw [hkeep n state hs]
  rfl

end Coordinator.Settled

/-! ### Sessions -/

/-- Nothing the session remembers is after `T`. -/
structure Settled (me : Addr) (T : Int) (s : Session Addr) : Prop where
  nonneg : 0 ≤ T
  coordinator : s.coordinator.Settled T
  servers : ∀ n, ServerSettled me T (s.servers n)

namespace Settled

variable {me : Addr} {T : Int} {s : Session Addr}

omit [DecidableEq Addr] in
theorem mono (h : Settled me T s) {T' : Int} (hT : T ≤ T') : Settled me T' s :=
  ⟨h.nonneg.trans hT, h.coordinator.mono hT, fun n => (h.servers n).mono hT⟩

omit [DecidableEq Addr] in
theorem init (hT : 0 ≤ T) (t₀ : Int) (N : Nat) : Settled me T (Session.init t₀ N : Session Addr) :=
  ⟨hT, .init hT, fun _ => ⟨rfl, rfl, .empty hT⟩⟩

/-- Every event up to `T` keeps the session settled at `T`. -/
theorem step (h : Settled me T s) {t : Int} (ht : t ≤ T) (e : Event) :
    Settled me T (s.step me t e).1 := by
  cases e with
  | request peers =>
    simp only [Session.step]
    have hsel := h.coordinator.select (some s.download) peers 0 t
    split_ifs
    · exact ⟨h.nonneg, hsel, h.servers⟩
    · exact ⟨h.nonneg, hsel.recordRequest ht _ _, h.servers⟩
  | deliverGetChunk i b =>
    simp only [Session.step]
    split
    · next node c σ _ =>
      refine ⟨h.nonneg, h.coordinator, fun n => ?_⟩
      dsimp only
      by_cases hn : n = node
      · subst hn
        rw [Function.update_same]
        exact (h.servers n).serveGetChunk h.nonneg ht c b
      · rw [Function.update_noteq hn]
        exact h.servers n
    · exact h
  | deliverChunk i good =>
    simp only [Session.step]
    split
    · split_ifs
      · exact ⟨h.nonneg, h.coordinator.recordSuccess h.nonneg _ _, h.servers⟩
      · exact ⟨h.nonneg, h.coordinator.recordFailure ht _ _, h.servers⟩
    · exact h
  | lose i => exact ⟨h.nonneg, h.coordinator, h.servers⟩
  | reap =>
    exact ⟨h.nonneg, (h.coordinator.getTimedOutRequests t).foldl_recordFailure ht _, h.servers⟩
  | cleanup k =>
    refine ⟨h.nonneg, h.coordinator, fun n => ?_⟩
    show ServerSettled me T (Function.update s.servers k ((s.servers k).cleanup t) n)
    rw [Function.update_apply]
    split_ifs with hn
    · subst hn; exact (h.servers n).cleanup h.nonneg t
    · exact h.servers n
  | removePeer k => exact ⟨h.nonneg, h.coordinator.removePeer h.nonneg k, h.servers⟩

/-- Every run of events up to `T` keeps the session settled at `T`. -/
theorem after (h : Settled me T s) {evs : List (Int × Event)} (hT : ∀ e ∈ evs, e.1 ≤ T) :
    Settled me T (s.after me evs) := by
  induction evs generalizing s with
  | nil => exact h
  | cons e evs ih =>
    exact ih (h.step (hT e (.head _)) e.2) fun e' he' => hT e' (.tail _ he')

end Settled

/-! ### One more chunk -/

/-- The selector with an empty in-flight map and one eligible peer offers that peer the first
    chunk not received. -/
theorem selectPeerForNextChunk_single {ds : DownloadState} {co : Coordinator} {p : Int}
    {t : Int} (hinc : ds.isComplete = false) (hempty : ∀ c, co.mapChunkToNode.find? c = none)
    (hel : Eligible (co.peerState p) t) (k : Nat) :
    (selectPeerForNextChunk (some ds) co [p] k t).1 = p ∧
      (selectPeerForNextChunk (some ds) co [p] k t).2.1 = ds.getNextChunkToRequest := by
  have hsize : co.mapChunkToNode.size = 0 := by
    cases he : co.mapChunkToNode.entries with
    | nil => simp [ChunkMap.size, he]
    | cons e es =>
      have := hempty e.1
      rw [ChunkMap.find?_eq_some_iff.mpr (he ▸ List.mem_cons_self e es)] at this
      cases this
  obtain ⟨hback, hmin⟩ := hel
  simp only [selectPeerForNextChunk, List.isEmpty_cons, hinc, hempty, hsize, Option.isSome_none,
    Bool.false_eq_true, if_false, show ¬maxConcurrentPeerRequests ≤ 0 by decide, selectLoop,
    not_lt.mpr hback, not_lt.mpr hmin, true_or, if_true]
  constructor <;> trivial

/-- What a request that finds a peer does: it sends `GetChunk` for the chunk the selector
    offered, and changes neither the download nor the serving peers. -/
theorem step_request_sent (me : Addr) (s : Session Addr) (peers : List Int) (t : Int) {p : Int}
    (hsel : (selectPeerForNextChunk (some s.download) s.coordinator peers 0 t).1 = p)
    (hp : p ≠ -1) :
    (s.step me t (.request peers)).1.network = s.network ++
      [.getChunk p (selectPeerForNextChunk (some s.download) s.coordinator peers 0 t).2.1 t] ∧
    (s.step me t (.request peers)).1.download = s.download ∧
    (s.step me t (.request peers)).1.servers = s.servers := by
  simp [Session.step, hsel, hp]

/-- A `GetChunk` that its serving peer admits is answered with the chunk at the end of the
    network. -/
theorem step_deliverGetChunk_allowed (me : Addr) (s : Session Addr) (i b : Nat) (t : Int)
    {node : Int} {c : Nat} {σ : Int} (hi : s.network[i]? = some (.getChunk node c σ))
    (ha : (serveGetChunk (s.servers node) me c b t).1 = .allowed) :
    (s.step me t (.deliverGetChunk i b)).1.network = s.network.eraseIdx i ++ [.chunk node c] ∧
    (s.step me t (.deliverGetChunk i b)).1.download = s.download := by
  simp [Session.step, hi, ha]

theorem step_deliverChunk_good (me : Addr) (s : Session Addr) (i : Nat) (t : Int) {node : Int}
    {c : Nat} (hi : s.network[i]? = some (.chunk node c)) :
    (s.step me t (.deliverChunk i true)).1.download = s.download.markChunkReceived c := by
  simp [Session.step, hi]

/-- Reap at `T + 61`; then at `T + 362` request from `p` alone, serve the `GetChunk` that
    lands at position `i` of the network, and deliver the chunk that comes back there. -/
def progressBlock (T p : Int) (i : Nat) : List (Int × Event) :=
  [(T + 61, .reap), (T + 362, .request [p]), (T + 362, .deliverGetChunk i 0),
    (T + 362, .deliverChunk i true)]

/-- From a settled session with chunks missing, `progressBlock` to a peer `p` marks the first
    missing chunk received: the reap empties the in-flight map, the peer is out of backoff, and
    its serving side admits the request. -/
theorem Settled.progress {me : Addr} {T : Int} {s : Session Addr} (h : Settled me T s)
    (hinc : s.download.isComplete = false) {p : Int} (hp : p ≠ -1) :
    (s.after me (progressBlock T p s.network.length)).download =
      s.download.markChunkReceived s.download.getNextChunkToRequest := by
  -- The reap at `T + 61` gives up on every request.
  set s₁ := (s.step me (T + 61) .reap).1 with hs₁
  have hnet₁ : s₁.network = s.network := rfl
  have hinc₁ : s₁.download.isComplete = false := hinc
  have hco₁ : s₁.coordinator.Settled (T + 61) :=
    ((h.mono (show T ≤ T + 61 by omega)).step le_rfl .reap).coordinator
  have hempty : ∀ c, s₁.coordinator.mapChunkToNode.find? c = none := by
    intro c
    cases hc : s₁.coordinator.mapChunkToNode.find? c with
    | none => rfl
    | some n =>
      obtain ⟨hc, hkeep⟩ := find?_getTimedOutRequests.mp (find?_foldl_recordFailure hc)
      obtain ⟨state, hs⟩ := Option.isSome_iff_exists.mp (h.coordinator.hasState c n hc)
      have hlast := h.coordinator.lastRequest n
      simp only [Coordinator.peerState, hs, Option.getD_some] at hlast
      simp only [Coordinator.timedOut, hs, requestTimeoutSec, decide_eq_false_iff_not] at hkeep
      omega
  -- At `T + 362` the selector offers the first missing chunk to `p`.
  have hel : Eligible (s₁.coordinator.peerState p) (T + 362) := by
    have := hco₁.backoff p
    have := hco₁.lastRequest p
    exact ⟨by omega, by simp only [minSecondsBetweenRequests]; omega⟩
  obtain ⟨hsel, hchunk⟩ := selectPeerForNextChunk_single hinc₁ hempty hel 0
  obtain ⟨hnet₂, hds₂, hsrv₂⟩ := step_request_sent me s₁ [p] (T + 362) hsel hp
  rw [hchunk, hnet₁] at hnet₂
  set s₂ := (s₁.step me (T + 362) (.request [p])).1 with hs₂
  -- Its serving side admits the `GetChunk`.
  have hsrv : ServerSettled me T (s₂.servers p) := by rw [hsrv₂]; exact h.servers p
  have ha : (serveGetChunk (s₂.servers p) me s₁.download.getNextChunkToRequest 0
      (T + 362)).1 = .allowed := by
    rw [serveGetChunk_fst, hsrv.limits, hsrv.idle]
    exact admitPeer_default_of_before hsrv.entry (by omega) _
  have hi₂ : s₂.network[s.network.length]? =
      some (.getChunk p s₁.download.getNextChunkToRequest (T + 362)) := by
    rw [hnet₂]; exact List.getElem?_concat_length _ _
  obtain ⟨hnet₃, hds₃⟩ := step_deliverGetChunk_allowed me s₂ s.network.length 0 (T + 362) hi₂ ha
  set s₃ := (s₂.step me (T + 362) (.deliverGetChunk s.network.length 0)).1 with hs₃
  -- The data marks the chunk received.
  have hi₃ : s₃.network[s.network.length]? = some (.chunk p s₁.download.getNextChunkToRequest) := by
    rw [hnet₃, hnet₂, List.eraseIdx_append_of_length_le (Nat.le_refl _), Nat.sub_self]
    simp
  have hds₄ := step_deliverChunk_good me s₃ s.network.length (T + 362) hi₃
  simp only [progressBlock, Session.after, List.foldl_cons, List.foldl_nil]
  rw [← hs₁, ← hs₂, ← hs₃, hds₄, hds₃, hds₂]
  rfl

/-! ### The whole download -/

/-- The chunks below the total that have not been received. -/
def DownloadState.missing (ds : DownloadState) : List Nat :=
  (List.range ds.nTotalChunks).filter fun i => !ds.isChunkReceived i

theorem isChunkReceived_markChunkReceived_self {ds : DownloadState} {c : Nat}
    (hc : c < ds.nTotalChunks) : (ds.markChunkReceived c).isChunkReceived c = true := by
  simp [DownloadState.markChunkReceived, hc, DownloadState.isChunkReceived]

/-- Marking the first missing chunk received leaves fewer chunks missing. -/
theorem missing_markChunkReceived_lt {ds : DownloadState} (hinc : ds.isComplete = false) :
    (ds.markChunkReceived ds.getNextChunkToRequest).missing.length < ds.missing.length := by
  rcases DownloadState.getNextChunkToRequest_spec ds with ⟨hc, -⟩ | ⟨-, hlt, hmiss, -⟩
  · rw [hinc] at hc; cases hc
  have hsub : (ds.markChunkReceived ds.getNextChunkToRequest).missing.Sublist ds.missing := by
    unfold DownloadState.missing
    rw [DownloadState.nTotalChunks_markChunkReceived]
    refine List.monotone_filter_right _ fun i hi => ?_
    cases hr : ds.isChunkReceived i
    · rfl
    · simp [isChunkReceived_of_markChunkReceived hr] at hi
  refine lt_of_le_of_ne hsub.length_le fun heq => ?_
  have hmem : ds.getNextChunkToRequest ∈ ds.missing := by simp [DownloadState.missing, hlt, hmiss]
  rw [← hsub.eq_of_length heq] at hmem
  simp [DownloadState.missing, isChunkReceived_markChunkReceived_self hlt] at hmem

/-- A run of events after `T`, in time order, whose requests go to `p` alone. -/
def Later (T p : Int) (more : List (Int × Event)) : Prop :=
  (∀ e ∈ more, T < e.1) ∧ (more.map Prod.fst).Sorted (· ≤ ·) ∧
    ∀ e ∈ more, ∀ peers, e.2 = .request peers → peers = [p]

/-- A later run up to `T'` followed by a run later than `T'` is a later run. -/
theorem Later.append {T T' p : Int} {block more : List (Int × Event)} (hb : Later T p block)
    (hT' : ∀ e ∈ block, e.1 ≤ T') (hm : Later T' p more) (hT : T ≤ T') :
    Later T p (block ++ more) := by
  obtain ⟨hb₁, hb₂, hb₃⟩ := hb
  obtain ⟨hm₁, hm₂, hm₃⟩ := hm
  refine ⟨fun e he => ?_, ?_, fun e he => ?_⟩
  · rcases List.mem_append.mp he with he | he
    exacts [hb₁ e he, lt_of_le_of_lt hT (hm₁ e he)]
  · rw [List.map_append]
    refine List.pairwise_append.mpr ⟨hb₂, hm₂, ?_⟩
    simp only [List.mem_map]
    rintro _ ⟨e, he, rfl⟩ _ ⟨e', he', rfl⟩
    exact (hT' e he).trans (hm₁ e' he').le
  · rcases List.mem_append.mp he with he | he
    exacts [hb₃ e he, hm₃ e he]

theorem progressBlock_later (T p : Int) (i : Nat) :
    Later T p (progressBlock T p i) ∧ ∀ e ∈ progressBlock T p i, e.1 ≤ T + 362 := by
  refine ⟨⟨?_, by simp [progressBlock], ?_⟩, ?_⟩ <;> simp [progressBlock]

/-- From a settled session, some later run with requests to `p` alone completes the download:
    each `progressBlock` receives one more chunk, and leaves the session settled at `T + 362`. -/
theorem Settled.completes {me : Addr} {p : Int} (hp : p ≠ -1) :
    ∀ (k : Nat) (T : Int) (s : Session Addr), s.download.missing.length = k → Settled me T s →
      ∃ more, Later T p more ∧ (s.after me more).download.isComplete = true := by
  intro k
  induction k using Nat.strong_induction_on with
  | _ k ih =>
    intro T s hk h
    cases hinc : s.download.isComplete
    · obtain ⟨hlater, hbound⟩ := progressBlock_later T p s.network.length
      have hlt := missing_markChunkReceived_lt hinc
      rw [← h.progress hinc hp, hk] at hlt
      obtain ⟨more, hmore, hdone⟩ := ih _ hlt (T + 362) _ rfl
        ((h.mono (by omega : T ≤ T + 362)).after hbound)
      refine ⟨_ ++ more, hlater.append hbound hmore (by omega), ?_⟩
      rw [Session.after, List.foldl_append]
      exact hdone
    · exact ⟨[], ⟨fun _ h => (nomatch h), .nil, fun _ h => (nomatch h)⟩, hinc⟩

/-- After every run of a session from start-up, with events in any order, at any times, with
    messages lost, bad data, bans and timed-out requests, a client with one serving peer `p`
    that answers can still complete the download: some run of later events, in time order,
    requesting from `p` alone, ends with every chunk received. -/
theorem download_completes (me : Addr) (t₀ : Int) (N : Nat) (evs : List (Int × Event))
    (T p : Int) (hT0 : 0 ≤ T) (hT : ∀ e ∈ evs, e.1 ≤ T) (hp : p ≠ -1) :
    ∃ more : List (Int × Event), (∀ e ∈ more, T < e.1) ∧ (more.map Prod.fst).Sorted (· ≤ ·) ∧
      (∀ e ∈ more, ∀ peers, e.2 = .request peers → peers = [p]) ∧
      ((Session.init t₀ N : Session Addr).after me (evs ++ more)).download.isComplete = true := by
  obtain ⟨more, ⟨hlater, hsorted, hpeers⟩, hdone⟩ := Settled.completes hp _ T _ rfl
    ((Settled.init hT0 t₀ N : Settled me T (Session.init t₀ N : Session Addr)).after hT)
  refine ⟨more, hlater, hsorted, hpeers, ?_⟩
  rw [Session.after, List.foldl_append]
  exact hdone

/-- A first request whose data comes back bad: the peer now backs off, and its serving side
    would refuse the same chunk again as already served. -/
def badFirstChunk : List (Int × Event) :=
  [(100, .request [5]), (100, .deliverGetChunk 0 0), (100, .deliverChunk 0 false)]

theorem download_completes_after_bad_data :
    (0 : Int) ≤ 100 ∧ (∀ e ∈ badFirstChunk, e.1 ≤ 100) ∧ (5 : Int) ≠ -1 ∧
    ∃ more : List (Int × Event), (∀ e ∈ more, (100 : Int) < e.1) ∧
      (more.map Prod.fst).Sorted (· ≤ ·) ∧
      (∀ e ∈ more, ∀ peers, e.2 = .request peers → peers = [5]) ∧
      ((Session.init 0 1 : Session Nat).after 0 (badFirstChunk ++ more)).download.isComplete =
        true :=
  ⟨by decide, by decide, by decide,
    download_completes 0 0 1 badFirstChunk 100 5 (by decide) (by decide) (by decide)⟩

/-! ### After the download -/

/-- A complete download stays complete. -/
theorem isComplete_markChunkReceived {ds : DownloadState} (hc : ds.isComplete = true) (c : Nat) :
    (ds.markChunkReceived c).isComplete = true := by
  rw [DownloadState.isComplete_iff] at hc ⊢
  rw [DownloadState.nTotalChunks_markChunkReceived]
  exact fun i hi => isChunkReceived_of_markChunkReceived (hc i hi) c

/-- With the download complete, every event keeps it complete and sends no `GetChunk`: the
    selector offers no peer, and every other event takes messages out of flight or answers a
    `GetChunk` with data. -/
theorem step_complete (me : Addr) {s : Session Addr} (hc : s.download.isComplete = true) (t : Int)
    (e : Event) :
    (s.step me t e).1.download.isComplete = true ∧ ∀ node c σ,
      Message.getChunk node c σ ∈ (s.step me t e).1.network → .getChunk node c σ ∈ s.network := by
  cases e with
  | request peers =>
    rcases selectPeerForNextChunk_cases (some s.download) s.coordinator peers 0 t with
      ⟨h₁, -⟩ | ⟨d, hd, hinc, -⟩
    · simp only [Session.step, h₁, if_true]
      exact ⟨hc, fun _ _ _ h => h⟩
    · cases hd
      rw [hc] at hinc
      cases hinc
  | deliverGetChunk i b =>
    simp only [Session.step]
    split
    · refine ⟨hc, fun node c σ hm => ?_⟩
      rcases List.mem_append.mp hm with hm | hm
      · exact List.mem_of_mem_eraseIdx hm
      · split_ifs at hm <;> simp at hm
    · exact ⟨hc, fun _ _ _ h => h⟩
  | deliverChunk i good =>
    simp only [Session.step]
    split
    · split_ifs
      · exact ⟨isComplete_markChunkReceived hc _, fun _ _ _ h => List.mem_of_mem_eraseIdx h⟩
      · exact ⟨hc, fun _ _ _ h => List.mem_of_mem_eraseIdx h⟩
    · exact ⟨hc, fun _ _ _ h => h⟩
  | lose i => exact ⟨hc, fun _ _ _ h => List.mem_of_mem_eraseIdx h⟩
  | reap | cleanup _ | removePeer _ => exact ⟨hc, fun _ _ _ h => h⟩

/-- Once a session's download is complete it stays complete, whatever events follow, and the
    client sends no more `GetChunk`: every request in flight at any later point was already in
    flight when the download completed. -/
theorem quiet_after_complete (me : Addr) (s : Session Addr) (hc : s.download.isComplete = true)
    (evs : List (Int × Event)) :
    (s.after me evs).download.isComplete = true ∧ ∀ node c σ,
      Message.getChunk node c σ ∈ (s.after me evs).network → .getChunk node c σ ∈ s.network := by
  induction evs generalizing s with
  | nil => exact ⟨hc, fun _ _ _ h => h⟩
  | cons e evs ih =>
    obtain ⟨hc', hstep⟩ := step_complete me hc e.1 e.2
    obtain ⟨hdone, hsent⟩ := ih _ hc'
    exact ⟨hdone, fun node c σ h => hstep node c σ (hsent node c σ h)⟩

/-- A one-chunk download fetched from peer `5` at time 100. -/
def oneChunk : List (Int × Event) :=
  [(100, .request [5]), (100, .deliverGetChunk 0 0), (100, .deliverChunk 0 true)]

/-- After the one-chunk download, requests at 200 and 700 and a reap between them send
    nothing. -/
theorem quiet_after_one_chunk :
    ((Session.init 0 1 : Session Nat).after 0 oneChunk).download.isComplete = true ∧
    (((Session.init 0 1 : Session Nat).after 0 oneChunk).after 0
        [(200, .request [5]), (400, .reap), (700, .request [5, 6])]).download.isComplete = true ∧
    ∀ node c σ, Message.getChunk node c σ ∈ (((Session.init 0 1 : Session Nat).after 0
        oneChunk).after 0 [(200, .request [5]), (400, .reap), (700, .request [5, 6])]).network →
      .getChunk node c σ ∈ ((Session.init 0 1 : Session Nat).after 0 oneChunk).network :=
  have hc : ((Session.init 0 1 : Session Nat).after 0 oneChunk).download.isComplete = true := by
    decide
  ⟨hc, quiet_after_complete 0 _ hc _⟩

end Snapshot

end Zclassic
