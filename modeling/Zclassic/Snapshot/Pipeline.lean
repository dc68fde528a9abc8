import Zclassic.Snapshot.Session

/-!
# The Depth of the Download Pipeline

`MAX_CONCURRENT_PEER_REQUESTS` lets the coordinator hold twelve chunks in flight, and the
comment on `SelectPeerForNextChunk` speaks of downloading from several peers at once. In a
session, where every request is one the selector offered, the in-flight map never holds more
than one chunk, and that chunk is the first one not received (`inFlight_at_most_one`).

The selector offers only `GetNextChunkToRequest`, the least chunk not received, and only while
it is not in flight. A chunk leaves the map when it is received, since the data that marks it
also reports it with `RecordSuccess`, and a received chunk stays received. So every chunk in
the map is missing, and every chunk below it was received when it was offered and still is
(`Queued`). Of two such chunks each would lie below the other.

## Main definitions

* `Queued`: Every chunk in flight is missing, and every chunk below it received.

## Theorems

* `ChunkMap.size_le_one`: A map with a single key has at most one entry.
* `isChunkReceived_of_markChunkReceived`: A received chunk stays received.
* `Queued.step`: Every event keeps the in-flight map queued.
* `inFlight_at_most_one`: Over every run, at most one chunk is in flight, the first missing.
-/

namespace Zclassic

namespace Snapshot

namespace ChunkMap

variable {V : Type}

/-- Keys are unique, so a map whose every entry has key `k` has at most one entry. -/
theorem size_le_one {m : ChunkMap V} {k : Nat} (h : ∀ c v, m.find? c = some v → c = k) :
    m.size ≤ 1 := by
  have hsorted : (m.entries.map Prod.fst).Sorted (· < ·) := List.pairwise_map.mpr m.sorted
  have hnd := hsorted.nodup
  have hrep : m.entries.map Prod.fst = List.replicate (m.entries.map Prod.fst).length k :=
    List.eq_replicate_iff.mpr ⟨rfl, fun c hc => by
      obtain ⟨e, he, rfl⟩ := List.mem_map.mp hc
      exact h e.1 e.2 (find?_eq_some_iff.mpr he)⟩
  rw [hrep, List.nodup_replicate, List.length_map] at hnd
  exact hnd

end ChunkMap

/-- A chunk received after `MarkChunkReceived(c)` is `c` or was received before. -/
theorem isChunkReceived_markChunkReceived {ds : DownloadState} {c j : Nat}
    (h : (ds.markChunkReceived c).isChunkReceived j = true) :
    j = c ∨ ds.isChunkReceived j = true := by
  unfold DownloadState.markChunkReceived at h
  split_ifs at h
  · by_cases hj : j = c
    · exact .inl hj
    · simp only [DownloadState.isChunkReceived, ChunkMap.find?_assign, if_neg hj] at h
      exact .inr h
  · exact .inr h

/-- A received chunk stays received. -/
theorem isChunkReceived_of_markChunkReceived {ds : DownloadState} {j : Nat}
    (h : ds.isChunkReceived j = true) (c : Nat) :
    (ds.markChunkReceived c).isChunkReceived j = true := by
  unfold DownloadState.markChunkReceived
  split_ifs
  · by_cases hj : j = c
    · simp [DownloadState.isChunkReceived, hj]
    · simpa [DownloadState.isChunkReceived, hj] using h
  · exact h

theorem find?_foldl_recordFailure {co : Coordinator} {l : List (Int × Nat)} {t : Int} {c : Nat}
    {n : Int} (h : (l.foldl (fun co e => co.recordFailure e.1 e.2 t) co).mapChunkToNode.find? c =
      some n) : co.mapChunkToNode.find? c = some n := by
  induction l generalizing co with
  | nil => exact h
  | cons e l ih => exact (ChunkMap.find?_erase_eq_some.mp (ih h)).1

variable {Addr : Type} [DecidableEq Addr]

/-- Every chunk in flight is one of the `N` chunks of the download, not received, and every
    chunk below it has been. -/
structure Queued (N : Nat) (s : Session Addr) : Prop where
  total : s.download.nTotalChunks = N
  inFlight : ∀ c node, s.coordinator.mapChunkToNode.find? c = some node →
    c < N ∧ s.download.isChunkReceived c = false ∧ ∀ j < c, s.download.isChunkReceived j = true

namespace Queued

variable {N : Nat} {s : Session Addr}

omit [DecidableEq Addr] in
/-- A step that keeps the download state and only takes chunks out of flight keeps the map
    queued. -/
theorem frame (h : Queued N s) {s' : Session Addr} (hds : s'.download = s.download)
    (hmap : ∀ c node, s'.coordinator.mapChunkToNode.find? c = some node →
      s.coordinator.mapChunkToNode.find? c = some node) : Queued N s' :=
  ⟨hds ▸ h.total, fun c node hc => hds ▸ h.inFlight c node (hmap c node hc)⟩

omit [DecidableEq Addr] in
/-- The in-flight chunks are the first missing one or none: each is missing and each lies
    below every other. -/
theorem eq_next (h : Queued N s) {c : Nat} {node : Int}
    (hc : s.coordinator.mapChunkToNode.find? c = some node) :
    c = s.download.getNextChunkToRequest := by
  obtain ⟨-, hmiss, hbelow⟩ := h.inFlight c node hc
  rcases DownloadState.getNextChunkToRequest_spec s.download with
    ⟨hcomp, -⟩ | ⟨-, -, hnext, hfirst⟩
  · have hlt := (h.inFlight c node hc).1
    rw [← h.total] at hlt
    simp [(DownloadState.isComplete_iff _).mp hcomp c hlt] at hmiss
  · rcases Nat.lt_trichotomy c s.download.getNextChunkToRequest with hlt | heq | hgt
    · simp [hfirst c hlt] at hmiss
    · exact heq
    · simp [hbelow _ hgt] at hnext

/-- Every event keeps the in-flight map queued. -/
theorem step (h : Queued N s) (me : Addr) (t : Int) (e : Event) : Queued N (s.step me t e).1 := by
  cases e with
  | request peers =>
    simp only [Session.step]
    have hsame := (selectPeerForNextChunk_frame (some s.download) s.coordinator peers 0 t).1
    split_ifs with hsel
    · exact h.frame rfl fun c node hc => hsame ▸ hc
    · rcases selectPeerForNextChunk_cases (some s.download) s.coordinator peers 0 t with
        ⟨h₁, -⟩ | ⟨d, hd, hinc, -, -, hr⟩
      · exact absurd h₁ hsel
      cases hd
      rcases DownloadState.getNextChunkToRequest_spec s.download with
        ⟨hcomp, -⟩ | ⟨-, hlt, hmiss, hfirst⟩
      · rw [hcomp] at hinc; cases hinc
      refine ⟨h.total, fun c node hc => ?_⟩
      simp only [hr, Coordinator.recordRequest, ChunkMap.find?_assign] at hc
      split_ifs at hc with hcn
      · subst hcn
        exact ⟨h.total ▸ hlt, hmiss, hfirst⟩
      · exact h.inFlight c node hc
  | deliverGetChunk i b =>
    simp only [Session.step]
    split
    · exact h.frame rfl fun _ _ hc => hc
    · exact h
  | deliverChunk i good =>
    simp only [Session.step]
    split
    · next node c' _ =>
      split_ifs
      · refine ⟨by rw [DownloadState.nTotalChunks_markChunkReceived, h.total], fun c n hc => ?_⟩
        obtain ⟨hc, hne⟩ := ChunkMap.find?_erase_eq_some.mp hc
        obtain ⟨hlt, hmiss, hbelow⟩ := h.inFlight c n hc
        refine ⟨hlt, ?_, fun j hj => isChunkReceived_of_markChunkReceived (hbelow j hj) c'⟩
        cases hr : (s.download.markChunkReceived c').isChunkReceived c
        · rfl
        · rcases isChunkReceived_markChunkReceived hr with rfl | hr'
          exacts [absurd rfl hne, by rw [hmiss] at hr'; cases hr']
      · exact h.frame rfl fun _ _ hc => (ChunkMap.find?_erase_eq_some.mp hc).1
    · exact h
  | lose _ | cleanup _ => exact h.frame rfl fun _ _ hc => hc
  | reap =>
    exact h.frame rfl fun _ _ hc =>
      (ChunkMap.find?_filter_eq_some.mp (find?_foldl_recordFailure hc)).1
  | removePeer k => exact h.frame rfl fun _ _ hc => (ChunkMap.find?_filter_eq_some.mp hc).1

omit [DecidableEq Addr] in
theorem init (t₀ : Int) (N : Nat) : Queued N (Session.init t₀ N : Session Addr) :=
  ⟨rfl, fun _ _ hc => by simp [Session.init, Coordinator.init] at hc⟩

end Queued

/-- Over every run of a session from start-up, with events in any order, at any times and with
    any messages lost, the client's coordinator has at most one chunk in flight, and that chunk
    is the first one not received, whatever `MAX_CONCURRENT_PEER_REQUESTS` allows. -/
theorem inFlight_at_most_one (me : Addr) (t₀ : Int) (N : Nat) (evs : List (Int × Event)) :
    ((Session.init t₀ N : Session Addr).after me evs).coordinator.mapChunkToNode.size ≤ 1 ∧
    ∀ c node, ((Session.init t₀ N : Session Addr).after me evs).coordinator.mapChunkToNode.find?
      c = some node → c < N ∧
        c = ((Session.init t₀ N : Session Addr).after me evs).download.getNextChunkToRequest := by
  have hq : Queued N ((Session.init t₀ N : Session Addr).after me evs) := by
    induction evs using List.reverseRecOn with
    | nil => exact Queued.init t₀ N
    | append_singleton evs e ih =>
      rw [Session.after_append_singleton]
      exact ih.step me e.1 e.2
  exact ⟨ChunkMap.size_le_one fun c _ hc => hq.eq_next hc,
    fun c node hc => ⟨(hq.inFlight c node hc).1, hq.eq_next hc⟩⟩

end Snapshot

end Zclassic
