import Mathlib.Data.Finset.Card
import Mathlib.Data.List.Sort
import Mathlib.Logic.Function.Basic

/-!
# The Download Coordinator

The client side of snapshot download. `CSnapshotDownloadState` records which chunks have
arrived; `CSnapshotDownloadCoordinator` decides whom to ask for the next chunk and keeps, per
serving peer, the time of the last request to it and a backoff after failures, and, per chunk
in flight, the peer it was asked of.

`SelectPeerForNextChunk` asks for the first chunk not yet received, and only if that chunk is
not already in flight. Among the peers offered it takes one out of backoff and at least
`MIN_SECONDS_BETWEEN_REQUESTS` seconds past its last request, the least recently asked one
first. `RecordFailure` backs a peer off for 10, 30, 60 or 300 seconds as its consecutive
failures grow, and `GetTimedOutRequests` gives up on requests older than 60 seconds.

The `std::map`s the coordinator iterates or counts are `ChunkMap`s: their entries in increasing
key order, with that order as a field. The maps it only looks up are functions. The clock is
passed to each method.

The bitmap is fixed by the set of chunk numbers that arrived below the total, whatever their
order and repetitions, because a `ChunkMap`'s sorted keys are fixed by its members; its count,
`IsComplete` and `GetNextChunkToRequest` agree on it (`markAll_queries`). The selector returns
an offered eligible peer asked no more recently than any other, for the first chunk not
received (`selectPeerForNextChunk_fair`). That needs only that no peer offered is `-1`, the
value its loop uses for "none yet", which no node id is; with no eligible peer offered it
returns `-1` whatever the list.

## Main definitions

* `ChunkMap`: A `std::map` keyed by chunk number.
* `DownloadState`: `CSnapshotDownloadState` and its queries.
* `PeerDownloadState`, `Coordinator`: The coordinator's state.
* `selectPeerForNextChunk`, `Coordinator.recordRequest`, `Coordinator.recordSuccess`,
  `Coordinator.recordFailure`, `Coordinator.getPeerBackoff`, `Coordinator.getTimedOutRequests`,
  `Coordinator.removePeer`: Its methods.

## Theorems

* `Marks.keys_eq`: The bitmap's chunks are those below the total that arrived.
* `markAll_queries`: The bitmap's queries agree, for every arrival order.
* `getNextChunkToRequest_spec`: The next chunk is the least one not received.
* `selectLoop_eq_or_eligible`: The peer loop keeps its best peer or picks an offered peer out of
  backoff and past the minimum interval.
* `selectPeerForNextChunk_eligible`: So does `SelectPeerForNextChunk`.
* `selectPeerForNextChunk_fair`: It picks the eligible peer asked least recently.
* Frame lemmas: which methods touch the last request time of a peer.
-/

namespace Zclassic

namespace Snapshot

/-! ### Maps keyed by chunk number -/

/-- A `std::map` keyed by a `uint32_t` chunk number: its entries in increasing key order. -/
structure ChunkMap (V : Type) where
  entries : List (Nat × V)
  sorted : entries.Pairwise fun a b => a.1 < b.1

namespace ChunkMap

variable {V : Type}

/-- The empty map. -/
def empty : ChunkMap V := ⟨[], .nil⟩

/-- `map.find(k)`: the value at `k`, if any. -/
def find? (m : ChunkMap V) (k : Nat) : Option V :=
  (m.entries.find? fun e => e.1 == k).map Prod.snd

/-- `map.size()`. -/
def size (m : ChunkMap V) : Nat := m.entries.length

/-- The entries with `(k, v)` put in its place by key, replacing an entry at `k`. -/
def insertEntry (k : Nat) (v : V) : List (Nat × V) → List (Nat × V)
  | [] => [(k, v)]
  | e :: es => if k < e.1 then (k, v) :: e :: es else if k = e.1 then (k, v) :: es
    else e :: insertEntry k v es

theorem mem_insertEntry {k : Nat} {v : V} {e : Nat × V} {es : List (Nat × V)}
    (h : e ∈ insertEntry k v es) : e = (k, v) ∨ e ∈ es := by
  induction es with
  | nil => simpa [insertEntry] using h
  | cons e' es ih =>
    unfold insertEntry at h
    split_ifs at h
    · simpa using h
    · simp only [List.mem_cons] at h; tauto
    · simp only [List.mem_cons] at h
      rcases h with rfl | h
      · exact .inr (.head _)
      · exact (ih h).imp id (.tail _)

theorem pairwise_insertEntry (k : Nat) (v : V) {es : List (Nat × V)}
    (h : es.Pairwise fun a b => a.1 < b.1) :
    (insertEntry k v es).Pairwise fun a b => a.1 < b.1 := by
  induction es with
  | nil => exact List.pairwise_singleton _ _
  | cons e es ih =>
    rw [List.pairwise_cons] at h
    unfold insertEntry
    split_ifs with hlt heq
    · exact .cons (fun b hb => by
        rcases List.mem_cons.mp hb with rfl | hb
        exacts [hlt, Nat.lt_trans hlt (h.1 b hb)]) (.cons h.1 h.2)
    · exact .cons (fun b hb => heq ▸ h.1 b hb) h.2
    · refine .cons (fun b hb => ?_) (ih h.2)
      rcases mem_insertEntry hb with rfl | hb
      exacts [by dsimp only; omega, h.1 b hb]

theorem mem_insertEntry_self (k : Nat) (v : V) (es : List (Nat × V)) :
    (k, v) ∈ insertEntry k v es := by
  induction es with
  | nil => exact .head _
  | cons e es ih =>
    unfold insertEntry
    split_ifs
    · exact .head _
    · exact .head _
    · exact .tail _ ih

theorem mem_insertEntry_of_mem {k : Nat} {v : V} {e : Nat × V} {es : List (Nat × V)}
    (he : e ∈ es) (hk : e.1 ≠ k) : e ∈ insertEntry k v es := by
  induction es with
  | nil => cases he
  | cons e' es ih =>
    unfold insertEntry
    split_ifs with hlt heq
    · exact .tail _ he
    · rcases List.mem_cons.mp he with rfl | he
      · exact absurd heq.symm hk
      · exact .tail _ he
    · rcases List.mem_cons.mp he with rfl | he
      · exact .head _
      · exact .tail _ (ih he)

/-- `map[k] = v`. -/
def assign (m : ChunkMap V) (k : Nat) (v : V) : ChunkMap V :=
  ⟨insertEntry k v m.entries, pairwise_insertEntry k v m.sorted⟩

/-- The entries that satisfy `p`, in order: what an erasing loop over the map leaves. -/
def filter (m : ChunkMap V) (p : Nat × V → Bool) : ChunkMap V :=
  ⟨m.entries.filter p, m.sorted.filter p⟩

/-- `map.erase(k)`. -/
def erase (m : ChunkMap V) (k : Nat) : ChunkMap V := m.filter fun e => e.1 != k

theorem ext_entries {m₁ m₂ : ChunkMap V} (h : m₁.entries = m₂.entries) : m₁ = m₂ := by
  cases m₁; cases m₂; cases h; rfl

/-! Lookups. -/

theorem lookup_cons (e : Nat × V) (es : List (Nat × V)) (c : Nat) :
    ((e :: es).find? fun e => e.1 == c).map Prod.snd =
      if e.1 = c then some e.2 else (es.find? fun e => e.1 == c).map Prod.snd := by
  by_cases h : e.1 = c <;> simp [List.find?_cons, h]

theorem lookup_insertEntry (k : Nat) (v : V) (es : List (Nat × V)) (c : Nat) :
    ((insertEntry k v es).find? fun e => e.1 == c).map Prod.snd =
      if c = k then some v else (es.find? fun e => e.1 == c).map Prod.snd := by
  induction es with
  | nil => simp only [insertEntry, lookup_cons, List.find?_nil]; split_ifs <;> first | rfl | omega
  | cons e es ih =>
    unfold insertEntry
    split_ifs <;> simp only [lookup_cons, ih] <;> split_ifs <;> first | rfl | omega

@[simp] theorem find?_empty (c : Nat) : (empty : ChunkMap V).find? c = none := rfl

@[simp] theorem find?_assign (m : ChunkMap V) (k : Nat) (v : V) (c : Nat) :
    (m.assign k v).find? c = if c = k then some v else m.find? c :=
  lookup_insertEntry k v m.entries c

/-- Keys are unique, so a lookup finds the one entry at its key. -/
theorem find?_eq_some_iff {m : ChunkMap V} {k : Nat} {v : V} :
    m.find? k = some v ↔ (k, v) ∈ m.entries := by
  have huniq : ∀ a ∈ m.entries, ∀ b ∈ m.entries, a ≠ b → a.1 ≠ b.1 :=
    (m.sorted.imp Nat.ne_of_lt).forall fun _ _ h => h.symm
  unfold find?
  constructor
  · intro h
    obtain ⟨e, he, rfl⟩ := Option.map_eq_some'.mp h
    have hk : e.1 = k := by simpa using List.find?_some he
    exact hk ▸ List.mem_of_find?_eq_some he
  · intro h
    cases hf : m.entries.find? fun e => e.1 == k with
    | none => simpa using List.find?_eq_none.mp hf _ h
    | some e =>
      have hk : e.1 = k := by simpa using List.find?_some hf
      by_contra hne
      exact huniq e (List.mem_of_find?_eq_some hf) (k, v) h (fun h' => hne (by simp [h'])) hk

theorem find?_filter_eq_some {m : ChunkMap V} {p : Nat × V → Bool} {k : Nat} {v : V} :
    (m.filter p).find? k = some v ↔ m.find? k = some v ∧ p (k, v) := by
  rw [find?_eq_some_iff, find?_eq_some_iff]
  exact List.mem_filter

theorem find?_erase_eq_some {m : ChunkMap V} {k c : Nat} {v : V} :
    (m.erase k).find? c = some v ↔ m.find? c = some v ∧ c ≠ k := by
  simp [erase, find?_filter_eq_some]

end ChunkMap

/-! ### The download state -/

/-- `CSnapshotDownloadState`, without its progress log. -/
structure DownloadState where
  mapChunksReceived : ChunkMap Bool
  mapChunkRequests : Nat → Option Int
  nTotalChunks : Nat

namespace DownloadState

/-- `CSnapshotDownloadState(nTotalChunksIn)`. -/
def init (nTotalChunks : Nat) : DownloadState := ⟨.empty, fun _ => none, nTotalChunks⟩

/-- `MarkChunkReceived(nChunk)`. -/
def markChunkReceived (ds : DownloadState) (nChunk : Nat) : DownloadState :=
  if nChunk < ds.nTotalChunks then
    { ds with mapChunksReceived := ds.mapChunksReceived.assign nChunk true }
  else ds

/-- `IsChunkReceived(nChunk)`. -/
def isChunkReceived (ds : DownloadState) (nChunk : Nat) : Bool :=
  (ds.mapChunksReceived.find? nChunk).getD false

/-- `IsComplete()`. -/
def isComplete (ds : DownloadState) : Bool :=
  (List.range ds.nTotalChunks).all ds.isChunkReceived

/-- `GetNextChunkToRequest()`: the first chunk not received, or `nTotalChunks`. -/
def getNextChunkToRequest (ds : DownloadState) : Nat :=
  ((List.range ds.nTotalChunks).find? fun i => !ds.isChunkReceived i).getD ds.nTotalChunks

/-- `GetReceivedCount()`. -/
def getReceivedCount (ds : DownloadState) : Nat :=
  ds.mapChunksReceived.entries.countP Prod.snd

/-- `RecordChunkRequest(nChunk, nTime)`. -/
def recordChunkRequest (ds : DownloadState) (nChunk : Nat) (nTime : Int) : DownloadState :=
  { ds with mapChunkRequests := Function.update ds.mapChunkRequests nChunk (some nTime) }

/-- `HasRecentRequest(nChunk, nNow)`. -/
def hasRecentRequest (ds : DownloadState) (nChunk : Nat) (nNow : Int) : Bool :=
  match ds.mapChunkRequests nChunk with
  | none => false
  | some t => decide (nNow - t < 60)

end DownloadState

/-! ### The bitmap -/

namespace DownloadState

/-- `MarkChunkReceived` of each chunk of `seq` in turn. -/
def markAll (ds : DownloadState) (seq : List Nat) : DownloadState :=
  seq.foldl markChunkReceived ds

/-- The bitmap holds `true`, and only `true`, at exactly the chunks below the total that
    satisfy `P`. -/
structure Marks (ds : DownloadState) (P : Nat → Prop) : Prop where
  all_true : ∀ e ∈ ds.mapChunksReceived.entries, e.2 = true
  mem_keys : ∀ k, k ∈ ds.mapChunksReceived.entries.map Prod.fst ↔ k < ds.nTotalChunks ∧ P k

@[simp] theorem nTotalChunks_markChunkReceived (ds : DownloadState) (k : Nat) :
    (ds.markChunkReceived k).nTotalChunks = ds.nTotalChunks := by
  unfold markChunkReceived; split_ifs <;> rfl

@[simp] theorem nTotalChunks_markAll (ds : DownloadState) (seq : List Nat) :
    (ds.markAll seq).nTotalChunks = ds.nTotalChunks := by
  induction seq generalizing ds with
  | nil => rfl
  | cons k seq ih => exact (ih _).trans (nTotalChunks_markChunkReceived ds k)

theorem Marks.init (nTotalChunks : Nat) : (init nTotalChunks).Marks fun _ => False :=
  ⟨nofun, fun _ => iff_of_false nofun fun h => h.2⟩

theorem Marks.congr {ds : DownloadState} {P Q : Nat → Prop} (h : ds.Marks P)
    (hPQ : ∀ k < ds.nTotalChunks, (P k ↔ Q k)) : ds.Marks Q :=
  ⟨h.all_true, fun k => (h.mem_keys k).trans (and_congr_right (hPQ k))⟩

/-- One `MarkChunkReceived` adds its chunk if it is below the total. -/
theorem Marks.markChunkReceived {ds : DownloadState} {P : Nat → Prop} (h : ds.Marks P)
    (k : Nat) : (ds.markChunkReceived k).Marks fun j => j = k ∨ P j := by
  unfold DownloadState.markChunkReceived
  split_ifs with hk
  · refine ⟨fun e he => ?_, fun j => ?_⟩
    · rcases ChunkMap.mem_insertEntry he with rfl | he
      exacts [rfl, h.all_true e he]
    · simp only [ChunkMap.assign, List.mem_map]
      constructor
      · rintro ⟨e, he, rfl⟩
        rcases ChunkMap.mem_insertEntry he with rfl | he
        · exact ⟨hk, .inl rfl⟩
        · obtain ⟨hlt, hP⟩ := (h.mem_keys e.1).mp (List.mem_map_of_mem _ he)
          exact ⟨hlt, .inr hP⟩
      · rintro ⟨hlt, rfl | hP⟩
        · exact ⟨_, ChunkMap.mem_insertEntry_self _ _ _, rfl⟩
        · by_cases hjk : j = k
          · subst hjk; exact ⟨_, ChunkMap.mem_insertEntry_self _ _ _, rfl⟩
          obtain ⟨e, he, rfl⟩ := List.mem_map.mp ((h.mem_keys j).mpr ⟨hlt, hP⟩)
          exact ⟨e, ChunkMap.mem_insertEntry_of_mem he hjk, rfl⟩
  · exact h.congr fun j hj => ⟨.inr, fun h' => h'.resolve_left (by rintro rfl; exact hk hj)⟩

/-- Marking each chunk of `seq` adds those below the total. -/
theorem Marks.markAll {ds : DownloadState} {P : Nat → Prop} (h : ds.Marks P) (seq : List Nat) :
    (ds.markAll seq).Marks fun j => j ∈ seq ∨ P j := by
  induction seq generalizing ds P with
  | nil => exact h.congr fun j _ => by simp
  | cons k seq ih =>
    exact (ih (h.markChunkReceived k)).congr fun j _ => by
      simp only [List.mem_cons]; tauto

/-- The chunks the bitmap holds are, in order, those below the total that satisfy `P`: the
    map's keys are sorted, so its members fix it. -/
theorem Marks.keys_eq {ds : DownloadState} {P : Nat → Prop} [DecidablePred P]
    (h : ds.Marks P) :
    ds.mapChunksReceived.entries.map Prod.fst =
      (List.range ds.nTotalChunks).filter fun k => decide (P k) := by
  have hs₁ : (ds.mapChunksReceived.entries.map Prod.fst).Sorted (· < ·) :=
    List.pairwise_map.mpr ds.mapChunksReceived.sorted
  have hs₂ : ((List.range ds.nTotalChunks).filter fun k => decide (P k)).Sorted (· < ·) :=
    (List.pairwise_lt_range _).filter _
  refine List.eq_of_perm_of_sorted ((List.perm_ext_iff_of_nodup hs₁.nodup hs₂.nodup).mpr
    fun k => ?_) hs₁ hs₂
  rw [h.mem_keys k]
  simp

theorem Marks.entries_eq {ds : DownloadState} {P : Nat → Prop} [DecidablePred P]
    (h : ds.Marks P) :
    ds.mapChunksReceived.entries =
      ((List.range ds.nTotalChunks).filter fun k => decide (P k)).map fun k => (k, true) := by
  rw [← h.keys_eq, List.map_map]
  conv_lhs => rw [← List.map_id ds.mapChunksReceived.entries]
  exact List.map_congr_left fun e he => by
    obtain ⟨k, v⟩ := e
    simpa using (h.all_true _ he).symm

theorem Marks.isChunkReceived {ds : DownloadState} {P : Nat → Prop} (h : ds.Marks P)
    (n : Nat) : ds.isChunkReceived n = true ↔ n < ds.nTotalChunks ∧ P n := by
  rw [← h.mem_keys n, List.mem_map, DownloadState.isChunkReceived]
  constructor
  · intro hn
    cases hv : ds.mapChunksReceived.find? n with
    | none => simp [hv] at hn
    | some v => exact ⟨(n, v), ChunkMap.find?_eq_some_iff.mp hv, rfl⟩
  · rintro ⟨⟨k, v⟩, he, rfl⟩
    rw [ChunkMap.find?_eq_some_iff.mpr he]
    exact h.all_true _ he

theorem Marks.getReceivedCount {ds : DownloadState} {P : Nat → Prop} [DecidablePred P]
    (h : ds.Marks P) :
    ds.getReceivedCount = ((List.range ds.nTotalChunks).filter fun k => decide (P k)).length := by
  unfold DownloadState.getReceivedCount
  rw [List.countP_eq_length.mpr fun e he => h.all_true e he, ← h.keys_eq, List.length_map]

/-- `IsComplete` holds when every chunk below the total is received. -/
theorem isComplete_iff (ds : DownloadState) :
    ds.isComplete = true ↔ ∀ i < ds.nTotalChunks, ds.isChunkReceived i = true := by
  simp [isComplete]

/-- `GetNextChunkToRequest` is the total when the download is complete, and otherwise the
    least chunk not received. -/
theorem getNextChunkToRequest_spec (ds : DownloadState) :
    (ds.isComplete = true ∧ ds.getNextChunkToRequest = ds.nTotalChunks) ∨
    (ds.isComplete = false ∧ ds.getNextChunkToRequest < ds.nTotalChunks ∧
      ds.isChunkReceived ds.getNextChunkToRequest = false ∧
      ∀ j < ds.getNextChunkToRequest, ds.isChunkReceived j = true) := by
  unfold getNextChunkToRequest
  cases hf : (List.range ds.nTotalChunks).find? fun i => !ds.isChunkReceived i with
  | none =>
    refine .inl ⟨(isComplete_iff ds).mpr fun i hi => ?_, rfl⟩
    simpa using List.find?_range_eq_none.mp hf i hi
  | some i =>
    obtain ⟨hi, hmem, hlt⟩ := List.find?_range_eq_some.mp hf
    have hnot : ds.isChunkReceived i = false := by simpa using hi
    refine .inr ⟨?_, List.mem_range.mp hmem, hnot, fun j hj => by simpa using hlt j hj⟩
    cases hc : ds.isComplete
    · rfl
    · exact absurd ((isComplete_iff ds).mp hc i (List.mem_range.mp hmem)) (by simp [hnot])

/-- Whatever chunk numbers arrive, in any order, repeated or out of range, the bitmap holds
    those below the total, and the same map for any arrival order of the same numbers. Its
    queries agree: the count is the size of that set, `IsComplete` holds exactly when the
    count is the total, and so does `GetNextChunkToRequest` return the total; otherwise it
    returns the least chunk not received. -/
theorem markAll_queries {N : Nat} {seq : List Nat} {ds : DownloadState}
    (hds : ds = (init N).markAll seq) :
    (∀ n, ds.isChunkReceived n = true ↔ n ∈ seq ∧ n < N) ∧
    (∀ seq' : List Nat, (∀ n, n ∈ seq' ↔ n ∈ seq) →
      ((init N).markAll seq').mapChunksReceived = ds.mapChunksReceived) ∧
    ds.getReceivedCount = (seq.toFinset.filter (· < N)).card ∧
    ds.getReceivedCount ≤ N ∧
    (ds.isComplete = true ↔ ds.getReceivedCount = N) ∧
    (ds.getReceivedCount = N ↔ ds.getNextChunkToRequest = N) ∧
    (ds.isComplete = false → ds.getNextChunkToRequest < N ∧
      ds.isChunkReceived ds.getNextChunkToRequest = false ∧
      ∀ j < ds.getNextChunkToRequest, ds.isChunkReceived j = true) := by
  have marks : ∀ seq' : List Nat, ((init N).markAll seq').Marks (· ∈ seq') := fun seq' =>
    ((Marks.init N).markAll seq').congr fun _ _ => by simp
  have hN : ds.nTotalChunks = N := by rw [hds, nTotalChunks_markAll]; rfl
  have hM : ds.Marks (· ∈ seq) := hds ▸ marks seq
  have hrecv : ∀ n, ds.isChunkReceived n = true ↔ n ∈ seq ∧ n < N := fun n => by
    rw [hM.isChunkReceived, hN, and_comm]
  have hcount : ds.getReceivedCount = ((List.range N).filter fun k => decide (k ∈ seq)).length :=
    hN ▸ hM.getReceivedCount
  have hcomplete : ds.isComplete = true ↔ ds.getReceivedCount = N := by
    have hlen := @List.filter_length_eq_length _ (fun k => decide (k ∈ seq)) (List.range N)
    rw [List.length_range] at hlen
    rw [isComplete_iff, hcount, hN, hlen]
    simp +contextual [hrecv]
  refine ⟨hrecv, fun seq' hseq' => ChunkMap.ext_entries ?_, ?_, ?_, hcomplete, ?_, ?_⟩
  · rw [(marks seq').entries_eq, hM.entries_eq, nTotalChunks_markAll, hN]
    simp only [hseq']
    rfl
  · rw [hcount, ← List.toFinset_card_of_nodup ((List.nodup_range N).filter _)]
    congr 1
    ext k
    simp [and_comm]
  · rw [hcount]
    exact (List.length_filter_le _ _).trans (List.length_range N).le
  · rcases getNextChunkToRequest_spec ds with ⟨hc, hn⟩ | ⟨hc, hn, -⟩
    · rw [← hcomplete, hc, hn, hN]; simp
    · rw [hN] at hn
      rw [← hcomplete, hc]
      simp only [Bool.false_eq_true, false_iff]
      omega
  · intro hc
    rcases getNextChunkToRequest_spec ds with ⟨hc', -⟩ | ⟨-, h⟩
    · rw [hc] at hc'; cases hc'
    · exact hN ▸ h

/-- Chunks 2, 0, 7 and 2 again, of three: chunks 0 and 2 are received, and chunk 1 is next. -/
theorem markAll_queries_sample :
    (init 3).markAll [2, 0, 7, 2] = (init 3).markAll [2, 0, 7, 2] ∧
    ((init 3).markAll [2, 0, 7, 2]).getReceivedCount = ([2, 0, 7, 2].toFinset.filter (· < 3)).card ∧
    (((init 3).markAll [2, 0, 7, 2]).isComplete = false →
      ((init 3).markAll [2, 0, 7, 2]).getNextChunkToRequest < 3 ∧
      ((init 3).markAll [2, 0, 7, 2]).isChunkReceived
        ((init 3).markAll [2, 0, 7, 2]).getNextChunkToRequest = false ∧
      ∀ j < ((init 3).markAll [2, 0, 7, 2]).getNextChunkToRequest,
        ((init 3).markAll [2, 0, 7, 2]).isChunkReceived j = true) :=
  ⟨rfl, (markAll_queries rfl).2.2.1, (markAll_queries rfl).2.2.2.2.2.2⟩

end DownloadState

/-! ### The coordinator -/

/-- `MAX_CONCURRENT_PEER_REQUESTS`. -/
def maxConcurrentPeerRequests : Nat := 12

/-- `MIN_SECONDS_BETWEEN_REQUESTS`. -/
def minSecondsBetweenRequests : Int := 3

/-- `REQUEST_TIMEOUT_SEC`. -/
def requestTimeoutSec : Int := 60

/-- `CSnapshotDownloadCoordinator::PeerDownloadState`, the fields its methods read. -/
structure PeerDownloadState where
  nLastRequestTime : Int
  nConsecutiveFailures : UInt32
  nBackoffUntil : Int
  deriving DecidableEq, Repr

/-- `PeerDownloadState()`. -/
def PeerDownloadState.empty : PeerDownloadState := ⟨0, 0, 0⟩

/-- `CSnapshotDownloadCoordinator`, with peers named by their `NodeId`. -/
structure Coordinator where
  mapPeerStates : Int → Option PeerDownloadState
  mapChunkToNode : ChunkMap Int

namespace Coordinator

/-- A coordinator with no peers and nothing in flight. -/
def init : Coordinator := ⟨fun _ => none, .empty⟩

/-- `mapPeerStates[node]`: the state, or the one it would create. -/
def peerState (co : Coordinator) (node : Int) : PeerDownloadState :=
  (co.mapPeerStates node).getD .empty

/-- `RecordRequest(node, nChunk)` at time `nNow`. -/
def recordRequest (co : Coordinator) (node : Int) (nChunk : Nat) (nNow : Int) : Coordinator :=
  let state := co.peerState node
  { mapPeerStates :=
      Function.update co.mapPeerStates node (some { state with nLastRequestTime := nNow })
    mapChunkToNode := co.mapChunkToNode.assign nChunk node }

/-- `RecordSuccess(node, nChunk)`. -/
def recordSuccess (co : Coordinator) (node : Int) (nChunk : Nat) : Coordinator :=
  let state := co.peerState node
  { mapPeerStates := Function.update co.mapPeerStates node
      (some { state with nConsecutiveFailures := 0, nBackoffUntil := 0 })
    mapChunkToNode := co.mapChunkToNode.erase nChunk }

/-- The backoff of `RecordFailure` after `n` consecutive failures: 10, 30, 60, then 300 seconds. -/
def backoffTime (n : UInt32) : Int :=
  if 4 ≤ n then 300 else if n = 3 then 60 else if n = 2 then 30 else 10

/-- `RecordFailure(node, nChunk)` at time `nNow`. -/
def recordFailure (co : Coordinator) (node : Int) (nChunk : Nat) (nNow : Int) : Coordinator :=
  let state := co.peerState node
  let n := state.nConsecutiveFailures + 1
  { mapPeerStates := Function.update co.mapPeerStates node
      (some { state with nConsecutiveFailures := n, nBackoffUntil := nNow + backoffTime n })
    mapChunkToNode := co.mapChunkToNode.erase nChunk }

/-- `GetPeerBackoff(node)` at time `nNow`. -/
def getPeerBackoff (co : Coordinator) (node : Int) (nNow : Int) : Int :=
  match co.mapPeerStates node with
  | none => 0
  | some state => if state.nBackoffUntil > nNow then state.nBackoffUntil - nNow else 0

/-- Whether `GetTimedOutRequests` at `nNow` gives up on an in-flight entry: its peer has a
    state, last asked more than `REQUEST_TIMEOUT_SEC` seconds ago. -/
def timedOut (co : Coordinator) (nNow : Int) (e : Nat × Int) : Bool :=
  match co.mapPeerStates e.2 with
  | some state => decide (nNow - state.nLastRequestTime > requestTimeoutSec)
  | none => false

/-- `GetTimedOutRequests()` at time `nNow`: the `(node, chunk)` pairs given up on, in chunk
    order, and the coordinator without them. -/
def getTimedOutRequests (co : Coordinator) (nNow : Int) : List (Int × Nat) × Coordinator :=
  ((co.mapChunkToNode.entries.filter (co.timedOut nNow)).map fun e => (e.2, e.1),
    { co with mapChunkToNode := co.mapChunkToNode.filter fun e => !co.timedOut nNow e })

/-- `RemovePeer(node)`. -/
def removePeer (co : Coordinator) (node : Int) : Coordinator :=
  { mapPeerStates := Function.update co.mapPeerStates node none
    mapChunkToNode := co.mapChunkToNode.filter fun e => e.2 != node }

end Coordinator

/-- The peer loop of `SelectPeerForNextChunk`, over the states it reads: the best peer so far
    (`-1` for none) and its last request time. -/
def selectLoop (states : Int → PeerDownloadState) (nNow : Int) :
    List Int → Int × Int → Int × Int
  | [], acc => acc
  | node :: rest, (bestPeer, oldestRequestTime) =>
    let state := states node
    if state.nBackoffUntil > nNow then selectLoop states nNow rest (bestPeer, oldestRequestTime)
    else if nNow - state.nLastRequestTime < minSecondsBetweenRequests then
      selectLoop states nNow rest (bestPeer, oldestRequestTime)
    else if bestPeer = -1 ∨ state.nLastRequestTime < oldestRequestTime then
      selectLoop states nNow rest (node, state.nLastRequestTime)
    else selectLoop states nNow rest (bestPeer, oldestRequestTime)

/-- `SelectPeerForNextChunk(vAvailablePeers, nChunkOut)` at time `nNow`, for the download state
    `pDownloadState` points to: the peer (`-1` for none), `nChunkOut` after the call, and the
    coordinator, in which the loop's `mapPeerStates[node]` has created a state for every peer
    offered. -/
def selectPeerForNextChunk (pDownloadState : Option DownloadState) (co : Coordinator)
    (vAvailablePeers : List Int) (nChunkOut : Nat) (nNow : Int) : Int × Nat × Coordinator :=
  if vAvailablePeers.isEmpty then (-1, nChunkOut, co) else
  match pDownloadState with
  | none => (-1, nChunkOut, co)
  | some ds =>
    let nChunkOut := ds.getNextChunkToRequest
    if ds.isComplete then (-1, nChunkOut, co)
    else if (co.mapChunkToNode.find? nChunkOut).isSome then (-1, nChunkOut, co)
    else if maxConcurrentPeerRequests ≤ co.mapChunkToNode.size then (-1, nChunkOut, co)
    else
      let co' := { co with mapPeerStates := fun n =>
        if n ∈ vAvailablePeers then some (co.peerState n) else co.mapPeerStates n }
      ((selectLoop co.peerState nNow vAvailablePeers (-1, nNow)).1, nChunkOut, co')

/-! ### Frames and selection -/

namespace Coordinator

@[simp] theorem peerState_init (node : Int) : init.peerState node = .empty := rfl

@[simp] theorem peerState_recordRequest (co : Coordinator) (node m : Int) (c : Nat) (t : Int) :
    (co.recordRequest node c t).peerState m =
      if m = node then { co.peerState node with nLastRequestTime := t } else co.peerState m := by
  by_cases h : m = node <;> simp [peerState, recordRequest, h, Function.update_noteq]

@[simp] theorem lastRequest_recordSuccess (co : Coordinator) (node m : Int) (c : Nat) :
    ((co.recordSuccess node c).peerState m).nLastRequestTime =
      (co.peerState m).nLastRequestTime := by
  by_cases h : m = node <;> simp [peerState, recordSuccess, h, Function.update_noteq]

@[simp] theorem lastRequest_recordFailure (co : Coordinator) (node m : Int) (c : Nat) (t : Int) :
    ((co.recordFailure node c t).peerState m).nLastRequestTime =
      (co.peerState m).nLastRequestTime := by
  by_cases h : m = node <;> simp [peerState, recordFailure, h, Function.update_noteq]

theorem peerState_recordSuccess (co : Coordinator) (node m : Int) (c : Nat) :
    (co.recordSuccess node c).peerState m = if m = node then
      { co.peerState node with nConsecutiveFailures := 0, nBackoffUntil := 0 }
    else co.peerState m := by
  by_cases h : m = node <;> simp [peerState, recordSuccess, h, Function.update_noteq]

theorem peerState_recordFailure (co : Coordinator) (node m : Int) (c : Nat) (t : Int) :
    (co.recordFailure node c t).peerState m = if m = node then
      { co.peerState node with
        nConsecutiveFailures := (co.peerState node).nConsecutiveFailures + 1
        nBackoffUntil := t + backoffTime ((co.peerState node).nConsecutiveFailures + 1) }
    else co.peerState m := by
  by_cases h : m = node <;> simp [peerState, recordFailure, h, Function.update_noteq]

theorem peerState_removePeer (co : Coordinator) (node m : Int) :
    (co.removePeer node).peerState m = if m = node then .empty else co.peerState m := by
  by_cases h : m = node <;> simp [peerState, removePeer, h, Function.update_noteq]

@[simp] theorem getTimedOutRequests_mapPeerStates (co : Coordinator) (t : Int) :
    (co.getTimedOutRequests t).2.mapPeerStates = co.mapPeerStates := rfl

end Coordinator

/-- A peer out of backoff and at least `MIN_SECONDS_BETWEEN_REQUESTS` past its last request. -/
def Eligible (state : PeerDownloadState) (nNow : Int) : Prop :=
  state.nBackoffUntil ≤ nNow ∧ minSecondsBetweenRequests ≤ nNow - state.nLastRequestTime

instance (state : PeerDownloadState) (nNow : Int) : Decidable (Eligible state nNow) :=
  inferInstanceAs (Decidable (_ ∧ _))

/-- The loop ends with the best peer it started with, or with an eligible peer it was offered. -/
theorem selectLoop_eq_or_eligible (states : Int → PeerDownloadState) (nNow : Int)
    (peers : List Int) (acc : Int × Int) :
    (selectLoop states nNow peers acc).1 = acc.1 ∨
      (selectLoop states nNow peers acc).1 ∈ peers ∧
        Eligible (states (selectLoop states nNow peers acc).1) nNow := by
  induction peers generalizing acc with
  | nil => exact .inl rfl
  | cons node rest ih =>
    obtain ⟨best, oldest⟩ := acc
    have tail : ∀ acc, (selectLoop states nNow rest acc).1 = acc.1 ∨
        (selectLoop states nNow rest acc).1 ∈ node :: rest ∧
          Eligible (states (selectLoop states nNow rest acc).1) nNow :=
      fun acc => (ih acc).imp_right (And.imp_left (List.mem_cons_of_mem node))
    unfold selectLoop
    dsimp only
    split_ifs with hb hm hc
    · exact tail _
    · exact tail _
    · rcases ih (node, (states node).nLastRequestTime) with h | h
      · rw [h]
        exact .inr ⟨List.mem_cons_self _ _, Int.not_lt.mp hb, Int.not_lt.mp hm⟩
      · exact .inr ⟨List.mem_cons_of_mem _ h.1, h.2⟩
    · exact tail _

/-- What `SelectPeerForNextChunk` can return: `-1` with the coordinator unchanged, or the loop's
    peer for the first chunk not received, with a state created for every peer offered, when the
    download is incomplete, that chunk is not in flight and fewer than
    `MAX_CONCURRENT_PEER_REQUESTS` chunks are. -/
theorem selectPeerForNextChunk_cases (ds : Option DownloadState) (co : Coordinator)
    (peers : List Int) (nChunkOut : Nat) (nNow : Int) :
    (selectPeerForNextChunk ds co peers nChunkOut nNow).1 = -1 ∧
      (selectPeerForNextChunk ds co peers nChunkOut nNow).2.2 = co ∨
    ∃ d, ds = some d ∧ d.isComplete = false ∧
      co.mapChunkToNode.find? d.getNextChunkToRequest = none ∧
      co.mapChunkToNode.size < maxConcurrentPeerRequests ∧
      selectPeerForNextChunk ds co peers nChunkOut nNow =
        ((selectLoop co.peerState nNow peers (-1, nNow)).1, d.getNextChunkToRequest,
          { co with mapPeerStates := fun n =>
              if n ∈ peers then some (co.peerState n) else co.mapPeerStates n }) := by
  unfold selectPeerForNextChunk
  by_cases hp : peers.isEmpty
  · exact .inl (by simp [hp])
  cases ds with
  | none => exact .inl (by simp [hp])
  | some d =>
    simp only [hp, if_false]
    by_cases hc : d.isComplete
    · exact .inl (by simp [hc])
    by_cases hf : (co.mapChunkToNode.find? d.getNextChunkToRequest).isSome
    · exact .inl (by simp [hc, hf])
    by_cases hs : maxConcurrentPeerRequests ≤ co.mapChunkToNode.size
    · exact .inl (by simp [hc, hf, hs])
    exact .inr ⟨d, rfl, by simpa using hc, by simpa using hf, Nat.lt_of_not_le hs,
      by simp [hc, hf, hs]⟩

/-- The peer `SelectPeerForNextChunk` returns, unless `-1`, is one it was offered, out of
    backoff and at least `MIN_SECONDS_BETWEEN_REQUESTS` past its last request; the call
    changes no peer's state as `mapPeerStates[node]` reads it. -/
theorem selectPeerForNextChunk_eligible (ds : Option DownloadState) (co : Coordinator)
    (peers : List Int) (c : Nat) (t : Int) :
    ((selectPeerForNextChunk ds co peers c t).1 = -1 ∨
      (selectPeerForNextChunk ds co peers c t).1 ∈ peers ∧
        Eligible (co.peerState (selectPeerForNextChunk ds co peers c t).1) t) ∧
    (selectPeerForNextChunk ds co peers c t).2.2.peerState = co.peerState := by
  rcases selectPeerForNextChunk_cases ds co peers c t with ⟨h₁, h₂⟩ | ⟨d, -, -, -, -, h⟩
  · exact ⟨.inl h₁, by rw [h₂]⟩
  rw [h]
  refine ⟨selectLoop_eq_or_eligible _ _ _ _, funext fun n => ?_⟩
  unfold Coordinator.peerState
  dsimp only
  split_ifs <;> rfl

/-- The selector leaves the in-flight map alone, and every peer state that exists. -/
theorem selectPeerForNextChunk_frame (ds : Option DownloadState) (co : Coordinator)
    (peers : List Int) (c : Nat) (t : Int) :
    (selectPeerForNextChunk ds co peers c t).2.2.mapChunkToNode = co.mapChunkToNode ∧
    ∀ n state, co.mapPeerStates n = some state →
      (selectPeerForNextChunk ds co peers c t).2.2.mapPeerStates n = some state := by
  rcases selectPeerForNextChunk_cases ds co peers c t with ⟨-, h⟩ | ⟨d, -, -, -, -, h⟩
  · exact ⟨by rw [h], fun _ _ hs => by rw [h]; exact hs⟩
  rw [h]
  exact ⟨rfl, fun n state hs => by dsimp only; split_ifs <;> simp [Coordinator.peerState, hs]⟩

/-- The loop keeps, as `oldestRequestTime`, the last request time of its best peer, and ends
    with the eligible peer offered that was asked least recently, no later than the best it
    started with. No peer offered may be `-1`, the value that means none. -/
theorem selectLoop_oldest (states : Int → PeerDownloadState) (nNow : Int) {peers : List Int}
    (hpeers : -1 ∉ peers) {acc : Int × Int}
    (hacc : acc.1 ≠ -1 → acc.2 = (states acc.1).nLastRequestTime) :
    ((selectLoop states nNow peers acc).1 ≠ -1 → (selectLoop states nNow peers acc).2 =
      (states (selectLoop states nNow peers acc).1).nLastRequestTime) ∧
    (acc.1 ≠ -1 → (selectLoop states nNow peers acc).2 ≤ acc.2) ∧
    ((selectLoop states nNow peers acc).1 ≠ -1 → ∀ q ∈ peers, Eligible (states q) nNow →
      (selectLoop states nNow peers acc).2 ≤ (states q).nLastRequestTime) := by
  induction peers generalizing acc with
  | nil => exact ⟨hacc, fun _ => Int.le_refl _, fun _ q hq => absurd hq (List.not_mem_nil q)⟩
  | cons node rest ih =>
    obtain ⟨best, oldest⟩ := acc
    have hrest : -1 ∉ rest := fun h => hpeers (.tail _ h)
    have hnode : node ≠ -1 := fun h => hpeers (h ▸ .head _)
    unfold selectLoop
    dsimp only
    split_ifs with hb hm hc
    · obtain ⟨h₁, h₂, h₃⟩ := ih hrest hacc
      refine ⟨h₁, h₂, fun hr q hq he => ?_⟩
      rcases List.mem_cons.mp hq with rfl | hq
      exacts [absurd he.1 (by omega), h₃ hr q hq he]
    · obtain ⟨h₁, h₂, h₃⟩ := ih hrest hacc
      refine ⟨h₁, h₂, fun hr q hq he => ?_⟩
      rcases List.mem_cons.mp hq with rfl | hq
      exacts [absurd he.2 (by omega), h₃ hr q hq he]
    · obtain ⟨h₁, h₂, h₃⟩ := @ih hrest (node, (states node).nLastRequestTime) fun _ => rfl
      have hle := h₂ hnode
      refine ⟨h₁, fun hbest => ?_, fun hr q hq he => ?_⟩
      · rcases hc with hc | hc
        exacts [absurd hc hbest, Int.le_of_lt (Int.lt_of_le_of_lt hle hc)]
      · rcases List.mem_cons.mp hq with rfl | hq
        exacts [hle, h₃ hr q hq he]
    · obtain ⟨h₁, h₂, h₃⟩ := ih hrest hacc
      have hbest : best ≠ -1 := fun h => hc (.inl h)
      have hold : oldest ≤ (states node).nLastRequestTime := Int.not_lt.mp fun h => hc (.inr h)
      refine ⟨h₁, h₂, fun hr q hq he => ?_⟩
      rcases List.mem_cons.mp hq with rfl | hq
      exacts [Int.le_trans (h₂ hbest) hold, h₃ hr q hq he]

/-- When `SelectPeerForNextChunk` is offered real node ids, none of them `-1`, and returns a
    peer, it is one offered, eligible, and asked no more recently than any other eligible peer
    offered; its chunk is the first not received, not in flight, and fewer than
    `MAX_CONCURRENT_PEER_REQUESTS` chunks were in flight. With no eligible peer offered it
    returns `-1`, whatever the list. -/
theorem selectPeerForNextChunk_fair {ds : Option DownloadState} {co co' : Coordinator}
    {peers : List Int} {nChunkOut n : Nat} {nNow p : Int}
    (hr : selectPeerForNextChunk ds co peers nChunkOut nNow = (p, n, co')) :
    (-1 ∉ peers → p ≠ -1 → p ∈ peers ∧ Eligible (co.peerState p) nNow ∧
      (∀ q ∈ peers, Eligible (co.peerState q) nNow →
        (co.peerState p).nLastRequestTime ≤ (co.peerState q).nLastRequestTime) ∧
      (∃ d, ds = some d ∧ n < d.nTotalChunks ∧ d.isChunkReceived n = false) ∧
      co.mapChunkToNode.find? n = none ∧ co.mapChunkToNode.size < maxConcurrentPeerRequests) ∧
    ((∀ q ∈ peers, ¬ Eligible (co.peerState q) nNow) → p = -1) := by
  have hsel := (selectPeerForNextChunk_eligible ds co peers nChunkOut nNow).1
  rw [hr] at hsel
  refine ⟨fun hpeers hp => ?_, fun hnone => hsel.resolve_right fun h => hnone p h.1 h.2⟩
  rcases selectPeerForNextChunk_cases ds co peers nChunkOut nNow with
    ⟨h, -⟩ | ⟨d, rfl, hc, hf, hs, h⟩
  · rw [hr] at h; exact absurd h hp
  rw [hr] at h
  obtain ⟨hl, hn, -⟩ := Prod.mk.inj_iff.mp h |>.imp_right Prod.mk.inj_iff.mp
  obtain ⟨hmem, helig⟩ := hsel.resolve_left hp
  obtain ⟨h₁, -, h₃⟩ := @selectLoop_oldest co.peerState nNow peers hpeers (-1, nNow) nofun
  have hnext := (DownloadState.getNextChunkToRequest_spec d).resolve_left fun h => by
    rw [h.1] at hc; cases hc
  refine ⟨hmem, helig, fun q hq he => ?_, ⟨d, rfl, hn ▸ hnext.2.1, hn ▸ hnext.2.2.1⟩,
    hn ▸ hf, hs⟩
  rw [hl] at hp ⊢
  exact h₁ hp ▸ h₃ hp q hq he

/-- A coordinator that asked peer `5` at time 100 and has nothing in flight. -/
def askedFive : Coordinator := ⟨fun n => if n = 5 then some ⟨100, 0, 0⟩ else none, .empty⟩

/-- The selector at time 200, offered peer `5` and one never asked, for a download of one chunk
    from a coordinator that asked `5` at 100, picks the one never asked. Offered `5` alone at
    time 101, when it is not yet eligible, it returns `-1`. -/
theorem selectPeerForNextChunk_fair_askedFive :
    selectPeerForNextChunk (some (DownloadState.init 1)) askedFive [7, 5] 0 200 =
      (7, 0, (selectPeerForNextChunk (some (DownloadState.init 1)) askedFive [7, 5] 0 200).2.2) ∧
    (-1 : Int) ∉ [7, 5] ∧
    (∀ q ∈ [7, 5], Eligible (askedFive.peerState q) 200 →
      (askedFive.peerState 7).nLastRequestTime ≤ (askedFive.peerState q).nLastRequestTime) ∧
    (∀ q ∈ [5], ¬ Eligible (askedFive.peerState q) 101) ∧
    (selectPeerForNextChunk (some (DownloadState.init 1)) askedFive [5] 0 101).1 = -1 :=
  have hr : selectPeerForNextChunk (some (DownloadState.init 1)) askedFive [7, 5] 0 200 =
      (7, 0, (selectPeerForNextChunk (some (DownloadState.init 1)) askedFive [7, 5] 0 200).2.2) :=
    Prod.ext (by decide) (Prod.ext (by decide) rfl)
  have hp : (-1 : Int) ∉ [7, 5] := by decide
  have hnone : ∀ q ∈ [5], ¬ Eligible (askedFive.peerState q) 101 := by decide
  have hr' : selectPeerForNextChunk (some (DownloadState.init 1)) askedFive [5] 0 101 =
      ((selectPeerForNextChunk (some (DownloadState.init 1)) askedFive [5] 0 101).1,
        (selectPeerForNextChunk (some (DownloadState.init 1)) askedFive [5] 0 101).2.1,
        (selectPeerForNextChunk (some (DownloadState.init 1)) askedFive [5] 0 101).2.2) := rfl
  ⟨hr, hp, ((selectPeerForNextChunk_fair hr).1 hp (by decide)).2.2.1, hnone,
    (selectPeerForNextChunk_fair hr').2 hnone⟩

end Snapshot

end Zclassic
