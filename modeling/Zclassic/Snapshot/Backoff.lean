import Zclassic.Snapshot.InFlight

/-!
# Peer Backoff

`CSnapshotDownloadCoordinator` keeps, for each peer, a count of consecutive failures and a time
before which the selector skips the peer. `RecordFailure` raises the count and sets the
deadline 10, 30, 60 or 300 seconds ahead, by the new count; `RecordSuccess` clears both;
`RemovePeer` drops the state, and a peer seen again starts from `PeerDownloadState()`.

Over a whole run the two fields are a function of the run: the count is the number of
`RecordFailure` calls for the peer since its last `RecordSuccess` or `RemovePeer`, and the
deadline is the time of the last of them plus the backoff of that count
(`peerState_after_failures`).
Nothing else touches them: the selector creates states but keeps every field, and
`RecordRequest` only stamps the request time. The count is a `uint32_t`, so the history is
read modulo `2^32`; a peer that fails `2^32` times in a row is back to a count of `0`, and its
next failure is backed off for 10 seconds.

From it, `GetPeerBackoff` never reports more than 300 seconds at a time no earlier than the
run, and reports nothing for a peer with no failure since its last reset
(`getPeerBackoff_after`). The peer `SelectPeerForNextChunk` returns is never one whose backoff
is still running (`selectPeerForNextChunk_after_backoff`).

## Main definitions

* `ClientCall.resets`, `ClientCall.isFailureOf`: The calls that clear and raise the count.
* `failuresSince`: The times of a peer's failures since its last reset.
* `backoffOf`: The count and deadline such a history calls for.

## Theorems

* `backoff_after`, `peerState_after_failures`: The coordinator's count and deadline follow the
  run's failure history.
* `getPeerBackoff_after`: `GetPeerBackoff` is at most 300 seconds, and 0 after a reset.
* `selectPeerForNextChunk_after_backoff`: The selector waits out every backoff.
-/

namespace Zclassic

namespace Snapshot

/-- Whether a call clears `node`'s failure count: `RecordSuccess(node, _)` or
    `RemovePeer(node)`. -/
def ClientCall.resets (node : Int) : ClientCall → Bool
  | .recordSuccess n _ => n == node
  | .removePeer n => n == node
  | _ => false

/-- Whether a call is `RecordFailure(node, _)`. -/
def ClientCall.isFailureOf (node : Int) : ClientCall → Bool
  | .recordFailure n _ => n == node
  | _ => false

/-- The times of a run's `RecordFailure` calls for `node` since its last reset. -/
def failuresSince (node : Int) (evs : List (Int × ClientCall)) : List Int :=
  (((evs.reverse.takeWhile fun e => !e.2.resets node).reverse.filter
    fun e => e.2.isFailureOf node)).map Prod.fst

/-- The count and deadline that a history of failures at `times` calls for: the number of
    failures as a `uint32_t`, and no deadline, or the last failure's time plus the backoff of
    that count. -/
def backoffOf (times : List Int) : UInt32 × Int :=
  (UInt32.ofNat times.length, match times.getLast? with
    | none => 0
    | some t => t + Coordinator.backoffTime (UInt32.ofNat times.length))

/-- The two fields of a peer state that backoff is made of. -/
def PeerDownloadState.backoff (state : PeerDownloadState) : UInt32 × Int :=
  (state.nConsecutiveFailures, state.nBackoffUntil)

theorem failuresSince_append_singleton (node : Int) (evs : List (Int × ClientCall)) (t : Int)
    (call : ClientCall) : failuresSince node (evs ++ [(t, call)]) =
      if call.resets node then [] else if call.isFailureOf node then failuresSince node evs ++ [t]
      else failuresSince node evs := by
  unfold failuresSince
  by_cases hr : call.resets node
  · simp [hr]
  · by_cases hf : call.isFailureOf node <;> simp [hr, hf, List.filter_append]

theorem backoffOf_nil : backoffOf [] = (0, 0) := rfl

theorem backoffOf_append_singleton (times : List Int) (t : Int) :
    backoffOf (times ++ [t]) = ((backoffOf times).1 + 1,
      t + Coordinator.backoffTime ((backoffOf times).1 + 1)) := by
  have hsucc : UInt32.ofNat (times.length + 1) = UInt32.ofNat times.length + 1 := by
    apply UInt32.eq_of_toBitVec_eq
    show BitVec.ofNat 32 (times.length + 1) = BitVec.ofNat 32 times.length + 1
    apply BitVec.eq_of_toNat_eq
    simp [Nat.add_mod]
  simp [backoffOf, hsucc]

/-- One call keeps a peer's count and deadline in step with its failure history. -/
theorem backoff_step {cl : Client} {node : Int} {evs : List (Int × ClientCall)}
    (h : (cl.co.peerState node).backoff = backoffOf (failuresSince node evs)) (t : Int)
    (call : ClientCall) : ((cl.step t call).co.peerState node).backoff =
      backoffOf (failuresSince node (evs ++ [(t, call)])) := by
  rw [failuresSince_append_singleton]
  cases call with
  | selectPeerForNextChunk peers c =>
    simpa [Client.step, (selectPeerForNextChunk_eligible _ _ _ _ _).2, ClientCall.resets,
      ClientCall.isFailureOf] using h
  | recordRequest n c =>
    by_cases hn : node = n
    · subst hn
      simpa [Client.step, ClientCall.resets, ClientCall.isFailureOf,
        PeerDownloadState.backoff] using h
    · simpa [Client.step, hn, ClientCall.resets, ClientCall.isFailureOf] using h
  | recordSuccess n c =>
    by_cases hn : node = n
    · subst hn
      simp [Client.step, Coordinator.peerState_recordSuccess, ClientCall.resets,
        PeerDownloadState.backoff, backoffOf_nil]
    · simpa [Client.step, Coordinator.peerState_recordSuccess, hn, ClientCall.resets,
        ClientCall.isFailureOf, Ne.symm hn] using h
  | recordFailure n c =>
    by_cases hn : node = n
    · subst hn
      simp only [PeerDownloadState.backoff, Prod.ext_iff] at h
      simp [Client.step, Coordinator.peerState_recordFailure, ClientCall.resets,
        ClientCall.isFailureOf, PeerDownloadState.backoff, backoffOf_append_singleton, h.1]
    · simpa [Client.step, Coordinator.peerState_recordFailure, hn, ClientCall.resets,
        ClientCall.isFailureOf, Ne.symm hn] using h
  | getTimedOutRequests => exact h
  | removePeer n =>
    by_cases hn : node = n
    · subst hn
      simp [Client.step, Coordinator.peerState_removePeer, ClientCall.resets,
        PeerDownloadState.backoff, backoffOf_nil, PeerDownloadState.empty]
    · simpa [Client.step, Coordinator.peerState_removePeer, hn, ClientCall.resets,
        ClientCall.isFailureOf, Ne.symm hn] using h
  | markChunkReceived c => exact h

/-- Every run from start-up keeps each peer's count and deadline in step with its failure
    history. -/
theorem backoff_after (nTotalChunks : Nat) (evs : List (Int × ClientCall)) (node : Int) :
    (((Client.init nTotalChunks).after evs).co.peerState node).backoff =
      backoffOf (failuresSince node evs) := by
  induction evs using List.reverseRecOn with
  | nil => rfl
  | append_singleton evs e ih =>
    rw [Client.after_append_singleton]
    exact backoff_step ih e.1 e.2

/-- After every run from start-up, each peer's consecutive-failure count is the number of
    `RecordFailure` calls for it since its last `RecordSuccess` or `RemovePeer`, modulo
    `2^32`, and its backoff deadline is `0` when there were none, else the time of the last
    plus the backoff of that count. -/
theorem peerState_after_failures (nTotalChunks : Nat) (evs : List (Int × ClientCall))
    (node : Int) :
    (((Client.init nTotalChunks).after evs).co.peerState node).nConsecutiveFailures.toNat =
      (failuresSince node evs).length % 2 ^ 32 ∧
    (((Client.init nTotalChunks).after evs).co.peerState node).nBackoffUntil =
      match (failuresSince node evs).getLast? with
      | none => 0
      | some t => t + Coordinator.backoffTime (UInt32.ofNat (failuresSince node evs).length) := by
  have h := backoff_after nTotalChunks evs node
  simp only [PeerDownloadState.backoff, backoffOf, Prod.mk.injEq] at h
  exact ⟨by rw [h.1]; exact BitVec.toNat_ofNat _ _, h.2⟩

theorem mem_failuresSince {node x : Int} {evs : List (Int × ClientCall)}
    (h : x ∈ failuresSince node evs) : ∃ e ∈ evs, e.1 = x := by
  simp only [failuresSince, List.mem_map, List.mem_filter, List.mem_reverse] at h
  obtain ⟨e, ⟨he, -⟩, rfl⟩ := h
  exact ⟨e, List.mem_reverse.mp ((List.takeWhile_prefix _).subset he), rfl⟩

theorem Coordinator.backoffTime_le (n : UInt32) : Coordinator.backoffTime n ≤ 300 := by
  unfold Coordinator.backoffTime
  split_ifs <;> decide

/-- The deadline a history calls for is at most 300 seconds past its last event. -/
theorem backoffOf_le {times : List Int} {t : Int} (h0 : 0 ≤ t) (ht : ∀ x ∈ times, x ≤ t) :
    (backoffOf times).2 ≤ t + 300 := by
  unfold backoffOf
  cases hl : times.getLast? with
  | none => dsimp only; omega
  | some x =>
    have hx := ht x (List.mem_of_getLast?_eq_some hl)
    have := Coordinator.backoffTime_le (UInt32.ofNat times.length)
    dsimp only
    omega

/-- `GetPeerBackoff` is the time left to a peer's deadline, and `0` for a peer with no state. -/
theorem getPeerBackoff_le (co : Coordinator) (node t : Int) :
    0 ≤ co.getPeerBackoff node t ∧
      co.getPeerBackoff node t ≤ max 0 ((co.peerState node).nBackoffUntil - t) := by
  unfold Coordinator.getPeerBackoff Coordinator.peerState
  cases co.mapPeerStates node with
  | none => simp
  | some s => dsimp only [Option.getD]; split_ifs <;> omega

/-- After every run from start-up, at a time no earlier than any of its calls,
    `GetPeerBackoff` is at most 300 seconds, and is `0` for a peer with no failure since its
    last `RecordSuccess` or `RemovePeer`. -/
theorem getPeerBackoff_after (nTotalChunks : Nat) (evs : List (Int × ClientCall)) (node t : Int)
    (h0 : 0 ≤ t) (ht : ∀ e ∈ evs, e.1 ≤ t) :
    0 ≤ ((Client.init nTotalChunks).after evs).co.getPeerBackoff node t ∧
      ((Client.init nTotalChunks).after evs).co.getPeerBackoff node t ≤ 300 ∧
      (failuresSince node evs = [] →
        ((Client.init nTotalChunks).after evs).co.getPeerBackoff node t = 0) := by
  obtain ⟨hpos, hle⟩ := getPeerBackoff_le ((Client.init nTotalChunks).after evs).co node t
  have hdl : (((Client.init nTotalChunks).after evs).co.peerState node).nBackoffUntil =
      (backoffOf (failuresSince node evs)).2 :=
    congrArg Prod.snd (backoff_after nTotalChunks evs node)
  have hrun := @backoffOf_le (failuresSince node evs) t h0 fun x hx => by
    obtain ⟨e, he, rfl⟩ := mem_failuresSince hx
    exact ht e he
  refine ⟨hpos, by omega, fun hnil => ?_⟩
  rw [hnil, backoffOf_nil] at hdl
  omega

theorem getPeerBackoff_after_failure :
    (0 : Int) ≤ 4 ∧ (∀ e ∈ [((0 : Int), ClientCall.recordFailure 5 0)], e.1 ≤ 4) ∧
      0 ≤ ((Client.init 1).after [(0, .recordFailure 5 0)]).co.getPeerBackoff 5 4 ∧
      ((Client.init 1).after [(0, .recordFailure 5 0)]).co.getPeerBackoff 5 4 ≤ 300 ∧
      (failuresSince 5 [(0, .recordFailure 5 0)] = [] →
        ((Client.init 1).after [(0, .recordFailure 5 0)]).co.getPeerBackoff 5 4 = 0) :=
  ⟨by decide, by decide, getPeerBackoff_after 1 _ 5 4 (by decide) (by decide)⟩

/-- After every run from start-up, the peer `SelectPeerForNextChunk` returns has waited out
    its backoff: if it failed since its last `RecordSuccess` or `RemovePeer`, the last such
    failure plus the backoff of their count is no later than now. -/
theorem selectPeerForNextChunk_after_backoff (nTotalChunks : Nat) (evs : List (Int × ClientCall))
    (peers : List Int) (c : Nat) (t node : Int)
    (hsel : (selectPeerForNextChunk (some ((Client.init nTotalChunks).after evs).ds)
      ((Client.init nTotalChunks).after evs).co peers c t).1 = node) (hnode : node ≠ -1) :
    ∀ tf, (failuresSince node evs).getLast? = some tf →
      tf + Coordinator.backoffTime (UInt32.ofNat (failuresSince node evs).length) ≤ t := by
  intro tf hl
  have hdl := congrArg Prod.snd (backoff_after nTotalChunks evs node)
  simp only [backoffOf, hl, PeerDownloadState.backoff] at hdl
  rcases (selectPeerForNextChunk_eligible _ _ peers c t).1 with h | ⟨-, hel, -⟩
  · exact absurd (h.symm.trans hsel).symm hnode
  · rw [hsel] at hel
    rw [← hdl]
    exact hel

theorem selectPeerForNextChunk_after_backoff_failed :
    (selectPeerForNextChunk (some ((Client.init 1).after [(0, .recordFailure 5 0)]).ds)
      ((Client.init 1).after [(0, .recordFailure 5 0)]).co [5] 0 10).1 = 5 ∧ (5 : Int) ≠ -1 ∧
    ∀ tf, (failuresSince 5 [(0, .recordFailure 5 0)]).getLast? = some tf →
      tf + Coordinator.backoffTime
        (UInt32.ofNat (failuresSince 5 [(0, .recordFailure 5 0)]).length) ≤ 10 :=
  ⟨by decide, by decide, selectPeerForNextChunk_after_backoff 1 _ [5] 0 10 5 (by decide)
    (by decide)⟩

end Snapshot

end Zclassic
