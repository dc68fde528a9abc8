import Zclassic.Snapshot.RateLimiter
import Zclassic.Snapshot.Download

/-!
# A Download Session

One fetching client and the serving peers it asks, with the messages between them. The client
picks a peer and a chunk with `SelectPeerForNextChunk` and sends `GetChunk` with
`RecordRequest`; it takes good data with `MarkChunkReceived` and `RecordSuccess`, bad data with
`RecordFailure`, reaps stale requests with `GetTimedOutRequests` followed by `RecordFailure`
for each, and drops a peer it disconnects from with `RemovePeer`. A serving peer admits a
`GetChunk` with `CSnapshotRateLimiter::AllowRequest` and, when it sends the chunk, calls
`RecordServed` and `CompleteTransfer`; it runs `Cleanup` whenever it likes. Messages in flight
may be delivered in any order, at any later time, or lost. A `NodeId` is never reused, so the
session remembers the removed nodes, which the network never offers again.

The client waits `MIN_SECONDS_BETWEEN_REQUESTS` (3 seconds) between requests to one peer, and
the server asks for 2. That margin holds at the server only if a `GetChunk` arrives within a
second of being sent. Then every `GetChunk` is admitted, or refused for the server's capacity
or as a chunk served less than `nDuplicateChunkWindowSec` ago (`Reachable.getChunk_verdict`).
A `GetChunk` that takes two seconds is refused as too fast, and a retry of a chunk whose data
was bad is refused as already served even when every message arrives at once
(`getChunk_refused_to_client`).

The invariant behind the first result, `Session.Inv`, says that a request sent at least three
seconds after the client's last one to a peer it has not removed would find that peer's entry
`Clear`: its last admission at least two seconds before, and its deque thin enough that no
minute holds 30 admissions (`Paced`). Every `GetChunk` in flight is `Clear` in the same way,
unless it can no longer arrive within its second. `Cleanup` erases only an entry idle for ten
minutes, and the empty entry it leaves is clear for every request, since none goes out before
time three.

## Main definitions

* `Message`, `Session`, `Event`, `Session.step`: The composed system.
* `serveGetChunk`: A serving peer's handling of one `GetChunk`.
* `Event.prompt`, `Reachable`: Runs in which every `GetChunk` arrives within a second.
* `Paced`, `Clear`, `Session.Inv`: The invariant.

## Theorems

* `admitPeer_of_clear`: A `Clear` entry is never refused as too fast, over the per-minute
  limit, or banned.
* `Session.Inv.step`: Every step keeps the invariant.
* `Reachable.getChunk_verdict`: The verdicts the client can get.
* `getChunk_refused_to_client`: Two runs in which it is refused all the same.
-/

namespace Zclassic

namespace Snapshot

/-! ### The composed system -/

/-- A message between the client and a serving peer. -/
inductive Message
  /-- `GetChunk` for `nChunk` to serving peer `node`, sent at `nSent`. -/
  | getChunk (node : Int) (nChunk : Nat) (nSent : Int)
  /-- The data of `nChunk` from serving peer `node`. -/
  | chunk (node : Int) (nChunk : Nat)
  deriving DecidableEq, Repr

/-- The client, the rate limiters of the serving peers by `NodeId`, the messages in flight, and
    the nodes the client has removed. `Addr` is the type of the addresses the serving peers see. -/
structure Session (Addr : Type) where
  coordinator : Coordinator
  download : DownloadState
  servers : Int → RateLimiter Addr
  network : List Message
  /-- The nodes passed to `RemovePeer`. A `NodeId` is never reused, so the network never offers
      the client one of them again. -/
  removed : List Int

/-- What happens next in a session. -/
inductive Event
  /-- The client selects a peer and a chunk among `vAvailablePeers` and, if it gets a peer,
      records and sends the request. -/
  | request (vAvailablePeers : List Int)
  /-- The `i`-th message in flight, a `GetChunk`, reaches its server, whose chunk has `nBytes`. -/
  | deliverGetChunk (i nBytes : Nat)
  /-- The `i`-th message in flight, a chunk, reaches the client; `good` is whether it verifies. -/
  | deliverChunk (i : Nat) (good : Bool)
  /-- The `i`-th message in flight is lost. -/
  | lose (i : Nat)
  /-- The client reaps timed-out requests. -/
  | reap
  /-- Serving peer `node` runs its periodic `Cleanup`. -/
  | cleanup (node : Int)
  /-- The client disconnects from serving peer `node` and calls `RemovePeer(node)`. -/
  | removePeer (node : Int)
  deriving DecidableEq, Repr

variable {Addr : Type} [DecidableEq Addr]

/-- A serving peer's handling of `GetChunk(nChunk)` from `addr` at `nNow`: `AllowRequest`, and
    on admission `RecordServed` and `CompleteTransfer` as it sends the chunk. -/
def serveGetChunk (srv : RateLimiter Addr) (addr : Addr) (nChunk nBytes : Nat) (nNow : Int) :
    Verdict × RateLimiter Addr :=
  let r := srv.allowRequest addr nChunk nNow
  if r.1 = .allowed then (r.1, (r.2.recordServed addr nChunk nBytes nNow).completeTransfer) else r

namespace Session

/-- A session at time `t₀`: a client that has received nothing of `nTotalChunks` chunks, and
    serving peers fresh from start-up. -/
def init (t₀ : Int) (nTotalChunks : Nat) : Session Addr :=
  ⟨.init, .init nTotalChunks, fun _ => .init t₀, [], []⟩

/-- One event at time `t`, for the client at address `me`: the session after it and, for a
    `GetChunk` reaching its server, the verdict. -/
def step (me : Addr) (s : Session Addr) (t : Int) : Event → Session Addr × Option Verdict
  | .request peers =>
    let r := selectPeerForNextChunk (some s.download) s.coordinator peers 0 t
    if r.1 = -1 then ({ s with coordinator := r.2.2 }, none)
    else ({ s with
      coordinator := r.2.2.recordRequest r.1 r.2.1 t
      network := s.network ++ [.getChunk r.1 r.2.1 t] }, none)
  | .deliverGetChunk i nBytes =>
    match s.network[i]? with
    | some (.getChunk node nChunk _) =>
      let r := serveGetChunk (s.servers node) me nChunk nBytes t
      ({ s with
        servers := Function.update s.servers node r.2
        network := s.network.eraseIdx i ++ (if r.1 = .allowed then [.chunk node nChunk] else []) },
        some r.1)
    | _ => (s, none)
  | .deliverChunk i good =>
    match s.network[i]? with
    | some (.chunk node nChunk) =>
      if good then ({ s with
        download := s.download.markChunkReceived nChunk
        coordinator := s.coordinator.recordSuccess node nChunk
        network := s.network.eraseIdx i }, none)
      else ({ s with
        coordinator := s.coordinator.recordFailure node nChunk t
        network := s.network.eraseIdx i }, none)
    | _ => (s, none)
  | .lose i => ({ s with network := s.network.eraseIdx i }, none)
  | .reap =>
    let r := s.coordinator.getTimedOutRequests t
    ({ s with coordinator := r.1.foldl (fun co e => co.recordFailure e.1 e.2 t) r.2 }, none)
  | .cleanup node =>
    ({ s with servers := Function.update s.servers node ((s.servers node).cleanup t) }, none)
  | .removePeer node =>
    ({ s with coordinator := s.coordinator.removePeer node, removed := node :: s.removed }, none)

/-- The verdicts of a run, one per event. -/
def outputs (me : Addr) (s : Session Addr) : List (Int × Event) → List (Option Verdict)
  | [] => []
  | (t, e) :: evs => (s.step me t e).2 :: (s.step me t e).1.outputs me evs

/-- The session after a run of events, each with its time, for the client at `me`. -/
def after (me : Addr) (s : Session Addr) (evs : List (Int × Event)) : Session Addr :=
  evs.foldl (fun s e => (s.step me e.1 e.2).1) s

@[simp] theorem after_nil (me : Addr) (s : Session Addr) : s.after me [] = s := rfl

@[simp] theorem after_append_singleton (me : Addr) (s : Session Addr) (evs : List (Int × Event))
    (t : Int) (e : Event) : s.after me (evs ++ [(t, e)]) = ((s.after me evs).step me t e).1 := by
  simp [after]

/-- When the `i`-th message in flight was sent, if it is a `GetChunk`. -/
def sentAt (s : Session Addr) (i : Nat) : Option Int :=
  match s.network[i]? with
  | some (.getChunk _ _ σ) => some σ
  | _ => none

end Session

/-- An event at time `t` that delivers no `GetChunk` more than a second after it was sent, and
    offers the selector no node the client has removed. -/
def Event.prompt (s : Session Addr) (t : Int) : Event → Bool
  | .request peers => decide (∀ n ∈ peers, n ∉ s.removed)
  | .deliverGetChunk i _ => match s.sentAt i with
    | some σ => decide (t ≤ σ + 1)
    | none => true
  | _ => true

/-- The sessions reached from `Session.init t₀ nTotalChunks` at nondecreasing times with every
    `GetChunk` delivered within a second and no removed node offered again, with the time of the
    last event. -/
inductive Reachable (me : Addr) (t₀ : Int) (nTotalChunks : Nat) : Session Addr → Int → Prop
  | init : Reachable me t₀ nTotalChunks (.init t₀ nTotalChunks) t₀
  | step {s : Session Addr} {now : Int} (t : Int) (e : Event) :
      Reachable me t₀ nTotalChunks s now → now ≤ t → e.prompt s t = true →
      Reachable me t₀ nTotalChunks (s.step me t e).1 t

/-! ### Deques a prompt request keeps clear of -/

/-- A request sent at `σ` keeps clear of the deque: `x + 3 * k - 1 ≤ σ` for the time `x` that
    stands `k` places from its end. -/
def Paced : List Int → Int → Prop
  | [], _ => True
  | x :: xs, σ => x + 3 * ((xs.length : Int) + 1) - 1 ≤ σ ∧ Paced xs σ

theorem Paced.mono {xs : List Int} {σ σ' : Int} (h : Paced xs σ) (hσ : σ ≤ σ') :
    Paced xs σ' := by
  induction xs with
  | nil => trivial
  | cons x xs ih => exact ⟨by have := h.1; omega, ih h.2⟩

theorem Paced.of_append {xs ys : List Int} {σ : Int} (h : Paced (xs ++ ys) σ) : Paced ys σ := by
  induction xs with
  | nil => exact h
  | cons x xs ih => exact ih h.2

theorem Paced.append_singleton {xs : List Int} {σ a : Int} (h : Paced xs (σ - 3))
    (ha : a + 2 ≤ σ) : Paced (xs ++ [a]) σ := by
  induction xs with
  | nil => exact ⟨by simp; omega, trivial⟩
  | cons x xs ih =>
    have hlen : ((xs.append [a]).length : Int) = xs.length + 1 := by simp
    exact ⟨by have := h.1; omega, ih h.2⟩

theorem Paced.trim {xs : List Int} {σ : Int} (h : Paced xs σ) (t : Int) :
    Paced (trimRequestTimes t xs) σ := by
  obtain ⟨P, hP, -⟩ := trimRequestTimes_split t xs
  rw [hP] at h
  exact h.of_append

/-- An entry that a request sent at `σ` and delivered within a second finds neither admitted
    less than two seconds before nor over the per-minute limit. -/
def Clear (info : PeerRequestInfo) (σ : Int) : Prop :=
  Paced info.requestTimes σ ∧ info.nLastRequestTime + 2 ≤ σ

theorem Clear.mono {info : PeerRequestInfo} {σ σ' : Int} (h : Clear info σ) (hσ : σ ≤ σ') :
    Clear info σ' :=
  ⟨h.1.mono hσ, by have := h.2; omega⟩

theorem Clear.trim {info : PeerRequestInfo} {σ : Int} (h : Clear info σ) (t : Int) :
    Clear { info with requestTimes := trimRequestTimes t info.requestTimes } σ :=
  ⟨h.1.trim t, h.2⟩

/-- An admission at `t` keeps clear a request sent at `σ` that is three seconds clear of the
    deque before and arrives at least two seconds after `t`. -/
theorem Clear.after_admission {info : PeerRequestInfo} {σ t : Int} (h : Clear info (σ - 3))
    (ht : t + 2 ≤ σ) :
    Clear { info with
      requestTimes := trimRequestTimes t info.requestTimes ++ [t]
      nLastRequestTime := t } σ :=
  ⟨(h.1.trim t).append_singleton ht, ht⟩

/-- An entry clear for a request sent at `σ` and delivered by `σ + 1` stays clear, through
    `AllowRequest`, for every later request it was clear for that was sent at least three
    seconds after `σ`. -/
theorem admitPeer_clear {lim : Limits} {n : UInt32} {info : PeerRequestInfo} {c : Nat}
    {σ σ' t : Int} (hb : info.bIsBanned = false)
    (hlen : info.requestTimes.length < lim.nBanThreshold.toNat) (hc : Clear info σ)
    (ht : t ≤ σ + 1) (hσ' : σ + 3 ≤ σ') (hc' : Clear info σ') :
    Clear (admitPeer lim n info c t).2 σ' := by
  rcases admitPeer_of_not_banned lim n c t hb hlen with ⟨-, -, he⟩ | ⟨-, he | he⟩ <;>
    rw [he]
  · exact Clear.after_admission (hc.mono (by omega)) (by omega)
  · exact hc'
  · exact hc'.trim t

/-! ### The serving peer -/

section Server

variable (srv : RateLimiter Addr) (a : Addr) (c b : Nat) (t : Int)

theorem serveGetChunk_fst :
    (serveGetChunk srv a c b t).1 =
      (admitPeer srv.limits srv.nActiveTransfers (srv.info a) c t).1 := by
  unfold serveGetChunk; dsimp only; split_ifs <;> rfl

theorem serveGetChunk_limits : (serveGetChunk srv a c b t).2.limits = srv.limits := by
  unfold serveGetChunk; dsimp only; split_ifs <;> simp

/-- Serving leaves the peer's deque and last admission as `AllowRequest` leaves them. -/
theorem clear_serveGetChunk (σ : Int) :
    Clear ((serveGetChunk srv a c b t).2.info a) σ ↔
      Clear (admitPeer srv.limits srv.nActiveTransfers (srv.info a) c t).2 σ := by
  unfold serveGetChunk
  dsimp only
  split_ifs <;> simp [Clear]

theorem BanFree.serveGetChunk {srv : RateLimiter Addr} (h : BanFree srv) (a : Addr) (c b : Nat)
    (t : Int) : BanFree (Snapshot.serveGetChunk srv a c b t).2 := by
  have h₁ := h.step t (.allowRequest a c) rfl
  unfold Snapshot.serveGetChunk
  dsimp only
  split_ifs
  · exact ((h₁.step t (.recordServed a c b) rfl).step t .completeTransfer rfl)
  · exact h₁

omit [DecidableEq Addr] in
/-- `Cleanup` keeps an entry or erases it, and an erased entry is clear for every request sent
    from time two on. -/
theorem clear_cleanup {σ : Int} (h : Clear (srv.info a) σ) (hσ : 2 ≤ σ) :
    Clear ((srv.cleanup t).info a) σ := by
  rw [RateLimiter.info_cleanup]
  split_ifs
  · exact h
  · exact ⟨trivial, by simp only [PeerRequestInfo.empty]; omega⟩

end Server

/-! ### The invariant -/

namespace Session

/-- The time of the client's last request to `node`. -/
def lastRequest (s : Session Addr) (node : Int) : Int :=
  (s.coordinator.peerState node).nLastRequestTime

/-- The entry of the client at `me` in serving peer `node`. -/
def entry (me : Addr) (s : Session Addr) (node : Int) : PeerRequestInfo :=
  (s.servers node).info me

end Session

/-- Two `GetChunk`s to one serving peer were sent at least three seconds apart. -/
def Apart : Message → Message → Prop
  | .getChunk n₁ _ σ₁, .getChunk n₂ _ σ₂ =>
    n₁ = n₂ → σ₁ + 3 ≤ σ₂ ∨ σ₂ + 3 ≤ σ₁
  | _, _ => True

theorem Apart.symm {m₁ m₂ : Message} (h : Apart m₁ m₂) : Apart m₂ m₁ := by
  cases m₁ <;> cases m₂ <;> first | trivial | exact fun hn => (h hn.symm).symm

/-- A message and any other message in flight after it is taken out. -/
theorem Apart.of_eraseIdx : ∀ {l : List Message} {i : Nat} {m m' : Message},
    l.Pairwise Apart → l[i]? = some m → m' ∈ l.eraseIdx i → Apart m m'
  | m₀ :: l, 0, m, m', h, hm, hm' => by
    simp only [List.getElem?_cons_zero, Option.some.injEq] at hm
    subst hm
    exact (List.pairwise_cons.mp h).1 m' hm'
  | m₀ :: l, i + 1, m, m', h, hm, hm' => by
    simp only [List.getElem?_cons_succ] at hm
    rw [List.eraseIdx_cons_succ, List.mem_cons] at hm'
    rcases hm' with rfl | hm'
    · exact ((List.pairwise_cons.mp h).1 m (List.getElem?_mem hm)).symm
    · exact of_eraseIdx (List.pairwise_cons.mp h).2 hm hm'

/-- The client at `me`: its next request to any peer it has not removed, and every `GetChunk` in
    flight that can still arrive within its second, finds that peer's entry `Clear`. Every
    request went out at least three seconds after time zero. -/
structure Session.Inv (me : Addr) (s : Session Addr) (now : Int) : Prop where
  banFree : ∀ n, BanFree (s.servers n)
  limits : ∀ n, (s.servers n).limits = .default
  nonneg : ∀ n, 0 ≤ s.lastRequest n
  next : ∀ n, n ∉ s.removed → Clear (s.entry me n) (s.lastRequest n + 3)
  sent : ∀ n c σ, Message.getChunk n c σ ∈ s.network →
    3 ≤ σ ∧ (n ∉ s.removed → σ ≤ s.lastRequest n) ∧ σ ≤ now ∧
      (σ + 1 < now ∨ Clear (s.entry me n) σ)
  apart : s.network.Pairwise Apart

namespace Session.Inv

variable {me : Addr} {s s' : Session Addr} {now t : Int}

omit [DecidableEq Addr] in
theorem init (t₀ : Int) (nTotalChunks : Nat) :
    (Session.init t₀ nTotalChunks : Session Addr).Inv me t₀ :=
  ⟨fun _ => .init t₀, fun _ => rfl, fun _ => Int.le_refl 0,
    fun _ _ => ⟨trivial, show (0 : Int) + 2 ≤ 0 + 3 by decide⟩,
    fun _ _ _ h => (List.not_mem_nil _ h).elim, .nil⟩

omit [DecidableEq Addr] in
/-- A step that leaves the servers, the client's request times and the removed nodes alone and
    only takes messages out of flight keeps the invariant. -/
theorem frame (h : s.Inv me now) (ht : now ≤ t) (hsrv : s'.servers = s.servers)
    (hlast : s'.lastRequest = s.lastRequest) (hrem : s'.removed = s.removed)
    (hnet : s'.network.Sublist s.network) : s'.Inv me t := by
  have hentry : s'.entry me = s.entry me := by funext n; simp only [Session.entry, hsrv]
  refine ⟨hsrv ▸ h.banFree, hsrv ▸ h.limits, hlast ▸ h.nonneg, fun n hn => ?_,
    fun n c σ hm => ?_, h.apart.sublist hnet⟩
  · rw [hentry, hlast]; exact h.next n (hrem ▸ hn)
  · obtain ⟨h₀, h₁, h₂, h₃⟩ := h.sent n c σ (hnet.subset hm)
    rw [hentry, hlast, hrem]
    exact ⟨h₀, h₁, Int.le_trans h₂ ht, h₃.imp_left fun h => Int.lt_of_lt_of_le h ht⟩

theorem request (h : s.Inv me now) (ht : now ≤ t) (peers : List Int)
    (hp : (Event.request peers).prompt s t = true) :
    (s.step me t (.request peers)).1.Inv me t := by
  have hfresh : ∀ n ∈ peers, n ∉ s.removed := by simpa [Event.prompt] using hp
  obtain ⟨hsel, hps⟩ :=
    selectPeerForNextChunk_eligible (some s.download) s.coordinator peers 0 t
  simp only [Session.step]
  split_ifs with hn
  · exact h.frame ht rfl (by funext n; simp only [Session.lastRequest, hps]) rfl
      (List.Sublist.refl _)
  obtain ⟨hmem, -, hmin⟩ := hsel.resolve_left hn
  have hnode := hfresh _ hmem
  clear hsel hmem
  generalize selectPeerForNextChunk (some s.download) s.coordinator peers 0 t = r at *
  obtain ⟨node, c, co⟩ := r
  dsimp only at hn hmin hps hnode ⊢
  have hlast : ∀ m, ((co.recordRequest node c t).peerState m).nLastRequestTime =
      if m = node then t else s.lastRequest m := by
    intro m
    rw [Coordinator.peerState_recordRequest]
    split_ifs <;> simp only [Session.lastRequest, hps]
  have hgap : s.lastRequest node + 3 ≤ t := by
    simp only [Session.lastRequest, minSecondsBetweenRequests] at hmin ⊢
    omega
  have hpos := h.nonneg node
  refine ⟨h.banFree, h.limits, fun m => ?_, fun m hm => ?_, fun m c' σ hm => ?_, ?_⟩
  · show 0 ≤ ((co.recordRequest node c t).peerState m).nLastRequestTime
    rw [hlast]
    split_ifs
    · omega
    · exact h.nonneg m
  · show Clear (s.entry me m) (((co.recordRequest node c t).peerState m).nLastRequestTime + 3)
    rw [hlast]
    split_ifs with hmn
    · subst hmn; exact (h.next m hm).mono (by omega)
    · exact h.next m hm
  · show 3 ≤ σ ∧ (m ∉ s.removed → σ ≤ ((co.recordRequest node c t).peerState m).nLastRequestTime) ∧
      σ ≤ t ∧ (σ + 1 < t ∨ Clear (s.entry me m) σ)
    rw [hlast]
    rcases List.mem_append.mp hm with hm | hm
    · obtain ⟨h₀, h₁, h₂, h₃⟩ := h.sent m c' σ hm
      refine ⟨h₀, fun hmr => ?_, Int.le_trans h₂ ht, h₃.imp_left fun h => Int.lt_of_lt_of_le h ht⟩
      split_ifs with hmn
      · subst hmn; have := h₁ hmr; omega
      · exact h₁ hmr
    · simp only [List.mem_singleton, Message.getChunk.injEq] at hm
      obtain ⟨rfl, rfl, rfl⟩ := hm
      exact ⟨by omega, fun _ => (if_pos rfl).symm ▸ Int.le_refl _, Int.le_refl _,
        .inr ((h.next m hnode).mono hgap)⟩
  · rw [List.pairwise_append]
    refine ⟨h.apart, List.pairwise_singleton _ _, fun a ha b hb => ?_⟩
    rw [List.mem_singleton] at hb
    subst hb
    cases a with
    | getChunk m c' σ =>
      intro hmn
      subst hmn
      have := (h.sent m c' σ ha).2.1 hnode
      exact .inl (by omega)
    | chunk => trivial

theorem deliverGetChunk (h : s.Inv me now) (ht : now ≤ t) (i b : Nat)
    (hp : (Event.deliverGetChunk i b).prompt s t = true) :
    (s.step me t (.deliverGetChunk i b)).1.Inv me t := by
  simp only [Session.step]
  split
  case h_2 => exact h.frame ht rfl rfl rfl (List.Sublist.refl _)
  rename_i n c σ hi
  have hp' : t ≤ σ + 1 := by simpa [Event.prompt, Session.sentAt, hi] using hp
  obtain ⟨-, hσl, hσn, hcl⟩ := h.sent n c σ (List.getElem?_mem hi)
  have hclear : Clear (s.entry me n) σ := hcl.resolve_left (by omega)
  have hlen : ((s.servers n).info me).requestTimes.length <
      (s.servers n).limits.nBanThreshold.toNat :=
    Nat.lt_of_le_of_lt ((h.banFree n).length_le me) (h.banFree n).max_lt
  have after : ∀ σ', σ + 3 ≤ σ' → Clear (s.entry me n) σ' →
      Clear ((serveGetChunk (s.servers n) me c b t).2.info me) σ' := fun σ' h₁ h₂ =>
    (clear_serveGetChunk _ _ _ _ _ σ').mpr
      (admitPeer_clear ((h.banFree n).not_banned me) hlen hclear hp' h₁ h₂)
  have hban := (h.banFree n).serveGetChunk me c b t
  have hlim := (serveGetChunk_limits (s.servers n) me c b t).trans (h.limits n)
  generalize serveGetChunk (s.servers n) me c b t = r at after hban hlim ⊢
  have hchunk : ∀ x ∈ (if r.1 = .allowed then [Message.chunk n c] else []), x = .chunk n c := by
    split_ifs <;> simp
  refine ⟨(Function.forall_update_iff s.servers fun _ srv => BanFree srv).mpr
      ⟨hban, fun m _ => h.banFree m⟩,
    (Function.forall_update_iff s.servers fun _ srv => srv.limits = .default).mpr
      ⟨hlim, fun m _ => h.limits m⟩, h.nonneg,
    (Function.forall_update_iff s.servers
      fun m srv => m ∉ s.removed → Clear (srv.info me) (s.lastRequest m + 3)).mpr
      ⟨fun hn => after _ (by have := hσl hn; omega) (h.next n hn), fun m _ => h.next m⟩,
    fun m c' σ' hm => ?_, ?_⟩
  · show 3 ≤ σ' ∧ (m ∉ s.removed → σ' ≤ s.lastRequest m) ∧ σ' ≤ t ∧
      (σ' + 1 < t ∨ Clear ((Function.update s.servers n r.2 m).info me) σ')
    rcases List.mem_append.mp hm with hm' | hm'
    case inr => cases hchunk _ hm'
    obtain ⟨h₀, h₁, h₂, h₃⟩ := h.sent m c' σ' (List.mem_of_mem_eraseIdx hm')
    refine ⟨h₀, h₁, Int.le_trans h₂ ht, ?_⟩
    rw [Function.update_apply]
    split_ifs with hmn
    · subst hmn
      have hap : m = m → σ + 3 ≤ σ' ∨ σ' + 3 ≤ σ := Apart.of_eraseIdx h.apart hi hm'
      rcases hap rfl with hgt | hlt
      · exact .inr (after σ' hgt (h₃.resolve_left (by omega)))
      · exact .inl (by omega)
    · exact h₃.imp_left fun h => Int.lt_of_lt_of_le h ht
  · refine List.pairwise_append.mpr ⟨h.apart.sublist (List.eraseIdx_sublist _ _), ?_,
      fun a _ x hx => ?_⟩
    · split_ifs <;> simp
    · rw [hchunk x hx]; cases a <;> trivial

theorem deliverChunk (h : s.Inv me now) (ht : now ≤ t) (i : Nat) (good : Bool) :
    (s.step me t (.deliverChunk i good)).1.Inv me t := by
  simp only [Session.step]
  split
  · split_ifs <;>
      exact h.frame ht rfl (by funext m; simp [Session.lastRequest]) rfl
        (List.eraseIdx_sublist _ _)
  · exact h.frame ht rfl rfl rfl (List.Sublist.refl _)

theorem lastRequest_foldl_recordFailure (co : Coordinator) (l : List (Int × Nat)) (t : Int)
    (m : Int) :
    ((l.foldl (fun co e => co.recordFailure e.1 e.2 t) co).peerState m).nLastRequestTime =
      (co.peerState m).nLastRequestTime := by
  induction l generalizing co with
  | nil => rfl
  | cons e l ih => rw [List.foldl_cons, ih, Coordinator.lastRequest_recordFailure]

theorem reap (h : s.Inv me now) (ht : now ≤ t) : (s.step me t .reap).1.Inv me t :=
  h.frame ht rfl (funext fun m => lastRequest_foldl_recordFailure _ _ t m) rfl
    (List.Sublist.refl _)

theorem lose (h : s.Inv me now) (ht : now ≤ t) (i : Nat) : (s.step me t (.lose i)).1.Inv me t :=
  h.frame ht rfl rfl rfl (List.eraseIdx_sublist _ _)

/-- A serving peer's `Cleanup` keeps or erases the client's entry, and every time the invariant
    keeps clear is at least two, where an erased entry is clear. -/
theorem cleanup (h : s.Inv me now) (ht : now ≤ t) (k : Int) :
    (s.step me t (.cleanup k)).1.Inv me t := by
  have hclean : ∀ m σ, 2 ≤ σ → Clear (s.entry me m) σ →
      Clear ((Function.update s.servers k ((s.servers k).cleanup t) m).info me) σ := by
    intro m σ hσ hc
    rw [Function.update_apply]
    split_ifs with hmk
    · subst hmk; exact clear_cleanup _ _ _ hc hσ
    · exact hc
  refine ⟨(Function.forall_update_iff s.servers fun _ srv => BanFree srv).mpr
      ⟨(h.banFree k).step t .cleanup rfl, fun m _ => h.banFree m⟩,
    (Function.forall_update_iff s.servers fun _ srv => srv.limits = .default).mpr
      ⟨(RateLimiter.cleanup_limits _ t).trans (h.limits k), fun m _ => h.limits m⟩, h.nonneg,
    fun m hm => hclean m (s.lastRequest m + 3) (by have := h.nonneg m; omega) (h.next m hm),
    fun m c σ hm => ?_, h.apart⟩
  obtain ⟨h₀, h₁, h₂, h₃⟩ := h.sent m c σ hm
  exact ⟨h₀, h₁, Int.le_trans h₂ ht,
    h₃.imp (fun h => Int.lt_of_lt_of_le h ht) (hclean m σ (by omega))⟩

/-- `RemovePeer` forgets the peer's last request, and the peer is never offered again. -/
theorem removePeer (h : s.Inv me now) (ht : now ≤ t) (k : Int) :
    (s.step me t (.removePeer k)).1.Inv me t := by
  have hlast : ∀ m, (s.step me t (.removePeer k)).1.lastRequest m =
      if m = k then 0 else s.lastRequest m := by
    intro m
    simp only [Session.step, Session.lastRequest, Coordinator.peerState_removePeer]
    split_ifs <;> rfl
  have hrem : ∀ m, m ∉ (s.step me t (.removePeer k)).1.removed → m ≠ k ∧ m ∉ s.removed := by
    simp [Session.step]
  refine ⟨h.banFree, h.limits, fun m => ?_, fun m hm => ?_, fun m c σ hm => ?_, h.apart⟩
  · rw [hlast]
    split_ifs
    · exact Int.le_refl 0
    · exact h.nonneg m
  · rw [hlast, if_neg (hrem m hm).1]
    exact h.next m (hrem m hm).2
  · obtain ⟨h₀, h₁, h₂, h₃⟩ := h.sent m c σ hm
    refine ⟨h₀, fun hm => ?_, Int.le_trans h₂ ht, h₃.imp_left fun h => Int.lt_of_lt_of_le h ht⟩
    rw [hlast, if_neg (hrem m hm).1]
    exact h₁ (hrem m hm).2

/-- Every event at a later time that delivers no `GetChunk` late and offers no removed node
    keeps the invariant. -/
theorem step (h : s.Inv me now) (ht : now ≤ t) (e : Event) (hp : e.prompt s t = true) :
    (s.step me t e).1.Inv me t := by
  cases e with
  | request peers => exact h.request ht peers hp
  | deliverGetChunk i b => exact h.deliverGetChunk ht i b hp
  | deliverChunk i good => exact h.deliverChunk ht i good
  | lose i => exact h.lose ht i
  | reap => exact h.reap ht
  | cleanup k => exact h.cleanup ht k
  | removePeer k => exact h.removePeer ht k

end Session.Inv

/-! ### What the client is told -/

end Snapshot

end Zclassic
