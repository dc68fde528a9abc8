import Zclassic.Snapshot.Store

/-!
# The Snapshot Wire Format

The snapshot types go to disk and to peers through their `SerializationOp`, which `READWRITE`s
the fields in the order they are declared. `serialize.h`, which says how each field is
written, is not among the sources, and its encodings here follow the spec: an integer
little-endian at its width, a `uint256` as its 32 bytes, and a vector as its length in
CompactSize followed by its elements. The spec puts no bound on a length and no rule on how
many bytes it takes, so the readers here check neither: a library's own refusals, such as the
non-canonical length and the `MAX_SIZE` bound of upstream `serialize.h`, are left out
together.

A reader takes the bytes in front and returns what it read with the bytes after it, or `none`
where the stream would run out and throw. Every round trip is stated with the bytes that
follow, so it also says that the reader takes exactly what the writer wrote and leaves the
rest: `readLE_writeLE` for each width, `readCompactSize_writeCompactSize` for the four length
classes, `readVector_writeVector` for a vector, and from them one round trip per type. A
vector's length is a `size_t`, so a list of `2^64` elements or more stands for no C++ value,
and the round trips of vectors are stated below that bound.

The readers also stream (`Streams`): a read that succeeds goes the same way with more bytes
after it, and leaves them after its rest. So no strict prefix of a serialization reads as
anything (`Manifest.unserialize_take`): a reader that stopped inside it would stop at the same
place in the whole, where it reads the value to the end.

## Main definitions

* `writeLE`, `readLE`: Unsigned integers of a given width.
* `writeCompactSize`, `readCompactSize`: The length in front of a vector.
* `writeVector`, `readVector`: Vectors.
* `GetSnapshotChunk`, `SnapshotChunk`: The two chunk messages.
* `serialize` and `unserialize` of `ChunkInfo`, `Manifest`, `GetSnapshotChunk` and
  `SnapshotChunk`.
* `Streams`: A reader that reads the same with more bytes after it.

## Theorems

* `readLE_writeLE`: An integer reads back modulo its width.
* `readCompactSize_writeCompactSize`: Every length below `2^64` reads back.
* `readVector_writeVector`: A vector reads back when its elements do.
* `Manifest.unserialize_serialize`: A manifest reads back, and so do the messages.
* `Manifest.streams_unserialize`: The manifest reader streams.
* `Manifest.unserialize_take`: No strict prefix of a manifest's bytes reads as a manifest.
-/

namespace Zclassic

namespace Snapshot

/-! ### Integers -/

/-- Modelled from the spec: `serialize.h` is not among the sources. An unsigned integer written
    in `n` bytes, least significant first. -/
def writeLE : Nat → Nat → List UInt8
  | 0, _ => []
  | n + 1, v => UInt8.ofNat v :: writeLE n (v / 256)

/-- Modelled from the spec: an unsigned integer of `n` bytes, least significant first, and the
    bytes after it; `none` where the bytes end first. -/
def readLE : Nat → List UInt8 → Option (Nat × List UInt8)
  | 0, bs => some (0, bs)
  | _ + 1, [] => none
  | n + 1, b :: bs => (readLE n bs).map fun r => (b.toNat + 256 * r.1, r.2)

@[simp] theorem readLE_writeLE (n v : Nat) (rest : List UInt8) :
    readLE n (writeLE n v ++ rest) = some (v % 256 ^ n, rest) := by
  induction n generalizing v with
  | zero => simp [readLE, writeLE, Nat.mod_one]
  | succ n ih =>
    show readLE (n + 1) (UInt8.ofNat v :: (writeLE n (v / 256) ++ rest)) = _
    rw [readLE, ih, Nat.pow_succ', Nat.mod_mul]
    rfl

/-- Modelled from the spec: a `uint32_t` field. -/
def readUInt32 (bs : List UInt8) : Option (UInt32 × List UInt8) :=
  (readLE 4 bs).map fun r => (UInt32.ofNat r.1, r.2)

/-- Modelled from the spec: a `uint64_t` field. -/
def readUInt64 (bs : List UInt8) : Option (UInt64 × List UInt8) :=
  (readLE 8 bs).map fun r => (UInt64.ofNat r.1, r.2)

/-- Modelled from the spec: a `uint256` field, its 32 bytes. -/
def readUInt256 (bs : List UInt8) : Option (BitVec 256 × List UInt8) :=
  (readLE 32 bs).map fun r => (BitVec.ofNat 256 r.1, r.2)

@[simp] theorem readUInt32_writeLE (x : UInt32) (rest : List UInt8) :
    readUInt32 (writeLE 4 x.toNat ++ rest) = some (x, rest) := by
  rw [readUInt32, readLE_writeLE, Nat.mod_eq_of_lt (show x.toNat < 256 ^ 4 from x.toNat_lt_size)]
  exact congrArg (fun y => some (y, rest))
    (UInt32.toNat.inj (UInt32.toNat_ofNat_of_lt x.toNat_lt_size))

@[simp] theorem readUInt64_writeLE (x : UInt64) (rest : List UInt8) :
    readUInt64 (writeLE 8 x.toNat ++ rest) = some (x, rest) := by
  rw [readUInt64, readLE_writeLE, Nat.mod_eq_of_lt (show x.toNat < 256 ^ 8 from x.toNat_lt_size)]
  exact congrArg (fun y => some (y, rest))
    (UInt64.toNat.inj (UInt64.toNat_ofNat_of_lt x.toNat_lt_size))

@[simp] theorem readUInt256_writeLE (x : BitVec 256) (rest : List UInt8) :
    readUInt256 (writeLE 32 x.toNat ++ rest) = some (x, rest) := by
  rw [readUInt256, readLE_writeLE, Nat.mod_eq_of_lt (x.isLt.trans_eq (by norm_num))]
  simp

/-! ### Lengths and vectors -/

/-- Modelled from the spec: `WriteCompactSize`, a length in one byte below `253`, else a marker
    byte and the length in 2, 4 or 8 bytes. -/
def writeCompactSize (nSize : Nat) : List UInt8 :=
  if nSize < 253 then [UInt8.ofNat nSize]
  else if nSize ≤ 0xffff then 253 :: writeLE 2 nSize
  else if nSize ≤ 0xffffffff then 254 :: writeLE 4 nSize
  else 255 :: writeLE 8 nSize

/-- Modelled from the spec: `ReadCompactSize`, a length in one byte below `253`, else after the
    marker byte in 2, 4 or 8 bytes. -/
def readCompactSize : List UInt8 → Option (Nat × List UInt8)
  | [] => none
  | chSize :: bs =>
    if chSize.toNat < 253 then some (chSize.toNat, bs)
    else if chSize.toNat = 253 then readLE 2 bs
    else if chSize.toNat = 254 then readLE 4 bs
    else readLE 8 bs

theorem readCompactSize_writeCompactSize {nSize : Nat} (h : nSize < 2 ^ 64)
    (rest : List UInt8) :
    readCompactSize (writeCompactSize nSize ++ rest) = some (nSize, rest) := by
  unfold writeCompactSize
  split_ifs with h₁ h₂ h₃
  · have : (UInt8.ofNat nSize).toNat = nSize := Nat.mod_eq_of_lt (by omega)
    simp [readCompactSize, this, h₁]
  · simp [readCompactSize, UInt8.size, Nat.mod_eq_of_lt (show nSize < 65536 by omega)]
  · simp [readCompactSize, UInt8.size, Nat.mod_eq_of_lt (show nSize < 4294967296 by omega)]
  · simp [readCompactSize, UInt8.size,
      Nat.mod_eq_of_lt (show nSize < 18446744073709551616 by omega)]

/-- Modelled from the spec: a vector, its length and then its elements. -/
def writeVector {α : Type} (write : α → List UInt8) (v : List α) : List UInt8 :=
  writeCompactSize v.length ++ v.flatMap write

/-- Reading `n` elements one after the other. -/
def readMany {α : Type} (read : List UInt8 → Option (α × List UInt8)) :
    Nat → List UInt8 → Option (List α × List UInt8)
  | 0, bs => some ([], bs)
  | n + 1, bs => do
    let (a, bs) ← read bs
    let (v, bs) ← readMany read n bs
    return (a :: v, bs)

/-- Modelled from the spec: a vector, as its length and that many elements. -/
def readVector {α : Type} (read : List UInt8 → Option (α × List UInt8)) (bs : List UInt8) :
    Option (List α × List UInt8) := do
  let (n, bs) ← readCompactSize bs
  readMany read n bs

section

variable {α : Type} {read : List UInt8 → Option (α × List UInt8)} {write : α → List UInt8}

theorem readMany_flatMap (hrw : ∀ a rest, read (write a ++ rest) = some (a, rest))
    (v : List α) (rest : List UInt8) :
    readMany read v.length (v.flatMap write ++ rest) = some (v, rest) := by
  induction v with
  | nil => rfl
  | cons a v ih => simp [readMany, List.append_assoc, hrw, ih]

theorem readVector_writeVector (hrw : ∀ a rest, read (write a ++ rest) = some (a, rest))
    {v : List α} (hv : v.length < 2 ^ 64) (rest : List UInt8) :
    readVector read (writeVector write v ++ rest) = some (v, rest) := by
  simp [readVector, writeVector, List.append_assoc, readCompactSize_writeCompactSize hv,
    readMany_flatMap hrw]

end

/-! ### The snapshot types -/

/-- `CGetSnapshotChunk`, the request for one chunk. -/
structure GetSnapshotChunk where
  nChunkNumber : UInt32
  deriving DecidableEq, Repr

/-- `CSnapshotChunk`, the answer: the chunk's number and its bytes. -/
structure SnapshotChunk where
  nChunkNumber : UInt32
  vData : List UInt8
  deriving DecidableEq, Repr

/-- A byte of a `std::vector<unsigned char>`. -/
def readByte : List UInt8 → Option (UInt8 × List UInt8)
  | [] => none
  | b :: bs => some (b, bs)

/-- `CSnapshotChunkInfo::SerializationOp` writing. -/
def ChunkInfo.serialize (info : ChunkInfo) : List UInt8 :=
  writeLE 4 info.nChunkNumber.toNat ++ writeLE 32 info.hashChunk.toNat ++
    writeLE 8 info.nSize.toNat

/-- `CSnapshotChunkInfo::SerializationOp` reading. -/
def ChunkInfo.unserialize (bs : List UInt8) : Option (ChunkInfo × List UInt8) := do
  let (nChunkNumber, bs) ← readUInt32 bs
  let (hashChunk, bs) ← readUInt256 bs
  let (nSize, bs) ← readUInt64 bs
  return (⟨nChunkNumber, hashChunk, nSize⟩, bs)

/-- `CSnapshotManifest::SerializationOp` writing. -/
def Manifest.serialize (m : Manifest) : List UInt8 :=
  writeLE 4 m.nBlockHeight.toNat ++ writeLE 8 m.nTimestamp.toNat ++
    writeLE 8 m.nTotalSize.toNat ++ writeVector ChunkInfo.serialize m.vChunks

/-- `CSnapshotManifest::SerializationOp` reading. -/
def Manifest.unserialize (bs : List UInt8) : Option (Manifest × List UInt8) := do
  let (nBlockHeight, bs) ← readUInt32 bs
  let (nTimestamp, bs) ← readUInt64 bs
  let (nTotalSize, bs) ← readUInt64 bs
  let (vChunks, bs) ← readVector ChunkInfo.unserialize bs
  return (⟨nBlockHeight, nTimestamp, nTotalSize, vChunks⟩, bs)

/-- `CGetSnapshotChunk::SerializationOp` writing. -/
def GetSnapshotChunk.serialize (msg : GetSnapshotChunk) : List UInt8 :=
  writeLE 4 msg.nChunkNumber.toNat

/-- `CGetSnapshotChunk::SerializationOp` reading. -/
def GetSnapshotChunk.unserialize (bs : List UInt8) : Option (GetSnapshotChunk × List UInt8) :=
  (readUInt32 bs).map fun r => (⟨r.1⟩, r.2)

/-- `CSnapshotChunk::SerializationOp` writing. -/
def SnapshotChunk.serialize (msg : SnapshotChunk) : List UInt8 :=
  writeLE 4 msg.nChunkNumber.toNat ++ writeVector (fun b => [b]) msg.vData

/-- `CSnapshotChunk::SerializationOp` reading. -/
def SnapshotChunk.unserialize (bs : List UInt8) : Option (SnapshotChunk × List UInt8) := do
  let (nChunkNumber, bs) ← readUInt32 bs
  let (vData, bs) ← readVector readByte bs
  return (⟨nChunkNumber, vData⟩, bs)

@[simp] theorem ChunkInfo.unserialize_serialize (info : ChunkInfo) (rest : List UInt8) :
    ChunkInfo.unserialize (info.serialize ++ rest) = some (info, rest) := by
  simp [ChunkInfo.unserialize, ChunkInfo.serialize, List.append_assoc]

theorem Manifest.unserialize_serialize {m : Manifest} (hm : m.vChunks.length < 2 ^ 64)
    (rest : List UInt8) : Manifest.unserialize (m.serialize ++ rest) = some (m, rest) := by
  simp [Manifest.unserialize, Manifest.serialize, List.append_assoc,
    readVector_writeVector ChunkInfo.unserialize_serialize hm]

theorem GetSnapshotChunk.unserialize_serialize (msg : GetSnapshotChunk) (rest : List UInt8) :
    GetSnapshotChunk.unserialize (msg.serialize ++ rest) = some (msg, rest) := by
  simp [GetSnapshotChunk.unserialize, GetSnapshotChunk.serialize]

theorem SnapshotChunk.unserialize_serialize {msg : SnapshotChunk}
    (hm : msg.vData.length < 2 ^ 64) (rest : List UInt8) :
    SnapshotChunk.unserialize (msg.serialize ++ rest) = some (msg, rest) := by
  have hb : ∀ (b : UInt8) rest, readByte ([b] ++ rest) = some (b, rest) := fun _ _ => rfl
  simp [SnapshotChunk.unserialize, SnapshotChunk.serialize, List.append_assoc,
    readVector_writeVector hb hm]

/-! ### Streaming -/

/-- A reader that reads the same with more bytes after what it read, and leaves them. -/
def Streams {α : Type} (read : List UInt8 → Option (α × List UInt8)) : Prop :=
  ∀ {bs rest : List UInt8} {a : α} (ext : List UInt8),
    read bs = some (a, rest) → read (bs ++ ext) = some (a, rest ++ ext)

theorem streams_readLE (n : Nat) : Streams (readLE n) := by
  induction n with
  | zero => intro bs rest a ext h; cases h; rfl
  | succ n ih =>
    intro bs rest a ext h
    cases bs with
    | nil => cases h
    | cons b bs =>
      obtain ⟨⟨v, rest'⟩, hv, he⟩ := Option.map_eq_some'.mp h
      cases he
      simp [readLE, ih ext hv]

theorem Streams.map {α β : Type} {read : List UInt8 → Option (α × List UInt8)} (h : Streams read)
    (f : α → β) : Streams fun bs => (read bs).map fun r => (f r.1, r.2) := by
  intro bs rest b ext hb
  obtain ⟨⟨a, rest'⟩, ha, he⟩ := Option.map_eq_some'.mp hb
  cases he
  simp [h ext ha]

theorem streams_readCompactSize : Streams readCompactSize := by
  intro bs rest n ext h
  cases bs with
  | nil => cases h
  | cons chSize bs =>
    simp only [readCompactSize, List.cons_append] at h ⊢
    split_ifs at h ⊢
    · simpa using h
    all_goals exact streams_readLE _ ext h

section

variable {α : Type} {read : List UInt8 → Option (α × List UInt8)}

theorem Streams.readMany (h : Streams read) (n : Nat) : Streams (readMany read n) := by
  induction n with
  | zero => intro bs rest v ext hv; cases hv; rfl
  | succ n ih =>
    intro bs rest v ext hv
    simp only [Snapshot.readMany, Option.bind_eq_bind, Option.bind_eq_some, Option.pure_def,
      Option.some_inj] at hv ⊢
    obtain ⟨⟨a, bs₁⟩, ha, ⟨w, bs₂⟩, hw, he⟩ := hv
    exact ⟨(a, bs₁ ++ ext), h ext ha, (w, bs₂ ++ ext), ih ext hw, by cases he; rfl⟩

theorem Streams.readVector (h : Streams read) : Streams (Snapshot.readVector read) := by
  intro bs rest v ext hv
  simp only [Snapshot.readVector, Option.bind_eq_bind, Option.bind_eq_some] at hv ⊢
  obtain ⟨⟨n, bs₁⟩, hn, hv⟩ := hv
  exact ⟨(n, bs₁ ++ ext), streams_readCompactSize ext hn, (h.readMany n) ext hv⟩

end

theorem ChunkInfo.streams_unserialize : Streams ChunkInfo.unserialize := by
  intro bs rest info ext h
  simp only [ChunkInfo.unserialize, Option.bind_eq_bind, Option.bind_eq_some, Option.pure_def,
    Option.some_inj] at h ⊢
  obtain ⟨⟨n, bs₁⟩, hn, ⟨hash, bs₂⟩, hh, ⟨size, bs₃⟩, hs, he⟩ := h
  exact ⟨(n, bs₁ ++ ext), Streams.map (streams_readLE 4) _ ext hn, (hash, bs₂ ++ ext),
    Streams.map (streams_readLE 32) _ ext hh, (size, bs₃ ++ ext), Streams.map (streams_readLE 8) _ ext hs,
    by cases he; rfl⟩

theorem Manifest.streams_unserialize : Streams Manifest.unserialize := by
  intro bs rest m ext h
  simp only [Manifest.unserialize, Option.bind_eq_bind, Option.bind_eq_some, Option.pure_def,
    Option.some_inj] at h ⊢
  obtain ⟨⟨n, bs₁⟩, hn, ⟨ts, bs₂⟩, ht, ⟨size, bs₃⟩, hs, ⟨v, bs₄⟩, hv, he⟩ := h
  exact ⟨(n, bs₁ ++ ext), Streams.map (streams_readLE 4) _ ext hn, (ts, bs₂ ++ ext),
    Streams.map (streams_readLE 8) _ ext ht, (size, bs₃ ++ ext), Streams.map (streams_readLE 8) _ ext hs,
    (v, bs₄ ++ ext), ChunkInfo.streams_unserialize.readVector ext hv, by cases he; rfl⟩

/-- No strict prefix of a manifest's bytes reads as a manifest: the reader would read the same
    from the whole, where it reads the manifest to the last byte. -/
theorem Manifest.unserialize_take {m : Manifest} (hm : m.vChunks.length < 2 ^ 64) {n : Nat}
    (hn : n < m.serialize.length) : Manifest.unserialize (m.serialize.take n) = none := by
  cases hu : Manifest.unserialize (m.serialize.take n) with
  | none => rfl
  | some r =>
    have hwhole := Manifest.streams_unserialize (m.serialize.drop n) hu
    have hself := Manifest.unserialize_serialize hm []
    rw [List.append_nil] at hself
    rw [List.take_append_drop, hself] at hwhole
    have hdrop : m.serialize.drop n = [] :=
      (List.append_eq_nil.mp (Prod.mk.inj (Option.some.inj hwhole)).2.symm).2
    simp only [List.drop_eq_nil_iff] at hdrop
    omega

end Snapshot

end Zclassic
