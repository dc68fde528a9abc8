import Mathlib.Data.List.Basic

/-!
# The UTXO Checkpoint

`VerifySnapshotUTXOHash(blockHash, nHeight)` checks a loaded snapshot against the snapshot
checkpoints of the chain parameters: for the checkpoint of the snapshot's block it compares
`CalculateUTXOSetHash`, the hash `GetStats` computes over the coins database, with the
checkpoint's `hashUTXOSet`, unless that is the all-zero placeholder.

The loop that looks for the checkpoint asks for the height and the block hash together. A
block whose hash differs from the checkpoint at its height is therefore taken for a height
with no checkpoint, which the function logs as "No checkpoint found for height" and passes.
`verifySnapshotUTXOHash_eq_false_iff` says when the function refuses, for every list of
checkpoints and every state of the coins database, and `verifySnapshotUTXOHash_wrong_block`
is a block that passes against a checkpoint at its height with another hash.

## Main definitions

* `SnapshotCheckpoint`, `CoinsStats`: What the function reads of a checkpoint and of the
  coins database's statistics.
* `calculateUTXOSetHash`, `verifySnapshotUTXOHash`: The two functions.

## Theorems

* `verifySnapshotUTXOHash_eq_false_iff`: The only way to fail is a mismatching UTXO hash at
  a checkpoint whose height and block hash both match.
* `verifySnapshotUTXOHash_wrong_block`: A wrong block at the checkpointed height passes.
-/

namespace Zclassic

namespace Snapshot

/-- Modelled from the spec: `CSnapshotCheckpoint`, declared in `chainparams.h`, which is not
    among the sources; the fields `VerifySnapshotUTXOHash` reads. -/
structure SnapshotCheckpoint where
  nHeight : Int
  hashBlock : BitVec 256
  hashUTXOSet : BitVec 256
  deriving DecidableEq, Repr

/-- Modelled from the spec: `CCoinsStats`, declared in `coins.h`, which is not among the
    sources; the fields `CalculateUTXOSetHash` reads. -/
structure CoinsStats where
  hashBlock : BitVec 256
  hashSerialized : BitVec 256
  deriving DecidableEq, Repr

/-- `CalculateUTXOSetHash(blockHash)`, given what `pcoinsTip->GetStats` yields: `none` when
    `pcoinsTip` is null or `GetStats` fails, which gives the zero hash. A tip other than
    `blockHash` is only logged, so the block hash plays no part. -/
def calculateUTXOSetHash (stats : Option CoinsStats) : BitVec 256 :=
  match stats with
  | none => 0
  | some s => s.hashSerialized

/-- `VerifySnapshotUTXOHash(blockHash, nHeight)`, for the checkpoints `Params()` holds and the
    coins database's statistics. -/
def verifySnapshotUTXOHash (checkpoints : List SnapshotCheckpoint) (stats : Option CoinsStats)
    (blockHash : BitVec 256) (nHeight : Int) : Bool :=
  if checkpoints.isEmpty then true else
  match checkpoints.find? fun c => c.nHeight == nHeight && c.hashBlock == blockHash with
  | none => true
  | some c => if c.hashUTXOSet = 0 then true else calculateUTXOSetHash stats == c.hashUTXOSet

/-- The check refuses exactly when a checkpoint matches both the height and the block hash, and
    the first such has a real UTXO hash that the coins database does not give. -/
theorem verifySnapshotUTXOHash_eq_false_iff (checkpoints : List SnapshotCheckpoint)
    (stats : Option CoinsStats) (blockHash : BitVec 256) (nHeight : Int) :
    verifySnapshotUTXOHash checkpoints stats blockHash nHeight = false ↔
      ∃ c, checkpoints.find? (fun c => c.nHeight == nHeight && c.hashBlock == blockHash) =
        some c ∧ c.hashUTXOSet ≠ 0 ∧ calculateUTXOSetHash stats ≠ c.hashUTXOSet := by
  unfold verifySnapshotUTXOHash
  cases hc : checkpoints.isEmpty
  · cases hf : checkpoints.find? fun c => c.nHeight == nHeight && c.hashBlock == blockHash with
    | none => simp
    | some c => by_cases h0 : c.hashUTXOSet = 0 <;> simp [h0]
  · simp [List.isEmpty_iff.mp hc]

/-- The checkpoint of the snapshot height, with its block hash and a real UTXO hash. -/
def snapshotCheckpoint : SnapshotCheckpoint :=
  ⟨2879438, BitVec.ofNat 256 0x000007e8fccb9e4831c7d7376a283b016ead6166491f951f4f083dbe366992b2,
    BitVec.ofNat 256 0xabc123def456⟩

/-- A zero block hash at the checkpointed height passes, with a coins database that gives no
    UTXO hash at all, though the checkpoint there names another block. -/
theorem verifySnapshotUTXOHash_wrong_block :
    snapshotCheckpoint.nHeight = 2879438 ∧ snapshotCheckpoint.hashBlock ≠ 0 ∧
    verifySnapshotUTXOHash [snapshotCheckpoint] none 0 2879438 = true := by
  decide

end Snapshot

end Zclassic
