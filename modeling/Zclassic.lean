import Zclassic.Arith.Compact
import Zclassic.Pow.Difficulty
import Zclassic.Pow.Retarget
import Zclassic.Pow.Work
import Zclassic.Pow.Emergency
import Zclassic.Pow.Averaging
import Zclassic.Pow.RandomX
import Zclassic.Pow.Hex
import Zclassic.Snapshot.Store
import Zclassic.Snapshot.Serialize
import Zclassic.Snapshot.ManifestFile
import Zclassic.Snapshot.Checkpoint
import Zclassic.Snapshot.RateLimiter
import Zclassic.Snapshot.Window
import Zclassic.Snapshot.Cleanup
import Zclassic.Snapshot.Download
import Zclassic.Snapshot.Session
import Zclassic.Snapshot.InFlight
import Zclassic.Snapshot.Backoff
import Zclassic.Snapshot.ChunkFiles
import Zclassic.Snapshot.Pipeline
import Zclassic.Snapshot.Progress
