import PtlThreadPool.Basic
import PtlThreadPool.Registry
import PtlThreadPool.Worker
import PtlThreadPool.Pool
import PtlThreadPool.System
import PtlThreadPool.Invariants
import PtlThreadPool.Shutdown
import PtlThreadPool.Resize
import PtlThreadPool.Liveness
import PtlThreadPool.Constructor
import PtlThreadPool.Awake
import PtlThreadPool.Lifecycle
import PtlThreadPool.Progress
import PtlThreadPool.Grow
import PtlThreadPool.Numbering
import PtlThreadPool.Phases
