import LiveWorld.Proof.SpscQueue.Inbox
import LiveWorld.Proof.SpscQueue.Refinement
import LiveWorld.Proof.Runtime.Bookkeeping
import LiveWorld.Proof.Engine.Deltas
import LiveWorld.Proof.Engine.Cells
import LiveWorld.Proof.Engine.Ghosts
import LiveWorld.Proof.Recovery
import LiveWorld.Proof.Durability
import LiveWorld.Proof.Freshness
import LiveWorld.Proof.Gate
import LiveWorld.Lib.KeyedMap
import LiveWorld.RedisSync
import LiveWorld.Spec.Sync
import LiveWorld.Proof.Sync
import LiveWorld.Proof.Engine.Calls
import LiveWorld.Spec.Cluster
import LiveWorld.Proof.Cluster
import LiveWorld.Sessions
import LiveWorld.Spec.Sessions
import LiveWorld.Proof.Sessions
import LiveWorld.Proof.Isolation
import LiveWorld.Shard
import LiveWorld.Spec.Shard
import LiveWorld.Proof.Shard.Runs
import LiveWorld.Proof.Shard.Combat
import LiveWorld.Proof.Engine.Windows
import LiveWorld.Proof.Shard.Visibility
import LiveWorld.Proof.Shard.Directives
import LiveWorld.Lib.Split
import LiveWorld.Proof.Engine.Peace
import LiveWorld.Proof.Shard.Mirror
import LiveWorld.Proof.Shard.Simulation
import LiveWorld.Proof.SpscQueue.Fifo
import LiveWorld.Lib.Largest
import LiveWorld.Proof.Crash
import LiveWorld.CircuitBreaker
import LiveWorld.SemanticCache
import LiveWorld.Spec.Breaker
import LiveWorld.Proof.Breaker
import LiveWorld.AgentDecision
import LiveWorld.Proof.Verdicts
import LiveWorld.Proof.Revocation
import LiveWorld.Proof.Engine.Anchors
import LiveWorld.Spec.Feed
import LiveWorld.Proof.Engine.News
import LiveWorld.Proof.Engine.Feed
import LiveWorld.Proof.Engine.Territory
import LiveWorld.Proof.Bounds
import LiveWorld.Proof.Gauge
import LiveWorld.Proof.Engine.Attack
import LiveWorld.Proof.Runtime.Batching
import LiveWorld.Proof.Engine.Capture
import LiveWorld.Lib.Recency
import LiveWorld.Proof.Cache
import LiveWorld.Proof.Overflow
import LiveWorld.Proof.Runtime.Orders
import LiveWorld.Spec.Vitals
import LiveWorld.Proof.Runtime.Damage
import LiveWorld.Proof.Tokens
import LiveWorld.Proof.Limiter
import LiveWorld.Proof.Models
import LiveWorld.Proof.Rate
import LiveWorld.GlobalAgents
import LiveWorld.Lib.Padding
import LiveWorld.Lib.Separator
import LiveWorld.Metrics
import LiveWorld.Page
import LiveWorld.Proof.Actions
import LiveWorld.Proof.Agency
import LiveWorld.Proof.Engine.Awake
import LiveWorld.Proof.Engine.Careers
import LiveWorld.Proof.Http
import LiveWorld.Proof.Minds.Accounts
import LiveWorld.Proof.Minds.Causes
import LiveWorld.Proof.Minds.Stillness
import LiveWorld.Proof.Pages
import LiveWorld.Proof.Resharding
import LiveWorld.Proof.SpscQueue.Disposal
