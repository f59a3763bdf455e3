import FreeLunch.Store.Writer
import FreeLunch.Inventory.Threshold
import FreeLunch.Gateway.Penalties
import FreeLunch.Runtime.AdminConfig
import FreeLunch.Runtime.Readiness
import FreeLunch.Inventory.Discovery
import FreeLunch.Gateway.Auth
import FreeLunch.Inventory.DiscoveredRows
import FreeLunch.Health.ProbeBudget
import FreeLunch.Runtime.Serving
import FreeLunch.Gateway.RequestPhase
import FreeLunch.Store.EnqueueCalls
import FreeLunch.Gateway.ThrottleCounters
import FreeLunch.Routing.ExplicitModel
import FreeLunch.Gateway.EventSizes
import FreeLunch.Gateway.DataEvents
import FreeLunch.Routing.RankingDominance
import FreeLunch.Inventory.Leaderboard
import FreeLunch.Runtime.ManagedSecrets
import FreeLunch.Gateway.AttemptLimit
import FreeLunch.Routing.BestFactors
import FreeLunch.Routing.ScoreRange
import FreeLunch.Routing.PreferenceDominance
import FreeLunch.Health.ProbeSelection
import FreeLunch.Health.Cooldowns
import FreeLunch.Health.CooldownWatch
import FreeLunch.Runtime.ApiBase
import FreeLunch.Tokens.RepoIds
import FreeLunch.Tokens.Growth
import FreeLunch.Tokens.Preload
import FreeLunch.Runtime.FileSettings
import FreeLunch.Health.TokenReview
import FreeLunch.Providers.Requests
import FreeLunch.Providers.ChatResults
import FreeLunch.Runtime.OverrideHistory
import FreeLunch.Inventory.OpenLlm
import FreeLunch.Gateway.FailureWindows
import FreeLunch.Store.Reinit
import FreeLunch.Health.ProbeRun
import FreeLunch.Admin.GatewayKey
import FreeLunch.Admin.RefreshRace
import FreeLunch.Foundations.Aggregates
import FreeLunch.Foundations.BoundedQueues
import FreeLunch.Foundations.Numerals
import FreeLunch.Foundations.PrunedLogs
import FreeLunch.Health.CooldownClock
import FreeLunch.Health.RequestLog
import FreeLunch.Logging.RuntimeLogging
import FreeLunch.Logging.StopRace
