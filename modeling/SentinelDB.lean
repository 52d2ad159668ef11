import SentinelDB.Text
import SentinelDB.History
import SentinelDB.Store
import SentinelDB.Guard
import SentinelDB.Wal
import SentinelDB.KVStore
import SentinelDB.Evaluation
import SentinelDB.CommandParser
import SentinelDB.Recovery
import SentinelDB.Replay
import SentinelDB.Restart
import SentinelDB.Engine
import SentinelDB.Retention
import SentinelDB.Policy
import SentinelDB.Persistence
import SentinelDB.Ordering
import SentinelDB.GuardCommands
import SentinelDB.Negotiation
import SentinelDB.Simulation
import SentinelDB.Explain
import SentinelDB.RangeGuard
import SentinelDB.KeyPatterns
import SentinelDB.Json
import SentinelDB.Timestamps
import SentinelDB.DriverAgreement
import SentinelDB.ClockBound
import SentinelDB.Cli
import SentinelDB.Http
import SentinelDB.LocalTime
import SentinelDB.TimestampRoundTrip
import SentinelDB.TimeTravel
import SentinelDB.RetentionSettings
