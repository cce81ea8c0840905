import RebootManager.Foundation.CString
import RebootManager.Foundation.Decimal
import RebootManager.Foundation.OpProg
import RebootManager.Foundation.Transition
import RebootManager.Foundation.WhileLoop
import RebootManager.Foundation.Memory
import RebootManager.Foundation.FileStore
import RebootManager.Foundation.FlatRecord
import RebootManager.Platform.Clock
import RebootManager.Platform.Device
import RebootManager.Platform.RebootInfo
import RebootManager.Helper.Rfc
import RebootManager.Helper.CyclicReboot
import RebootManager.Helper.PidFile
import RebootManager.Helper.RebootMain
import RebootManager.Helper.LoopState
import RebootManager.Helper.LoopBound
import RebootManager.Helper.StopMode
import RebootManager.Helper.SameCause
import RebootManager.Helper.PidGuard
import RebootManager.Helper.PidGuardSafety
import RebootManager.Helper.RebootNowScript
import RebootManager.Helper.Wrapper
import RebootManager.Fetcher.Classify
import RebootManager.Fetcher.RebootLog
import RebootManager.Fetcher.FetcherMain
import RebootManager.Fetcher.RecordFiles
import RebootManager.Fetcher.PersistedRecord
import RebootManager.Fetcher.Idempotence
import RebootManager.Fetcher.AtomicRecord
import RebootManager.Fetcher.HandOver
import RebootManager.Fetcher.RecordsAgree
import RebootManager.Foundation.CopyStream
import RebootManager.Helper.SyncLogs
import RebootManager.Fetcher.Register
import RebootManager.Fetcher.Invocation
import RebootManager.Fetcher.ParodusHandOff
import RebootManager.Fetcher.EvidenceScan
import RebootManager.Fetcher.LegacyLog
import RebootManager.Fetcher.LogRoundTrip
import RebootManager.Fetcher.RecordReadBack
import RebootManager.Fetcher.BackupWait
import RebootManager.Helper.StopCoherence
import RebootManager.Helper.Categories
import RebootManager.Helper.TriggerOptions
import RebootManager.Helper.RebootInfoLog
import RebootManager.Helper.StopDuration
import RebootManager.Helper.RdmCleanup
import RebootManager.Foundation.FileTree
import RebootManager.Helper.ClearSubdirectory
import RebootManager.Fetcher.DeviceProperties
import RebootManager.Fetcher.CleanFields
import RebootManager.Fetcher.LogDiscovery
import RebootManager.Helper.CronTime
import RebootManager.Helper.LogBuffer
import RebootManager.Foundation.CronTable
import RebootManager.Helper.PauseExpiry
import RebootManager.Helper.ScriptRecords
import RebootManager.Helper.ScriptLoop
import RebootManager.Helper.ScriptCall
import RebootManager.Helper.ScriptDecision
import RebootManager.Helper.MixedLoop
import RebootManager.Fetcher.Delivery
import RebootManager.Fetcher.RecordSurvives
import RebootManager.Helper.CounterCut
import RebootManager.Fetcher.BootLoop
import RebootManager.Fetcher.ForgottenLoop
import RebootManager.Fetcher.UpdateLock
import RebootManager.Foundation.ShellWords
import RebootManager.Helper.PauseEnds
