import AlertEngine.Document.Event
import AlertEngine.Document.Routing
import AlertEngine.Document.Settings
import AlertEngine.Document.Task
import AlertEngine.Json.Writer
import AlertEngine.Main
import AlertEngine.Registry
import AlertEngine.Routing.Watch
import AlertEngine.Routing.WatchSteps
import AlertEngine.Proofs.Debouncing
import AlertEngine.Proofs.Agreement
import AlertEngine.Proofs.OverallChain
import AlertEngine.Proofs.SettledZones
import AlertEngine.Proofs.MonitorRun
import AlertEngine.Proofs.AlertLaw
import AlertEngine.Proofs.ZoneIsolation
import AlertEngine.Proofs.Processing
import AlertEngine.Proofs.SteadyBuckets
import AlertEngine.Proofs.Polling
import AlertEngine.Proofs.ExpressionTree
import AlertEngine.Proofs.WatcherRun
import AlertEngine.Proofs.Picking
import AlertEngine.Proofs.Moves
import AlertEngine.Proofs.ShortCircuit
import AlertEngine.Proofs.Typing
import AlertEngine.Proofs.LikeZones
import AlertEngine.Proofs.LargerQuorum
import AlertEngine.Proofs.TaskIsolation
import AlertEngine.Proofs.Interleaving
import AlertEngine.Proofs.WatchOrder
import AlertEngine.Proofs.EventIds
import AlertEngine.Proofs.Replaying
import AlertEngine.Proofs.WatchTurns
import AlertEngine.Proofs.WrittenTexts
import AlertEngine.Proofs.FieldOrder
import AlertEngine.Proofs.ReadBack
import AlertEngine.Proofs.OneScan
import AlertEngine.Proofs.HigherCounts
import AlertEngine.Proofs.MissingData
import AlertEngine.Proofs.GroupKeys
import AlertEngine.Proofs.Doubles
import AlertEngine.Proofs.JumpsInWords
import AlertEngine.Proofs.StatedFields
import AlertEngine.Proofs.TaskDefaults
