import TiltMenu.CommandLine.Quoted
import TiltMenu.Main
import TiltMenu.Menu.Rehearsal
import TiltMenu.Config.Json
import TiltMenu.Log.Query
import TiltMenu.SessionId
import TiltMenu.Proofs.Menu.Schema
import TiltMenu.Proofs.Menu.TiltSafety
import TiltMenu.Proofs.Input.ScriptAgreement
import TiltMenu.Proofs.Menu.CutBatch
import TiltMenu.Proofs.Input.Unsplittable
import TiltMenu.Proofs.Input.Failures
import TiltMenu.Proofs.Menu.Ending
import TiltMenu.Proofs.Device.History
import TiltMenu.Proofs.Device.Replay
import TiltMenu.Proofs.Device.Alarms
import TiltMenu.Proofs.Input.Answers
import TiltMenu.Proofs.Menu.Routing
import TiltMenu.Proofs.Input.Wordless
import TiltMenu.Proofs.Menu.Account
import TiltMenu.Proofs.Menu.EmptyInput
import TiltMenu.Proofs.Input.Written
import TiltMenu.Proofs.Menu.StoreAlone
import TiltMenu.Proofs.Device.Stepwise
import TiltMenu.Proofs.Device.Acceptance
import TiltMenu.Proofs.Text.Order
import TiltMenu.Proofs.Json.Reading
import TiltMenu.Proofs.Menu.Announcement
import TiltMenu.Proofs.Store.Json
import TiltMenu.Proofs.Program.Batch
import TiltMenu.Proofs.Store.Repetition
import TiltMenu.Proofs.Store.Order
import TiltMenu.Proofs.Device.Display
import TiltMenu.Proofs.Input.Prompt
import TiltMenu.Proofs.Menu.Reconfiguration
import TiltMenu.Proofs.Config.Validity
import TiltMenu.Proofs.Store.OrderedMap
