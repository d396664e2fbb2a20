import Courier.Export.Display
import Courier.Main
import Courier.Memory.World
import Courier.Proofs.Program.Rule
import Courier.Proofs.Item.Phase
import Courier.Proofs.Memory.Answer
import Courier.Proofs.Memory.Loss
import Courier.Proofs.Item.Account
import Courier.Proofs.Program.Crew
import Courier.Proofs.Program.Schedule
import Courier.Proofs.Run.Closing
import Courier.Proofs.Run.History
import Courier.Proofs.Run.Ledger
import Courier.Proofs.Run.Restart
import Courier.Proofs.Base64.Quantum
import Courier.Proofs.Base64.RoundTrip
import Courier.Proofs.Aes.CounterMode
import Courier.Proofs.Body.Polling
import Courier.Proofs.Body.Cutting
import Courier.Proofs.Body.Material
import Courier.Proofs.Body.Decryption
import Courier.Proofs.Body.Course
import Courier.Proofs.Memory.FaultFree
import Courier.Proofs.Export.Object
import Courier.Proofs.Item.Delivery
import Courier.Proofs.Run.Empty
import Courier.Proofs.Run.Announcement
import Courier.Proofs.Export.Marker
import Courier.Proofs.Item.Verdict
import Courier.Proofs.Memory.Effect
import Courier.Proofs.Run.Tally
import Courier.Proofs.Run.Steady
import Courier.Proofs.Run.Forecast
import Courier.Proofs.Run.Order
import Courier.Proofs.Run.Repetition
import Courier.Proofs.Run.Delivered
import Courier.Proofs.Run.Reprocessing
import Courier.Proofs.Status.Contest
import Courier.Proofs.Status.Loss
import Courier.Proofs.Run.Fleet
import Courier.Proofs.Run.Report
import Courier.Proofs.Services.Expression
import Courier.Proofs.Services.ItemTable
import Courier.Proofs.Services.Rows
import Courier.Proofs.Services.Pages
import Courier.Proofs.Services.Refinement
import Courier.Proofs.Services.KeyService
import Courier.Proofs.Services.KeyMemory
import Courier.Proofs.Http.Query
import Courier.Proofs.Services.KeyRequest
import Courier.Proofs.Services.KeyRush
import Courier.Proofs.Text.Pieces
import Courier.Proofs.Text.Pattern
import Courier.Proofs.Fallible
import Courier.Proofs.Export.Division
import Courier.Proofs.Export.Grammar
import Courier.Proofs.Export.Topic
import Courier.Proofs.Run.Blocking
import Courier.Proofs.Settings.BlockList
import Courier.Proofs.Text.Opening
import Courier.Proofs.Export.Indicator
import Courier.Proofs.Backoff.Timeline
import Courier.Proofs.Program.Trace
import Courier.Proofs.Item.Attempts
import Courier.Proofs.Item.Reason
import Courier.Proofs.Run.Rounds
import Courier.Proofs.Run.Accounts
import Courier.Proofs.Number.Rounding
import Courier.Proofs.Number.Power
import Courier.Proofs.Backoff.Growth
import Courier.Proofs.Settings.Patience
import Courier.Proofs.Base64.Canonical
import Courier.Proofs.Item.Unusable
import Courier.Proofs.Services.Paging
import Courier.Proofs.Status.Completion
