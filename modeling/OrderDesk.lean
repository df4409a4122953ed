import OrderDesk.Action.Payload
import OrderDesk.Action.Run
import OrderDesk.Alert.Host
import OrderDesk.Alert.Sink
import OrderDesk.Calendar.Date
import OrderDesk.Calendar.Field
import OrderDesk.Calendar.Iso
import OrderDesk.Calendar.Span
import OrderDesk.Calendar.Timestamp
import OrderDesk.Condition.Basic
import OrderDesk.Condition.Decode
import OrderDesk.Condition.Encode
import OrderDesk.Condition.Evaluate
import OrderDesk.Condition.Summary
import OrderDesk.Console.Command
import OrderDesk.Console.Screen
import OrderDesk.Console.Site
import OrderDesk.Console.Words
import OrderDesk.Desk.Basic
import OrderDesk.Desk.Create
import OrderDesk.Desk.Lifecycle
import OrderDesk.Desk.Listing
import OrderDesk.Desk.Runtime
import OrderDesk.Desk.Task
import OrderDesk.Fault
import OrderDesk.Flow.Basic
import OrderDesk.Flow.Check
import OrderDesk.Flow.Draft
import OrderDesk.Flow.Template
import OrderDesk.Flow.Wire
import OrderDesk.Journal.Entry
import OrderDesk.Journal.Phrase
import OrderDesk.Journal.Recorder
import OrderDesk.Json.Basic
import OrderDesk.Json.Read
import OrderDesk.Json.Shown
import OrderDesk.Json.Write
import OrderDesk.Main
import OrderDesk.Notice.Event
import OrderDesk.Notice.Render
import OrderDesk.Notice.Wording
import OrderDesk.Numeric.Binary64
import OrderDesk.Numeric.Decimal
import OrderDesk.Numeric.Display
import OrderDesk.Numeric.Number
import OrderDesk.Order.Decode
import OrderDesk.Order.Encode
import OrderDesk.Order.Kind
import OrderDesk.Order.Params
import OrderDesk.Order.Record
import OrderDesk.Order.State
import OrderDesk.Order.Status
import OrderDesk.Proofs.Alert.Isolation
import OrderDesk.Proofs.Alert.Tally
import OrderDesk.Proofs.Calendar.Dates
import OrderDesk.Proofs.Calendar.Digits
import OrderDesk.Proofs.Calendar.FieldText
import OrderDesk.Proofs.Calendar.MomentText
import OrderDesk.Proofs.Condition.Answer
import OrderDesk.Proofs.Condition.Blame
import OrderDesk.Proofs.Condition.Compare
import OrderDesk.Proofs.Condition.Finite
import OrderDesk.Proofs.Condition.Loss
import OrderDesk.Proofs.Condition.Normal
import OrderDesk.Proofs.Condition.Overload
import OrderDesk.Proofs.Condition.Parts
import OrderDesk.Proofs.Condition.Ranking
import OrderDesk.Proofs.Condition.Report
import OrderDesk.Proofs.Condition.Reread
import OrderDesk.Proofs.Condition.Tree
import OrderDesk.Proofs.Console.Errands
import OrderDesk.Proofs.Console.Growth
import OrderDesk.Proofs.Desk.Actions
import OrderDesk.Proofs.Desk.Aftermath
import OrderDesk.Proofs.Desk.Alarms
import OrderDesk.Proofs.Desk.Amendment
import OrderDesk.Proofs.Desk.Backends
import OrderDesk.Proofs.Desk.Bulletin
import OrderDesk.Proofs.Desk.Census
import OrderDesk.Proofs.Desk.Creation
import OrderDesk.Proofs.Desk.Decision
import OrderDesk.Proofs.Desk.Engagement
import OrderDesk.Proofs.Desk.Enrolment
import OrderDesk.Proofs.Desk.Execution
import OrderDesk.Proofs.Desk.Filing
import OrderDesk.Proofs.Desk.History
import OrderDesk.Proofs.Desk.Intake
import OrderDesk.Proofs.Desk.Listing
import OrderDesk.Proofs.Desk.Lockstep
import OrderDesk.Proofs.Desk.Mirror
import OrderDesk.Proofs.Desk.Pages
import OrderDesk.Proofs.Desk.Renewal
import OrderDesk.Proofs.Desk.Reopening
import OrderDesk.Proofs.Desk.Repeat
import OrderDesk.Proofs.Desk.Roster
import OrderDesk.Proofs.Desk.Session
import OrderDesk.Proofs.Desk.Settled
import OrderDesk.Proofs.Desk.Stamps
import OrderDesk.Proofs.Desk.Standing
import OrderDesk.Proofs.Desk.Stock
import OrderDesk.Proofs.Desk.Stoppage
import OrderDesk.Proofs.Desk.Transitions
import OrderDesk.Proofs.Desk.Trial
import OrderDesk.Proofs.Desk.Trouble
import OrderDesk.Proofs.Desk.Upkeep
import OrderDesk.Proofs.Desk.Visits
import OrderDesk.Proofs.Flow.Course
import OrderDesk.Proofs.Flow.Draft
import OrderDesk.Proofs.Flow.Meaning
import OrderDesk.Proofs.Flow.Rules
import OrderDesk.Proofs.Flow.Search
import OrderDesk.Proofs.Flow.Template
import OrderDesk.Proofs.Flow.Wire
import OrderDesk.Proofs.Notice.Occasion
import OrderDesk.Proofs.Notice.Rendering
import OrderDesk.Proofs.Notice.Token
import OrderDesk.Proofs.Numeric.Comparison
import OrderDesk.Proofs.Numeric.Rank
import OrderDesk.Proofs.Numeric.Reach
import OrderDesk.Proofs.Numeric.Rounding
import OrderDesk.Proofs.Numeric.Sign
import OrderDesk.Proofs.Order.Record
import OrderDesk.Proofs.Order.Reread
import OrderDesk.Proofs.Order.Restore
import OrderDesk.Proofs.Order.Spelling
import OrderDesk.Proofs.Order.Terms
import OrderDesk.Proofs.Schedule.Check
import OrderDesk.Proofs.Schedule.Overrun
import OrderDesk.Proofs.Schedule.Pace
import OrderDesk.Proofs.Store.Gist
import OrderDesk.Proofs.Store.Laws
import OrderDesk.Proofs.Store.Printing
import OrderDesk.Proofs.Store.Shelf
import OrderDesk.Proofs.Store.Twin
import OrderDesk.Proofs.Trailing.Check
import OrderDesk.Proofs.Trailing.Fire
import OrderDesk.Proofs.Trailing.Guard
import OrderDesk.Proofs.Trailing.Mark
import OrderDesk.Proofs.Trailing.Peak
import OrderDesk.Proofs.Trailing.Price
import OrderDesk.Proofs.Validation.Overload
import OrderDesk.Proofs.Validation.Reread
import OrderDesk.Settings.Basic
import OrderDesk.Settings.Decode
import OrderDesk.Settings.Load
import OrderDesk.Settings.Variables
import OrderDesk.Store.Basic
import OrderDesk.Store.File
import OrderDesk.Store.Row
import OrderDesk.Text.Blank
import OrderDesk.Text.Case
import OrderDesk.Text.Numerals
import OrderDesk.Text.Path
import OrderDesk.Text.Printable
import OrderDesk.Text.Quoted
import OrderDesk.Text.Split
import OrderDesk.Validation.Fields
import OrderDesk.Validation.Issue
import OrderDesk.Yaml.Read
import OrderDesk.Yaml.Scalar
