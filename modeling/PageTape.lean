import PageTape.Script.Frameworks
import PageTape.Recording.Codec
import PageTape.Replay.Scenario
import PageTape.Dom.Node
import PageTape.Dom.Forest
import PageTape.Html.Token
import PageTape.Html.Reader
import PageTape.Css.Escape
import PageTape.Css.Match
import PageTape.Dom.Visible
import PageTape.Locator.Label
import PageTape.Form.Capture
import PageTape.Form.Submit
import PageTape.Form.Expectation
import PageTape.Page.Query
import PageTape.Clock.Program
import PageTape.Page.State
import PageTape.Recorder.Config
import PageTape.Recorder.State
import PageTape.Locator.Written
import PageTape.Recorder.Element
import PageTape.Recorder.Typing
import PageTape.Recorder.Gesture
import PageTape.Recorder.Growth
import PageTape.Recorder.Traffic
import PageTape.Recorder.Session
import PageTape.Scene.State
import PageTape.Scene.Deliver
import PageTape.Scene.Document
import PageTape.Scene.Network
import PageTape.Scene.Browser
import PageTape.Scene.Record
import PageTape.Scene.Action
import PageTape.Replay.Player
import PageTape.Yaml.Cursor
import PageTape.Yaml.Scalar
import PageTape.Yaml.Token
import PageTape.Yaml.Node
import PageTape.Yaml.Plain
import PageTape.Yaml.Reader
import PageTape.Yaml.Style
import PageTape.Yaml.Writer
import PageTape.Files.Folder
import PageTape.Recording.File
import PageTape.Command.Arguments
import PageTape.Command.Run
import PageTape.Main
import PageTape.Proofs.Course
import PageTape.Proofs.Clock.Timers
import PageTape.Proofs.Recorder.Move
import PageTape.Proofs.Recorder.Typing
import PageTape.Proofs.Recorder.Gesture
import PageTape.Proofs.Recorder.Traffic
import PageTape.Proofs.Recorder.Session
import PageTape.Proofs.Recorder.Signal
import PageTape.Proofs.Recorder.Kept
import PageTape.Proofs.Recorder.Order
import PageTape.Proofs.Scene.Move
import PageTape.Proofs.Recorder.Account
import PageTape.Proofs.Scene.Lifecycle
import PageTape.Proofs.Scene.Requests
import PageTape.Proofs.Scene.Ledger
import PageTape.Proofs.Recorder.Serial
import PageTape.Proofs.Recorder.Origin
import PageTape.Proofs.Recorder.Gate
import PageTape.Proofs.Scene.Gate
import PageTape.Proofs.Css.Name
import PageTape.Proofs.Css.Read
import PageTape.Proofs.Dom.Location
import PageTape.Proofs.Css.Match
import PageTape.Proofs.Locator.Trail
import PageTape.Proofs.Locator.Resemble
import PageTape.Proofs.Locator.Asks
import PageTape.Proofs.Locator.Offered
import PageTape.Proofs.Locator.Found
import PageTape.Proofs.Script.Reading
import PageTape.Proofs.Script.Spelled
import PageTape.Proofs.Script.Lines
import PageTape.Proofs.Script.Said
import PageTape.Proofs.Script.Voice.Pytest
import PageTape.Proofs.Script.Voice.Playwright
import PageTape.Proofs.Script.Voice.Cypress
import PageTape.Proofs.Script.Voice.Pest
import PageTape.Proofs.Script.Functions
import PageTape.Proofs.Script.WellFormed
import PageTape.Proofs.Recording.Codec
import PageTape.Proofs.Yaml.Writable
import PageTape.Proofs.Recording.File
import PageTape.Proofs.Scene.Link
import PageTape.Proofs.Recorder.LastAction
import PageTape.Proofs.Recorder.Accord
import PageTape.Proofs.Recorder.Idle
import PageTape.Proofs.Scene.Diary
import PageTape.Proofs.Scene.Transparent
import PageTape.Proofs.Abreast
import PageTape.Proofs.Clock.Plan
import PageTape.Proofs.Recorder.Twin.State
import PageTape.Proofs.Clock.Advance
import PageTape.Proofs.Recorder.Merged
import PageTape.Proofs.Recorder.Pass
import PageTape.Proofs.Replay.Wait
import PageTape.Proofs.Replay.Typed
import PageTape.Proofs.Scene.Told
import PageTape.Proofs.Recorder.Rounds
import PageTape.Proofs.Replay.Stages
import PageTape.Proofs.Replay.Underway
import PageTape.Proofs.Replay.Ends
import PageTape.Proofs.Recorder.Onward
import PageTape.Proofs.Replay.Accepted
import PageTape.Proofs.Replay.Onward
import PageTape.Proofs.Recorder.Faults
import PageTape.Proofs.Scene.Faults
import PageTape.Proofs.Replay.Faults
import PageTape.Proofs.Command.Reported
import PageTape.Proofs.Recorder.Capture
import PageTape.Proofs.Recorder.Submit
import PageTape.Proofs.Scene.Submit
import PageTape.Proofs.Recorder.Twin.Gesture
import PageTape.Proofs.Recorder.Described
import PageTape.Proofs.Script.Frames
import PageTape.Proofs.Script.Hidden
import PageTape.Proofs.Script.PageObject
import PageTape.Proofs.Script.Pattern
import PageTape.Proofs.Script.Trace
import PageTape.Proofs.Script.UrlCheck
import PageTape.Proofs.Recorder.Twin.Asked
import PageTape.Proofs.Recorder.Twin.Run
import PageTape.Proofs.Recorder.Calls
import PageTape.Proofs.Recorder.Lost
import PageTape.Proofs.Recorder.Reports
import PageTape.Proofs.Recorder.Prompt
import PageTape.Proofs.Recorder.Mirror
import PageTape.Proofs.Replay.Answered
import PageTape.Proofs.Recorder.Appeared
import PageTape.Proofs.Scene.Delivered
import PageTape.Proofs.Scene.Click
import PageTape.Proofs.Recorder.Entered
import PageTape.Proofs.Scene.ReadBack
import PageTape.Proofs.Scene.Address
import PageTape.Proofs.Dom.Graft
import PageTape.Proofs.Html.Read
import PageTape.Proofs.Scene.Mirrored
import PageTape.Proofs.Form.Submit
import PageTape.Proofs.Locator.Chain
