import BrowserReplay.Bridge.Document
import BrowserReplay.Bridge.Message
import BrowserReplay.Bridge.Process
import BrowserReplay.Bridge.Script
import BrowserReplay.Bridge.Value
import BrowserReplay.Chromium
import BrowserReplay.Command
import BrowserReplay.CommandLine.Form
import BrowserReplay.CommandLine.Reader
import BrowserReplay.Config
import BrowserReplay.Config.File
import BrowserReplay.Controller
import BrowserReplay.EventFormat
import BrowserReplay.FileTree
import BrowserReplay.Json.Basic
import BrowserReplay.Json.Double
import BrowserReplay.Json.Printer
import BrowserReplay.Json.Reader
import BrowserReplay.Json.Record
import BrowserReplay.Loading
import BrowserReplay.Locate
import BrowserReplay.Location
import BrowserReplay.Main
import BrowserReplay.Page.Backend
import BrowserReplay.Page.Basic
import BrowserReplay.Page.Error
import BrowserReplay.Panel.Basic
import BrowserReplay.Panel.Line
import BrowserReplay.Perform
import BrowserReplay.Program
import BrowserReplay.Proofs.Alike
import BrowserReplay.Proofs.Dispatched
import BrowserReplay.Proofs.Drain
import BrowserReplay.Proofs.EventRun
import BrowserReplay.Proofs.EventWord
import BrowserReplay.Proofs.Performed
import BrowserReplay.Proofs.Steered
import BrowserReplay.Proofs.Table
import BrowserReplay.Proofs.TableRun
import BrowserReplay.Proofs.Textless
import BrowserReplay.Proofs.Visit
import BrowserReplay.Rehearsal.Client
import BrowserReplay.Rehearsal.Page
import BrowserReplay.Remote.Browser
import BrowserReplay.Remote.Exchange
import BrowserReplay.Remote.Unreachable
import BrowserReplay.Report
import BrowserReplay.Run
import BrowserReplay.RunEvent
import BrowserReplay.RunState
import BrowserReplay.Script
import BrowserReplay.Selector
import BrowserReplay.Sensitive
import BrowserReplay.Session
import BrowserReplay.Signal
import BrowserReplay.Template
import BrowserReplay.Text.Blank
import BrowserReplay.Text.CombiningClass
import BrowserReplay.Text.Composition
import BrowserReplay.Text.Duration
import BrowserReplay.Text.LetterCase
import BrowserReplay.Text.Lowercase
import BrowserReplay.Text.Search
import BrowserReplay.Text.Utf8
import BrowserReplay.Timeline
import BrowserReplay.Tool
import BrowserReplay.Trace
import BrowserReplay.Url.Address
import BrowserReplay.Url.Basic
import BrowserReplay.Url.Domain
import BrowserReplay.Url.Domain.Allowed
import BrowserReplay.Url.Domain.Direction
import BrowserReplay.Url.Domain.Joining
import BrowserReplay.Url.Domain.Mark
import BrowserReplay.Url.Domain.Punycode
import BrowserReplay.Url.Domain.Replacement
import BrowserReplay.Url.Host
import BrowserReplay.Url.Parser
import BrowserReplay.Url.Path
import BrowserReplay.Url.Percent
import BrowserReplay.Variables
import BrowserReplay.Visit
import BrowserReplay.Wait
import BrowserReplay.WebDriver
import BrowserReplay.Yaml.Cursor
import BrowserReplay.Yaml.Node
import BrowserReplay.Yaml.Scalar
import BrowserReplay.Yaml.Token
import BrowserReplay.Proofs.Secrets
import BrowserReplay.Proofs.Masking
import BrowserReplay.Proofs.HandleTable
import BrowserReplay.Proofs.Landing
import BrowserReplay.Proofs.Outlook
import BrowserReplay.Proofs.Boundary
import BrowserReplay.Proofs.Starting
import BrowserReplay.Proofs.ReportAccount
import BrowserReplay.Proofs.Refusal
import BrowserReplay.Proofs.Delay
import BrowserReplay.Proofs.FreshStart
import BrowserReplay.Proofs.Stored
import BrowserReplay.Proofs.Highlights
import BrowserReplay.Proofs.Retry
import BrowserReplay.Proofs.Attempts
import BrowserReplay.Proofs.Agreement
import BrowserReplay.Proofs.Issued
import BrowserReplay.Proofs.Acknowledged
import BrowserReplay.Proofs.ScriptText
import BrowserReplay.Proofs.WrittenJson
import BrowserReplay.Proofs.Recorded
import BrowserReplay.Proofs.Rearranged
import BrowserReplay.Proofs.Causal
import BrowserReplay.Proofs.Composed
import BrowserReplay.Proofs.Listening
import BrowserReplay.Proofs.Waiting
import BrowserReplay.Proofs.Succession
import BrowserReplay.Proofs.Placeholders
import BrowserReplay.Proofs.Aborted
import BrowserReplay.Proofs.Polling
import BrowserReplay.Proofs.Trials
import BrowserReplay.Proofs.Paired
import BrowserReplay.Proofs.Timetable
import BrowserReplay.Proofs.Departure
import BrowserReplay.Proofs.Reopening
import BrowserReplay.Proofs.Unmarked
import BrowserReplay.Proofs.Redacted
import BrowserReplay.Proofs.Thinned
import BrowserReplay.Proofs.Unserved
import BrowserReplay.Proofs.Idle
import BrowserReplay.Proofs.Kept
import BrowserReplay.Proofs.Exchanges
import BrowserReplay.Proofs.Closing
import BrowserReplay.Proofs.SharedSignal
import BrowserReplay.Proofs.MessageForms
import BrowserReplay.Proofs.TaggedRecord
import BrowserReplay.Proofs.SelectorMeaning
import BrowserReplay.Proofs.EventLines
import BrowserReplay.Proofs.ByteOrder
import BrowserReplay.Proofs.SortedStore
import BrowserReplay.Proofs.Loaded
import BrowserReplay.Proofs.UrlText
import BrowserReplay.Proofs.ReadUrl
import BrowserReplay.Proofs.SameLocation
import BrowserReplay.Proofs.YamlFields
import BrowserReplay.Proofs.FlowStyle
import BrowserReplay.Proofs.FlowTokens
import BrowserReplay.Proofs.Settings
import BrowserReplay.Proofs.SelectorText
import BrowserReplay.Proofs.LowerCase
import BrowserReplay.Proofs.SensitiveHints
import BrowserReplay.Proofs.TypedLines
