import Conveyor.Api.Answer
import Conveyor.Api.Cli
import Conveyor.Api.Console
import Conveyor.Api.Engine
import Conveyor.Api.Fields
import Conveyor.Api.Loading
import Conveyor.Api.Normal
import Conveyor.Api.Probes
import Conveyor.Api.Records
import Conveyor.Api.Session
import Conveyor.Api.Settings
import Conveyor.Cli.Args
import Conveyor.Cli.Log
import Conveyor.Cli.Run
import Conveyor.Cli.Spec
import Conveyor.Config.Basic
import Conveyor.Config.Document
import Conveyor.Config.Layers
import Conveyor.Config.Load
import Conveyor.Config.Render
import Conveyor.Config.Schema
import Conveyor.Config.Sources
import Conveyor.Console.Format
import Conveyor.Console.Summary
import Conveyor.Control
import Conveyor.Error
import Conveyor.Main
import Conveyor.Monitor
import Conveyor.Proofs.Queue.Ledger
import Conveyor.Proofs.Schedule.FairOrder
import Conveyor.Proofs.Schedule.Batches
import Conveyor.Proofs.Service.Attempts
import Conveyor.Proofs.Service.Backlog
import Conveyor.Proofs.Service.CopyEnds
import Conveyor.Proofs.Service.Cycle
import Conveyor.Proofs.Service.CyclePanics
import Conveyor.Proofs.Service.Endings
import Conveyor.Proofs.Service.Exclusion
import Conveyor.Proofs.Service.Fence
import Conveyor.Proofs.Service.ProgressRises
import Conveyor.Proofs.Service.QueryRetries
import Conveyor.Proofs.Service.Rounds
import Conveyor.Proofs.Service.Scope
import Conveyor.Proofs.Service.Staged
import Conveyor.Proofs.Service.WalkEnds
import Conveyor.Proofs.Store.Answers
import Conveyor.Proofs.Store.Atomic
import Conveyor.Proofs.Store.Attempts
import Conveyor.Proofs.Store.Bytes
import Conveyor.Proofs.Store.Cancel
import Conveyor.Proofs.Store.Dispatch
import Conveyor.Proofs.Store.Ended
import Conveyor.Proofs.Store.Progress
import Conveyor.Proofs.Store.Repeat
import Conveyor.Proofs.Store.Staging
import Conveyor.Proofs.Store.TopStatus
import Conveyor.Proofs.Uri.Encode
import Conveyor.Proofs.Uri.Locations
import Conveyor.Proofs.Uri.ReadBack
import Conveyor.Proofs.Word
import Conveyor.Queue
import Conveyor.Request
import Conveyor.Retry
import Conveyor.Schedule.Fair
import Conveyor.Service.Basic
import Conveyor.Service.Dispatch
import Conveyor.Service.Engine
import Conveyor.Service.Files
import Conveyor.Service.Launch
import Conveyor.Service.Run
import Conveyor.Service.Snapshots
import Conveyor.Service.Staging
import Conveyor.Service.Stream
import Conveyor.Service.Submission
import Conveyor.Service.Systems
import Conveyor.Service.Transfer
import Conveyor.Storage.Disk
import Conveyor.Storage.Entry
import Conveyor.Storage.Memory
import Conveyor.Storage.Registry
import Conveyor.Store.Basic
import Conveyor.Store.Call
import Conveyor.Store.Cancel
import Conveyor.Store.Lifecycle
import Conveyor.Store.Queries
import Conveyor.Store.Rollup
import Conveyor.Store.Snapshot
import Conveyor.Store.Workers
import Conveyor.Task.Id
import Conveyor.Task.Moves
import Conveyor.Task.Record
import Conveyor.Task.Status
import Conveyor.Text.Blank
import Conveyor.Text.Decimal
import Conveyor.Text.Escape
import Conveyor.Text.Json
import Conveyor.Text.Numeral
import Conveyor.Text.Time
import Conveyor.Toml.Datetime
import Conveyor.Toml.Document
import Conveyor.Toml.Emit
import Conveyor.Toml.Lexer
import Conveyor.Toml.Parse
import Conveyor.Toml.Scalar
import Conveyor.Toml.Source
import Conveyor.Toml.Syntax
import Conveyor.Unicode.IdnaData
import Conveyor.Unicode.Mapping
import Conveyor.Unicode.NormalData
import Conveyor.Unicode.Normalize
import Conveyor.Unicode.Properties
import Conveyor.Unicode.PropertyData
import Conveyor.Unicode.Table
import Conveyor.Uri.Host
import Conveyor.Uri.Idna
import Conveyor.Uri.Location
import Conveyor.Uri.Percent
import Conveyor.Uri.Punycode
import Conveyor.Uri.Url
import Conveyor.Word
import Conveyor.Yaml.Emit
import Conveyor.Yaml.Node
import Conveyor.Yaml.Parser
import Conveyor.Yaml.Scanner
import Conveyor.Yaml.Token
