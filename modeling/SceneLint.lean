import SceneLint.Command.Arguments
import SceneLint.Command.Outcome
import SceneLint.Command.PathInput
import SceneLint.Command.Run
import SceneLint.Console.ColorTable
import SceneLint.Console.Markup
import SceneLint.Console.Outline
import SceneLint.Console.Print
import SceneLint.Console.Style
import SceneLint.Console.Terminal
import SceneLint.Data.Basic
import SceneLint.Data.Calendar
import SceneLint.Decimal.Binary64
import SceneLint.Decimal.Numeral
import SceneLint.Decimal.Shortest
import SceneLint.Diagnostic
import SceneLint.Event
import SceneLint.Failure
import SceneLint.Json.Basic
import SceneLint.Json.Printer
import SceneLint.Json.Reader
import SceneLint.Log.Line
import SceneLint.Log.State
import SceneLint.Main
import SceneLint.Path.DrivePath
import SceneLint.Path.FilePath
import SceneLint.Path.Resource
import SceneLint.Project.Build
import SceneLint.Project.Check
import SceneLint.Project.Discovery
import SceneLint.Project.Summary
import SceneLint.Scene.Basic
import SceneLint.Scene.Rule
import SceneLint.Script.Basic
import SceneLint.Script.Declaration
import SceneLint.Script.Header
import SceneLint.Script.Kind
import SceneLint.Script.Rule
import SceneLint.Session
import SceneLint.Settings.Basic
import SceneLint.Settings.ConfigFile
import SceneLint.Settings.EnvironmentFile
import SceneLint.Settings.Field
import SceneLint.Settings.Load
import SceneLint.Settings.Source
import SceneLint.Settings.Validate
import SceneLint.Text.Base64
import SceneLint.Text.Blank
import SceneLint.Text.Case
import SceneLint.Text.CaseTable
import SceneLint.Text.CasedTable
import SceneLint.Text.Lines
import SceneLint.Text.Quoted
import SceneLint.Text.Search
import SceneLint.Text.UnprintableTable
import SceneLint.Text.Utf8
import SceneLint.Toml.Document
import SceneLint.Toml.Scalar
import SceneLint.Toml.Table
import SceneLint.World.Basic
import SceneLint.World.Edit
import SceneLint.World.Host
import SceneLint.World.Resolve
import SceneLint.World.Tree
import SceneLint.Yaml.Cursor
import SceneLint.Yaml.Document
import SceneLint.Yaml.Lexer
import SceneLint.Yaml.Node
import SceneLint.Yaml.Scalar
import SceneLint.Yaml.Scan
import SceneLint.Yaml.Token
import SceneLint.Proofs.Path.Below
import SceneLint.Proofs.Project.Discovery
import SceneLint.Proofs.Project.Accounting
import SceneLint.Proofs.Project.FailFast
import SceneLint.Proofs.Rule.Reports
import SceneLint.Proofs.Scene.Verdict
import SceneLint.Proofs.Script.Segments
import SceneLint.Proofs.Script.Verdict
import SceneLint.Proofs.Project.Discovered
import SceneLint.Proofs.Project.Report
import SceneLint.Proofs.Project.Identity
import SceneLint.Proofs.Project.Attribution
import SceneLint.Proofs.Project.Locality
import SceneLint.Proofs.Rule.LineEndings
import SceneLint.Proofs.Console.Escape
import SceneLint.Proofs.Console.StyledLines
import SceneLint.Proofs.Project.Summary
import SceneLint.Proofs.Console.ClosingTags
import SceneLint.Proofs.Command.ExitCode
import SceneLint.Proofs.Project.Relocation
import SceneLint.Proofs.Json.RoundTrip
import SceneLint.Proofs.Command.JsonOutput
import SceneLint.Proofs.Session.Cache
import SceneLint.Proofs.Settings.Precedence
import SceneLint.Proofs.Script.HeaderGrammar
import SceneLint.Proofs.Script.HeaderScan
import SceneLint.Proofs.Script.StaticTyping
import SceneLint.Proofs.Script.ExportOnly
import SceneLint.Proofs.Path.Separators
import SceneLint.Proofs.Script.HeaderLayout
import SceneLint.Proofs.Scene.Outcome
import SceneLint.Proofs.Scene.MasterType
import SceneLint.Proofs.Settings.CommaLists
import SceneLint.Proofs.Settings.Logging
import SceneLint.Proofs.Command.ConfigShow
import SceneLint.Proofs.Script.Names
import SceneLint.Proofs.Script.Cuts
import SceneLint.Proofs.Text.LineEnds
