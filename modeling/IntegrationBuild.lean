import IntegrationBuild.Build.Basic
import IntegrationBuild.Build.Generate
import IntegrationBuild.Build.Models
import IntegrationBuild.Build.Project
import IntegrationBuild.Build.Script
import IntegrationBuild.CommandLine.Argument
import IntegrationBuild.CommandLine.Command
import IntegrationBuild.CommandLine.Help
import IntegrationBuild.CommandLine.Run
import IntegrationBuild.Decimal.Binary64
import IntegrationBuild.Decimal.Shortest
import IntegrationBuild.Ignore.Glob
import IntegrationBuild.Ignore.Matcher
import IntegrationBuild.Ignore.Rule
import IntegrationBuild.Import.Check
import IntegrationBuild.Import.Reference
import IntegrationBuild.Import.Resolve
import IntegrationBuild.Json.Basic
import IntegrationBuild.Json.Parser
import IntegrationBuild.Json.Printer
import IntegrationBuild.Layout.Compiled
import IntegrationBuild.Layout.Script
import IntegrationBuild.Main
import IntegrationBuild.Model.Basic
import IntegrationBuild.Model.Inheritance
import IntegrationBuild.Model.Render
import IntegrationBuild.Project.Basic
import IntegrationBuild.Project.Load
import IntegrationBuild.Scaffold.Example
import IntegrationBuild.Scaffold.Stub
import IntegrationBuild.Schema.Checked
import IntegrationBuild.Schema.Document
import IntegrationBuild.Schema.Error
import IntegrationBuild.Schema.Load
import IntegrationBuild.Schema.Models
import IntegrationBuild.Script.Binding
import IntegrationBuild.Script.Compile
import IntegrationBuild.Script.Escape
import IntegrationBuild.Script.Fault
import IntegrationBuild.Script.Lexer
import IntegrationBuild.Script.Parser.Basic
import IntegrationBuild.Script.Parser.Expression
import IntegrationBuild.Script.Parser.Pattern
import IntegrationBuild.Script.Parser.Statement
import IntegrationBuild.Script.Placement
import IntegrationBuild.Script.Read
import IntegrationBuild.Script.Scope
import IntegrationBuild.Script.Source
import IntegrationBuild.Script.Token
import IntegrationBuild.Script.Tree
import IntegrationBuild.Settings.Basic
import IntegrationBuild.Settings.Load
import IntegrationBuild.Text.Blank
import IntegrationBuild.Text.Identifier
import IntegrationBuild.Text.IdentifierTable
import IntegrationBuild.Text.Lines
import IntegrationBuild.Text.Normalize
import IntegrationBuild.Text.NormalizeTable
import IntegrationBuild.Text.PrintableTable
import IntegrationBuild.Text.Quoted
import IntegrationBuild.Toml.Document
import IntegrationBuild.Toml.Scalar
import IntegrationBuild.Toml.Table
import IntegrationBuild.TypeExpr.Basic
import IntegrationBuild.TypeExpr.Error
import IntegrationBuild.TypeExpr.Parser
import IntegrationBuild.TypeExpr.Render
import IntegrationBuild.TypeExpr.Split
import IntegrationBuild.Usage.Analysis
import IntegrationBuild.Usage.Contract
import IntegrationBuild.Value.Basic
import IntegrationBuild.Value.Describe
import IntegrationBuild.Workspace.Basic
import IntegrationBuild.Workspace.Change
import IntegrationBuild.Workspace.Path
import IntegrationBuild.Yaml.Cursor
import IntegrationBuild.Yaml.Lexer
import IntegrationBuild.Yaml.Load
import IntegrationBuild.Yaml.Node
import IntegrationBuild.Yaml.Scalar
import IntegrationBuild.Yaml.Token
import IntegrationBuild.Proofs.Outcome
import IntegrationBuild.Proofs.TypeExpr.Normal
import IntegrationBuild.Proofs.Schema.Models
import IntegrationBuild.Proofs.Schema.Closed
import IntegrationBuild.Proofs.Text.Spacing
import IntegrationBuild.Proofs.TypeExpr.Derivation
import IntegrationBuild.Proofs.TypeExpr.Grammar
import IntegrationBuild.Proofs.TypeExpr.Reading
import IntegrationBuild.Proofs.Text.Quoted
import IntegrationBuild.Proofs.TypeExpr.Phrase
import IntegrationBuild.Proofs.TypeExpr.Rendering
import IntegrationBuild.Proofs.Import.Search
import IntegrationBuild.Proofs.Workspace.Tree
import IntegrationBuild.Proofs.Workspace.Path
import IntegrationBuild.Proofs.Import.Target
import IntegrationBuild.Proofs.Import.Check
import IntegrationBuild.Proofs.Workspace.Growth
import IntegrationBuild.Proofs.Build.Steps
import IntegrationBuild.Proofs.Build.Reach
import IntegrationBuild.Proofs.Build.Script
import IntegrationBuild.Proofs.Build.Verdict
import IntegrationBuild.Proofs.Build.Layout
import IntegrationBuild.Proofs.Build.Output
import IntegrationBuild.Proofs.Build.Run
import IntegrationBuild.Proofs.Model.Inheritance
import IntegrationBuild.Proofs.Schema.Nodes
import IntegrationBuild.Proofs.Schema.SyncOutput
import IntegrationBuild.Proofs.Workspace.Links
import IntegrationBuild.Proofs.Build.Contained
import IntegrationBuild.Proofs.Build.Imports
import IntegrationBuild.Proofs.Script.Place
import IntegrationBuild.Proofs.Usage.SinglePass
import IntegrationBuild.Proofs.Usage.Walk
import IntegrationBuild.Proofs.Usage.Handler
import IntegrationBuild.Proofs.Schema.Checked
import IntegrationBuild.Proofs.Schema.Operations
import IntegrationBuild.Proofs.Schema.Rules
import IntegrationBuild.Proofs.Schema.Regrouped
import IntegrationBuild.Proofs.Workspace.Settled
import IntegrationBuild.Proofs.Settings.Output
import IntegrationBuild.Proofs.Workspace.Names
import IntegrationBuild.Proofs.Workspace.Directories
import IntegrationBuild.Proofs.Ignore.Matcher
import IntegrationBuild.Proofs.Layout.Listing
import IntegrationBuild.Proofs.Build.Artifact
import IntegrationBuild.Proofs.Build.Turn
import IntegrationBuild.Proofs.Build.Plan
import IntegrationBuild.Proofs.Build.Course
import IntegrationBuild.Proofs.Build.Prepared
import IntegrationBuild.Proofs.Build.Planned
import IntegrationBuild.Proofs.Build.Schedule
import IntegrationBuild.Proofs.Build.Again
import IntegrationBuild.Proofs.Build.Single
import IntegrationBuild.Proofs.Build.Reported
import IntegrationBuild.Proofs.Project.Document
import IntegrationBuild.Proofs.Build.Rejected
import IntegrationBuild.Proofs.CommandLine.Rejected
import IntegrationBuild.Proofs.Workspace.Leads
import IntegrationBuild.Proofs.Workspace.Spared
import IntegrationBuild.Proofs.Build.Spared
import IntegrationBuild.Proofs.Build.UpToDate
import IntegrationBuild.Proofs.Build.Kept
import IntegrationBuild.Proofs.TypeExpr.Refusal
import IntegrationBuild.Proofs.TypeExpr.Overrun
import IntegrationBuild.Proofs.TypeExpr.Suffix
import IntegrationBuild.Proofs.Text.Identifier
import IntegrationBuild.Proofs.Schema.Reference
import IntegrationBuild.Proofs.Text.OneLine
import IntegrationBuild.Proofs.Model.Declaration
import IntegrationBuild.Proofs.Workspace.Confined
import IntegrationBuild.Proofs.Build.Descent
import IntegrationBuild.Proofs.Build.Confined
import IntegrationBuild.Proofs.Model.Order
import IntegrationBuild.Proofs.Schema.Bases
import IntegrationBuild.Proofs.Model.Keys
import IntegrationBuild.Proofs.Build.Unresolved
import IntegrationBuild.Proofs.Workspace.Below
import IntegrationBuild.Proofs.Build.Scaffolded
import IntegrationBuild.Proofs.Scaffold.Accepted
import IntegrationBuild.Proofs.Build.Submodule
import IntegrationBuild.Proofs.TypeExpr.Parts
import IntegrationBuild.Proofs.Build.ModelNames
import IntegrationBuild.Proofs.Project.Returns
import IntegrationBuild.Proofs.Model.FieldNames
import IntegrationBuild.Proofs.Import.Listed
import IntegrationBuild.Proofs.Layout.Compiled
