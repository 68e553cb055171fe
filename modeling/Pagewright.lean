import Pagewright.Archive
import Pagewright.Archive.Zip
import Pagewright.Binary64.Basic
import Pagewright.Binary64.Decimal
import Pagewright.Binary64.Plain
import Pagewright.Command.Arguments
import Pagewright.Command.Basic
import Pagewright.Command.Run
import Pagewright.Command.Scaffold
import Pagewright.Component.Basic
import Pagewright.Component.Codec
import Pagewright.Component.PropValue
import Pagewright.Diagnostic
import Pagewright.Dict
import Pagewright.Disk.Basic
import Pagewright.Disk.Path
import Pagewright.Disk.Workspace
import Pagewright.Disk.Write
import Pagewright.Generation.Context
import Pagewright.Generation.Dependencies
import Pagewright.Generation.Failure
import Pagewright.Generation.Imports
import Pagewright.Generation.Page
import Pagewright.Generation.Project
import Pagewright.Json.Basic
import Pagewright.Json.Document
import Pagewright.Json.Node
import Pagewright.Json.Numeral
import Pagewright.Json.Printer
import Pagewright.Json.Quoted
import Pagewright.Json.Record
import Pagewright.Lint.Basic
import Pagewright.Main
import Pagewright.Manifest.Basic
import Pagewright.Manifest.Failure
import Pagewright.Manifest.Name
import Pagewright.Manifest.PageFile
import Pagewright.Manifest.Scope
import Pagewright.Mapping.Builtin
import Pagewright.Mapping.Declaration
import Pagewright.Mapping.Registry
import Pagewright.Mapping.Rule
import Pagewright.Mapping.Transform
import Pagewright.Markup.Basic
import Pagewright.Markup.Lowering
import Pagewright.Naming
import Pagewright.Platform
import Pagewright.Project.Config
import Pagewright.Project.Configuration
import Pagewright.Project.FileSet
import Pagewright.Project.Sources
import Pagewright.Report.Check
import Pagewright.Report.Components
import Pagewright.Report.Generation
import Pagewright.Report.Line
import Pagewright.Source.File
import Pagewright.Source.Fragment
import Pagewright.Source.Import
import Pagewright.Source.Jsx
import Pagewright.Style.Adapt
import Pagewright.Style.Policy
import Pagewright.Style.Sheet
import Pagewright.Text.Blank
import Pagewright.Text.Case
import Pagewright.Text.CaseTable
import Pagewright.Text.Digit
import Pagewright.Text.Inspect
import Pagewright.Text.Position
import Pagewright.Text.Search
import Pagewright.Toml.Document
import Pagewright.Toml.Moment
import Pagewright.Toml.Quoted
import Pagewright.Toml.Scalar
import Pagewright.Toml.Tree
import Pagewright.Version
import Pagewright.Proofs.Registry.History
import Pagewright.Proofs.Component.Traversal
import Pagewright.Proofs.Lowering.Parts
import Pagewright.Proofs.Generation.Outcome
import Pagewright.Proofs.Imports.Symbols
import Pagewright.Proofs.Lowering.Needs
import Pagewright.Proofs.Generation.Bindings
import Pagewright.Proofs.Generation.References
import Pagewright.Proofs.Lowering.Collected
import Pagewright.Proofs.Generation.Directories
import Pagewright.Proofs.Source.Writing
import Pagewright.Proofs.Project.AppConfig
import Pagewright.Proofs.Generation.Routes
import Pagewright.Proofs.Project.Files
import Pagewright.Proofs.Project.Paths
import Pagewright.Proofs.Generation.Files
import Pagewright.Proofs.Generation.Reports
import Pagewright.Proofs.Style.TreeSheet
import Pagewright.Proofs.Generation.Sheets
import Pagewright.Proofs.Json.Values
import Pagewright.Proofs.Component.PropValues
import Pagewright.Proofs.Component.RoundTrip
import Pagewright.Proofs.Json.Strings
import Pagewright.Proofs.Script.Evaluation
import Pagewright.Proofs.Mapping.Templates
import Pagewright.Proofs.Mapping.Deferred
import Pagewright.Proofs.Registry.Views
import Pagewright.Proofs.Manifest.InForce
import Pagewright.Proofs.Generation.Tags
import Pagewright.Proofs.Generation.Statements
import Pagewright.Proofs.Component.Locations
import Pagewright.Proofs.Lint.Foretelling
import Pagewright.Proofs.Generation.Isolation
import Pagewright.Proofs.Report.Verdict
import Pagewright.Proofs.Source.Fragments
import Pagewright.Proofs.Generation.StyleImports
import Pagewright.Proofs.Json.Indented
import Pagewright.Proofs.Generation.Packages
import Pagewright.Proofs.Text.Lines
import Pagewright.Proofs.Json.Printing
import Pagewright.Proofs.Source.Lines
import Pagewright.Proofs.Source.JsxLines
import Pagewright.Proofs.Generation.Preview
import Pagewright.Proofs.Style.Elision
import Pagewright.Proofs.Generation.Attributes
import Pagewright.Proofs.Toml.PlainLines
import Pagewright.Proofs.Manifest.Scaffolded
import Pagewright.Proofs.Disk.Written
import Pagewright.Proofs.Command.NewWorkspace
import Pagewright.Proofs.Lowering.Shape
import Pagewright.Proofs.Generation.Findings
import Pagewright.Proofs.Script.TextReading
import Pagewright.Proofs.Source.JsxText
import Pagewright.Proofs.Disk.Places
import Pagewright.Proofs.Disk.FileMap
import Pagewright.Proofs.Disk.Locations
import Pagewright.Proofs.Disk.Below
import Pagewright.Proofs.Command.Regeneration
import Pagewright.Proofs.Lowering.Props
import Pagewright.Proofs.Binary64.Rounding
import Pagewright.Proofs.Binary64.Shortest
import Pagewright.Proofs.Json.Numerals
import Pagewright.Proofs.Script.Values
import Pagewright.Proofs.Script.AttributeReading
import Pagewright.Proofs.Source.JsxAttributes
import Pagewright.Proofs.Style.Adaptation
import Pagewright.Proofs.Style.Idempotence
import Pagewright.Proofs.Text.Digits
import Pagewright.Proofs.Text.Names
import Pagewright.Proofs.Binary64.Reading
import Pagewright.Proofs.Binary64.Plain
import Pagewright.Proofs.Style.Lengths
import Pagewright.Proofs.Style.Rgba
import Pagewright.Proofs.Style.Native
import Pagewright.Proofs.Style.Units
import Pagewright.Proofs.Style.Strings
import Pagewright.Proofs.Style.Blocks
import Pagewright.Proofs.Project.Registrations
import Pagewright.Proofs.Imports.AnyOrder
import Pagewright.Proofs.Generation.ComponentNames
import Pagewright.Proofs.Generation.PackageNames
import Pagewright.Proofs.Component.Visits
import Pagewright.Proofs.Text.Bytes
import Pagewright.Proofs.Manifest.Spans
import Pagewright.Proofs.Version.RoundTrip
import Pagewright.Proofs.Source.Pieces
import Pagewright.Proofs.Text.Positions
import Pagewright.Proofs.Json.Cursors
import Pagewright.Proofs.Json.Places
import Pagewright.Proofs.Component.Faults
import Pagewright.Proofs.Manifest.PageMarks
import Pagewright.Proofs.Style.CamelKeys
