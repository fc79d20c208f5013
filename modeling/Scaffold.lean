import Scaffold.Blueprint
import Scaffold.Blueprint.Either
import Scaffold.Blueprint.Error
import Scaffold.Blueprint.Fixed
import Scaffold.Blueprint.Lifecycle
import Scaffold.Blueprint.Recorded
import Scaffold.Change
import Scaffold.Change.Apply
import Scaffold.Change.Cluster
import Scaffold.Change.Error
import Scaffold.Command
import Scaffold.CommandLine.Argument
import Scaffold.CommandLine.Command
import Scaffold.CommandLine.Invocation
import Scaffold.CommandLine.Matches
import Scaffold.CommandLine.Reader
import Scaffold.CommandLine.Usage
import Scaffold.Diff.Compaction
import Scaffold.Diff.Display
import Scaffold.Diff.MiddleSnake
import Scaffold.Diff.Preview
import Scaffold.Diff.Script
import Scaffold.Diff.Shortest
import Scaffold.Disk
import Scaffold.Disk.Fault
import Scaffold.Execution
import Scaffold.Execution.Interaction
import Scaffold.Host
import Scaffold.Host.Layered
import Scaffold.Host.Memory
import Scaffold.Host.Rooted
import Scaffold.Host.Workspace
import Scaffold.Main
import Scaffold.Manifest
import Scaffold.Manifest.Blueprint
import Scaffold.Name
import Scaffold.Options
import Scaffold.Parameter
import Scaffold.Path
import Scaffold.Product
import Scaffold.Product.Feature
import Scaffold.Product.Setup
import Scaffold.Program
import Scaffold.ProjectConfig
import Scaffold.Proofs.Blueprint.Audited
import Scaffold.Proofs.Change.Padding
import Scaffold.Proofs.Change.Reach
import Scaffold.Proofs.Change.Revise
import Scaffold.Proofs.Change.Simultaneous
import Scaffold.Proofs.Cluster.Buckets
import Scaffold.Proofs.Cluster.Bundling
import Scaffold.Proofs.Cluster.Offsets
import Scaffold.Proofs.Cluster.Order
import Scaffold.Proofs.Cluster.Padding
import Scaffold.Proofs.Cluster.Partition
import Scaffold.Proofs.CommandLine.Backing
import Scaffold.Proofs.CommandLine.Following
import Scaffold.Proofs.CommandLine.Grammar
import Scaffold.Proofs.CommandLine.Naming
import Scaffold.Proofs.CommandLine.RoundTrip
import Scaffold.Proofs.CommandLine.Words
import Scaffold.Proofs.Contents
import Scaffold.Proofs.Diff.Gathering
import Scaffold.Proofs.Diff.Reading
import Scaffold.Proofs.Diff.Views
import Scaffold.Proofs.Disk.Following
import Scaffold.Proofs.Disk.Locating
import Scaffold.Proofs.Disk.Paving
import Scaffold.Proofs.Disk.Site
import Scaffold.Proofs.Disk.Texts
import Scaffold.Proofs.Disk.Tree
import Scaffold.Proofs.Execution.Attended
import Scaffold.Proofs.Execution.Consent
import Scaffold.Proofs.Execution.Decision
import Scaffold.Proofs.Execution.Filling
import Scaffold.Proofs.Execution.Looking
import Scaffold.Proofs.Execution.Plain
import Scaffold.Proofs.Execution.Planning
import Scaffold.Proofs.Execution.Script
import Scaffold.Proofs.Host.Calls
import Scaffold.Proofs.Host.Heights
import Scaffold.Proofs.Host.Rooted
import Scaffold.Proofs.Host.Snapshots
import Scaffold.Proofs.Host.Stack
import Scaffold.Proofs.InStep
import Scaffold.Proofs.Lookup
import Scaffold.Proofs.Lifecycle.Applying
import Scaffold.Proofs.Lifecycle.Attempts
import Scaffold.Proofs.Lifecycle.History
import Scaffold.Proofs.Lifecycle.Plain
import Scaffold.Proofs.Lifecycle.Prediction
import Scaffold.Proofs.Lifecycle.Record
import Scaffold.Proofs.Lifecycle.Safety
import Scaffold.Proofs.Lifecycle.Stages
import Scaffold.Proofs.Lifecycle.Steps
import Scaffold.Proofs.Lifecycle.Turn
import Scaffold.Proofs.Options
import Scaffold.Proofs.Path.Spelling
import Scaffold.Proofs.Path.Under
import Scaffold.Proofs.PathMap
import Scaffold.Proofs.PathOrder
import Scaffold.Proofs.Preview
import Scaffold.Proofs.Task
import Scaffold.Proofs.Text.Bytes
import Scaffold.Proofs.Text.Lines
import Scaffold.Registry
import Scaffold.Shell.Arithmetic
import Scaffold.Shell.Builtins
import Scaffold.Shell.Expanding
import Scaffold.Shell.Files
import Scaffold.Shell.Pattern
import Scaffold.Shell.Printing
import Scaffold.Shell.Run
import Scaffold.Shell.Script
import Scaffold.Shell.State
import Scaffold.Shell.Streams
import Scaffold.Shell.Tools
import Scaffold.Shell.Word
import Scaffold.Summary
import Scaffold.Table
import Scaffold.Template
import Scaffold.Template.Files
import Scaffold.Text.Blank
import Scaffold.Text.Bytes
import Scaffold.Text.Case
import Scaffold.Text.Escaped
import Scaffold.Text.Letters
import Scaffold.Text.Lines
import Scaffold.Text.Styled
import Scaffold.Text.Substitution
import Scaffold.Text.Utf8
import Scaffold.Text.Words
import Scaffold.Version
import Scaffold.Yaml.Meaning
import Scaffold.Yaml.Node
import Scaffold.Yaml.Reading
import Scaffold.Yaml.Spot
import Scaffold.Yaml.Token
import Scaffold.Yaml.Token.Block
import Scaffold.Yaml.Token.Plain
import Scaffold.Yaml.Token.Quoted
import Scaffold.Yaml.Token.Tag
import Scaffold.Yaml.Tokens
import Scaffold.Yaml.Writing
import Scaffold.Proofs.Lifecycle.Completion
import Scaffold.Proofs.Lifecycle.Closure
import Scaffold.Proofs.CommandLine.Acceptance
import Scaffold.Proofs.Execution.Course
import Scaffold.Proofs.Cluster.Creating
import Scaffold.Proofs.Manifest.Rendering
import Scaffold.Proofs.Execution.Unattended
import Scaffold.Proofs.Text.Splitting
import Scaffold.Proofs.Text.Words
import Scaffold.Proofs.Product.Files
import Scaffold.Proofs.Product.Registration
import Scaffold.Proofs.Product.Scaffolding
import Scaffold.Proofs.Product.ModuleText
import Scaffold.Proofs.Product.Succession
import Scaffold.Proofs.Diff.Stretches
import Scaffold.Proofs.Diff.Distance
import Scaffold.Proofs.Change.Fitting
import Scaffold.Proofs.Change.Leaves
import Scaffold.Proofs.Lifecycle.Remains
import Scaffold.Proofs.Yaml.Places
import Scaffold.Proofs.Yaml.Plain
import Scaffold.Proofs.Yaml.SingleQuoted
import Scaffold.Proofs.Yaml.DoubleQuoted
import Scaffold.Proofs.Yaml.Literal
import Scaffold.Proofs.Yaml.Written
import Scaffold.Proofs.Yaml.Entry
import Scaffold.Proofs.Product.Configuration
import Scaffold.Proofs.Execution.Keeping
import Scaffold.Proofs.Execution.Gathering
import Scaffold.Proofs.Manifest.Defaults
import Scaffold.Proofs.Manifest.Foresight
import Scaffold.Proofs.Text.Feeds
import Scaffold.Proofs.Product.BetweenLines
import Scaffold.Proofs.Text.Substitution
import Scaffold.Proofs.Template.Placeholders
import Scaffold.Proofs.Template.Passes
import Scaffold.Proofs.Product.Rendering
import Scaffold.Proofs.Registry
import Scaffold.Proofs.Summary.Accounting
import Scaffold.Proofs.Text.Styled
import Scaffold.Proofs.Table
import Scaffold.Proofs.Summary.Rendering
import Scaffold.Proofs.Version
import Scaffold.Proofs.Text.Utf8
import Scaffold.Proofs.Disk.Listing
import Scaffold.Proofs.Manifest.Discovery
import Scaffold.Proofs.Product.Discovery
import Scaffold.Proofs.Product.Naming
