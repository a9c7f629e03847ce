import NfvCatalog.Address.DomainName
import NfvCatalog.Address.DomainTable
import NfvCatalog.Address.Host
import NfvCatalog.Address.Punycode
import NfvCatalog.Address.Url
import NfvCatalog.Archive.Inflate
import NfvCatalog.Archive.Tape
import NfvCatalog.Cleanup.Account
import NfvCatalog.Cleanup.Plan
import NfvCatalog.Cleanup.Resource
import NfvCatalog.CommandLine.Commands
import NfvCatalog.CommandLine.Grammar
import NfvCatalog.CommandLine.Program
import NfvCatalog.CommandLine.Request
import NfvCatalog.CommandLine.Result
import NfvCatalog.Config.Record
import NfvCatalog.Config.Settings
import NfvCatalog.Descriptor.Issue
import NfvCatalog.Descriptor.Load
import NfvCatalog.Descriptor.Nsd
import NfvCatalog.Descriptor.NsdRecord
import NfvCatalog.Descriptor.Set
import NfvCatalog.Descriptor.Validation
import NfvCatalog.Descriptor.Vnfd
import NfvCatalog.Descriptor.VnfdRecord
import NfvCatalog.Digest.Digest
import NfvCatalog.Document.Format
import NfvCatalog.Document.Json
import NfvCatalog.Document.Node
import NfvCatalog.Document.NodeReader
import NfvCatalog.Document.Properties
import NfvCatalog.Document.Record
import NfvCatalog.Document.Scalar
import NfvCatalog.Document.Toml.Reader
import NfvCatalog.Document.Toml.Token
import NfvCatalog.Document.Value
import NfvCatalog.Document.Yaml.Cursor
import NfvCatalog.Document.Yaml.Printer
import NfvCatalog.Document.Yaml.Reader
import NfvCatalog.Document.Yaml.Scalars
import NfvCatalog.Document.Yaml.Token
import NfvCatalog.Failure
import NfvCatalog.Files.Path
import NfvCatalog.Files.Tree
import NfvCatalog.Lint.Diagnostic
import NfvCatalog.Lint.Report
import NfvCatalog.Main
import NfvCatalog.Number.Binary64
import NfvCatalog.Number.Digits
import NfvCatalog.Number.Places
import NfvCatalog.Onboard.Error
import NfvCatalog.Onboard.State
import NfvCatalog.Onboard.Upload
import NfvCatalog.Package.Contents
import NfvCatalog.Package.Manifest
import NfvCatalog.Package.Plan
import NfvCatalog.Package.Report
import NfvCatalog.Pattern.Expression
import NfvCatalog.Pattern.Glob
import NfvCatalog.Pattern.PropertyName
import NfvCatalog.Pattern.Regex
import NfvCatalog.Pattern.RegexReader
import NfvCatalog.Pattern.Room
import NfvCatalog.Pattern.Weight
import NfvCatalog.Proofs.Cleanup.Command
import NfvCatalog.Proofs.Cleanup.Executed
import NfvCatalog.Proofs.Cleanup.Planned
import NfvCatalog.Proofs.Cleanup.Simulated
import NfvCatalog.Proofs.Descriptor.Flaws
import NfvCatalog.Proofs.Descriptor.Merged
import NfvCatalog.Proofs.Descriptor.Valid
import NfvCatalog.Proofs.Descriptor.Written
import NfvCatalog.Proofs.Document.Data
import NfvCatalog.Proofs.Document.Fields
import NfvCatalog.Proofs.Document.Json
import NfvCatalog.Proofs.Document.JsonText
import NfvCatalog.Proofs.Document.Spelling
import NfvCatalog.Proofs.Files.Path
import NfvCatalog.Proofs.Files.Tree
import NfvCatalog.Proofs.Lint.Findings
import NfvCatalog.Proofs.Lists.Basic
import NfvCatalog.Proofs.Lists.Keyed
import NfvCatalog.Proofs.Lists.Ranked
import NfvCatalog.Proofs.Number.Whole
import NfvCatalog.Proofs.Onboard.Polled
import NfvCatalog.Proofs.Onboard.Uploaded
import NfvCatalog.Proofs.Outcome
import NfvCatalog.Proofs.Package.Confirmed
import NfvCatalog.Proofs.Package.Contents
import NfvCatalog.Proofs.Package.Manifest
import NfvCatalog.Proofs.Package.Planned
import NfvCatalog.Proofs.Package.Supported
import NfvCatalog.Proofs.Text.Blank
import NfvCatalog.Proofs.Text.Utf8
import NfvCatalog.Proofs.Tosca.OrderedMap
import NfvCatalog.Proofs.Tosca.References
import NfvCatalog.Proofs.Tosca.Resolved
import NfvCatalog.Proofs.Tosca.Size
import NfvCatalog.Proofs.Tosca.Substituted
import NfvCatalog.Proofs.Tosca.WrittenTemplate
import NfvCatalog.Proofs.Translation.Assembled
import NfvCatalog.Proofs.Translation.Blame
import NfvCatalog.Proofs.Translation.Closure
import NfvCatalog.Proofs.Translation.Contents
import NfvCatalog.Proofs.Translation.DerivedTypes
import NfvCatalog.Proofs.Translation.Drafted
import NfvCatalog.Proofs.Translation.Emitted
import NfvCatalog.Proofs.Translation.Functions
import NfvCatalog.Proofs.Translation.FunctionsAgain
import NfvCatalog.Proofs.Translation.Groups
import NfvCatalog.Proofs.Translation.Identity
import NfvCatalog.Proofs.Translation.Indices
import NfvCatalog.Proofs.Translation.Inputs
import NfvCatalog.Proofs.Translation.Layout
import NfvCatalog.Proofs.Translation.ListedFiles
import NfvCatalog.Proofs.Translation.LoadOrder
import NfvCatalog.Proofs.Translation.Machines
import NfvCatalog.Proofs.Translation.NamedNodes
import NfvCatalog.Proofs.Translation.NearestType
import NfvCatalog.Proofs.Translation.NormalForm
import NfvCatalog.Proofs.Translation.Ownership
import NfvCatalog.Proofs.Translation.Phases
import NfvCatalog.Proofs.Translation.Places
import NfvCatalog.Proofs.Translation.Points
import NfvCatalog.Proofs.Translation.Policies
import NfvCatalog.Proofs.Translation.ReadAgain
import NfvCatalog.Proofs.Translation.Refusals
import NfvCatalog.Proofs.Translation.Restored
import NfvCatalog.Proofs.Translation.RoundTrip
import NfvCatalog.Proofs.Translation.Runs
import NfvCatalog.Proofs.Translation.ServicesAgain
import NfvCatalog.Proofs.Translation.SharedIds
import NfvCatalog.Proofs.Translation.Steps
import NfvCatalog.Proofs.Translation.Surroundings
import NfvCatalog.Proofs.Translation.TemplateNames
import NfvCatalog.Proofs.Translation.Wiring
import NfvCatalog.Proofs.Translation.Work
import NfvCatalog.Proofs.Translation.WrittenFiles
import NfvCatalog.Proofs.Translation.WrittenPackages
import NfvCatalog.Proofs.Translation.WrittenService
import NfvCatalog.Shell.Builtin
import NfvCatalog.Shell.Call
import NfvCatalog.Shell.Condition
import NfvCatalog.Shell.Expansion
import NfvCatalog.Shell.Field
import NfvCatalog.Shell.Format
import NfvCatalog.Shell.Launch
import NfvCatalog.Shell.Machine
import NfvCatalog.Shell.Reader
import NfvCatalog.Shell.Redirection
import NfvCatalog.Shell.Run
import NfvCatalog.Shell.Script
import NfvCatalog.Shell.Signal
import NfvCatalog.Shell.Source
import NfvCatalog.Shell.Spelled
import NfvCatalog.Shell.Sum
import NfvCatalog.Shell.Token
import NfvCatalog.Shell.Utility
import NfvCatalog.Shell.Utility.Judge
import NfvCatalog.Shell.Utility.Lines
import NfvCatalog.Shell.Utility.Matcher
import NfvCatalog.Shell.Utility.Options
import NfvCatalog.Shell.Utility.Places
import NfvCatalog.Shell.Utility.Runners
import NfvCatalog.Shell.Utility.Search
import NfvCatalog.Shell.Utility.Stream
import NfvCatalog.Shell.Utility.Words
import NfvCatalog.Shell.Wildcard
import NfvCatalog.Text.Age
import NfvCatalog.Text.Blank
import NfvCatalog.Text.Break
import NfvCatalog.Text.CaseFolding
import NfvCatalog.Text.Category
import NfvCatalog.Text.CharSet
import NfvCatalog.Text.Composition
import NfvCatalog.Text.Direction
import NfvCatalog.Text.Keyed
import NfvCatalog.Text.Latest
import NfvCatalog.Text.Property
import NfvCatalog.Text.Script
import NfvCatalog.Text.Utf8
import NfvCatalog.Tool.Command
import NfvCatalog.Tool.Progress
import NfvCatalog.Tosca.Inputs
import NfvCatalog.Tosca.OrderedMap
import NfvCatalog.Tosca.Size
import NfvCatalog.Tosca.Template
import NfvCatalog.Tosca.TemplateRecord
import NfvCatalog.Translation.Assembly
import NfvCatalog.Translation.Draft
import NfvCatalog.Translation.Error
import NfvCatalog.Translation.Function
import NfvCatalog.Translation.Machine
import NfvCatalog.Translation.Network
import NfvCatalog.Translation.Output
import NfvCatalog.Translation.Policies
import NfvCatalog.Translation.Profile
import NfvCatalog.Translation.Property
import NfvCatalog.Translation.Service
