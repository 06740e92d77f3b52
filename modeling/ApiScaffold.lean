import ApiScaffold.Main
import ApiScaffold.Template.Catalogue
import ApiScaffold.Config.Environment
import ApiScaffold.Proofs.Run.Build
import ApiScaffold.Proofs.Api.Agreement
import ApiScaffold.Proofs.Config.Saved
import ApiScaffold.Proofs.FileTree.Walk
import ApiScaffold.Proofs.FileTree.Between
import ApiScaffold.Proofs.Package.Order
import ApiScaffold.Proofs.FileTree.Name
import ApiScaffold.Proofs.Text.Case
import ApiScaffold.Proofs.Package.Place
import ApiScaffold.Proofs.Run.Places
import ApiScaffold.Proofs.Package.Layout
import ApiScaffold.Proofs.Run.Packages
import ApiScaffold.Proofs.Console.Message
import ApiScaffold.Proofs.Numeric.Duration
import ApiScaffold.Proofs.Run.Report
import ApiScaffold.Proofs.Run.Course
import ApiScaffold.Proofs.Run.Outcome
import ApiScaffold.Proofs.Run.ReadBack
import ApiScaffold.Proofs.Api.Reference
import ApiScaffold.Proofs.Linkage.Adapter
import ApiScaffold.Proofs.Linkage.Closure
import ApiScaffold.Proofs.Linkage.Declaration
import ApiScaffold.Proofs.Linkage.Export
import ApiScaffold.Proofs.Linkage.Import
import ApiScaffold.Proofs.Config.Load
import ApiScaffold.Proofs.Package.Offline
import ApiScaffold.Proofs.Api.GraphQl
import ApiScaffold.Proofs.Package.Alike
import ApiScaffold.Proofs.Package.History
import ApiScaffold.Proofs.Command.Report
import ApiScaffold.Proofs.Yaml.Document
import ApiScaffold.Proofs.Config.Validate
import ApiScaffold.Proofs.Api.Parameter
import ApiScaffold.Proofs.Template.Literal
import ApiScaffold.Proofs.Package.Delivery
import ApiScaffold.Proofs.Config.Environment
import ApiScaffold.Proofs.Platform.Paging
import ApiScaffold.Proofs.Platform.Query
import ApiScaffold.Proofs.Platform.Mirror
import ApiScaffold.Proofs.Platform.Credential
import ApiScaffold.Proofs.Platform.Envelope
import ApiScaffold.Proofs.Platform.Version
import ApiScaffold.Proofs.Numeric.Clock
import ApiScaffold.Proofs.Template.Absence
import ApiScaffold.Proofs.Api.Grouping
import ApiScaffold.Proofs.Package.Names
