import Scaffold.Introspection.Server
import Scaffold.Main
import Scaffold.Plan.Statement
import Scaffold.Proofs.Generation.Covered
import Scaffold.Proofs.Template.Nesting
import Scaffold.Proofs.Template.Substitution
import Scaffold.Proofs.Plan.Aliases
import Scaffold.Proofs.Generation.Locality
import Scaffold.Proofs.Generation.Growth
import Scaffold.Proofs.Artifact.Rewriting
import Scaffold.Proofs.Plan.Lookup
import Scaffold.Proofs.Policy.Precedence
import Scaffold.Proofs.Template.Assembly
import Scaffold.Proofs.Plan.StatementText
import Scaffold.Proofs.Generation.StatementFile
import Scaffold.Proofs.Plan.Confidential
import Scaffold.Proofs.Generation.Order
import Scaffold.Proofs.Generation.Reports
import Scaffold.Proofs.Artifact.Site
import Scaffold.Proofs.Naming.FileStem
import Scaffold.Proofs.Generation.LastWord
import Scaffold.Proofs.Generation.Refusal
import Scaffold.Proofs.Artifact.Folders
import Scaffold.Proofs.Artifact.FileTree
import Scaffold.Proofs.Artifact.Disk
import Scaffold.Proofs.Artifact.Mirror
import Scaffold.Proofs.Generation.DryRun
import Scaffold.Proofs.Generation.Remains
import Scaffold.Proofs.Plan.LookupText
import Scaffold.Proofs.Generation.LookupEndpoint
import Scaffold.Proofs.Introspection.Filtering
import Scaffold.Proofs.Generation.KeyCondition
import Scaffold.Proofs.Document.Numbers
import Scaffold.Proofs.Document.Reloading
import Scaffold.Proofs.Policy.Reactors
import Scaffold.Proofs.Generation.Confined
import Scaffold.Proofs.Template.Concatenation
import Scaffold.Proofs.Template.ConditionalLines
import Scaffold.Proofs.Template.Extension
import Scaffold.Proofs.Template.FaultLines
import Scaffold.Proofs.Generation.Collision
import Scaffold.Proofs.Plan.Selection
import Scaffold.Proofs.Template.Unused
import Scaffold.Proofs.Generation.IdleFlags
import Scaffold.Proofs.Generation.MissingTemplate
import Scaffold.Proofs.Introspection.Labels
import Scaffold.Proofs.Naming.ClassName
import Scaffold.Proofs.Schema.Refusal
import Scaffold.Proofs.Document.Parts
import Scaffold.Proofs.Plan.RequiredText
import Scaffold.Proofs.Generation.Required
import Scaffold.Proofs.Policy.Pipelines
import Scaffold.Proofs.Artifact.Reach
import Scaffold.Proofs.Naming.NormalForm
import Scaffold.Proofs.Schema.Modifiers
