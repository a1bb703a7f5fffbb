import ClientGen.Naming.Words
import ClientGen.Text.Quoted
import ClientGen.Tree.Build
import ClientGen.Plan
import ClientGen.Template.Set
import ClientGen.Generator
import ClientGen.Execution
import ClientGen.Logging.Line
import ClientGen.Disk.Furnish
import ClientGen.Main
import ClientGen.Proofs.Text.Order
import ClientGen.Proofs.Naming.Module
import ClientGen.Proofs.Document.Json
import ClientGen.Proofs.Path.Components
import ClientGen.Proofs.Spec.Validity
import ClientGen.Proofs.Tree.Registration
import ClientGen.Proofs.Tree.Keyed
import ClientGen.Proofs.Tree.Linking
import ClientGen.Proofs.Plan.Files
import ClientGen.Proofs.Plan.Destinations
import ClientGen.Proofs.Plan.References
import ClientGen.Proofs.Tree.Lookups
import ClientGen.Proofs.Plan.Swap
import ClientGen.Proofs.Generator.Untouched
import ClientGen.Proofs.Generator.Strategies
import ClientGen.Proofs.Text.Bytes
import ClientGen.Proofs.Tree.Compatible
import ClientGen.Proofs.Tree.Permutation
import ClientGen.Proofs.Plan.Permutation
import ClientGen.Proofs.Plan.Listing
import ClientGen.Proofs.Plan.Order
import ClientGen.Proofs.Tree.Duplicates
import ClientGen.Proofs.Generator.Completeness
import ClientGen.Proofs.Generator.Idempotence
import ClientGen.Proofs.Generator.Interruption
import ClientGen.Proofs.Disk.Modes
import ClientGen.Proofs.Disk.Sparing
import ClientGen.Proofs.Spec.Grammar
import ClientGen.Proofs.Plan.Clashes
import ClientGen.Proofs.Execution.Agreement
import ClientGen.Proofs.Plan.Containment
import ClientGen.Proofs.Tree.Firsts
import ClientGen.Proofs.Tree.Accounting
import ClientGen.Proofs.Tree.Description
import ClientGen.Proofs.Tree.Addition
import ClientGen.Proofs.Plan.Description
import ClientGen.Proofs.Plan.Addition
import ClientGen.Proofs.Plan.Relocation
import ClientGen.Proofs.Plan.Modules
import ClientGen.Proofs.Tree.Methods
import ClientGen.Proofs.Tree.GroupVersions
import ClientGen.Proofs.Plan.Rendering
import ClientGen.Proofs.Plan.Constants
import ClientGen.Proofs.Plan.LineCounts
import ClientGen.Proofs.Tree.Finding
import ClientGen.Proofs.Tree.Identifiers
import ClientGen.Proofs.Plan.TraitModule
import ClientGen.Proofs.Plan.Imports
