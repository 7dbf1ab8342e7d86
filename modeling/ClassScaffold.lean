import ClassScaffold.Diagram.Draft
import ClassScaffold.Main
import ClassScaffold.Model.Encoding
import ClassScaffold.Proofs.Command.Generate
import ClassScaffold.Proofs.Config.Skeletons
import ClassScaffold.Proofs.Isolation
import ClassScaffold.Proofs.Ownership.Completeness
import ClassScaffold.Proofs.Ownership.Hygiene
import ClassScaffold.Proofs.Ownership.Repetition
import ClassScaffold.Proofs.Ownership.Steps
import ClassScaffold.Proofs.Resolution.Membership
import ClassScaffold.Proofs.Resolution.ModelNames
import ClassScaffold.Proofs.Resolution.Owners
import ClassScaffold.Proofs.Resolution.Parents
import ClassScaffold.Proofs.Resolution.References
import ClassScaffold.Proofs.Source.Arrays
import ClassScaffold.Proofs.Source.Balance
import ClassScaffold.Proofs.Source.Constructors
import ClassScaffold.Proofs.Source.Contracts
import ClassScaffold.Proofs.Source.Sections
import ClassScaffold.Proofs.SubmissionOrder
import ClassScaffold.Proofs.Validation.Places
