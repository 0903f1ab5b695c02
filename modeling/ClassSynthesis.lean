import ClassSynthesis.Class.Shape
import ClassSynthesis.Workspace
import ClassSynthesis.Proofs.Instance.Session
import ClassSynthesis.Proofs.Instance.Typing
import ClassSynthesis.Proofs.Builder.Calls
import ClassSynthesis.Proofs.Builder.Rollback
import ClassSynthesis.Proofs.Class.Lineage
import ClassSynthesis.Proofs.Code.Soundness
import ClassSynthesis.Proofs.Class.Formation
import ClassSynthesis.Proofs.Code.Bodies
import ClassSynthesis.Proofs.Builder.Opening
import ClassSynthesis.Proofs.Instance.Records
import ClassSynthesis.Proofs.Class.Declared
import ClassSynthesis.Proofs.Class.Built
import ClassSynthesis.Proofs.Class.Made
import ClassSynthesis.Proofs.Class.Safety
import ClassSynthesis.Proofs.Code.Extension
import ClassSynthesis.Proofs.Instance.Agreement
import ClassSynthesis.Proofs.Class.Subtyping
import ClassSynthesis.Proofs.Class.Forwarding
import ClassSynthesis.Proofs.Class.Substitution
import ClassSynthesis.Proofs.Class.Meanings
import ClassSynthesis.Proofs.Class.Heading
import ClassSynthesis.Proofs.Registry.Log
import ClassSynthesis.Proofs.Code.Assignments
import ClassSynthesis.Proofs.Class.Construction
import ClassSynthesis.Proofs.Builder.Compiled
import ClassSynthesis.Proofs.Instance.Overrides
import ClassSynthesis.Proofs.Class.Attached
import ClassSynthesis.Proofs.Builder.Runs
import ClassSynthesis.Proofs.Builder.Effects
import ClassSynthesis.Proofs.Builder.Lifecycle
import ClassSynthesis.Proofs.Draft.Sealing
import ClassSynthesis.Proofs.Builder.Handles
import ClassSynthesis.Proofs.Class.Genealogy
import ClassSynthesis.Proofs.Workspace.History
import ClassSynthesis.Proofs.Builder.Twins
import ClassSynthesis.Proofs.Builder.Projects
import ClassSynthesis.Proofs.Workspace.Workshop
import ClassSynthesis.Proofs.Class.Members
import ClassSynthesis.Proofs.Class.Realized
import ClassSynthesis.Proofs.Class.Resolution
import ClassSynthesis.Proofs.Instance.LastWrites
import ClassSynthesis.Proofs.Registry.QualifiedNames
import ClassSynthesis.Proofs.Class.Faults
import ClassSynthesis.Proofs.Registry.Declaring
import ClassSynthesis.Proofs.Class.Visible
import ClassSynthesis.Proofs.Code.Storing
import ClassSynthesis.Proofs.Builder.LostHandles
import ClassSynthesis.Proofs.Workspace.Mirroring
import ClassSynthesis.Proofs.Code.Reading
