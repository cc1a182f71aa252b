import CheckpointReport.Client.Construction
import CheckpointReport.Complaint
import CheckpointReport.Config.Properties
import CheckpointReport.Proofs.Client.Closing
import CheckpointReport.Proofs.Client.History
import CheckpointReport.Proofs.Client.Limits
import CheckpointReport.Proofs.Client.Paths
import CheckpointReport.Proofs.Client.Polling
import CheckpointReport.Proofs.Config.Properties
import CheckpointReport.Proofs.Report.Grammar
import CheckpointReport.Proofs.Report.Kinds
import CheckpointReport.Proofs.Report.RoundTrip
import CheckpointReport.Proofs.Report.Rules
import CheckpointReport.Proofs.Summary.Meaning
import CheckpointReport.Proofs.Summary.Refusals
import CheckpointReport.Proofs.Summary.Tasks
import CheckpointReport.Proofs.Transport.Delays
import CheckpointReport.Proofs.Transport.Origin
import CheckpointReport.Proofs.Transport.Outcome
import CheckpointReport.Proofs.Transport.Reference
import CheckpointReport.Proofs.Transport.Status
import CheckpointReport.Proofs.Transport.Story
import CheckpointReport.Proofs.Watch
import CheckpointReport.Proofs.Workspace.Equality
import CheckpointReport.Proofs.Workspace.Frame
import CheckpointReport.Proofs.Workspace.WellFormed
import CheckpointReport.Watch
import CheckpointReport.Workspace
