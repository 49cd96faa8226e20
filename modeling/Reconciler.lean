import Reconciler.Deployment.Deploy
import Reconciler.Json.Lenient
import Reconciler.Progress.Lines
import Reconciler.Report.Debug
import Reconciler.Report.Journal
import Reconciler.Report.Redaction
import Reconciler.Report.Surroundings
import Reconciler.Simulation.Console
import Reconciler.Simulation.Fixture
import Reconciler.Simulation.Testbed
import Reconciler.Simulation.Trial
import Reconciler.Proofs.Atomicity
import Reconciler.Proofs.Convergence
import Reconciler.Proofs.DiskSafety
import Reconciler.Proofs.Redeployment
import Reconciler.Proofs.Teardown
import Reconciler.Proofs.WellFormed
import Reconciler.Proofs.Json.Literals
import Reconciler.Proofs.Json.Spelling
import Reconciler.Proofs.Json.Recovery
import Reconciler.Proofs.Serialisation
import Reconciler.Proofs.Interchange
import Reconciler.Proofs.Courses
import Reconciler.Proofs.Lifecycle
import Reconciler.Proofs.StemcellUse
import Reconciler.Proofs.Requests
import Reconciler.Proofs.Progress
import Reconciler.Proofs.InstanceDeletion
import Reconciler.Proofs.DiskPlan
import Reconciler.Proofs.RetryWindows
import Reconciler.Proofs.Retrying
import Reconciler.Proofs.Clockwork
import Reconciler.Proofs.RetrySchedule
import Reconciler.Proofs.ConnectionBudget
import Reconciler.Proofs.TunnelStarts
import Reconciler.Proofs.ReleaseRecords
import Reconciler.Proofs.Sweeps
import Reconciler.Proofs.Tunnels
import Reconciler.Proofs.Uploads
import Reconciler.Proofs.RunningWatch
import Reconciler.Proofs.StepForests
import Reconciler.Proofs.ProgressLines
import Reconciler.Proofs.Versions
