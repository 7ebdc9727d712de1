import GitHubReconciler.Cluster.Secret
import GitHubReconciler.Cluster.Store
import GitHubReconciler.Json.Writing
import GitHubReconciler.Logging.Subscriber
import GitHubReconciler.Operation.Session
import GitHubReconciler.Proofs.Repository.Absence
import GitHubReconciler.Proofs.Repository.Convergence
import GitHubReconciler.Proofs.Repository.Persistence
import GitHubReconciler.Proofs.Secret.Soundness
import GitHubReconciler.Proofs.Time.Timestamp
import GitHubReconciler.Requeue.Policy
import GitHubReconciler.Proofs.Repository.Directory
import GitHubReconciler.Proofs.Repository.Deletion
import GitHubReconciler.Proofs.Repository.Rename
import GitHubReconciler.Proofs.Content.Operations
import GitHubReconciler.Proofs.Membership.Operations
import GitHubReconciler.Proofs.Atomicity
import GitHubReconciler.Proofs.Requeue.Policy
import GitHubReconciler.Proofs.Requeue.Counters
import GitHubReconciler.Proofs.Repository.Reporting
import GitHubReconciler.Proofs.Secret.Confidentiality
import GitHubReconciler.Proofs.Secret.Interleaving
import GitHubReconciler.Proofs.Secret.Remembering
import GitHubReconciler.Proofs.Discipline
import GitHubReconciler.Proofs.Json.Codec
import GitHubReconciler.Proofs.Resource.Manifest
import GitHubReconciler.Proofs.Ensures
import GitHubReconciler.Proofs.Metrics.Facts
import GitHubReconciler.Proofs.Metrics.Ledger
import GitHubReconciler.Proofs.Readiness
import GitHubReconciler.Proofs.Frame
import GitHubReconciler.Proofs.Repository.Editing
import GitHubReconciler.Proofs.Classification
import GitHubReconciler.Proofs.Repository.Filling
import GitHubReconciler.Proofs.Repository.Learning
import GitHubReconciler.Proofs.Content.Body
import GitHubReconciler.Proofs.Text.Canonical
import GitHubReconciler.Proofs.Requeue.Backoff
import GitHubReconciler.Proofs.Resource.Transition
import GitHubReconciler.Proofs.Repository.Merging
import GitHubReconciler.Proofs.Secret.Sealing
import GitHubReconciler.Proofs.Repository.FullName
import GitHubReconciler.Proofs.Secret.Dating
import GitHubReconciler.Proofs.Content.Guarding
import GitHubReconciler.Proofs.Repository.Adoption
import GitHubReconciler.Proofs.Settings
import GitHubReconciler.Proofs.Time.Reading
