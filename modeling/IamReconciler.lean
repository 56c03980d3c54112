import IamReconciler.Resource.Manifest
import IamReconciler.World.Document
import IamReconciler.Proofs.Runs
import IamReconciler.Proofs.Attributes
import IamReconciler.Proofs.Directory.Entities
import IamReconciler.Proofs.Resource.Changes
import IamReconciler.Proofs.Lifecycle.Forgetting
import IamReconciler.Proofs.Site
import IamReconciler.Proofs.Lifecycle.Orphans
import IamReconciler.Proofs.Json.Formats
import IamReconciler.Proofs.Resource.Formats
import IamReconciler.Proofs.Cluster.StatusPatch
import IamReconciler.Proofs.Looking
import IamReconciler.Proofs.Directory.Contents
import IamReconciler.Proofs.Strategy.Recall
import IamReconciler.Proofs.Strategy.Resolution
import IamReconciler.Proofs.Strategy.Agreement
import IamReconciler.Proofs.Lifecycle.Applied
import IamReconciler.Proofs.Lifecycle.Convergence
import IamReconciler.Proofs.Strategy.Targets
import IamReconciler.Proofs.Histories
import IamReconciler.Proofs.Lifecycle.Ordering
import IamReconciler.Proofs.Lifecycle.Deletion
import IamReconciler.Proofs.Lifecycle.Statuses
import IamReconciler.Proofs.Traces
import IamReconciler.Proofs.Strategy.Courses
import IamReconciler.Proofs.Lifecycle.Courses
import IamReconciler.Proofs.Lifecycle.Records
import IamReconciler.Proofs.Lifecycle.Footprint
import IamReconciler.Proofs.Lifecycle.Concurrency
import IamReconciler.Proofs.Directory.Holdings
import IamReconciler.Proofs.Lifecycle.Creation
import IamReconciler.Proofs.Strategy.Subjects
import IamReconciler.Proofs.Finalizers
import IamReconciler.Proofs.Lifecycle.Outcomes
import IamReconciler.Proofs.Lifecycle.Amendments
import IamReconciler.Proofs.Lifecycle.Failures
import IamReconciler.Proofs.Lifecycle.Restoration
import IamReconciler.Proofs.Isolation
import IamReconciler.Proofs.Lifecycle.Detection
import IamReconciler.Proofs.Lifecycle.Repetition
import IamReconciler.Proofs.Resource.Roundtrip
import IamReconciler.Proofs.FailedReads
import IamReconciler.Proofs.Strategy.Sides
import IamReconciler.Proofs.Strategy.Membership
import IamReconciler.Proofs.Strategy.Rosters
import IamReconciler.Proofs.Resource.Drift
import IamReconciler.Proofs.Strategy.Comparison
import IamReconciler.Proofs.Strategy.Granting
import IamReconciler.Proofs.Strategy.Invitations
import IamReconciler.Proofs.Settings
import IamReconciler.Proofs.Finalizers.Changes
import IamReconciler.Proofs.Attributes.Canonical
