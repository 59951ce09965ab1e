import EvoomGuard.Verifiers.EditProtection
import EvoomGuard.Application.BlackboxRecord
import EvoomGuard.Verifiers.CandidateRoundTrip
import EvoomGuard.RemoteSigner.Separation
import EvoomGuard.Verifiers.RepoBaseline
import EvoomGuard.RoundLedger.Append
import EvoomGuard.Admission.AgentChange
import EvoomGuard.GuardGates
import EvoomGuard.Runtime.BenignDrift
import EvoomGuard.Admission.SealSoundness
import EvoomGuard.Admission.RoleSeparation
import EvoomGuard.Patchmin
import EvoomGuard.Verifiers.JunitAggregates
import EvoomGuard.GuardDiffTargets
import EvoomGuard.Candidate.BlockRoundTrip
import EvoomGuard.Verifiers.PackageManifest
import EvoomGuard.StrictJson
import EvoomGuard.Isolation.Docker
import EvoomGuard.Policy.Preflight
import EvoomGuard.Execution.Command
import EvoomGuard.Runners.Instrumentation
import EvoomGuard.Verifiers.SetupChanges
import EvoomGuard.Domain.CanonicalChanges
import EvoomGuard.Application.DeliveredAssurance
import EvoomGuard.Runners.ShellSplit
import EvoomGuard.Isolation.CandidateCleanup
import EvoomGuard.Execution.BoundedProcess
import EvoomGuard.GuardRisk
import EvoomGuard.Verifiers.PathCase
import EvoomGuard.Verifiers.JunitDirectory
import EvoomGuard.Isolation.Receipts
import EvoomGuard.Evidence.ChangedLines
import EvoomGuard.Evidence.CoverageCommand
import EvoomGuard.Integrations.AtomicOutput
import EvoomGuard.Integrations.ReportText
import EvoomGuard.GithubAttestation.OutputErrors
import EvoomGuard.Signing.CreatedOutput
import EvoomGuard.Workspace.BlackboxRefinement
import EvoomGuard.Finalizer.DerivedHead
import EvoomGuard.Verifiers.RepoPackContinuity
