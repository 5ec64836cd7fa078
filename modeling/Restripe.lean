import Restripe.Main
import Restripe.Proofs.Lineage
import Restripe.Proofs.Reconcile.Distinct
import Restripe.Proofs.Metadata.BlockMapping
import Restripe.Proofs.Reconcile.Planned
import Restripe.Proofs.Transition.Output
import Restripe.Proofs.Transition.Chain
import Restripe.Proofs.Transition.Failure
import Restripe.Proofs.Transition.Again
import Restripe.Proofs.Metadata.Canonical
import Restripe.Proofs.FileSystem.Interleaving
import Restripe.Proofs.Reconcile.Verdict
import Restripe.Proofs.Transition.Beginning
import Restripe.Proofs.Reconcile.Recount
import Restripe.Proofs.Faultless
import Restripe.Proofs.Metadata.Locate
import Restripe.Proofs.Metadata.Relayout
import Restripe.Proofs.Epoch.Placement
import Restripe.Proofs.Epoch.Provenance
import Restripe.Proofs.Solver.External
import Restripe.Proofs.CommandLine.Report
import Restripe.Proofs.CommandLine.RoundUp
import Restripe.Proofs.FileSystem.Refusal
import Restripe.Proofs.Solver.Diagnostics
import Restripe.Proofs.Report
import Restripe.Proofs.Config
