import TestImpact.Main
import TestImpact.Proofs.CallGraph.Dot
import TestImpact.Proofs.Record.Written
import TestImpact.Proofs.Selection.Laws
import TestImpact.Proofs.Selection.Listing
import TestImpact.Proofs.Run.Outcome
import TestImpact.Proofs.Run.Artifacts
import TestImpact.Proofs.Run.Layout
