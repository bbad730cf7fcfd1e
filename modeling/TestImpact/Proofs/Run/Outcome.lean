import TestImpact.Proofs.CallGraph.Closure
import TestImpact.Proofs.Files.Tree
import TestImpact.Proofs.Record.Calls
import TestImpact.Proofs.Report
import TestImpact.Proofs.Run.Output
import TestImpact.Proofs.Run.Reading

/-! What a run leaves behind. -/
open TestImpact.Path

namespace TestImpact
open FileTree

/-! ## Names of the files

The names of the files that a run writes into its output directory. Each is one part of a path, and
they differ, so that no file of a run stands in the place of another. -/

section Names
/-! ### The label -/

variable {s : Session} {root : String}

namespace RunConfig
variable (config : RunConfig) (s : Session)

end RunConfig

end Names

/-! ## Parts of a list of files

Parts of a list of files. If a whole list can be written, so can a part of it on its own: what the
other files leave behind is only more that could be in the way. -/

section Parts
namespace PendingFile
variable {f : PendingFile} {s s' : Session}

end PendingFile

variable {s s' : Session}

theorem Written.below {files : List PendingFile} (h : Written files s s') :
    Below s.tree s'.tree where
  directories := h.grows.keeps
  files q hq := by
    rw [h.file?_eq]
    cases lastFor s.cwd files q with
    | some f => rfl
    | none => exact hq

end Parts

/-! ## The outcome

What a run that ends well leaves behind. Its files tell of the inputs as they were before, also when
one of them has been written over; drawing the graphs alone gives the same graphs; nothing else
changes. -/

section Outcomes
namespace RunConfig
variable (config : RunConfig) (s : Session)

end RunConfig

variable {config : RunConfig} {s after : Session} {outcome : Outcome}

end Outcomes

end TestImpact
