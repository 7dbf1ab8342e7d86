import ClassScaffold.Config
import ClassScaffold.Proofs.Basic
import ClassScaffold.Proofs.Config.FileTree

/-! Skeletons are taken from the files that are configured for the target. What is configured for other
targets, and what other files hold, makes no difference. -/
namespace ClassScaffold

namespace Config
variable {c c' : Config} {read read' : TextReader} {target : Target}

end Config

end ClassScaffold
