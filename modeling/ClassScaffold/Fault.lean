import ClassScaffold.Config
import ClassScaffold.Generation

namespace ClassScaffold

/-- A fault as it is told to users: its kind and its message. -/
structure Fault where
  kind : FaultKind
  message : String
  deriving DecidableEq

namespace Fault

def ofRejection (r : Rejection) : Fault :=
  ⟨r.kind, r.message⟩

def ofGeneration (f : GenerationFault) : Fault :=
  ⟨f.kind, f.message⟩

/-- A skeleton that cannot be read counts as one that cannot be rendered. -/
def ofConfig (f : ConfigFault) : Fault :=
  ⟨.render, f.message⟩

def text (f : Fault) : String :=
  f.kind.name ++ " error: " ++ f.message

end Fault

namespace Diagram

def check (d : Diagram) : Except Fault Model :=
  d.accept.mapError Fault.ofRejection

/-- Reads the skeletons first, whatever the diagram is like. -/
def generateWith (engine : TemplateEngine) (read : TextReader) (config : Config) (d : Diagram) :
    Except Fault Sources := do
  let skeletons ← (config.skeletons read d.target).mapError Fault.ofConfig
  (d.generate engine skeletons).mapError Fault.ofGeneration

end Diagram

end ClassScaffold
