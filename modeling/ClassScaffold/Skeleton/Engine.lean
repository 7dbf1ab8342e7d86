import ClassScaffold.Json.Basic

namespace ClassScaffold

/-- Why an engine fails: what it says, and what the causes behind that say, the nearest first. -/
structure EngineFault where
  message : String
  causes : List String := []

def EngineFault.reason (fault : EngineFault) : String :=
  fault.causes.foldl (fun reason cause => reason ++ ": " ++ cause) fault.message

/-- What builds templates from texts by their names, and renders one of them with the values that it
may look up, of which the last one of a name counts. Neither depends on anything else. -/
structure TemplateEngine where
  Templates : Type
  build : List (String × String) → Except EngineFault Templates
  render : Templates → String → List (String × Json) → Except EngineFault String

end ClassScaffold
