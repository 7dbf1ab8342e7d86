import ClassScaffold.Skeleton.Engine

/-! Template groups: a skeleton under a name, with the parts that may be asked for. -/
namespace ClassScaffold

/-- Why a value has no JSON form. -/
inductive EncodingFault where
  | keyNotText
  deriving DecidableEq

def EncodingFault.message : EncodingFault → String
  | .keyNotText => "key must be a string"

inductive RenderFault where
  | unreadableGroup (group reason : String)
  | unknownInstance (group part : String)
  | unboundAttribute (key : String) (fault : EncodingFault)
  | failedInstance (group part reason : String)
  deriving DecidableEq

def RenderFault.message : RenderFault → String
  | .unreadableGroup g reason => s!"template group '{g}' could not be built: {reason}"
  | .unknownInstance g i => s!"template group '{g}' has no instance '{i}'"
  | .unboundAttribute a fault => s!"attribute '{a}' could not be bound: {fault.message}"
  | .failedInstance g i reason => s!"instance '{g}/{i}' failed to render: {reason}"

namespace Skeleton

variable {engine : TemplateEngine}

/-- A skeleton as the engine has built it, under a name, and the parts that may be asked for. -/
structure Group (engine : TemplateEngine) where
  name : String
  instances : List String
  templates : engine.Templates

/-- A part that is asked for, with the attributes bound so far, in the order of binding. -/
structure Instance (engine : TemplateEngine) where
  group : Group engine
  name : String
  attributes : List (String × Json)

def attributesName : String := "a"

namespace Group

/-- The template through which a part is rendered. -/
def entryName (name part : String) : String :=
  name ++ "/" ++ part

/-- Imports the skeleton, and calls the part with all attributes as its argument. -/
def entryText (name part : String) : String :=
  "\x7b% import \"" ++ name ++ "\" as group %\x7d\x7b\x7b group::" ++ part ++ "(a=a) \x7d\x7d"

/-- The templates of a skeleton given as text: the skeleton, and an entry for every part. -/
def texts (name text : String) (instances : List String) : List (String × String) :=
  (name, text) :: instances.map fun part => (entryName name part, entryText name part)

def ofText (engine : TemplateEngine) (name text : String) (instances : List String) :
    Except RenderFault (Group engine) :=
  match engine.build (texts name text instances) with
  | .ok templates => .ok ⟨name, instances, templates⟩
  | .error fault => .error (.unreadableGroup name fault.reason)

def start (group : Group engine) (name : String) : Except RenderFault (Instance engine) :=
  if group.instances.contains name then .ok ⟨group, name, []⟩
  else .error (.unknownInstance group.name name)

end Group

namespace Instance

/-- Binds an attribute. What was bound to its name before counts no longer. -/
def bind (i : Instance engine) (key : String) (value : Json) : Instance engine :=
  { i with attributes := i.attributes ++ [(key, value)] }

def bindAll (i : Instance engine) (attributes : List (String × Json)) : Instance engine :=
  attributes.foldl (fun i (key, value) => i.bind key value) i

/-- Binds what the encoding of a value came to. -/
def bindEncoded (i : Instance engine) (key : String) :
    Except EncodingFault Json → Except RenderFault (Instance engine)
  | .ok value => .ok (i.bind key value)
  | .error fault => .error (.unboundAttribute key fault)

def render (i : Instance engine) : Except RenderFault String :=
  match engine.render i.group.templates (Group.entryName i.group.name i.name)
      [(attributesName, .record i.attributes)] with
  | .ok text => .ok text
  | .error fault => .error (.failedInstance i.group.name i.name fault.reason)

end Instance

end Skeleton

end ClassScaffold
