import ClassScaffold.Proofs.Skeleton.Checking
import ClassScaffold.Skeleton.Choice
import ClassScaffold.Skeleton.Templates

/-! The bundled skeletons read what they are given: every part passes the check with the shapes of
its attributes. -/
namespace ClassScaffold

namespace Shape

/-- A record of values of which nothing but their presence is known. -/
def plainRecord (keys : List String) : Shape :=
  .record (keys.map (·, .plain))

theorem fits_plainRecord {keys : List String} {members : List (String × Json)} (hn : keys.Nodup)
    (hk : members.map Prod.fst = keys) : (plainRecord keys).Fits (.record members) := by
  subst hk
  refine fits_record (by simpa [Function.comp_def] using hn) ?_
  simp [List.forall₂_map_left_iff, List.forall₂_same, FieldFits, fits_plain]

def parameter : Shape :=
  plainRecord ["Name", "Type", "ArraySuffix"]

def initializer : Shape :=
  plainRecord ["Name", "Source"]

def property : Shape :=
  .record [("Name", .plain), ("Type", .plain), ("ArraySuffix", .plain), ("Access", .plain),
    ("IsStatic", .plain), ("IsAutoProperty", .plain), ("Getter", .plain), ("GetterType", .plain),
    ("Setter", .plain), ("SetterParameters", .list parameter)]

def method : Shape :=
  .record [("Name", .plain), ("ReturnType", .plain), ("Parameters", .list parameter),
    ("IsVirtual", .plain), ("IsStatic", .plain)]

def constructor : Shape :=
  .record [("IsCopy", .plain), ("Parameters", .list parameter), ("Initializers", .list initializer),
    ("Body", .list .plain)]

/-- What all class skeletons get. -/
def memberFields : List (String × Shape) :=
  [("ClassName", .plain), ("Properties", .list property), ("PublicProperties", .list property),
    ("ProtectedProperties", .list property), ("PrivateProperties", .list property),
    ("PublicMethods", .list method), ("ProtectedMethods", .list method),
    ("PrivateMethods", .list method), ("OverriddenMethods", .list method),
    ("FriendClasses", .list .plain), ("TemplateTypesData", .list .plain)]

def parentFields : Target → List (String × Shape)
  | .cpp | .csharp => [("InheritedClasses", .list .plain)]
  | .java => [("BaseClasses", .list .plain), ("Interfaces", .list .plain)]

/-- What a class that is no interface gets besides. -/
def ownFields : Target → List (String × Shape)
  | .cpp => [("Constructors", .list constructor), ("HasDestructor", .plain),
      ("DestructorContents", .list .plain), ("CopyAssignOperator", .plain)]
  | .csharp | .java => [("Constructors", .list constructor)]

def interface (target : Target) : Shape :=
  .record (memberFields ++ parentFields target)

def cls (target : Target) : Shape :=
  .record (memberFields ++ parentFields target ++ ownFields target)

def namespacePart : Shape :=
  plainRecord ["FullPackagePath", "ClassCode"]

def copyAssignOperator : Shape :=
  .record [("ClassName", .plain), ("ReleaseBodyCode", .list .plain), ("Properties", .list .plain),
    ("DynamicAllocationBodyCode", .list .plain)]

/-- The parts of a class skeleton with the shapes of what they get. -/
def classParts (target : Target) : List (String × Shape) :=
  [("class", cls target), ("interface", interface target), ("namespace", namespacePart)] ++
    if target.managesMemory then [("copyAssignOperator", copyAssignOperator)] else []

def memoryParts : List (String × Shape) :=
  [("pointerAllocate", plainRecord ["PointerName", "DataType", "IsArray"]),
    ("allocateThenIterate", plainRecord
      ["PointerName", "DataType", "IndexName", "LengthVariableName", "LoopContents"]),
    ("iterateThenDelete", plainRecord
      ["PointerName", "IndexName", "LengthVariableName", "LoopContents"]),
    ("pointerDelete", plainRecord ["PointerName", "IsArray"]),
    ("iterateArray", plainRecord ["IndexName", "LengthVariableName", "LoopContents"])]

end Shape

namespace Skeleton

/-- Whether parts that are given values of these shapes read only what is there. Calls go no deeper
than four. -/
def suits (s : Skeleton) (parts : List (String × Shape)) : Bool :=
  parts.all fun (name, shape) => s.readablePart shape 4 name [(attributesName, shape)]

def Expr.paths : Expr → List Expr
  | .path root steps => [.path root steps]
  | .filtered e _ _ | .negation e => e.paths
  | .both a b | .either a b => a.paths ++ b.paths
  | .text _ | .int _ | .bool _ | .call .. | .function => []

/-- Prints nothing, but fails where there is no value. -/
def probe (e : Expr) : Piece :=
  .print (.call ownSpace "present" [("value", e)])

mutual

/-- A piece that does nothing before everything that it looks up is there. -/
def Piece.strict : Piece → List Piece
  | .text s => [.text s]
  | .print e => e.paths.map probe ++ [.print e]
  | .branch condition yes no =>
    condition.paths.map probe ++ [.branch condition (stricts yes) (stricts no)]
  | .loop item values body => values.paths.map probe ++ [.loop item values (stricts body)]

def stricts : List Piece → List Piece
  | [] => []
  | piece :: rest => piece.strict ++ stricts rest

end

/-- The skeleton that fails where a part looks up what is not there, in a condition too. -/
def strict (s : Skeleton) : Skeleton where
  parts := ⟨"present", ["value"], []⟩ :: s.parts.map fun p => { p with body := stricts p.body }

private theorem renderPart_present (s : Skeleton) (attributes : Json) (depth : Nat)
    (arguments : String → Option Json) :
    s.strict.renderPart attributes (depth + 1) "present" arguments =
      (arguments "value").map fun _ => "" := by
  have hpart : s.strict.part? "present" = some ⟨"present", ["value"], []⟩ := rfl
  have hvalues : bindParameters arguments ["value"] =
      (arguments "value").map fun value => [("value", value)] := by
    rw [bindParameters, List.mapM_cons, List.mapM_nil]
    cases arguments "value" <;> rfl
  rw [renderPart, hpart, Option.bind_eq_bind, Option.bind_some, hvalues]
  cases arguments "value" <;> rfl

/-- In a strict skeleton a probe of what has no value fails, and any other prints nothing. -/
theorem renderPiece_probe (s : Skeleton) (attributes : Json) (depth : Nat) (scope : Scope)
    (e : Expr) :
    let answer : Answer := fun space name arguments =>
      if space = ownSpace then s.strict.renderPart attributes (depth + 1) name arguments else none
    renderPiece answer scope (probe e) = (e.eval answer scope).map fun _ => "" := by
  intro answer
  have hcall : answer ownSpace "present" (Expr.evalNamed answer scope [("value", e)]) =
      (e.eval answer scope).map fun _ => "" := by
    refine (if_pos rfl).trans ((s.renderPart_present attributes depth _).trans ?_)
    rw [Expr.evalNamed, if_pos rfl]
  rw [probe, renderPiece, Expr.eval, hcall]
  cases e.eval answer scope <;> rfl

theorem suits_bundled (target : Target) :
    target.bundledSkeleton.suits (Shape.classParts target) := by
  cases target <;> decide +kernel

theorem suits_strict_bundled (target : Target) :
    target.bundledSkeleton.strict.suits (Shape.classParts target) := by
  cases target <;> decide +kernel

theorem suits_memory : Memory.skeleton.suits Shape.memoryParts := by
  decide

theorem suits_strict_memory : Memory.skeleton.strict.suits Shape.memoryParts := by
  decide

end Skeleton

namespace Skeleton

theorem Group.entryName_inj {name part other : String} :
    entryName name part = entryName name other ↔ part = other := by
  simp [entryName, String.ext_iff]

/-- A group that can be asked for these parts, and whose skeleton suits them. -/
structure Group.Suits (group : Group engine) (parts : List (String × Shape)) : Prop where
  instances : group.instances = parts.map Prod.fst
  entries : group.templates.entries =
    group.instances.map fun part => (Group.entryName group.name part, Group.entry part)
  skeleton : group.templates.skeleton.suits parts

theorem Group.suits_ofSkeleton {s : Skeleton} {parts : List (String × Shape)}
    {instances : List String} (hi : parts.map Prod.fst = instances) (hs : s.suits parts)
    (name : String) : (Group.ofSkeleton name instances s).Suits parts :=
  ⟨hi.symm, rfl, hs⟩

theorem bindAll_eq {engine : TemplateEngine} (i : Instance engine) (attributes : List (String × Json)) :
    i.bindAll attributes = { i with attributes := i.attributes ++ attributes } := by
  unfold Instance.bindAll
  induction attributes generalizing i with
  | nil => simp
  | cons pair rest ih =>
    rw [List.foldl_cons, ih]
    simp [Instance.bind]

theorem Group.lookup_entry {name part : String} {instances : List String} (hm : part ∈ instances) :
    (instances.map fun part => (entryName name part, entry part)).lookup (entryName name part) =
      some (entry part) := by
  induction instances with
  | nil => cases hm
  | cons first rest ih =>
    rw [List.map_cons, List.lookup_cons]
    by_cases hn : part = first
    · rw [hn, beq_self_eq_true]
    · have hb : (entryName name part == entryName name first) = false :=
        beq_false_of_ne (entryName_inj.not.mpr hn)
      rw [hb]
      exact ih ((List.mem_cons.mp hm).resolve_left hn)

theorem Instance.render_eq_ok_iff {i : Instance engine} {text : String} :
    i.render = .ok text ↔ i.group.templates.text? (Group.entryName i.group.name i.name)
      [(attributesName, .record i.attributes)] = some text := by
  have hr : engine.render = Templates.render := rfl
  rw [Instance.render, hr, Templates.render]
  cases i.group.templates.text? (Group.entryName i.group.name i.name)
    [(attributesName, .record i.attributes)] <;> simp

/-- What an entry hands to the part that it calls. -/
def entryArguments (attributes : List (String × Json)) (name : String) : Option Json :=
  if attributesName = name then some (.record attributes) else none

/-- Through its entry an instance has the text of its part. -/
theorem Instance.render_iff_renderPart {group : Group engine} {name text : String}
    {attributes : List (String × Json)}
    (he : group.templates.entries.lookup (Group.entryName group.name name) =
      some (Group.entry name)) :
    (Instance.bindAll ⟨group, name, []⟩ attributes).render = .ok text ↔
      group.templates.skeleton.renderPart (.record attributes) callDepth name
        (entryArguments attributes) = some text := by
  rw [render_eq_ok_iff, bindAll_eq, List.nil_append, Templates.text?, he, Option.bind_eq_bind,
    Option.bind_some, List.lookup_cons_self, Option.bind_eq_bind, Option.bind_some, Group.entry,
    renderPieces, renderPiece, Expr.eval, if_pos rfl]
  change ((((group.templates.skeleton.renderPart (.record attributes) callDepth name
    (entryArguments attributes)).map Json.text).map Json.display).bind fun printed =>
      (renderPieces _ _ []).bind fun rest => some (printed ++ rest)) = _ ↔ _
  cases group.templates.skeleton.renderPart (.record attributes) callDepth name
    (entryArguments attributes) with
  | none => exact Iff.rfl
  | some printed => simp [renderPieces, Json.display]

namespace Group.Suits

variable {group : Group engine} {parts : List (String × Shape)} {name : String} {shape : Shape}

theorem start (h : group.Suits parts) (hm : name ∈ parts.map Prod.fst) :
    group.start name = .ok ⟨group, name, []⟩ := by
  have hc : group.instances.contains name = true := by simpa [h.instances] using hm
  rw [Group.start, if_pos hc]

/-- A part renders as soon as its attributes have their shapes. -/
theorem render (h : group.Suits parts) (hm : (name, shape) ∈ parts)
    {attributes : List (String × Json)} (hf : shape.Fits (.record attributes)) :
    ∃ text, (Instance.bindAll ⟨group, name, []⟩ attributes).render = .ok text := by
  have hpart : group.templates.skeleton.readablePart shape 4 name [(attributesName, shape)] :=
    List.all_eq_true.mp h.skeleton _ hm
  have hfit : ArgumentsFit [(attributesName, shape)] (entryArguments attributes) := by
    intro wanted found hfound
    cases List.mem_singleton.mp (mem_of_lookup hfound)
    exact ⟨_, if_pos rfl, hf⟩
  obtain ⟨text, ht⟩ := Option.isSome_iff_exists.mp
    (renderPart_of_readablePart group.templates.skeleton hf
      (show 4 ≤ callDepth by decide) hpart hfit)
  have hinstance : name ∈ group.instances := h.instances ▸ List.mem_map_of_mem hm
  have hlookup : group.templates.entries.lookup (Group.entryName group.name name) =
      some (Group.entry name) := h.entries ▸ Group.lookup_entry hinstance
  exact ⟨text, (Instance.render_iff_renderPart hlookup).mpr ht⟩

end Group.Suits

end Skeleton

end ClassScaffold
