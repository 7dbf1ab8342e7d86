import ClassScaffold.Proofs.Resolution.LegalNames
import ClassScaffold.Proofs.Resolution.Paths

/-! Accepted diagrams have models in which every name is legal. What a model adds to the names of its
diagram, or moves from one class to another, are lengths, repeated members and joined paths. -/
namespace ClassScaffold

/-- Cut at its separators, the path falls apart into names. -/
def Target.SplitsIntoNames (target : Target) (path : String) : Prop :=
  ∃ names, names ≠ [] ∧ target.separator.intercalate names = path ∧
    ∀ name ∈ names, IsName name ∧ ∀ c ∈ target.separator.toList, c ∉ name.toList

structure ModelClass.Legal (target : Target) (c : ModelClass) : Prop where
  name : IsName c.name
  parents : ∀ parent ∈ c.parents, IsName parent.name
  friends : ∀ friend ∈ c.friends, IsName friend
  templateParameters : ∀ p ∈ c.templateParameters, IsName p
  fields : ∀ f ∈ c.fields, f.Legal target
  methods : ∀ m ∈ c.methods, m.Legal target
  overriddenMethods : ∀ m ∈ c.overriddenMethods, m.Legal target
  packagePath : ∀ path ∈ c.packagePath, target.SplitsIntoNames path
  contract : c.isInterface → ∀ f ∈ c.fields, f.access ≠ .priv
  repeated : ∀ f ∈ c.fields, f.origin = .flattened → f.access ≠ .priv

structure ModelPackage.Legal (target : Target) (p : ModelPackage) : Prop where
  name : IsName p.name
  path : ∀ path ∈ p.path, target.SplitsIntoNames path

theorem IsName.not_mem_separator {name : String} (h : IsName name) (target : Target) :
    ∀ c ∈ target.separator.toList, c ∉ name.toList := by
  have hrest : target.separator.toList.all (fun c => !isIdentifierRest c) = true := by
    cases target <;> decide
  intro c hc hm
  have hname := (isIdentifier_iff.mp (isIdentifier_iff_isName.mpr h)).2 c hm
  simpa [hname] using List.all_eq_true.mp hrest c hc

namespace Diagram
variable {d : Diagram} {node : ClassNode} (hd : d.Legal)
include hd

theorem Chain.splitsIntoNames {ps : List PackageNode} {p : PackageNode} (h : d.Chain ps p) :
    d.target.SplitsIntoNames (d.target.separator.intercalate (ps.map PackageNode.name)) := by
  refine ⟨_, by simpa using h.ne_nil, rfl, fun name hname => ?_⟩
  obtain ⟨q, hq, rfl⟩ := List.mem_map.mp hname
  have hname := hd.packages q (h.forall_mem q hq)
  exact ⟨hname, hname.not_mem_separator d.target⟩

section Class
variable (hn : d.nodeIds.Nodup)
include hn

theorem isName_of_class? {id : String} {c : ClassNode} (h : d.registry.class? id = some c) :
    IsName c.name :=
  (hd.classes c ((class?_eq_some_iff hn).mp h).1).name

theorem isName_modelParent {parent : ModelParent} (h : parent ∈ node.modelParents d.registry) :
    IsName parent.name := by
  obtain ⟨edge, _, hedge⟩ := List.mem_filterMap.mp h
  obtain ⟨c, hc, rfl⟩ := Option.map_eq_some_iff.mp hedge
  exact isName_of_class? hd hn hc

theorem isName_friend {friend : String} (h : friend ∈ node.friendNames d.registry) :
    IsName friend := by
  obtain ⟨id, _, hid⟩ := List.mem_filterMap.mp h
  obtain ⟨c, hc, rfl⟩ := Option.map_eq_some_iff.mp hid
  exact isName_of_class? hd hn hc

theorem legal_overriddenMethod {m : Method} (h : m ∈ d.overriddenMethods node) :
    m.Legal d.target := by
  obtain ⟨i, hi, hm⟩ := List.mem_flatMap.mp h
  have hic : i ∈ d.classes := by
    by_cases hc : node.isInterface
    · rw [implemented, if_pos hc] at hi
      cases hi
    · rw [implemented_eq_searched hn hc] at hi
      exact List.mem_of_mem_filter (mem_interfaces_of_mem_searchedInterfaces hi)
  exact (hd.classes i hic).methods m (List.mem_of_mem_filter hm)

theorem legal_toModel {all : List (PackageNode × String)} (hw : d.Walked all [])
    (hc : node ∈ d.classes) :
    (node.toModel d.registry (d.placementAfter (d.encountersOf all))).Legal d.target := by
  have hnode := hd.classes node hc
  exact {
    name := hnode.name
    parents := fun _ => isName_modelParent hd hn
    friends := fun _ => isName_friend hd hn
    templateParameters := hnode.templateParameters
    fields := fun _ => legal_field hd hn hc
    methods := hnode.methods
    overriddenMethods := fun _ => legal_overriddenMethod hd hn
    packagePath := by
      intro path hpath
      obtain ⟨ps, p, hps, _, rfl⟩ := (hw.packagePath_eq_some_iff hn hc).mp hpath
      exact hps.splitsIntoNames hd
    contract := fun hi f hf ha => (exists_private_property hd hn hc hf ha).1 hi
    repeated := by
      intro f hf ho ha
      obtain ⟨_, p, _, _, hs⟩ := exists_private_property hd hn hc hf ha
      exact hs.not_flattened ho }

theorem legal_packageToModel {all : List (PackageNode × String)} (hw : d.Walked all [])
    {p : PackageNode} (hp : p ∈ d.packages) :
    (p.toModel (d.placementAfter (d.encountersOf all))).Legal d.target := by
  refine ⟨hd.packages p hp, fun path hpath => ?_⟩
  obtain ⟨ps, hps, rfl⟩ := hw.exists_chain_of_path hn hp hpath
  exact hps.splitsIntoNames hd

end Class

end Diagram

namespace Diagram

/-- Every class and every package of an accepted diagram is in its model, and all names there are
legal. -/
theorem legal_of_accept {d : Diagram} {m : Model} (h : d.accept = .ok m) :
    List.Forall₂ (fun node c => c.id = node.id ∧ c.Legal d.target) d.classes m.classes ∧
      List.Forall₂ (fun node p => p.id = node.id ∧ p.Legal d.target) d.packages m.packages := by
  obtain ⟨hvalid, hresolve⟩ := accept_eq_ok_iff.mp h
  obtain ⟨hn, _, all, hw, rfl⟩ := walked_of_resolve hresolve
  have hd := validate_eq_ok_iff.mp hvalid
  constructor
  · rw [Registry.toModel, List.forall₂_map_right_iff]
    exact List.forall₂_same.mpr fun node hc => ⟨rfl, legal_toModel hd hn hw hc⟩
  · rw [Registry.toModel, List.forall₂_map_right_iff]
    exact List.forall₂_same.mpr fun p hp => ⟨rfl, legal_packageToModel hd hn hw hp⟩

/-- A class that repeats a table of an interface, and hides a list of its own, inside two packages. -/
def catalogue : Diagram where
  target := .csharp
  packages := [{ id := "o", body := { name := "outer", children := ["p"] } },
    { id := "p", parentId := "o", body := { name := "inner", children := ["i"] } }]
  classes := [
    { id := "i", isInterface := true, body :=
      { name := "ITable",
        properties := [
          { id := "t", name := "table", access := .prot, hasSetter := true,
            type := { name := "Row", dimensions := [⟨4, "used"⟩] } }],
        methods := [
          { name := "find", returnType := .named "Row",
            parameters := [{ name := "key", type := .named "string" }] }] } },
    { id := "c", packageId := some "p", parents := [{ id := "i" }], body :=
      { name := "Table", templateParameters := ["Row"], friends := ["i"],
        properties := [
          { id := "n", name := "names", access := .priv,
            type := { name := "string", pointers := [⟨false, true, "count"⟩] } }] } }]

theorem legal_of_accept_catalogue :
    ∃ m, catalogue.accept = .ok m ∧
      (m.classes.map fun c => (c.packagePath, c.fields.map (·.name))) =
        [(some "outer.inner", ["table", "used"]),
          (some "outer.inner", ["names", "count", "table", "used"])] ∧
      List.Forall₂ (fun node c => c.id = node.id ∧ c.Legal .csharp) catalogue.classes m.classes := by
  have ha : ∃ m, catalogue.accept = .ok m ∧
      (m.classes.map fun c => (c.packagePath, c.fields.map (·.name))) =
        [(some "outer.inner", ["table", "used"]),
          (some "outer.inner", ["names", "count", "table", "used"])] :=
    ⟨_, by cbv, by cbv⟩
  obtain ⟨m, hm, hshown⟩ := ha
  exact ⟨m, hm, hshown, (legal_of_accept hm).1⟩

end Diagram

end ClassScaffold
