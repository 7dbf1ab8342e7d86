import ClassScaffold.Proofs.Basic
import ClassScaffold.Registry
import ClassScaffold.Resolution.Interfaces

/-! The registry of a diagram whose ids are distinct finds every node by its id, and nothing else. No
other diagram has one. -/
namespace ClassScaffold

/-- The id is the first in the list that equals one before it. -/
def IsFirstRepeat (ids : List String) (id : String) : Prop :=
  ∃ before after, ids = before ++ id :: after ∧ before.Nodup ∧ id ∈ before

namespace Registry
variable {registry : Registry} {id : String}

/-- Looking for a class is looking for the id and, where it is the id of a class, reading that one. -/
theorem class?_eq_some_iff_get? {node : ClassNode} : registry.class? id = some node ↔
    ∃ i, registry.get? id = some (.cls i) ∧ registry.diagram.classes[i]? = some node := by
  unfold class?
  cases registry.get? id with
  | none => simp
  | some entry => cases entry <;> simp

theorem package?_eq_some_iff_get? {p : PackageNode} : registry.package? id = some p ↔
    ∃ i, registry.get? id = some (.package i) ∧ registry.diagram.packages[i]? = some p := by
  unfold package?
  cases registry.get? id with
  | none => simp
  | some entry => cases entry <;> simp

end Registry

namespace Diagram

def nodeIds (d : Diagram) : List String :=
  d.classes.map (·.id) ++ d.packages.map (·.id)

theorem mem_nodeIds {d : Diagram} {id : String} :
    id ∈ d.nodeIds ↔ (∃ c ∈ d.classes, c.id = id) ∨ ∃ p ∈ d.packages, p.id = id := by
  simp [nodeIds]

/-- The registry that is built when the ids are distinct. -/
def registry (d : Diagram) : Registry :=
  ⟨d, d.nodeEntries⟩

@[simp] theorem diagram_registry (d : Diagram) : d.registry.diagram = d := rfl

theorem map_fst_nodeEntries (d : Diagram) : d.nodeEntries.map (·.1) = d.nodeIds := by
  have h {α : Type} (key : α → String) (entry : Nat → NodeEntry) (nodes : List α) (n : Nat) :
      ((nodes.zipIdx n).map fun (node, i) => (key node, entry i)).map (·.1) = nodes.map key := by
    rw [List.map_map]
    exact (List.map_map (l := nodes.zipIdx n) (f := Prod.fst) (g := key)).symm.trans
      (congrArg _ (List.zipIdx_map_fst n nodes))
  unfold nodeEntries nodeIds
  rw [List.map_append, h, h]

theorem build_eq_ok_iff {d : Diagram} {registry : Registry} :
    Registry.build d = .ok registry ↔ d.nodeIds.Nodup ∧ registry = d.registry := by
  have hf : firstRepeat? [] (d.nodeEntries.map (·.1)) = none ↔ d.nodeIds.Nodup := by
    rw [firstRepeat?_eq_none_iff, map_fst_nodeEntries]
    simp
  unfold Registry.build
  cases h : firstRepeat? [] (d.nodeEntries.map (·.1)) with
  | some id => simp [← hf, h]
  | none => simp [← hf, h, Diagram.registry, eq_comm]

theorem build_eq_error_iff {d : Diagram} {r : Rejection} : Registry.build d = .error r ↔
    ∃ id, IsFirstRepeat d.nodeIds id ∧ r = .reference (.duplicateId id) := by
  have hrepeat (id : String) : firstRepeat? [] d.nodeIds = some id ↔ IsFirstRepeat d.nodeIds id := by
    simp [firstRepeat?_eq_some_iff, IsFirstRepeat]
  simp only [← hrepeat]
  unfold Registry.build
  rw [map_fst_nodeEntries]
  cases firstRepeat? [] d.nodeIds with
  | some id => simp [eq_comm]
  | none => simp

theorem get?_eq_none_iff {d : Diagram} {id : String} :
    d.registry.get? id = none ↔ id ∉ d.nodeIds := by
  have hk : id ∈ d.nodeIds ↔ (d.registry.get? id).isSome := by
    rw [← map_fst_nodeEntries, Registry.get?, List.lookup_isSome_iff, List.mem_map]
    simp only [beq_iff_eq, @eq_comm _ id]
    rfl
  rw [hk, Option.not_isSome_iff_eq_none]

private theorem exists_position_iff {α : Type} {nodes : List α} {key : α → String} {node : α}
    {id : String} : (∃ i : Nat, (∃ found, nodes[i]? = some found ∧ key found = id) ∧
      nodes[i]? = some node) ↔ node ∈ nodes ∧ key node = id := by
  constructor
  · rintro ⟨i, ⟨found, hf, rfl⟩, hi⟩
    cases hf.symm.trans hi
    exact ⟨List.mem_of_getElem? hi, rfl⟩
  · rintro ⟨hm, rfl⟩
    obtain ⟨i, hi⟩ := List.getElem?_of_mem hm
    exact ⟨i, ⟨node, hi, rfl⟩, hi⟩

section Lookup
variable {d : Diagram} (hn : d.nodeIds.Nodup) {id : String}
include hn

private theorem get?_eq_some_iff {entry : NodeEntry} :
    d.registry.get? id = some entry ↔ (id, entry) ∈ d.nodeEntries := by
  have hk : (d.nodeEntries.map (·.1)).Nodup := by rwa [map_fst_nodeEntries]
  exact lookup_eq_some_iff_mem hk

theorem get?_eq_class_iff {i : Nat} :
    d.registry.get? id = some (.cls i) ↔ ∃ node, d.classes[i]? = some node ∧ node.id = id := by
  rw [get?_eq_some_iff hn]
  simp [nodeEntries, List.mem_zipIdx_iff_getElem?]

theorem get?_eq_package_iff {i : Nat} :
    d.registry.get? id = some (.package i) ↔ ∃ p, d.packages[i]? = some p ∧ p.id = id := by
  rw [get?_eq_some_iff hn]
  simp [nodeEntries, List.mem_zipIdx_iff_getElem?]

theorem class?_eq_some_iff {node : ClassNode} :
    d.registry.class? id = some node ↔ node ∈ d.classes ∧ node.id = id := by
  simp only [Registry.class?_eq_some_iff_get?, get?_eq_class_iff hn]
  exact exists_position_iff

theorem package?_eq_some_iff {p : PackageNode} :
    d.registry.package? id = some p ↔ p ∈ d.packages ∧ p.id = id := by
  simp only [Registry.package?_eq_some_iff_get?, get?_eq_package_iff hn]
  exact exists_position_iff

theorem class?_eq_find? : d.registry.class? id = d.classes.find? (fun c => c.id == id) := by
  refine Option.ext fun node => ?_
  rw [class?_eq_some_iff hn, find?_key_eq_some_iff (List.nodup_append.mp hn).1]

/-- Where classes are related one by one and related ones have one id, look-ups find related classes. -/
theorem rel_class? {e : Diagram} {r : ClassNode → ClassNode → Prop} (hn' : e.nodeIds.Nodup)
    (h : List.Forall₂ r d.classes e.classes) (hid : ∀ c c', r c c' → c'.id = c.id) (id : String) :
    Option.Rel r (d.registry.class? id) (e.registry.class? id) := by
  rw [class?_eq_find? hn, class?_eq_find? hn']
  exact rel_find? h fun c c' hr => by rw [hid c c' hr]

theorem isSome_package?_iff : (d.registry.package? id).isSome ↔ ∃ p ∈ d.packages, p.id = id := by
  simp [Option.isSome_iff_exists, package?_eq_some_iff hn]

theorem package_eq_of_id {p q : PackageNode} (hp : p ∈ d.packages) (hq : q ∈ d.packages)
    (h : p.id = q.id) : p = q :=
  List.inj_on_of_nodup_map (List.nodup_append.mp hn).2.1 hp hq h

theorem class_eq_of_id {c e : ClassNode} (hc : c ∈ d.classes) (he : e ∈ d.classes)
    (h : c.id = e.id) : c = e :=
  List.inj_on_of_nodup_map (List.nodup_append.mp hn).1 hc he h

theorem nodup_interfaceIds : (d.interfaces.map (·.id)).Nodup :=
  (List.nodup_append.mp hn).1.sublist (List.filter_sublist.map _)

theorem class_id_ne_package_id {c : ClassNode} {p : PackageNode} (hc : c ∈ d.classes)
    (hp : p ∈ d.packages) : c.id ≠ p.id :=
  (List.nodup_append.mp hn).2.2 _ (List.mem_map_of_mem hc) _ (List.mem_map_of_mem hp)

end Lookup

end Diagram

/-- Looking up inverts the ids of the diagram. An id leads to the position of the node that has it, among
the nodes of its kind, and to nothing where no node has it. Asked for a kind, the registry has the
node at that position. -/
structure Registry.Inverts (registry : Registry) (d : Diagram) : Prop where
  diagram : registry.diagram = d
  get?_class : ∀ id i, registry.get? id = some (.cls i) ↔
    ∃ node, d.classes[i]? = some node ∧ node.id = id
  get?_package : ∀ id i, registry.get? id = some (.package i) ↔
    ∃ p, d.packages[i]? = some p ∧ p.id = id
  get?_none : ∀ id, registry.get? id = none ↔ id ∉ d.nodeIds
  class? : ∀ id node, registry.class? id = some node ↔
    ∃ i, registry.get? id = some (.cls i) ∧ d.classes[i]? = some node
  package? : ∀ id p, registry.package? id = some p ↔
    ∃ i, registry.get? id = some (.package i) ∧ d.packages[i]? = some p

namespace Diagram

theorem inverts_registry {d : Diagram} (hn : d.nodeIds.Nodup) : d.registry.Inverts d where
  diagram := rfl
  get?_class _ _ := get?_eq_class_iff hn
  get?_package _ _ := get?_eq_package_iff hn
  get?_none _ := get?_eq_none_iff
  class? _ _ := Registry.class?_eq_some_iff_get?
  package? _ _ := Registry.package?_eq_some_iff_get?

/-- A diagram has a registry exactly if no id is used twice, by classes or packages, and looking up in it
inverts the ids. Any other diagram is refused for the first id, read from the classes and then from
the packages, that equals an earlier one. -/
theorem build_inverts_ids (d : Diagram) :
    ((∃ registry, Registry.build d = .ok registry) ↔ d.nodeIds.Nodup) ∧
      (∀ registry, Registry.build d = .ok registry → registry.Inverts d) ∧
      ∀ r, Registry.build d = .error r ↔
        ∃ id, IsFirstRepeat d.nodeIds id ∧ r = .reference (.duplicateId id) := by
  refine ⟨⟨?_, ?_⟩, ?_, fun r => build_eq_error_iff⟩
  · rintro ⟨registry, h⟩
    exact (build_eq_ok_iff.mp h).1
  · intro hn
    exact ⟨d.registry, build_eq_ok_iff.mpr ⟨hn, rfl⟩⟩
  · intro registry h
    obtain ⟨hn, rfl⟩ := build_eq_ok_iff.mp h
    exact inverts_registry hn

/-- Two classes, and a package between their ids. -/
def harbour : Diagram where
  target := .java
  classes := [{ id := "a", body := { name := "Ship" } }, { id := "c", body := { name := "Crane" } }]
  packages := [{ id := "b", body := { name := "harbour" } }]

theorem build_inverts_ids_harbour : ∃ registry, Registry.build harbour = .ok registry ∧
    registry.get? "c" = some (.cls 1) ∧ registry.get? "b" = some (.package 0) ∧
      registry.class? "b" = none ∧ registry.get? "d" = none := by
  obtain ⟨hok, hinverts, _⟩ := build_inverts_ids harbour
  obtain ⟨registry, h⟩ := hok.mpr (by decide)
  have hr := hinverts registry h
  have hb : registry.get? "b" = some (.package 0) := (hr.get?_package "b" 0).mpr ⟨_, rfl, rfl⟩
  refine ⟨registry, h, (hr.get?_class "c" 1).mpr ⟨_, rfl, rfl⟩, hb, ?_, ?_⟩
  · refine Option.eq_none_iff_forall_ne_some.mpr fun node hnode => ?_
    obtain ⟨i, hi, _⟩ := (hr.class? "b" node).mp hnode
    cases hb.symm.trans hi
  · exact (hr.get?_none "d").mpr (by decide)

example : Registry.build
    { target := .java
      classes := [{ id := "a", body := { name := "Ship" } }, { id := "b", body := { name := "Crane" } }]
      packages := [{ id := "b", body := { name := "bay" } }, { id := "a", body := { name := "sea" } }] } =
      .error (.reference (.duplicateId "b")) := by
  rfl

end Diagram

end ClassScaffold
