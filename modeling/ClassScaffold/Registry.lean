import ClassScaffold.Diagram
import ClassScaffold.Rejection

/-! Look-up of nodes by id. Classes and packages share one space of ids. -/
namespace ClassScaffold

/-- A node, by its position among the classes or among the packages. -/
inductive NodeEntry where
  | cls (position : Nat)
  | package (position : Nat)
  deriving DecidableEq

/-- The first entry that equals an earlier one. -/
def firstRepeat? (seen : List String) : List String → Option String
  | [] => none
  | id :: rest => if seen.contains id then some id else firstRepeat? (id :: seen) rest

section Repeats
variable {seen ids : List String} {head : String}

theorem firstRepeat?_of_mem (h : head ∈ seen) : firstRepeat? seen (head :: ids) = some head := by
  rw [firstRepeat?, if_pos (List.contains_iff_mem.mpr h)]

theorem firstRepeat?_of_not_mem (h : head ∉ seen) :
    firstRepeat? seen (head :: ids) = firstRepeat? (head :: seen) ids := by
  rw [firstRepeat?, if_neg (mt List.contains_iff_mem.mp h)]

/-- An entry that is passed over is seen from then on. -/
theorem unseen_cons_iff : ((head :: ids).Nodup ∧ ∀ id ∈ head :: ids, id ∉ seen) ↔
    head ∉ seen ∧ ids.Nodup ∧ ∀ id ∈ ids, id ∉ head :: seen := by
  simp only [List.nodup_cons, List.mem_cons, forall_eq_or_imp, not_or]
  constructor
  · rintro ⟨⟨hi, hn⟩, hh, hs⟩
    exact ⟨hh, hn, fun id hid => ⟨fun e => hi (e ▸ hid), hs id hid⟩⟩
  · rintro ⟨hh, hn, hs⟩
    exact ⟨⟨fun hm => (hs head hm).1 rfl, hn⟩, hh, fun id hid => (hs id hid).2⟩

theorem firstRepeat?_eq_none_iff :
    firstRepeat? seen ids = none ↔ ids.Nodup ∧ ∀ id ∈ ids, id ∉ seen := by
  induction ids generalizing seen with
  | nil => simp [firstRepeat?]
  | cons head rest ih =>
    rw [unseen_cons_iff]
    by_cases h : head ∈ seen
    · rw [firstRepeat?_of_mem h]
      exact iff_of_false (Option.some_ne_none head) fun hu => hu.1 h
    · rw [firstRepeat?_of_not_mem h, ih, and_iff_right h]

/-- What stands before the entry that is found neither comes twice nor has been seen. -/
theorem firstRepeat?_eq_some_iff {id : String} :
    firstRepeat? seen ids = some id ↔ ∃ before after, ids = before ++ id :: after ∧
      (before.Nodup ∧ ∀ other ∈ before, other ∉ seen) ∧ (id ∈ seen ∨ id ∈ before) := by
  -- along the list: what is passed over leaves what stands before and joins what has been seen
  induction ids generalizing seen with
  | nil => simp [firstRepeat?]
  | cons head rest ih =>
    by_cases h : head ∈ seen
    · rw [firstRepeat?_of_mem h, Option.some.injEq]
      constructor
      · rintro rfl
        exact ⟨[], rest, rfl, ⟨List.nodup_nil, List.forall_mem_nil _⟩, .inl h⟩
      · rintro ⟨before, after, he, ⟨_, hs⟩, _⟩
        cases before with
        | nil => exact (List.cons.inj he).1
        | cons other before =>
          obtain ⟨rfl, _⟩ := List.cons.inj he
          exact absurd h (hs head List.mem_cons_self)
    · have hshift (before : List String) :
          (id ∈ head :: seen ∨ id ∈ before) ↔ (id ∈ seen ∨ id ∈ head :: before) := by
        simp only [List.mem_cons, or_assoc, or_left_comm]
      rw [firstRepeat?_of_not_mem h, ih]
      constructor
      · rintro ⟨before, after, rfl, hu, hid⟩
        exact ⟨head :: before, after, rfl, unseen_cons_iff.mpr ⟨h, hu⟩, (hshift before).mp hid⟩
      · rintro ⟨before, after, he, hu, hid⟩
        cases before with
        | nil =>
          obtain ⟨rfl, _⟩ := List.cons.inj he
          exact absurd (hid.resolve_right List.not_mem_nil) h
        | cons other before =>
          obtain ⟨rfl, rfl⟩ := List.cons.inj he
          exact ⟨before, after, rfl, (unseen_cons_iff.mp hu).2, (hshift before).mpr hid⟩

end Repeats

namespace Diagram

/-- Every node with its id, classes before packages. -/
def nodeEntries (d : Diagram) : List (String × NodeEntry) :=
  d.classes.zipIdx.map (fun (node, i) => (node.id, .cls i)) ++
    d.packages.zipIdx.map (fun (node, i) => (node.id, .package i))

end Diagram

/-- A diagram together with its nodes by id. -/
structure Registry where
  diagram : Diagram
  entries : List (String × NodeEntry)

namespace Registry

/-- A registry exists when no id is used twice. -/
def build (d : Diagram) : Except Rejection Registry :=
  match firstRepeat? [] (d.nodeEntries.map (·.1)) with
  | some id => .error (.reference (.duplicateId id))
  | none => .ok ⟨d, d.nodeEntries⟩

def get? (registry : Registry) (id : String) : Option NodeEntry :=
  registry.entries.lookup id

def class? (registry : Registry) (id : String) : Option ClassNode :=
  match registry.get? id with
  | some (.cls i) => registry.diagram.classes[i]?
  | _ => none

def package? (registry : Registry) (id : String) : Option PackageNode :=
  match registry.get? id with
  | some (.package i) => registry.diagram.packages[i]?
  | _ => none

end Registry

end ClassScaffold
