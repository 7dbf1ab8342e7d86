import ClassScaffold.Proofs.Ownership.Assignment
import ClassScaffold.Proofs.Resolution.LengthFields

/-! The copy of a whole object. It takes over every field of the object once, and the lengths that its
loops and allocations read are fields that it takes over before them. -/
namespace ClassScaffold

namespace Place

/-- The value that is reached through all levels of a type. -/
def inside (p : Place) : List Level → Place
  | [] => p
  | .dimension _ length :: rest | .arrayPointer _ length :: rest =>
    (p.element (loopIndex length)).inside rest
  | .pointer _ :: rest => p.deref.inside rest

end Place

namespace Fragment

mutual

def assignments : Fragment → List (Place × Place)
  | .assign target source => [(target, source)]
  | .allocateThenIterate _ _ _ _ body | .iterate _ _ body | .iterateThenDelete _ _ _ body =>
    assignmentsOf body
  | .allocate .. | .delete .. => []

def assignmentsOf : List Fragment → List (Place × Place)
  | [] => []
  | f :: rest => f.assignments ++ assignmentsOf rest

end

mutual

/-- The names that bound a loop or the size of an array. -/
def lengths : Fragment → List String
  | .allocateThenIterate _ _ _ length body | .iterate _ length body
  | .iterateThenDelete _ _ length body => length :: lengthsOf body
  | .assign .. | .allocate .. | .delete .. => []

def lengthsOf : List Fragment → List String
  | [] => []
  | f :: rest => f.lengths ++ lengthsOf rest

end

theorem assignmentsOf_eq_flatMap (fs : List Fragment) : assignmentsOf fs = fs.flatMap assignments := by
  induction fs with
  | nil => rfl
  | cons f rest ih => rw [assignmentsOf, ih, List.flatMap_cons]

theorem lengthsOf_eq_flatMap (fs : List Fragment) : lengthsOf fs = fs.flatMap lengths := by
  induction fs with
  | nil => rfl
  | cons f rest ih => rw [lengthsOf, ih, List.flatMap_cons]

theorem assignmentsOf_flatMap {α : Type} (xs : List α) (g : α → List Fragment) :
    assignmentsOf (xs.flatMap g) = xs.flatMap fun x => assignmentsOf (g x) := by
  simp only [assignmentsOf_eq_flatMap, List.flatMap_assoc]

theorem lengthsOf_append (fs gs : List Fragment) :
    lengthsOf (fs ++ gs) = lengthsOf fs ++ lengthsOf gs := by
  simp only [lengthsOf_eq_flatMap, List.flatMap_append]

theorem mem_lengthsOf_flatMap {α : Type} {xs : List α} {g : α → List Fragment} {length : String} :
    length ∈ lengthsOf (xs.flatMap g) ↔ ∃ x ∈ xs, length ∈ lengthsOf (g x) := by
  simp only [lengthsOf_eq_flatMap, List.flatMap_assoc, List.mem_flatMap]

end Fragment

open Fragment

section Levels
variable {target source : Place} {base : String} {levels : List Level}

private theorem assignmentsOf_copySteps :
    assignmentsOf (copySteps target source base levels) =
      [(target.inside levels, source.inside levels)] := by
  induction levels generalizing target source with
  | nil => rfl
  | cons level rest ih =>
    cases level with
    | dimension capacity length =>
      simp only [copySteps, assignmentsOf, assignments, List.append_nil]
      exact ih
    | pointer isConst =>
      simp only [copySteps, assignmentsOf, assignments, List.nil_append]
      exact ih
    | arrayPointer isConst length =>
      simp only [copySteps, assignmentsOf, assignments, List.append_nil]
      exact ih

private theorem lengthsOf_copySteps :
    lengthsOf (copySteps target source base levels) = levels.filterMap Level.lengthField? := by
  induction levels generalizing target source with
  | nil => rfl
  | cons level rest ih =>
    cases level with
    | dimension capacity length =>
      simp only [copySteps, lengthsOf, lengths, List.append_nil]
      exact congrArg (length :: ·) ih
    | pointer isConst =>
      simp only [copySteps, lengthsOf, lengths, List.nil_append]
      exact ih
    | arrayPointer isConst length =>
      simp only [copySteps, lengthsOf, lengths, List.append_nil]
      exact congrArg (length :: ·) ih

private theorem lengthsOf_releaseSteps_subset :
    lengthsOf (releaseSteps target levels) ⊆ levels.filterMap Level.lengthField? := by
  induction levels generalizing target with
  | nil => exact List.nil_subset _
  | cons level rest ih =>
    cases level with
    | dimension capacity length =>
      simp only [releaseSteps]
      split
      · exact List.nil_subset _
      · simp only [lengthsOf, lengths, List.append_nil]
        exact List.cons_subset_cons length ih
    | pointer isConst =>
      rw [releaseSteps, lengthsOf_append]
      exact List.append_subset.mpr ⟨ih, List.nil_subset _⟩
    | arrayPointer isConst length =>
      cases rest with
      | nil => exact List.nil_subset _
      | cons inner rest =>
        simp only [releaseSteps, lengthsOf, lengths, List.append_nil]
        exact List.cons_subset_cons length ih

end Levels

namespace Field

theorem assignmentsOf_deepCopy (f : Field) :
    assignmentsOf f.deepCopy =
      [(f.place.inside f.type.levels, f.otherPlace.inside f.type.levels)] :=
  assignmentsOf_copySteps

theorem lengthsOf_deepCopy (f : Field) : lengthsOf f.deepCopy = f.type.lengthFields :=
  lengthsOf_copySteps.trans f.type.filterMap_lengthField?_levels

theorem lengthsOf_release_subset (f : Field) : lengthsOf f.release ⊆ f.type.lengthFields := by
  rw [← DataType.filterMap_lengthField?_levels]
  exact lengthsOf_releaseSteps_subset

end Field

namespace ModelClass
variable {c : ModelClass}

theorem copyInitializers_eq (c : ModelClass) :
    c.copyInitializers = (c.fields.filter fun f => !f.isStatic && f.type.isPlain).map (·.name) := by
  rw [copyInitializers, instanceFields, List.filter_filter]
  simp only [Bool.and_comm]

theorem copyBody_eq (c : ModelClass) :
    c.copyBody = (c.fields.filter fun f => !f.isStatic && !f.type.isPlain).flatMap Field.deepCopy := by
  rw [copyBody, instanceFields, List.filter_filter]
  simp only [Bool.and_comm]

theorem assignmentsOf_copyBody (c : ModelClass) :
    assignmentsOf c.copyBody = (c.fields.filter fun f => !f.isStatic && !f.type.isPlain).map
      fun f => (f.place.inside f.type.levels, f.otherPlace.inside f.type.levels) := by
  rw [copyBody_eq, assignmentsOf_flatMap]
  simp only [Field.assignmentsOf_deepCopy]
  exact List.map_eq_flatMap.symm

end ModelClass

namespace Diagram

/-- A copy takes over the plain fields of an object by their names and every other one by the single
assignment of its deep copy, both in the order of the fields, and nothing of the class itself. The
lengths that it reads are among the names. A release reads the lengths of fields, too. -/
theorem copyBody_reads_initializers {d : Diagram} {m : Model} (h : d.resolve = .ok m) {c : ModelClass}
    (hc : c ∈ m.classes) :
    c.copyInitializers = (c.fields.filter fun f => !f.isStatic && f.type.isPlain).map (·.name) ∧
      c.copyBody =
        (c.fields.filter fun f => !f.isStatic && !f.type.isPlain).flatMap Field.deepCopy ∧
      assignmentsOf c.copyBody = (c.fields.filter fun f => !f.isStatic && !f.type.isPlain).map
        (fun f => (f.place.inside f.type.levels, f.otherPlace.inside f.type.levels)) ∧
      (∀ length ∈ lengthsOf c.copyBody, length ∈ c.copyInitializers) ∧
      ∀ length ∈ lengthsOf c.releaseBody, ∃ f ∈ c.fields, f.name = length := by
  obtain ⟨hn, _, placement, _, rfl⟩ := resolve_eq_ok_iff.mp h
  obtain ⟨node, _, rfl⟩ := List.mem_map.mp hc
  have hl := laidOut_fields hn node
  refine ⟨ModelClass.copyInitializers_eq _, ModelClass.copyBody_eq _,
    ModelClass.assignmentsOf_copyBody _, fun length hlength => ?_, fun length hlength => ?_⟩
  · rw [ModelClass.copyBody_eq, mem_lengthsOf_flatMap] at hlength
    obtain ⟨f, hf, hlength⟩ := hlength
    rw [f.lengthsOf_deepCopy] at hlength
    obtain ⟨hf, hshaped⟩ := List.mem_filter.mp hf
    obtain ⟨g, hg, hh⟩ := hl.exists_holdsLength hf hlength
    -- the length belongs to the object because its owner does
    have hs : f.isStatic = false := by
      cases h : f.isStatic with
      | false => rfl
      | true => simp [h] at hshaped
    rw [ModelClass.copyInitializers_eq, List.mem_map]
    exact ⟨g, List.mem_filter.mpr ⟨hg, by simp [hh.isStatic, hs, hh.isPlain]⟩, hh.name⟩
  · rw [ModelClass.releaseBody_eq, mem_lengthsOf_flatMap] at hlength
    obtain ⟨f, hf, hlength⟩ := hlength
    have hfield := ModelClass.mem_fields_of_released hf
    obtain ⟨g, hg, hh⟩ := hl.exists_holdsLength hfield (f.lengthsOf_release_subset hlength)
    exact ⟨g, hg, hh.name⟩

/-- A class of rows that are owned by its objects, and of others that they share. -/
def sharedRows : Diagram where
  target := .cpp
  classes := [{ id := "c", body :=
    { name := "Matrix",
      properties := [
        { id := "r", name := "rows", type :=
          { name := "int", pointers := [⟨false, true, "height"⟩, ⟨false, false, ""⟩,
              ⟨true, true, "width"⟩],
            dimensions := [⟨4, "used"⟩] } },
        { id := "s", name := "shared", isStatic := true,
          type := { name := "int", pointers := [⟨false, true, "count"⟩, ⟨false, false, ""⟩] } }],
      destructor := some { fields := ["s", "r"] } } }]

def sharedRowsClass : ModelClass :=
  sharedRows.classes[0].toModel sharedRows.registry ⟨[], [], []⟩

theorem copyBody_reads_initializers_sharedRows :
    sharedRows.resolve = .ok { target := .cpp, classes := [sharedRowsClass], packages := [] } ∧
      sharedRowsClass.copyInitializers = ["used", "height", "width"] ∧
      lengthsOf sharedRowsClass.copyBody = ["used", "height", "width"] ∧
      (∀ length ∈ lengthsOf sharedRowsClass.copyBody, length ∈ sharedRowsClass.copyInitializers) ∧
      lengthsOf sharedRowsClass.releaseBody = ["count", "used", "height"] ∧
      ∀ length ∈ lengthsOf sharedRowsClass.releaseBody,
        ∃ f ∈ sharedRowsClass.fields, f.name = length := by
  have hr : sharedRows.resolve =
      .ok { target := .cpp, classes := [sharedRowsClass], packages := [] } := by
    cbv
  obtain ⟨-, -, -, hcopied, hreleased⟩ := copyBody_reads_initializers hr List.mem_cons_self
  exact ⟨hr, by cbv, by cbv, hcopied, by cbv, hreleased⟩

end Diagram

end ClassScaffold
