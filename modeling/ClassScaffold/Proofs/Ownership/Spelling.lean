import ClassScaffold.Ownership.Plan
import ClassScaffold.Proofs.Ownership.Levels

/-! The texts that fragments are spelled with. What holds of names and types, and of places and types
that are built from others of which it holds, holds of all texts in the plans of a class. -/
namespace ClassScaffold

namespace Fragment

mutual

def texts : Fragment → List String
  | .assign target source => [target.spell, source.spell]
  | .allocate pointer type => [pointer.spell, type]
  | .allocateThenIterate pointer type index length body =>
    [pointer.spell, type, index, length] ++ textsOf body
  | .iterate index length body => [index, length] ++ textsOf body
  | .iterateThenDelete pointer index length body =>
    [pointer.spell, index, length] ++ textsOf body
  | .delete pointer _ => [pointer.spell]

def textsOf : List Fragment → List String
  | [] => []
  | f :: rest => f.texts ++ textsOf rest

end

theorem textsOf_append (fs gs : List Fragment) :
    textsOf (fs ++ gs) = textsOf fs ++ textsOf gs := by
  induction fs with
  | nil => rfl
  | cons f rest ih => rw [List.cons_append, textsOf, textsOf, ih, List.append_assoc]

theorem textsOf_flatMap {α : Type} (items : List α) (plan : α → List Fragment) :
    textsOf (items.flatMap plan) = items.flatMap fun item => textsOf (plan item) := by
  induction items with
  | nil => rfl
  | cons item rest ih => rw [List.flatMap_cons, List.flatMap_cons, textsOf_append, ih]

end Fragment

/-- A property that a place, an index or a type has if all that it is built from has it. -/
structure Spells (P : String → Prop) : Prop where
  deref : ∀ {p : Place}, P p.spell → P (Place.deref p).spell
  element : ∀ {p : Place} {index : String}, P p.spell → P index → P (Place.element p index).spell
  index : ∀ {length : String}, P length → P (loopIndex length)
  starred : ∀ {base : String} (depth : Nat), P base → P (starred base depth)

section Steps
variable {P : String → Prop} (hP : Spells P) {target source : Place} {levels : List Level}
include hP

open Fragment

theorem Spells.textsOf_copySteps {base : String} (hb : P base) (ht : P target.spell)
    (hs : P source.spell) (hl : ∀ length ∈ levels.filterMap Level.lengthField?, P length) :
    ∀ s ∈ textsOf (copySteps target source base levels), P s := by
  induction levels generalizing target source with
  | nil => simp [copySteps, textsOf, texts, ht, hs]
  | cons level rest ih =>
    cases level with
    | dimension _ length =>
      obtain ⟨hlength, hl⟩ := List.forall_mem_cons.mp hl
      have hindex := hP.index hlength
      have hrest := ih (hP.element ht hindex) (hP.element hs hindex) hl
      simpa [copySteps, textsOf, texts, hlength, hindex] using hrest
    | arrayPointer _ length =>
      obtain ⟨hlength, hl⟩ := List.forall_mem_cons.mp hl
      have hindex := hP.index hlength
      have hrest := ih (hP.element ht hindex) (hP.element hs hindex) hl
      simpa [copySteps, textsOf, texts, hlength, hindex, ht, hP.starred _ hb] using hrest
    | pointer _ =>
      have hrest := ih (hP.deref ht) (hP.deref hs) hl
      simpa [copySteps, textsOf, texts, ht, hP.starred _ hb] using hrest

theorem Spells.textsOf_releaseSteps (ht : P target.spell)
    (hl : ∀ length ∈ levels.filterMap Level.lengthField?, P length) :
    ∀ s ∈ textsOf (releaseSteps target levels), P s := by
  induction levels generalizing target with
  | nil => exact List.forall_mem_nil _
  | cons level rest ih =>
    cases level with
    | dimension _ length =>
      obtain ⟨hlength, hl⟩ := List.forall_mem_cons.mp hl
      have hindex := hP.index hlength
      have hrest := ih (hP.element ht hindex) hl
      simp only [releaseSteps]
      split
      · -- there is no loop where nothing is released
        exact List.forall_mem_nil _
      · simpa [textsOf, texts, hlength, hindex] using hrest
    | arrayPointer _ length =>
      obtain ⟨hlength, hl⟩ := List.forall_mem_cons.mp hl
      have hindex := hP.index hlength
      have hrest := ih (hP.element ht hindex) hl
      cases rest with
      | nil => simpa [releaseSteps, textsOf, texts] using ht
      | cons next rest =>
        simpa [releaseSteps, textsOf, texts, hlength, hindex, ht] using hrest
    | pointer _ =>
      have hrest := ih (hP.deref ht) hl
      rw [releaseSteps, textsOf_append]
      exact List.forall_mem_append.mpr ⟨hrest, by simpa [textsOf, texts] using ht⟩

end Steps

/-- All that a field is copied and released with has the property. -/
structure Field.Spelled (P : String → Prop) (f : Field) : Prop where
  place : P f.place.spell
  otherPlace : P f.otherPlace.spell
  type : P f.type.name
  lengths : ∀ length ∈ f.type.lengthFields, P length

theorem ModelClass.mem_fields_of_mem_select {c : ModelClass} {positions : List Nat} {f : Field}
    (h : f ∈ c.select positions) : f ∈ c.fields := by
  obtain ⟨i, _, hi⟩ := List.mem_filterMap.mp h
  exact List.mem_of_getElem? hi

theorem ModelClass.forall_copyInitializers {P : String → Prop} {c : ModelClass}
    (h : ∀ f ∈ c.fields, P f.name) : ∀ name ∈ c.copyInitializers, P name :=
  List.forall_mem_map.mpr fun f hf => h f (List.mem_filter.mp (List.mem_filter.mp hf).1).1

section Plans
variable {P : String → Prop} (hP : Spells P) {c : ModelClass} (hf : ∀ f ∈ c.fields, f.Spelled P)
include hP hf

theorem Spells.textsOf_copyBody : ∀ s ∈ Fragment.textsOf c.copyBody, P s := by
  intro s hs
  rw [ModelClass.copyBody, Fragment.textsOf_flatMap] at hs
  obtain ⟨f, hfiltered, hs⟩ := List.mem_flatMap.mp hs
  have h := hf f (List.mem_filter.mp (List.mem_filter.mp hfiltered).1).1
  refine hP.textsOf_copySteps h.type h.place h.otherPlace ?_ s hs
  rw [DataType.filterMap_lengthField?_levels]
  exact h.lengths

theorem Spells.textsOf_releaseBody : ∀ s ∈ Fragment.textsOf c.releaseBody, P s := by
  intro s hs
  rw [ModelClass.releaseBody, ← List.flatMap_assoc, Fragment.textsOf_flatMap] at hs
  obtain ⟨f, hreleased, hs⟩ := List.mem_flatMap.mp hs
  obtain ⟨d, _, hselected⟩ := List.mem_flatMap.mp hreleased
  have h := hf f (ModelClass.mem_fields_of_mem_select hselected)
  refine hP.textsOf_releaseSteps h.place ?_ s hs
  rw [DataType.filterMap_lengthField?_levels]
  exact h.lengths

end Plans

end ClassScaffold
