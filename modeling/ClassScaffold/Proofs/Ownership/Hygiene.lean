import Mathlib
import ClassScaffold.Ownership.Plan
import ClassScaffold.Proofs.Ownership.Lifetime
import ClassScaffold.Proofs.Resolution.Lookup
import ClassScaffold.Resolution

/-! The names in the loops of copies and releases. A loop over an array takes the name of its
variable from the length field, so a length field can be named like the variable of another loop. -/
namespace ClassScaffold

theorem ne_loopIndex (length : String) : length ≠ loopIndex length := by
  intro h
  have hl := congrArg String.length h
  simp [loopIndex] at hl

theorem loopIndex_inj {f g : String} : loopIndex f = loopIndex g ↔ f = g := by
  refine ⟨fun h => ?_, congrArg loopIndex⟩
  have hl := congrArg String.toList h
  exact String.toList_inj.mp (by simpa [loopIndex] using hl)

namespace Place

def subscripts : Place → List String
  | .named _ => []
  | .deref p => p.subscripts
  | .element p index => index :: p.subscripts

/-- Each subscript means the loop that was written for it: seen from inside, the first loop of its
name is the one at its position. -/
def Denotes (scope : List String) (p : Place) : Prop :=
  p.subscripts.map (scope.idxOf ·) = List.range scope.length

end Place

/-- The variable of a loop is not that of a loop around it and not the field, and no loop variable
is read in place of the length that the loop runs to. -/
structure FreshIndex (field : String) (scope : List String) (index length : String) : Prop where
  unused : index ∉ scope
  notField : index ≠ field
  visible : length ∉ index :: scope

namespace Fragment

mutual

/-- No loop variable captures a name that is written for something else, where `scope` holds the
variables of the loops around, the innermost first. -/
def CaptureFree (field : String) (scope : List String) : Fragment → Prop
  | .assign target source => target.Denotes scope ∧ source.Denotes scope
  | .allocate pointer _ | .delete pointer _ => pointer.Denotes scope
  | .iterate index length body =>
    FreshIndex field scope index length ∧ AllCaptureFree field (index :: scope) body
  | .allocateThenIterate pointer _ index length body | .iterateThenDelete pointer index length body =>
    pointer.Denotes scope ∧ FreshIndex field scope index length ∧
      AllCaptureFree field (index :: scope) body

def AllCaptureFree (field : String) (scope : List String) : List Fragment → Prop
  | [] => True
  | f :: rest => f.CaptureFree field scope ∧ AllCaptureFree field scope rest

end

theorem allCaptureFree_append {field : String} {scope : List String} {fs gs : List Fragment} :
    AllCaptureFree field scope (fs ++ gs) ↔
      AllCaptureFree field scope fs ∧ AllCaptureFree field scope gs := by
  induction fs with
  | nil => simp [AllCaptureFree]
  | cons f rest ih => simp only [List.cons_append, AllCaptureFree, ih, and_assoc]

end Fragment

open Fragment

/-- Loops over arrays of these lengths can still be entered, the first of them outermost: none of
their variables is taken, and none of the lengths is hidden by a variable. -/
structure Enterable (field : String) (scope lengths : List String) : Prop where
  visible : ∀ f ∈ lengths, f ∉ scope
  free : ∀ f ∈ lengths, loopIndex f ∉ scope
  field : ∀ f ∈ lengths, loopIndex f ≠ field
  apart : lengths.Pairwise fun outer inner => inner ≠ outer ∧ inner ≠ loopIndex outer

namespace Enterable
variable {field length : String} {scope rest : List String}

theorem nil : Enterable field scope [] :=
  ⟨nofun, nofun, nofun, .nil⟩

theorem cons_iff : Enterable field scope (length :: rest) ↔
    FreshIndex field scope (loopIndex length) length ∧
      Enterable field (loopIndex length :: scope) rest := by
  constructor
  · intro h
    obtain ⟨hr, ha⟩ := List.pairwise_cons.mp h.apart
    refine ⟨⟨h.free _ List.mem_cons_self, h.field _ List.mem_cons_self, ?_⟩, ?_, ?_, ?_, ha⟩
    · exact List.not_mem_cons_of_ne_of_not_mem (ne_loopIndex length) (h.visible _ List.mem_cons_self)
    · intro f hm
      exact List.not_mem_cons_of_ne_of_not_mem (hr f hm).2 (h.visible f (List.mem_cons_of_mem _ hm))
    · intro f hm
      exact List.not_mem_cons_of_ne_of_not_mem (fun he => (hr f hm).1 (loopIndex_inj.mp he))
        (h.free f (List.mem_cons_of_mem _ hm))
    · exact fun f hm => h.field f (List.mem_cons_of_mem _ hm)
  · rintro ⟨hf, h⟩
    have hvisible (f : String) (hm : f ∈ rest) := List.ne_and_not_mem_of_not_mem_cons (h.visible f hm)
    have hfree (f : String) (hm : f ∈ rest) := List.ne_and_not_mem_of_not_mem_cons (h.free f hm)
    refine ⟨List.forall_mem_cons.mpr ⟨List.not_mem_of_not_mem_cons hf.visible, ?_⟩,
      List.forall_mem_cons.mpr ⟨hf.unused, ?_⟩, List.forall_mem_cons.mpr ⟨hf.notField, h.field⟩,
      List.pairwise_cons.mpr ⟨fun f hm => ⟨?_, (hvisible f hm).1⟩, h.apart⟩⟩
    · exact fun f hm => (hvisible f hm).2
    · exact fun f hm => (hfree f hm).2
    · exact fun he => (hfree f hm).1 (congrArg loopIndex he)

end Enterable

section Levels
variable {field base : String} {scope : List String} {target source : Place}

/-- A place that is entered loop by loop means these loops, if their variables differ. -/
private theorem denotes_of_nodup (ht : target.subscripts = scope) (hn : scope.Nodup) :
    target.Denotes scope := by
  rw [Place.Denotes, ht]
  refine List.ext_getElem (by simp) fun i hi _ => ?_
  rw [List.length_map] at hi
  simp [hn.idxOf_getElem i hi]

/-- A copy captures nothing exactly if its loops can be entered. -/
private theorem captureFree_copySteps {levels : List Level} (hn : scope.Nodup)
    (ht : target.subscripts = scope) (hs : source.subscripts = scope) :
    AllCaptureFree field scope (copySteps target source base levels) ↔
      Enterable field scope (lengthFieldsOf levels) := by
  have hdenotes := denotes_of_nodup ht hn
  induction levels generalizing scope target source with
  | nil =>
    exact ⟨fun _ => .nil, fun _ => ⟨⟨hdenotes, denotes_of_nodup hs hn⟩, trivial⟩⟩
  | cons level rest ih =>
    -- a fresh variable keeps the scope free of repetitions, which the places inside rely on
    have hbody (length : String) (hf : FreshIndex field scope (loopIndex length) length) :
        AllCaptureFree field (loopIndex length :: scope)
            (copySteps (.element target (loopIndex length)) (.element source (loopIndex length))
              base rest) ↔
          Enterable field (loopIndex length :: scope) (lengthFieldsOf rest) := by
      have hn' := List.nodup_cons.mpr ⟨hf.unused, hn⟩
      have ht' : (target.element (loopIndex length)).subscripts = loopIndex length :: scope :=
        congrArg _ ht
      exact ih hn' ht' (congrArg _ hs) (denotes_of_nodup ht' hn')
    cases level with
    | dimension capacity length =>
      change (FreshIndex field scope (loopIndex length) length ∧ _) ∧ True ↔
        Enterable field scope (length :: lengthFieldsOf rest)
      rw [and_true, Enterable.cons_iff]
      exact and_congr_right (hbody length)
    | pointer isConst =>
      change target.Denotes scope ∧ _ ↔ Enterable field scope (lengthFieldsOf rest)
      rw [and_iff_right hdenotes]
      exact ih hn ht hs hdenotes
    | arrayPointer isConst length =>
      change (target.Denotes scope ∧ FreshIndex field scope (loopIndex length) length ∧ _) ∧ True ↔
        Enterable field scope (length :: lengthFieldsOf rest)
      rw [and_true, and_iff_right hdenotes, Enterable.cons_iff]
      exact and_congr_right (hbody length)

/-- A release has no other loops than the copy. -/
private theorem captureFree_releaseSteps {levels : List Level} (hn : scope.Nodup)
    (ht : target.subscripts = scope) (h : Enterable field scope (lengthFieldsOf levels)) :
    AllCaptureFree field scope (releaseSteps target levels) := by
  have hdenotes := denotes_of_nodup ht hn
  induction levels generalizing scope target with
  | nil => trivial
  | cons level rest ih =>
    have hbody (length : String)
        (h : Enterable field scope (length :: lengthFieldsOf rest)) :
        FreshIndex field scope (loopIndex length) length ∧
          AllCaptureFree field (loopIndex length :: scope)
            (releaseSteps (.element target (loopIndex length)) rest) := by
      obtain ⟨hf, hr⟩ := Enterable.cons_iff.mp h
      have hn' := List.nodup_cons.mpr ⟨hf.unused, hn⟩
      have ht' : (target.element (loopIndex length)).subscripts = loopIndex length :: scope :=
        congrArg _ ht
      exact ⟨hf, ih hn' ht' hr (denotes_of_nodup ht' hn')⟩
    cases level with
    | dimension capacity length =>
      simp only [releaseSteps]
      split
      · trivial
      · exact ⟨hbody length h, trivial⟩
    | pointer isConst =>
      rw [releaseSteps, allCaptureFree_append]
      exact ⟨ih hn ht h hdenotes, hdenotes, trivial⟩
    | arrayPointer isConst length =>
      cases rest with
      | nil => exact ⟨hdenotes, trivial⟩
      | cons inner rest => exact ⟨⟨hdenotes, hbody length h⟩, trivial⟩

end Levels

namespace Field

private theorem captureFree_deepCopy (f : Field) :
    AllCaptureFree f.name [] f.deepCopy ↔ Enterable f.name [] f.type.lengthFields := by
  rw [← DataType.filterMap_lengthField?_levels]
  exact captureFree_copySteps .nil rfl rfl

private theorem captureFree_release {f : Field} (h : Enterable f.name [] f.type.lengthFields) :
    AllCaptureFree f.name [] f.release := by
  rw [← DataType.filterMap_lengthField?_levels] at h
  exact captureFree_releaseSteps .nil rfl h

/-- The loops that copy and release a field capture no name exactly if none of their variables has the
name of the field, and no length inside an array is that of the array again, or named like the
variable of the loop over it. -/
theorem captureFree_iff (f : Field) :
    (AllCaptureFree f.name [] f.deepCopy ∧ AllCaptureFree f.name [] f.release) ↔
      (∀ length ∈ f.type.lengthFields, loopIndex length ≠ f.name) ∧
        f.type.lengthFields.Pairwise fun outer inner =>
          inner ≠ outer ∧ inner ≠ loopIndex outer := by
  constructor
  · rintro ⟨hc, _⟩
    have he := f.captureFree_deepCopy.mp hc
    exact ⟨he.field, he.apart⟩
  · rintro ⟨hf, ha⟩
    have he : Enterable f.name [] f.type.lengthFields :=
      ⟨fun _ _ => List.not_mem_nil, fun _ _ => List.not_mem_nil, hf, ha⟩
    exact ⟨f.captureFree_deepCopy.mpr he, captureFree_release he⟩

end Field

/-- Rows of a length that is named like the variable of the loop over the rows. -/
def DataType.hiddenLengthGrid : DataType where
  name := "int"
  pointers := [⟨false, true, "n"⟩, ⟨false, true, "nIdx"⟩]

namespace Diagram

def hiddenLength : Diagram where
  target := .cpp
  classes := [{ id := "c", body :=
    { name := "Grid",
      properties := [{ id := "p", name := "cells", type := .hiddenLengthGrid }],
      destructor := some { fields := ["p"] },
      copyAssignment := true } }]

def hiddenLengthClass : ModelClass :=
  hiddenLength.classes[0].toModel hiddenLength.registry ⟨[], [], []⟩

private theorem accept_hiddenLength :
    hiddenLength.accept =
      .ok { target := .cpp, classes := [hiddenLengthClass], packages := [] } := by
  cbv

/-- Inside the loop over the rows the name of their length means the variable of that loop. -/
theorem hiddenLength_captures :
    ¬ ∀ (d : Diagram) (m : Model), d.target = .cpp → d.accept = .ok m → ∀ c ∈ m.classes,
      ∀ f ∈ c.fields, AllCaptureFree f.name [] f.deepCopy ∧ AllCaptureFree f.name [] f.release := by
  intro h
  have hcells : ∃ f ∈ hiddenLengthClass.fields, f.type.lengthFields = ["n", "nIdx"] := by
    decide +kernel
  obtain ⟨f, hf, hl⟩ := hcells
  have hfree := h hiddenLength _ rfl accept_hiddenLength _ List.mem_cons_self f hf
  have ha := (f.captureFree_deepCopy.mp hfree.1).apart
  rw [hl] at ha
  exact absurd ha (by decide)

end Diagram

namespace DataType

def hiddenLengths (length : String) : Nat :=
  if length = "n" then 2 else 1

/-- What comes of it: the first row is copied into no cell at all, since the loop counts rows from
zero. -/
theorem deepCopy_hiddenLengthGrid :
    let tree : ValueTree Nat := .items [.items [.plain 5], .items [.plain 6]]
    gridMemory.Holds hiddenLengths hiddenLengthGrid.levels (.field "other.cells") tree ∧
      ∃ copied, execAll ⟨hiddenLengths, []⟩ gridMemory
          (hiddenLengthGrid.deepCopy (.named "cells") (.named "other.cells")) = some copied ∧
        ¬ copied.Holds hiddenLengths hiddenLengthGrid.levels (.field "cells") tree := by
  refine ⟨⟨0, rfl, rfl, fun i hi => ?_⟩, _, rfl, ?_⟩
  · match i with
    | 0 => exact ⟨1, rfl, rfl, fun j hj => by cases Nat.lt_one_iff.mp hj; rfl⟩
    | 1 => exact ⟨2, rfl, rfl, fun j hj => by cases Nat.lt_one_iff.mp hj; rfl⟩
  · rintro ⟨rows, hrows, -, hitems⟩
    obtain ⟨row, hrow, -, hcells⟩ := hitems 0 (by decide)
    have hcell := hcells 0 (by decide)
    cases hrows
    cases hrow
    cases hcell

end DataType

end ClassScaffold
