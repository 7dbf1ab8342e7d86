import ClassScaffold.Proofs.Ownership.Assignment
import ClassScaffold.Proofs.Resolution.FieldPositions

/-! Fields that are listed more than once. Nothing is made of a repetition: a constructor takes the field
as often as it is listed, and a destructor and an assignment release its pointers as often. -/
namespace ClassScaffold

open Fragment

theorem sum_map_eq_count {α : Type} [DecidableEq α] {items : List α} {a : α} {weight : α → Nat}
    (h : ∀ item ∈ items, weight item = if item = a then 1 else 0) :
    (items.map weight).sum = items.count a := by
  induction items with
  | nil => rfl
  | cons item rest ih =>
    obtain ⟨hi, hr⟩ := List.forall_mem_cons.mp h
    rw [List.map_cons, List.sum_cons, hi, ih hr, List.count_cons, Nat.add_comm]
    simp

namespace Place

/-- The number of steps from the variable to the place. -/
def depth : Place → Nat
  | .named _ => 0
  | .deref p | .element p _ => p.depth + 1

end Place

namespace Fragment

theorem releasesOf_flatMap {α : Type} (xs : List α) (g : α → List Fragment) :
    releasesOf (xs.flatMap g) = xs.flatMap fun x => releasesOf (g x) := by
  induction xs with
  | nil => rfl
  | cons x rest ih => rw [List.flatMap_cons, releasesOf_append, ih, List.flatMap_cons]

end Fragment

private theorem deepens_copySteps (target source : Place) (base : String) (levels : List Level) :
    (allocationsOf (copySteps target source base levels)).Pairwise (fun p q => p.depth < q.depth) ∧
      ∀ p ∈ allocationsOf (copySteps target source base levels), target.depth ≤ p.depth := by
  induction levels generalizing target source with
  | nil => exact ⟨.nil, nofun⟩
  | cons level rest ih =>
    cases level with
    | dimension capacity length =>
      obtain ⟨hp, hd⟩ := ih (.element target (loopIndex length)) (.element source (loopIndex length))
      simp only [copySteps, allocationsOf, allocations, List.append_nil]
      refine ⟨hp, fun p hm => ?_⟩
      exact Nat.le_of_succ_le (hd p hm)
    | pointer isConst =>
      obtain ⟨hp, hd⟩ := ih (.deref target) (.deref source)
      simp only [copySteps, allocationsOf, allocations, List.cons_append, List.nil_append]
      refine ⟨.cons hd hp, List.forall_mem_cons.mpr ⟨le_rfl, fun p hm => ?_⟩⟩
      exact Nat.le_of_succ_le (hd p hm)
    | arrayPointer isConst length =>
      obtain ⟨hp, hd⟩ := ih (.element target (loopIndex length)) (.element source (loopIndex length))
      simp only [copySteps, allocationsOf, allocations, List.append_nil]
      refine ⟨.cons hd hp, List.forall_mem_cons.mpr ⟨le_rfl, fun p hm => ?_⟩⟩
      exact Nat.le_of_succ_le (hd p hm)

namespace Field
variable {f g : Field} {p : Place}

/-- No pointer of a field is released twice when the field is released once. -/
theorem nodup_releasesOf (f : Field) : (releasesOf f.release).Nodup := by
  rw [releasesOf_release, List.nodup_reverse]
  obtain ⟨hdeepens, _⟩ := deepens_copySteps f.place f.otherPlace f.type.name f.type.levels
  apply hdeepens.imp
  rintro p _ hlt rfl
  exact Nat.lt_irrefl _ hlt

theorem root_of_mem_releasesOf (h : p ∈ releasesOf f.release) : p.root = f.name :=
  root_of_mem_allocationsOf (mem_releasesOf.mp h)

end Field

namespace ModelClass
variable {c : ModelClass} {f g : Field} {p : Place}

/-- A pointer is released as often as its field. -/
theorem count_releasesOf_releaseBody (hn : (c.fields.map (·.name)).Nodup)
    (hf : f ∈ c.releasedFields) (hp : p ∈ releasesOf f.release) :
    (releasesOf c.releaseBody).count p = c.releasedFields.count f := by
  rw [releaseBody_eq, releasesOf_flatMap, List.count_flatMap]
  apply sum_map_eq_count
  intro g hg
  rw [Function.comp_apply]
  by_cases hgf : g = f
  · rw [if_pos hgf, hgf, List.count_eq_one_of_mem f.nodup_releasesOf hp]
  · rw [if_neg hgf, List.count_eq_zero]
    intro hpg
    apply hgf
    -- a pointer tells the name of its field, and no two fields of the class have one name
    apply List.inj_on_of_nodup_map hn (mem_fields_of_released hg) (mem_fields_of_released hf)
    rw [← Field.root_of_mem_releasesOf hpg, Field.root_of_mem_releasesOf hp]

/-- Positions repeat no more than the names of the fields at them. -/
theorem nodup_select_names (hn : (c.fields.map (·.name)).Nodup) {positions : List Nat}
    (hinside : ∀ i ∈ positions, i < c.fields.length) :
    ((c.select positions).map (·.name)).Nodup ↔ positions.Nodup := by
  have hnamed : Relator.BiUnique fun (i : Nat) name => (c.fields.map (·.name))[i]? = some name := by
    constructor
    · intro i j name hi hj
      have hlt := (List.getElem?_eq_some_iff.mp hi).1
      exact (List.getElem?_inj hlt hn).mp (hi.trans hj.symm)
    · intro i name other hi ho
      exact Option.some.inj (hi.symm.trans ho)
  refine (List.rel_nodup hnamed ?_).symm
  apply List.forall₂_map_right_iff.mpr
  apply (forall₂_select hinside).imp
  intro i f hf
  rw [List.getElem?_map, hf, Option.map_some]

end ModelClass

namespace Constructor
variable {fields : List Field} {c : Constructor}

/-- The lengths that are added repeat nothing. -/
theorem nodup_positions_iff (h : ∀ id ∈ c.fields, ∃ f ∈ fields, f.id = id) :
    (c.positions fields).Nodup ↔ c.fields.Nodup := by
  obtain ⟨listed, added, hpositions, hlisted, hlengths⟩ := exists_positions h
  obtain ⟨hadded, hapart⟩ := hlengths.nodup
  rw [hpositions, List.nodup_append, ← nodup_iff_of_firstAt hlisted]
  constructor
  · exact fun hn => hn.1
  · intro hn
    refine ⟨hn, hadded, ?_⟩
    rintro i hi _ hi' rfl
    exact hapart i hi' hi

theorem nodup_parameters_iff {target : Target} {cls : ModelClass}
    (hn : (cls.fields.map (·.name)).Nodup) (h : ∀ id ∈ c.fields, ∃ f ∈ cls.fields, f.id = id)
    (hcopy : c.isCopy = false) :
    ((ConstructorText.declared target cls (c.toModel cls.name cls.fields)).parameters.map
      (·.name)).Nodup ↔ c.fields.Nodup := by
  have hnot : (c.toModel cls.name cls.fields).isCopy = false := hcopy
  have hnames : (ConstructorText.declared target cls (c.toModel cls.name cls.fields)).parameters.map
      (·.name) = (cls.select (c.positions cls.fields)).map (·.name) := by
    simp only [ConstructorText.declared, hnot, Bool.false_eq_true, if_false, List.map_map]
    rfl
  rw [hnames, ModelClass.nodup_select_names hn (lt_of_mem_positions h), nodup_positions_iff h]

end Constructor

namespace ClassNode

def releasedIds (node : ClassNode) : List String :=
  node.body.destructor.toList.flatMap (·.fields)

/-- A resolved class repeats what is listed for it more than once, and nothing else. Parameters and
releases are told apart where the fields have different names. -/
structure RepeatsListed (target : Target) (node : ClassNode) (c : ModelClass) : Prop where
  constructors : List.Forall₂ (fun (l : Constructor) k => k.fields.Nodup ↔ l.fields.Nodup)
    node.body.constructors c.constructors
  destructor : Option.Rel (fun (l : Destructor) k => k.fields.Nodup ↔ l.fields.Nodup)
    node.body.destructor c.destructor
  parameters : (c.fields.map (·.name)).Nodup → List.Forall₂ (fun (l : Constructor) k =>
      k.isCopy = false → (((ConstructorText.declared target c k).parameters.map (·.name)).Nodup ↔
        l.fields.Nodup)) node.body.constructors c.constructors
  releases : (c.fields.map (·.name)).Nodup → ∀ f ∈ c.releasedFields,
    ∀ p ∈ releasesOf f.release, (releasesOf c.releaseBody).count p = node.releasedIds.count f.id
  releasedOnce : (c.fields.map (·.name)).Nodup → node.releasedIds.Nodup →
    (releasesOf c.releaseBody).Nodup

variable {target : Target} {registry : Registry} {placement : Placement}
  {node : ClassNode}

theorem count_releasedFields (h : node.NamesFields registry.diagram) {f : Field}
    (hf : f ∈ (node.toModel registry placement).releasedFields) :
    (node.toModel registry placement).releasedFields.count f = node.releasedIds.count f.id := by
  unfold ModelClass.releasedFields toModel releasedIds at *
  cases hd : node.body.destructor with
  | none =>
    rw [hd] at hf
    cases hf
  | some l =>
    have hfields := firstAt_fieldPositions (h.released l hd)
    simp only [hd, Option.map_some, Option.toList_some, List.flatMap_singleton] at hf ⊢
    exact count_of_firstAt hfields hf

/-- The pointers of a field are released as often as its id is listed. -/
theorem count_releases (h : node.NamesFields registry.diagram)
    (hn : ((node.toModel registry placement).fields.map (·.name)).Nodup) {f : Field} {p : Place}
    (hf : f ∈ (node.toModel registry placement).releasedFields) (hp : p ∈ releasesOf f.release) :
    (releasesOf (node.toModel registry placement).releaseBody).count p =
      node.releasedIds.count f.id := by
  rw [ModelClass.count_releasesOf_releaseBody hn hf hp, count_releasedFields h hf]

theorem repeatsListed_toModel (h : node.NamesFields registry.diagram) :
    node.RepeatsListed target (node.toModel registry placement) := by
  constructor
  · apply forall₂_map_self
    intro l hl
    exact Constructor.nodup_positions_iff (h.initialized l hl)
  · apply rel_map_self
    intro l hl
    exact nodup_iff_of_firstAt (firstAt_fieldPositions (h.released l hl))
  · intro hn
    apply forall₂_map_self
    intro l hl hcopy
    exact Constructor.nodup_parameters_iff hn (h.initialized l hl) hcopy
  · intro hn f hf p hp
    exact count_releases h hn hf hp
  · intro hn hids
    rw [List.nodup_iff_count_le_one]
    intro p
    by_cases hp : p ∈ releasesOf (node.toModel registry placement).releaseBody
    · obtain ⟨f, hf, hpf⟩ := ModelClass.mem_releasesOf_releaseBody.mp hp
      rw [count_releases h hn hf hpf]
      exact List.nodup_iff_count_le_one.mp hids f.id
    · rw [List.count_eq_zero.mpr hp]
      exact Nat.zero_le 1

end ClassNode

namespace Diagram

/-- Nothing is taken or released twice exactly where nothing is listed twice. -/
theorem repetitions_of_resolve {d : Diagram} {m : Model} (h : d.resolve = .ok m) :
    List.Forall₂ (fun node c => c.id = node.id ∧ node.RepeatsListed d.target c)
      d.classes m.classes := by
  apply forall₂_classes_of_resolve h
  intro node placement hfields
  exact ⟨rfl, ClassNode.repeatsListed_toModel hfields⟩

/-- A buffer that lists its data twice, to take it and to release it. -/
def twiceListed : Diagram where
  target := .cpp
  classes := [{ id := "c", body :=
    { name := "Buffer",
      properties := [
        { id := "p", name := "data", type := { name := "int", pointers := [⟨false, false, ""⟩] } }],
      constructors := [{ name := "make", fields := ["p", "p"] }],
      destructor := some { fields := ["p", "p"] } } }]

def twiceListedClass : ModelClass :=
  twiceListed.classes[0].toModel twiceListed.registry ⟨[], [], []⟩

private theorem resolve_twiceListed :
    twiceListed.resolve = .ok { target := .cpp, classes := [twiceListedClass], packages := [] } := by
  cbv

theorem repetitions_of_resolve_twiceListed :
    (twiceListedClass.constructors.map (·.fields)) = [[0, 0]] ∧
      twiceListedClass.destructor = some { fields := [0, 0] } ∧
      twiceListed.classes[0].RepeatsListed .cpp twiceListedClass ∧
      (releasesOf twiceListedClass.releaseBody).count (.named "data") = 2 := by
  have hall := repetitions_of_resolve resolve_twiceListed
  obtain ⟨⟨_, hrepeats⟩, _⟩ := List.forall₂_cons.mp hall
  have hdata : ∃ f ∈ twiceListedClass.releasedFields, f.id = "p" ∧
      .named "data" ∈ releasesOf f.release := by
    decide +kernel
  obtain ⟨f, hf, hid, hp⟩ := hdata
  have hcount := hrepeats.releases (by decide +kernel) f hf _ hp
  rw [hid] at hcount
  exact ⟨by cbv, by cbv, hrepeats, hcount⟩

/-- A field can be taken twice by one constructor and released twice by the destructor. -/
theorem twiceListed_repeats :
    ¬ ∀ (d : Diagram) (m : Model), d.resolve = .ok m → ∀ c ∈ m.classes,
      (∀ k ∈ c.constructors, k.fields.Nodup) ∧ ∀ k ∈ c.destructor, k.fields.Nodup := by
  intro hall
  obtain ⟨_, hreleased⟩ := hall twiceListed _ resolve_twiceListed _ List.mem_cons_self
  have hd : twiceListedClass.destructor = some { fields := [0, 0] } := by cbv
  have hn := hreleased _ hd
  exact absurd hn (by decide)

end Diagram

end ClassScaffold
