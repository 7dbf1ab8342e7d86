import Mathlib
import ClassScaffold.Proofs.Ownership.Levels
import ClassScaffold.Proofs.Resolution.Acceptance
import ClassScaffold.Proofs.Resolution.Flattening

/-! The fields of a resolved class: each property of the class, and each one that it repeats from an
interface, stands before the lengths of its arrays, and nothing else stands among them. -/
namespace ClassScaffold

namespace Level

def isArray (level : Level) : Bool :=
  level.lengthField?.isSome

end Level

namespace DataType

theorem length_lengthFields (type : DataType) :
    type.lengthFields.length = type.levels.countP Level.isArray := by
  rw [← filterMap_lengthField?_levels, List.length_filterMap_eq_countP]
  rfl

theorem lengthFields_eq_nil_of_isPlain {type : DataType} (h : type.isPlain) :
    type.lengthFields = [] := by
  simp only [isPlain, Bool.and_eq_true, List.isEmpty_iff] at h
  rw [lengthFields, h.1, h.2]
  rfl

end DataType

namespace Field

/-- The field is the property, as it comes from the class or from an interface. What its setter takes
is left open. -/
structure Shows (f : Field) (origin : Origin) (p : Property) : Prop where
  same : f = { ofProperty origin p with setterParameters := f.setterParameters }
  notSynthetic : f.isSynthetic = false

/-- The field holds one length of its owner. -/
structure HoldsLength (target : Target) (owner f : Field) (length : String) : Prop where
  id : f.id = owner.id ++ "." ++ length
  name : f.name = length
  type : f.type = .named target.lengthType
  access : f.access = owner.access
  isStatic : f.isStatic = owner.isStatic
  hasGetter : f.hasGetter = false
  hasSetter : f.hasSetter = false
  setterParameters : f.setterParameters = []
  origin : f.origin = .lengthOf owner.id

/-- The fields are the properties in their order, each followed by one length for every array in its
type, static arrays first. A setter takes its property, and with it the lengths. -/
inductive LaidOut (target : Target) : List (Origin × Property) → List Field → Prop where
  | nil : LaidOut target [] []
  | cons {origin : Origin} {p : Property} {owner : Field} {lengths : List Field}
      {members : List (Origin × Property)} {fields : List Field}
      (shown : owner.Shows origin p)
      (held : List.Forall₂ (owner.HoldsLength target) lengths
        (p.type.dimensions.map (·.lengthField) ++
          (p.type.pointers.filter (·.isArray)).map (·.lengthField)))
      (setter : owner.setterParameters =
        owner.asParameter :: if p.hasSetter then lengths.map asParameter else [])
      (rest : LaidOut target members fields) :
      LaidOut target ((origin, p) :: members) (owner :: lengths ++ fields)

/-- The field is the property, or holds the length of one of its arrays. -/
inductive StemsFrom (target : Target) (f : Field) (member : Origin × Property) : Prop where
  | property (shown : f.Shows member.1 member.2) : StemsFrom target f member
  | length {owner : Field} {length : String} (shown : owner.Shows member.1 member.2)
      (listed : length ∈ member.2.type.lengthFields) (held : owner.HoldsLength target f length) :
      StemsFrom target f member

section Owner
variable {target : Target} {owner f : Field} {origin : Origin} {p : Property} {length : String}

theorem Shows.name_eq (h : owner.Shows origin p) : owner.name = p.name := by
  rw [h.same]
  rfl

theorem Shows.type_eq (h : owner.Shows origin p) : owner.type = p.type := by
  rw [h.same]
  rfl

theorem Shows.access_eq (h : owner.Shows origin p) : owner.access = p.access := by
  rw [h.same]
  rfl

theorem Shows.hasSetter_eq (h : owner.Shows origin p) : owner.hasSetter = p.hasSetter := by
  rw [h.same]
  rfl

theorem Shows.origin_eq (h : owner.Shows origin p) : owner.origin = origin := by
  rw [h.same]
  rfl

theorem HoldsLength.isSynthetic (h : owner.HoldsLength target f length) : f.isSynthetic = true := by
  rw [Field.isSynthetic, h.origin]

theorem HoldsLength.isPlain (h : owner.HoldsLength target f length) : f.type.isPlain = true := by
  rw [h.type]
  rfl

/-- A length is as open as its array. -/
theorem StemsFrom.access_eq {member : Origin × Property} (h : f.StemsFrom target member) :
    f.access = member.2.access := by
  cases h with
  | property shown => exact shown.access_eq
  | length shown _ held => exact held.access.trans shown.access_eq

theorem StemsFrom.not_flattened {p : Property} (h : f.StemsFrom target (.declared, p)) :
    f.origin ≠ .flattened := by
  intro ho
  cases h with
  | property shown => cases shown.origin_eq.symm.trans ho
  | length _ _ held => cases held.origin.symm.trans ho

theorem holdsLength_lengthField (target : Target) (owner : Field) (length : String) :
    owner.HoldsLength target (owner.lengthField target length) length :=
  ⟨rfl, rfl, rfl, rfl, rfl, rfl, rfl, rfl, rfl⟩

end Owner

/-- Expanding properties lays them out. -/
theorem laidOut_expand (target : Target) {members : List (Origin × Property)}
    (h : ∀ member ∈ members, (ofProperty member.1 member.2).isSynthetic = false) :
    LaidOut target members
      ((members.map fun member => ofProperty member.1 member.2).flatMap (expand target)) := by
  induction members with
  | nil => exact .nil
  | cons member rest ih =>
    obtain ⟨origin, p⟩ := member
    obtain ⟨hp, hr⟩ := List.forall_mem_cons.mp h
    have hheld (owner : Field) (names : List String) :
        List.Forall₂ (owner.HoldsLength target) (names.map (owner.lengthField target)) names := by
      rw [List.forall₂_map_left_iff]
      exact List.forall₂_same.mpr fun length _ => holdsLength_lengthField target owner length
    rw [List.map_cons, List.flatMap_cons, expand]
    cases hs : p.hasSetter with
    | true =>
      have hw : (ofProperty origin p).withLengthParameters target =
          { ofProperty origin p with
            setterParameters := (ofProperty origin p).asParameter ::
              ((ofProperty origin p).lengthFields target).map asParameter } :=
        if_pos hs
      rw [hw]
      exact .cons ⟨rfl, hp⟩ (hheld _ p.type.lengthFields) (by rw [hs]; rfl) (ih hr)
    | false =>
      have hw : (ofProperty origin p).withLengthParameters target = ofProperty origin p :=
        if_neg (by rw [ofProperty, hs]; exact Bool.false_ne_true)
      rw [hw]
      exact .cons ⟨rfl, hp⟩ (hheld _ p.type.lengthFields) (by rw [hs]; rfl) (ih hr)

namespace LaidOut
variable {target : Target} {members : List (Origin × Property)} {fields : List Field}

/-- The lengths taken away, the properties are left. -/
theorem filter_not_isSynthetic (h : LaidOut target members fields) :
    List.Forall₂ (fun member f => f.Shows member.1 member.2) members
      (fields.filter fun f => !f.isSynthetic) := by
  induction h with
  | nil => exact .nil
  | @cons origin p owner lengths members fields shown held _ _ ih =>
    have hlengths : lengths.filter (fun f => !f.isSynthetic) = [] := by
      refine List.filter_eq_nil_iff.mpr fun f hf => ?_
      obtain ⟨_, _, hl⟩ := exists_of_forall₂ held hf
      simp [hl.isSynthetic]
    rw [List.cons_append, List.filter_cons_of_pos (by simp [shown.notSynthetic]),
      List.filter_append, hlengths, List.nil_append]
    exact .cons shown ih

/-- There are as many lengths as there are arrays in the types of the other fields. -/
theorem countP_isSynthetic (h : LaidOut target members fields) :
    fields.countP isSynthetic =
      ((fields.filter fun f => !f.isSynthetic).map fun f => f.type.levels.countP Level.isArray).sum := by
  induction h with
  | nil => rfl
  | @cons origin p owner lengths members fields shown held _ _ ih =>
    have hlengths : ∀ f ∈ lengths, f.isSynthetic = true := by
      intro f hf
      obtain ⟨_, _, hl⟩ := exists_of_forall₂ held hf
      exact hl.isSynthetic
    have hcount : lengths.countP isSynthetic = owner.type.levels.countP Level.isArray := by
      rw [List.countP_eq_length.mpr hlengths, held.length_eq, shown.type_eq,
        ← DataType.length_lengthFields]
      rfl
    have hfilter : lengths.filter (fun f => !f.isSynthetic) = [] :=
      List.filter_eq_nil_iff.mpr fun f hf => by simp [hlengths f hf]
    rw [List.cons_append, List.countP_cons_of_neg (by simp [shown.notSynthetic]),
      List.countP_append, hcount, ih, List.filter_cons_of_pos (by simp [shown.notSynthetic]),
      List.filter_append, hfilter, List.nil_append, List.map_cons, List.sum_cons]

/-- Every field is there for one of the properties. -/
theorem exists_stemsFrom (h : LaidOut target members fields) {f : Field} (hf : f ∈ fields) :
    ∃ member ∈ members, f.StemsFrom target member := by
  induction h with
  | nil => cases hf
  | @cons origin p owner lengths members fields shown held _ _ ih =>
    rcases List.mem_append.mp hf with hf | hf
    · rcases List.mem_cons.mp hf with rfl | hf
      · exact ⟨(origin, p), List.mem_cons_self, .property shown⟩
      · obtain ⟨length, hl, hh⟩ := exists_of_forall₂ held hf
        exact ⟨(origin, p), List.mem_cons_self, .length shown hl hh⟩
    · obtain ⟨member, hm, hs⟩ := ih hf
      exact ⟨member, List.mem_cons_of_mem _ hm, hs⟩

theorem exists_owner (h : LaidOut target members fields) {f : Field} (hf : f ∈ fields)
    (hs : f.isSynthetic = true) : ∃ owner ∈ fields, ∃ length ∈ owner.type.lengthFields,
      owner.HoldsLength target f length := by
  induction h with
  | nil => cases hf
  | @cons origin p owner lengths members fields shown held _ _ ih =>
    rcases List.mem_append.mp hf with hf | hf
    · rcases List.mem_cons.mp hf with rfl | hf
      · rw [shown.notSynthetic] at hs
        cases hs
      · obtain ⟨length, hl, hh⟩ := exists_of_forall₂ held hf
        exact ⟨owner, List.mem_append_left _ List.mem_cons_self, length, shown.type_eq ▸ hl, hh⟩
    · obtain ⟨owner, ho, length, hl, hh⟩ := ih hf
      exact ⟨owner, List.mem_append_right _ ho, length, hl, hh⟩

theorem exists_holdsLength (h : LaidOut target members fields) {f : Field} (hf : f ∈ fields)
    {length : String} (hl : length ∈ f.type.lengthFields) :
    ∃ g ∈ fields, f.HoldsLength target g length := by
  induction h with
  | nil => cases hf
  | @cons origin p owner lengths members fields shown held _ _ ih =>
    rcases List.mem_append.mp hf with hf | hf
    · rcases List.mem_cons.mp hf with rfl | hf
      · rw [shown.type_eq] at hl
        obtain ⟨g, hg, hh⟩ := exists_of_forall₂ held.flip hl
        exact ⟨g, List.mem_append_left _ (List.mem_cons_of_mem _ hg), hh⟩
      · -- a length has no arrays in its type
        obtain ⟨_, _, hh⟩ := exists_of_forall₂ held hf
        rw [DataType.lengthFields_eq_nil_of_isPlain hh.isPlain] at hl
        cases hl
    · obtain ⟨g, hg, hh⟩ := ih hf
      exact ⟨g, List.mem_append_right _ hg, hh⟩

/-- What a setter takes has the name and the type of a field of the class. -/
theorem exists_setterParameter (h : LaidOut target members fields) {f : Field} (hf : f ∈ fields)
    {parameter : Parameter} (hp : parameter ∈ f.setterParameters) :
    ∃ g ∈ fields, parameter = g.asParameter ∧ g.isStatic = f.isStatic := by
  induction h with
  | nil => cases hf
  | @cons origin p owner lengths members fields shown held setter _ ih =>
    rcases List.mem_append.mp hf with hf | hf
    · rcases List.mem_cons.mp hf with rfl | hf
      · rw [setter] at hp
        rcases List.mem_cons.mp hp with rfl | hp
        · exact ⟨f, List.mem_append_left _ List.mem_cons_self, rfl, rfl⟩
        · split at hp
          · obtain ⟨g, hg, rfl⟩ := List.mem_map.mp hp
            obtain ⟨_, _, hh⟩ := exists_of_forall₂ held hg
            exact ⟨g, List.mem_append_left _ (List.mem_cons_of_mem _ hg), rfl, hh.isStatic⟩
          · cases hp
      · obtain ⟨_, _, hh⟩ := exists_of_forall₂ held hf
        rw [hh.setterParameters] at hp
        cases hp
    · obtain ⟨g, hg, hh⟩ := ih hf
      exact ⟨g, List.mem_append_right _ hg, hh⟩

/-- Directly behind a property stand the lengths of its arrays, up to the next property, and these are
what its setter takes besides. -/
theorem held_behind (h : LaidOut target members fields) {before after : List Field} {owner : Field}
    (he : fields = before ++ owner :: after) (ho : owner.isSynthetic = false) :
    List.Forall₂ (owner.HoldsLength target) (after.takeWhile isSynthetic) owner.type.lengthFields ∧
      owner.setterParameters = owner.asParameter ::
        if owner.hasSetter then (after.takeWhile isSynthetic).map asParameter else [] := by
  induction h generalizing before with
  | nil => cases before <;> cases he
  | @cons origin p first lengths members fields shown held setter rest ih =>
    have hlengths : ∀ f ∈ lengths, f.isSynthetic = true := by
      intro f hf
      obtain ⟨_, _, hl⟩ := exists_of_forall₂ held hf
      exact hl.isSynthetic
    rw [List.cons_append] at he
    cases before with
    | nil =>
      obtain ⟨rfl, rfl⟩ := List.cons.inj he
      have hrest : fields.takeWhile isSynthetic = [] := by
        cases rest with
        | nil => rfl
        | cons shown => exact List.takeWhile_cons_of_neg (by simp [shown.notSynthetic])
      rw [List.takeWhile_append_of_pos hlengths, hrest, List.append_nil, shown.type_eq,
        shown.hasSetter_eq]
      exact ⟨held, setter⟩
    | cons _ before =>
      obtain ⟨_, he⟩ := List.cons.inj he
      rcases List.append_eq_append_iff.mp he with ⟨between, _, he⟩ | ⟨between, hl, he⟩
      · exact ih he
      · cases between with
        | nil =>
          have hfirst : fields = [] ++ owner :: after := he.symm
          exact ih hfirst
        | cons f between =>
          -- the property would be one of the lengths
          obtain ⟨rfl, _⟩ := List.cons.inj he
          have hs := hlengths owner (hl ▸ List.mem_append_right _ List.mem_cons_self)
          cases ho.symm.trans hs

end LaidOut

end Field

namespace Diagram

/-- The properties of a class, and in C# those of the interfaces that a search from its parents comes
to. -/
def memberProperties (d : Diagram) (node : ClassNode) : List (Origin × Property) :=
  node.body.properties.map (Prod.mk .declared) ++
    if d.target = .csharp ∧ ¬ node.isInterface then
      (d.searchedInterfaces node).flatMap fun i => i.body.properties.map (Prod.mk .flattened)
    else []

theorem memberFields_eq {d : Diagram} (hn : d.nodeIds.Nodup) (node : ClassNode) :
    d.memberFields node =
      (d.memberProperties node).map fun member => Field.ofProperty member.1 member.2 := by
  have hown (origin : Origin) (ps : List Property) : ps.map (Field.ofProperty origin) =
      (ps.map (Prod.mk origin)).map fun member => Field.ofProperty member.1 member.2 := by
    rw [List.map_map]
    rfl
  rw [memberFields, memberProperties, List.map_append, ← hown]
  congr 1
  by_cases ht : d.target = .csharp
  · have hflat := Target.flattensProperties_iff.mpr ht
    by_cases hi : node.isInterface
    · have himp : d.implemented node = [] := if_pos hi
      rw [if_pos hflat, himp, if_neg (fun h => h.2 hi)]
      rfl
    · rw [if_pos hflat, if_pos ⟨ht, hi⟩, implemented_eq_searched hn hi, List.map_flatMap]
      simp only [hown]
  · rw [if_neg (mt Target.flattensProperties_iff.mp ht), if_neg (fun h => ht h.1)]
    rfl

theorem laidOut_fields {d : Diagram} (hn : d.nodeIds.Nodup) (node : ClassNode) :
    Field.LaidOut d.target (d.memberProperties node) (d.fields node) := by
  have horigin : ∀ member ∈ d.memberProperties node,
      (Field.ofProperty member.1 member.2).isSynthetic = false := by
    intro member hm
    rcases List.mem_append.mp hm with hm | hm
    · obtain ⟨p, _, rfl⟩ := List.mem_map.mp hm
      rfl
    · split at hm
      · obtain ⟨i, _, hm⟩ := List.mem_flatMap.mp hm
        obtain ⟨p, _, rfl⟩ := List.mem_map.mp hm
        rfl
      · cases hm
  rw [fields, memberFields_eq hn]
  exact Field.laidOut_expand d.target horigin

/-- The fields of every class of a resolved diagram are its properties in their order, each followed by
the lengths of its arrays. There is one length for every array in the type of another field, without
the lengths the properties are left, and what a setter takes are fields of its class, which are
static where the property is. -/
theorem resolve_lays_out_fields {d : Diagram} {m : Model} (h : d.resolve = .ok m) :
    List.Forall₂ (fun node c => c.id = node.id ∧
      Field.LaidOut d.target (d.memberProperties node) c.fields ∧
      c.fields.countP Field.isSynthetic = ((c.fields.filter fun f => !f.isSynthetic).map
        fun f => f.type.levels.countP Level.isArray).sum ∧
      List.Forall₂ (fun member f => f.Shows member.1 member.2) (d.memberProperties node)
        (c.fields.filter fun f => !f.isSynthetic) ∧
      ∀ f ∈ c.fields, ∀ parameter ∈ f.setterParameters,
        ∃ g ∈ c.fields, parameter = g.asParameter ∧ g.isStatic = f.isStatic)
      d.classes m.classes := by
  obtain ⟨hn, _, placement, _, rfl⟩ := resolve_eq_ok_iff.mp h
  rw [Registry.toModel, List.forall₂_map_right_iff]
  refine List.forall₂_same.mpr fun node _ => ?_
  have hl := laidOut_fields hn node
  exact ⟨rfl, hl, hl.countP_isSynthetic, hl.filter_not_isSynthetic,
    fun f hf parameter hp => hl.exists_setterParameter hf hp⟩

/-- A class that repeats a static table of an interface, in C# together with its lengths. -/
def sharedTable : Diagram where
  target := .csharp
  classes := [
    { id := "i", isInterface := true, body :=
      { name := "ITable", properties := [
          { id := "t", name := "table", access := .prot, isStatic := true, hasSetter := true,
            type := { name := "int", pointers := [⟨false, true, "rows"⟩, ⟨false, false, ""⟩],
                      dimensions := [⟨4, "used"⟩] } }] } },
    { id := "c", parents := [{ id := "i" }], body :=
      { name := "Table", properties := [
          { id := "n", name := "names", type := { name := "string", pointers := [⟨true, true, "count"⟩] } }] } }]

theorem resolve_lays_out_sharedTable :
    ∃ m, sharedTable.resolve = .ok m ∧
      (m.classes.map fun c => c.fields.map (·.id)) =
        [["t", "t.used", "t.rows"], ["n", "n.count", "t", "t.used", "t.rows"]] ∧
      List.Forall₂ (fun node c =>
        Field.LaidOut .csharp (sharedTable.memberProperties node) c.fields)
        sharedTable.classes m.classes := by
  have hr : ∃ m, sharedTable.resolve = .ok m ∧ (m.classes.map fun c => c.fields.map (·.id)) =
      [["t", "t.used", "t.rows"], ["n", "n.count", "t", "t.used", "t.rows"]] :=
    ⟨_, by cbv, by cbv⟩
  obtain ⟨m, hm, hids⟩ := hr
  exact ⟨m, hm, hids, (resolve_lays_out_fields hm).imp fun _ _ hc => hc.2.1⟩

end Diagram

end ClassScaffold
