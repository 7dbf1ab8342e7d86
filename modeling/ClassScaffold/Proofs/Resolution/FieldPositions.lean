import ClassScaffold.Proofs.Resolution.Lifecycle

/-! Positions of the fields that constructors take and destructors release. Each listed id stands for the
first field with that id, and a constructor takes the lengths of what it lists behind it. -/
namespace ClassScaffold

/-- The first field with that id stands at that position. -/
structure FirstAt (fields : List Field) (id : String) (i : Nat) : Prop where
  found : ∃ f, fields[i]? = some f ∧ f.id = id
  first : ∀ j < i, ∀ f, fields[j]? = some f → f.id ≠ id

/-- A length that belongs to the owner stands at that position. -/
def LengthAt (fields : List Field) (owner : String) (i : Nat) : Prop :=
  ∃ f, fields[i]? = some f ∧ f.origin = .lengthOf owner

/-- The lengths of one owner after the other, in ascending order, that are not among the chosen
positions or were added before. -/
inductive AddsLengths (fields : List Field) : List Nat → List String → List Nat → Prop where
  | nil {chosen : List Nat} : AddsLengths fields chosen [] []
  | cons {chosen block added : List Nat} {owner : String} {owners : List String}
      (ascending : block.Pairwise (· < ·))
      (lengths : ∀ i, i ∈ block ↔ LengthAt fields owner i ∧ i ∉ chosen)
      (rest : AddsLengths fields (chosen ++ block) owners added) :
      AddsLengths fields chosen (owner :: owners) (block ++ added)

section Positions
variable {fields : List Field} {id owner : String} {i j : Nat}

theorem fieldPosition?_eq_some_iff : fieldPosition? fields id = some i ↔ FirstAt fields id i := by
  rw [fieldPosition?, List.findIdx?_eq_some_iff_getElem]
  constructor
  · rintro ⟨hi, hid, hfirst⟩
    refine ⟨⟨fields[i], List.getElem?_eq_getElem hi, by simpa using hid⟩, ?_⟩
    intro j hj f hf
    have hne := hfirst j hj
    rw [(List.getElem?_eq_some_iff.mp hf).2] at hne
    simpa using hne
  · rintro ⟨⟨f, hf, hid⟩, hfirst⟩
    obtain ⟨hi, rfl⟩ := List.getElem?_eq_some_iff.mp hf
    refine ⟨hi, by simpa using hid, ?_⟩
    intro j hj
    have hne := hfirst j hj _ (List.getElem?_eq_getElem (by omega))
    simpa using hne

theorem FirstAt.lt_length (h : FirstAt fields id i) : i < fields.length := by
  obtain ⟨f, hf, _⟩ := h.found
  exact (List.getElem?_eq_some_iff.mp hf).1

theorem LengthAt.lt_length (h : LengthAt fields owner i) : i < fields.length := by
  obtain ⟨f, hf, _⟩ := h
  exact (List.getElem?_eq_some_iff.mp hf).1

theorem FirstAt.id_eq {other : String} (h : FirstAt fields id i) (h' : FirstAt fields other i) :
    id = other := by
  obtain ⟨f, hf, rfl⟩ := h.found
  obtain ⟨g, hg, rfl⟩ := h'.found
  rw [Option.some.inj (hf.symm.trans hg)]

theorem FirstAt.position_eq (h : FirstAt fields id i) (h' : FirstAt fields id j) : i = j := by
  have hi := fieldPosition?_eq_some_iff.mpr h
  have hj := fieldPosition?_eq_some_iff.mpr h'
  exact Option.some.inj (hi.symm.trans hj)

theorem mem_lengthPositions : i ∈ lengthPositions fields owner ↔ LengthAt fields owner i := by
  simp only [lengthPositions, List.mem_filterMap, Prod.exists, List.mem_zipIdx_iff_getElem?,
    Option.ite_none_right_eq_some, Option.some.injEq, Field.isLengthOf_iff]
  constructor
  · rintro ⟨f, k, hf, ho, rfl⟩
    exact ⟨f, hf, ho⟩
  · rintro ⟨f, hf, ho⟩
    exact ⟨f, i, hf, ho, rfl⟩

theorem pairwise_lengthPositions (fields : List Field) (owner : String) :
    (lengthPositions fields owner).Pairwise (· < ·) := by
  have hindices : fields.zipIdx.Pairwise fun x y => x.2 < y.2 := by
    apply List.pairwise_map.mp
    rw [List.zipIdx_map_snd]
    exact List.pairwise_lt_range' 1
  apply hindices.filterMap
  intro x y hxy a ha b hb
  simp only [Option.ite_none_right_eq_some, Option.some.injEq] at ha hb
  rwa [← ha.2, ← hb.2]

theorem nodup_iff_of_firstAt {ids : List String} {positions : List Nat}
    (h : List.Forall₂ (FirstAt fields) ids positions) : positions.Nodup ↔ ids.Nodup := by
  have hunique : Relator.BiUnique (FirstAt fields) :=
    ⟨fun _ _ _ h h' => h.id_eq h', fun _ _ _ h h' => h.position_eq h'⟩
  exact (List.rel_nodup hunique h).symm

theorem map_id_of_firstAt {ids : List String} {positions : List Nat}
    (h : List.Forall₂ (FirstAt fields) ids positions) :
    (positions.filterMap (fields[·]?)).map (·.id) = ids := by
  induction h with
  | nil => rfl
  | cons hi _ ih =>
    obtain ⟨f, hf, hid⟩ := hi.found
    rw [List.filterMap_cons_some hf, List.map_cons, hid, ih]

theorem exists_firstAt_of_mem {ids : List String} {positions : List Nat} {f : Field}
    (h : List.Forall₂ (FirstAt fields) ids positions) (hf : f ∈ positions.filterMap (fields[·]?)) :
    ∃ i, fields[i]? = some f ∧ FirstAt fields f.id i := by
  obtain ⟨i, hi, hfi⟩ := List.mem_filterMap.mp hf
  obtain ⟨id, _, hfirst⟩ := exists_of_forall₂ h.flip hi
  obtain ⟨g, hg, rfl⟩ := hfirst.found
  obtain rfl := Option.some.inj (hg.symm.trans hfi)
  exact ⟨i, hfi, hfirst⟩

theorem count_of_firstAt {ids : List String} {positions : List Nat} {f : Field}
    (h : List.Forall₂ (FirstAt fields) ids positions) (hf : f ∈ positions.filterMap (fields[·]?)) :
    (positions.filterMap (fields[·]?)).count f = ids.count f.id := by
  rw [← map_id_of_firstAt h, List.count, List.count, List.countP_map]
  apply List.countP_congr
  intro g hg
  obtain ⟨i, hi, hfirst⟩ := exists_firstAt_of_mem h hf
  obtain ⟨j, hj, hfirst'⟩ := exists_firstAt_of_mem h hg
  simp only [Function.comp_apply, beq_iff_eq]
  constructor
  · rintro rfl
    rfl
  · intro hid
    rw [hid] at hfirst'
    obtain rfl := hfirst.position_eq hfirst'
    exact Option.some.inj (hj.symm.trans hi)

theorem firstAt_fieldPositions {ids : List String} (h : ∀ id ∈ ids, ∃ f ∈ fields, f.id = id) :
    List.Forall₂ (FirstAt fields) ids (ids.filterMap (fieldPosition? fields)) := by
  have hfound : ∀ id ∈ ids, (fieldPosition? fields id).isSome = true :=
    fun id hid => ClassNode.isSome_fieldPosition?_iff.mpr (h id hid)
  apply (forall₂_filterMap hfound).imp
  intro id i hi
  exact fieldPosition?_eq_some_iff.mp hi

end Positions

namespace AddsLengths
variable {fields : List Field} {chosen added : List Nat} {owners : List String} {i : Nat}

theorem mem_iff (h : AddsLengths fields chosen owners added) :
    i ∈ chosen ∨ i ∈ added ↔ i ∈ chosen ∨ ∃ owner ∈ owners, LengthAt fields owner i := by
  induction h with
  | nil => simp
  | @cons chosen block added owner owners _ lengths _ ih =>
    have hblock := lengths i
    rw [List.mem_append, ← or_assoc, ← List.mem_append, ih, List.mem_append, hblock, or_assoc]
    simp only [List.mem_cons, exists_eq_or_imp]
    by_cases hc : i ∈ chosen <;> simp [hc]

/-- Nothing is added twice, and nothing that was chosen. -/
theorem nodup (h : AddsLengths fields chosen owners added) :
    added.Nodup ∧ ∀ i ∈ added, i ∉ chosen := by
  induction h with
  | nil => simp
  | @cons chosen block added owner owners ascending lengths _ ih =>
    obtain ⟨hn, hapart⟩ := ih
    refine ⟨List.nodup_append.mpr ⟨ascending.imp Nat.ne_of_lt, hn, ?_⟩, ?_⟩
    · rintro i hi j hj rfl
      exact hapart i hj (List.mem_append_right _ hi)
    · intro i hi
      rcases List.mem_append.mp hi with hi | hi
      · exact ((lengths i).mp hi).2
      · intro hc
        exact hapart i hi (List.mem_append_left _ hc)

end AddsLengths

theorem addPositions_of_ascending (chosen : List Nat) {positions : List Nat}
    (h : positions.Pairwise (· < ·)) :
    addPositions chosen positions = chosen ++ positions.filter fun i => !chosen.contains i := by
  rw [addPositions_eq, eraseDups_of_nodup ((h.imp Nat.ne_of_lt).filter _)]

/-- Owners that are gone through one after the other add their lengths. -/
theorem exists_addsLengths (fields : List Field) (chosen : List Nat) (owners : List Field) :
    ∃ added, owners.foldl
        (fun chosen (f : Field) => addPositions chosen (lengthPositions fields f.id)) chosen =
          chosen ++ added ∧
      AddsLengths fields chosen (owners.map (·.id)) added := by
  -- what one owner adds is chosen for the owners behind it
  induction owners generalizing chosen with
  | nil => exact ⟨[], (List.append_nil _).symm, .nil⟩
  | cons owner rest ih =>
    have hpositions := pairwise_lengthPositions fields owner.id
    obtain ⟨added, hadded, hlengths⟩ :=
      ih (addPositions chosen (lengthPositions fields owner.id))
    rw [addPositions_of_ascending chosen hpositions] at hadded hlengths
    refine ⟨_, ?_, .cons (hpositions.filter _) ?_ hlengths⟩
    · rw [List.foldl_cons, addPositions_of_ascending chosen hpositions, hadded, List.append_assoc]
    · intro i
      rw [List.mem_filter, mem_lengthPositions]
      simp

section Placed
variable {target : Target} {cls : ModelClass}

/-- A constructor of the resolved class: it takes the listed fields and then their lengths. -/
structure Constructor.PlacedIn (target : Target) (cls : ModelClass) (c : Constructor)
    (k : ModelConstructor) : Prop where
  name : k.name = c.name
  body : k.body = c.body
  isCopy : k.isCopy = c.isCopy
  fields : ∃ listed added, k.fields = listed ++ added ∧
    List.Forall₂ (FirstAt cls.fields) c.fields listed ∧
    AddsLengths cls.fields listed c.fields added ∧ added.Nodup ∧ ∀ i ∈ added, i ∉ listed
  lengths : ∀ id ∈ c.fields, ∀ i, LengthAt cls.fields id i → i ∈ k.fields
  inside : ∀ i ∈ k.fields, i < cls.fields.length
  selected : (cls.select k.fields).map some = k.fields.map (cls.fields[·]?)
  signature : target = .cpp → k.isCopy = false → k.signature = ", ".intercalate
    ((ConstructorText.declared target cls k).parameters.map fun p => p.type ++ p.arraySuffix)

/-- The destructor of the resolved class: it releases the listed fields. -/
structure Destructor.PlacedIn (cls : ModelClass) (c : Destructor) (k : ModelDestructor) : Prop where
  fields : List.Forall₂ (FirstAt cls.fields) c.fields k.fields
  inside : ∀ i ∈ k.fields, i < cls.fields.length
  selected : (cls.select k.fields).map some = k.fields.map (cls.fields[·]?)

theorem ModelClass.forall₂_select {positions : List Nat}
    (h : ∀ i ∈ positions, i < cls.fields.length) :
    List.Forall₂ (fun i f => cls.fields[i]? = some f) positions (cls.select positions) := by
  apply forall₂_filterMap
  intro i hi
  rw [List.getElem?_eq_getElem (h i hi), Option.isSome_some]

theorem ModelClass.map_some_select {positions : List Nat}
    (h : ∀ i ∈ positions, i < cls.fields.length) :
    (cls.select positions).map some = positions.map (cls.fields[·]?) :=
  (map_eq_of_forall₂ (ModelClass.forall₂_select h) fun _ _ hf => hf).symm

theorem FirstAt.inside {ids : List String} {positions : List Nat} {fields : List Field}
    (h : List.Forall₂ (FirstAt fields) ids positions) : ∀ i ∈ positions, i < fields.length := by
  intro i hi
  obtain ⟨_, _, hfirst⟩ := exists_of_forall₂ h.flip hi
  exact hfirst.lt_length

/-- What a constructor takes: the listed fields, then the lengths that they own. -/
theorem Constructor.exists_positions {fields : List Field} {c : Constructor}
    (h : ∀ id ∈ c.fields, ∃ f ∈ fields, f.id = id) :
    ∃ listed added, c.positions fields = listed ++ added ∧
      List.Forall₂ (FirstAt fields) c.fields listed ∧
      AddsLengths fields listed c.fields added := by
  have hlisted := firstAt_fieldPositions h
  obtain ⟨added, hfold, hlengths⟩ := exists_addsLengths fields
    (c.fields.filterMap (fieldPosition? fields))
    ((c.fields.filterMap (fieldPosition? fields)).filterMap (fields[·]?))
  rw [map_id_of_firstAt hlisted] at hlengths
  exact ⟨_, added, hfold, hlisted, hlengths⟩

theorem Constructor.lt_of_mem_positions {fields : List Field} {c : Constructor}
    (h : ∀ id ∈ c.fields, ∃ f ∈ fields, f.id = id) : ∀ i ∈ c.positions fields, i < fields.length := by
  obtain ⟨listed, added, hpositions, hlisted, hlengths⟩ := Constructor.exists_positions h
  intro i hi
  rw [hpositions, List.mem_append, hlengths.mem_iff] at hi
  rcases hi with hi | ⟨owner, _, hi⟩
  · exact FirstAt.inside hlisted i hi
  · exact hi.lt_length

/-- With manual memory a signature is made of the parameters as they are written. -/
theorem Constructor.signature_toModel {c : Constructor} (h : c.isCopy = false) :
    (c.toModel cls.name cls.fields).signature =
      ", ".intercalate ((ConstructorText.declared .cpp cls
        (c.toModel cls.name cls.fields)).parameters.map fun p => p.type ++ p.arraySuffix) := by
  have hcopy : (c.toModel cls.name cls.fields).isCopy = false := h
  rw [ConstructorText.types_declared hcopy]
  simp only [toModel, signature, h, Bool.false_eq_true, if_false]
  rfl

theorem Constructor.placedIn_toModel {c : Constructor}
    (h : ∀ id ∈ c.fields, ∃ f ∈ cls.fields, f.id = id) :
    c.PlacedIn target cls (c.toModel cls.name cls.fields) := by
  obtain ⟨listed, added, hpositions, hlisted, hlengths⟩ := Constructor.exists_positions h
  have hinside := Constructor.lt_of_mem_positions h
  obtain ⟨hnodup, hapart⟩ := hlengths.nodup
  refine
    { name := rfl
      body := rfl
      isCopy := rfl
      fields := ⟨listed, added, hpositions, hlisted, hlengths, hnodup, hapart⟩
      lengths := ?_
      inside := hinside
      selected := ModelClass.map_some_select hinside
      signature := ?_ }
  · intro id hid i hi
    show i ∈ c.positions cls.fields
    rw [hpositions, List.mem_append, hlengths.mem_iff]
    exact .inr ⟨id, hid, hi⟩
  · rintro rfl hcopy
    exact Constructor.signature_toModel hcopy

theorem Destructor.placedIn_toModel {c : Destructor}
    (h : ∀ id ∈ c.fields, ∃ f ∈ cls.fields, f.id = id) :
    c.PlacedIn cls (c.toModel cls.fields) := by
  have hfields := firstAt_fieldPositions h
  have hinside := FirstAt.inside hfields
  exact ⟨hfields, hinside, ModelClass.map_some_select hinside⟩

end Placed

namespace Diagram

/-- Every constructor of a resolved class takes the fields that are listed for it, in their order, and
behind them the lengths of each that are not there yet. The destructor releases those that are listed
for it. -/
theorem fieldPositions_of_resolve {d : Diagram} {m : Model} (h : d.resolve = .ok m) :
    List.Forall₂ (fun node c => c.id = node.id ∧
      List.Forall₂ (fun k => Constructor.PlacedIn d.target c k) node.body.constructors c.constructors ∧
      Option.Rel (fun k => Destructor.PlacedIn c k) node.body.destructor c.destructor)
      d.classes m.classes := by
  apply forall₂_classes_of_resolve h
  intro node placement hfields
  refine ⟨rfl, ?_, ?_⟩
  · apply forall₂_map_self
    intro k hk
    exact Constructor.placedIn_toModel (hfields.initialized k hk)
  · apply rel_map_self
    intro k hk
    exact Destructor.placedIn_toModel (hfields.released k hk)

/-- A matrix whose rows are sized by a length that one constructor lists ahead of them. -/
def takenRows : Diagram where
  target := .cpp
  classes := [{ id := "m", body :=
    { name := "Matrix",
      properties := [
        { id := "r", name := "rows", type :=
          { name := "int", pointers := [⟨false, true, "height"⟩], dimensions := [⟨4, "used"⟩] } },
        { id := "t", name := "title", type := { name := "char", dimensions := [⟨16, "length"⟩] } }],
      constructors := [
        { name := "titled", fields := ["t", "r"] }, { name := "sized", fields := ["r.height", "r"] }],
      destructor := some { fields := ["r"] } } }]

theorem fieldPositions_of_resolve_takenRows :
    ∃ m, takenRows.resolve = .ok m ∧
      (m.classes.map fun c => c.fields.map (·.id)) =
        [["r", "r.used", "r.height", "t", "t.length"]] ∧
      (m.classes.map fun c => c.constructors.map fun k => (k.fields, k.signature)) =
        [[([3, 0, 4, 1, 2], "char[16], int*[4], unsigned int, unsigned int, unsigned int"),
          ([2, 0, 1], "unsigned int, int*[4], unsigned int")]] ∧
      List.Forall₂ (fun node c => List.Forall₂
        (fun k => Constructor.PlacedIn .cpp c k) node.body.constructors c.constructors)
        takenRows.classes m.classes := by
  have hr : ∃ m, takenRows.resolve = .ok m ∧
      (m.classes.map fun c => c.fields.map (·.id)) =
        [["r", "r.used", "r.height", "t", "t.length"]] ∧
      (m.classes.map fun c => c.constructors.map fun k => (k.fields, k.signature)) =
        [[([3, 0, 4, 1, 2], "char[16], int*[4], unsigned int, unsigned int, unsigned int"),
          ([2, 0, 1], "unsigned int, int*[4], unsigned int")]] :=
    ⟨_, by cbv, by cbv, by cbv⟩
  obtain ⟨m, hm, hids, hfields⟩ := hr
  exact ⟨m, hm, hids, hfields, (fieldPositions_of_resolve hm).imp fun _ _ hc => hc.2.1⟩

end Diagram

end ClassScaffold
