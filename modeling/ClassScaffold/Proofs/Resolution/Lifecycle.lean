import ClassScaffold.Proofs.Resolution.Acceptance
import ClassScaffold.Proofs.Resolution.LegalNames
import ClassScaffold.Proofs.Source.TypeText

/-! Constructors that look the same. Their signatures are equal only where the types of what they take
are, one after the other, so that the check of signatures refuses no others and lets none through. -/
namespace ClassScaffold

/-- What tells the constructors of a class apart. -/
inductive ConstructorKey where
  | copy
  | taking (types : List TypeKey)
  deriving DecidableEq

theorem Field.isLengthOf_iff {f : Field} {owner : String} :
    f.isLengthOf owner = true ↔ f.origin = .lengthOf owner := by
  cases h : f.origin <;> simp [isLengthOf, h]

/-- What is new comes behind what is chosen, each position once. -/
theorem addPositions_eq (chosen positions : List Nat) :
    addPositions chosen positions =
      chosen ++ (positions.filter fun i => !chosen.contains i).eraseDups := by
  induction positions generalizing chosen with
  | nil => simp [addPositions]
  | cons i rest ih =>
    rw [addPositions, ih]
    by_cases hi : i ∈ chosen
    · simp [hi]
    · -- from here on the position is chosen, so that it is not added again
      have hlater : (rest.filter fun k => !(chosen ++ [i]).contains k) =
          (rest.filter fun k => !chosen.contains k).filter fun k => !k == i := by
        rw [List.filter_filter]
        refine List.filter_congr fun k _ => ?_
        by_cases hk : k = i <;> simp [hk]
      have hnew : chosen.contains i = false := by simpa using hi
      rw [hnew, if_neg Bool.false_ne_true, hlater, List.filter_cons_of_pos (by simp [hi]),
        List.eraseDups_cons, List.append_assoc, List.singleton_append]

theorem addPositions_append (chosen xs ys : List Nat) :
    addPositions chosen (xs ++ ys) = addPositions (addPositions chosen xs) ys := by
  induction xs generalizing chosen with
  | nil => rfl
  | cons i rest ih => exact ih _

theorem withLengthPositions_eq (fields : List Field) (listed : List Nat) :
    withLengthPositions fields listed = addPositions listed
      ((listed.filterMap (fields[·]?)).flatMap fun f => lengthPositions fields f.id) := by
  have hfold (chosen : List Nat) (owners : List Field) :
      owners.foldl (fun chosen f => addPositions chosen (lengthPositions fields f.id)) chosen =
        addPositions chosen (owners.flatMap fun f => lengthPositions fields f.id) := by
    induction owners generalizing chosen with
    | nil => rfl
    | cons f rest ih => rw [List.foldl_cons, List.flatMap_cons, addPositions_append, ih]
  exact hfold listed _

namespace Constructor

/-- The positions of the fields that a constructor names, in its order, and then of the lengths that
these fields own, each one that is not named once. -/
def expandedPositions (fields : List Field) (c : Constructor) : List Nat :=
  let named := c.fields.filterMap fun id => fields.findIdx? fun f => f.id == id
  let owned := (named.filterMap (fields[·]?)).flatMap fun owner =>
    fields.zipIdx.filterMap fun (f, i) => if f.origin = .lengthOf owner.id then some i else none
  named ++ (owned.filter fun i => !named.contains i).eraseDups

def taken (fields : List Field) (c : Constructor) : List Field :=
  (c.expandedPositions fields).filterMap (fields[·]?)

def key (fields : List Field) (c : Constructor) : ConstructorKey :=
  if c.isCopy then .copy else .taking ((c.taken fields).map (·.type.key))

theorem positions_eq_expandedPositions (fields : List Field) (c : Constructor) :
    c.positions fields = c.expandedPositions fields := by
  have howned (owner : Field) : lengthPositions fields owner.id = fields.zipIdx.filterMap
      fun (f, i) => if f.origin = .lengthOf owner.id then some i else none := by
    simp only [lengthPositions, Field.isLengthOf_iff]
  rw [positions, withLengthPositions_eq, addPositions_eq]
  simp only [howned]
  rfl

variable {className : String} {fields : List Field} {c e : Constructor}

theorem mem_of_mem_taken {f : Field} (h : f ∈ c.taken fields) : f ∈ fields := by
  obtain ⟨i, _, hi⟩ := List.mem_filterMap.mp h
  exact List.mem_of_getElem? hi

private theorem toList_signature (h : c.isCopy = false) :
    (c.signature className fields).toList =
      [',', ' '].intercalate ((c.taken fields).map (·.type.signature.toList)) := by
  simp only [signature, h, taken, positions_eq_expandedPositions, Bool.false_eq_true, if_false,
    String.toList_intercalate, List.map_map]
  rfl

private theorem signature_of_isCopy (h : c.isCopy = true) :
    c.signature className fields = copySignature className := by
  simp only [signature, h, if_true]

section Names
variable (hf : ∀ f ∈ fields, TypeSpelled f.type.name)
include hf

private theorem signature_ne_copySignature (h : c.isCopy = false) :
    c.signature className fields ≠ copySignature className := by
  intro he
  have hr : '&' ∈ (copySignature className).toList := by simp [copySignature]
  rw [← he, toList_signature h] at hr
  rcases mem_of_mem_intercalate hr with hr | ⟨w, hw, hr⟩
  · exact absurd hr (by decide)
  · obtain ⟨f, hm, rfl⟩ := List.mem_map.mp hw
    exact (DataType.mem_signature (hf f (mem_of_mem_taken hm)) '&' hr).2 rfl

private theorem signature_eq_iff_of_not_isCopy (hc : c.isCopy = false) (he : e.isCopy = false) :
    c.signature className fields = e.signature className fields ↔
      (c.taken fields).map (·.type.key) = (e.taken fields).map (·.type.key) := by
  have hword {c : Constructor} : ∀ w ∈ (c.taken fields).map (·.type.signature.toList),
      w ≠ [] ∧ ',' ∉ w := by
    intro w hw
    obtain ⟨f, hm, rfl⟩ := List.mem_map.mp hw
    have hs := hf f (mem_of_mem_taken hm)
    exact ⟨DataType.signature_ne_nil hs, fun hr => (DataType.mem_signature hs ',' hr).1 rfl⟩
  rw [← String.toList_inj, toList_signature hc, toList_signature he, intercalate_inj hword hword]
  refine map_eq_map_iff_of_iff fun f hm g hg => ?_
  rw [String.toList_inj]
  exact DataType.signature_eq_iff (hf f (mem_of_mem_taken hm)) (hf g (mem_of_mem_taken hg))

/-- A signature is the spelling of a key. -/
theorem signature_eq_iff :
    c.signature className fields = e.signature className fields ↔ c.key fields = e.key fields := by
  unfold key
  cases hc : c.isCopy <;> cases he : e.isCopy
  · rw [signature_eq_iff_of_not_isCopy hf hc he]
    simp
  · rw [signature_of_isCopy he]
    exact iff_of_false (signature_ne_copySignature hf hc) (by simp)
  · rw [signature_of_isCopy hc]
    exact iff_of_false (signature_ne_copySignature hf he).symm (by simp)
  · rw [signature_of_isCopy hc, signature_of_isCopy he]
    simp

end Names

end Constructor

section Violations
variable {className : String} {fields : List Field} {seen : List String} {cs : List Constructor}

/-- Nothing is reported where the fields are known and no signature comes twice. -/
theorem constructorViolations_eq_nil_iff :
    constructorViolations className fields seen cs = [] ↔
      (∀ c ∈ cs, c.unknownFields className fields = []) ∧
        (cs.map (Constructor.signature className fields)).Nodup ∧
        ∀ s ∈ cs.map (Constructor.signature className fields), s ∉ seen := by
  induction cs generalizing seen with
  | nil => simp [constructorViolations]
  | cons c rest ih =>
    simp only [constructorViolations, List.append_eq_nil_iff, require_eq_nil_iff, ih, List.map_cons,
      List.nodup_cons, Bool.not_eq_true', List.contains_eq_mem, decide_eq_false_iff_not,
      List.mem_cons, not_or, forall_eq_or_imp]
    constructor
    · rintro ⟨⟨hu, hs⟩, hrest, hn, hseen⟩
      exact ⟨⟨hu, hrest⟩, ⟨fun hm => (hseen _ hm).1 rfl, hn⟩, hs, fun s hm => (hseen s hm).2⟩
    · rintro ⟨⟨hu, hrest⟩, ⟨hm, hn⟩, hs, hseen⟩
      exact ⟨⟨hu, hs⟩, hrest, hn, fun s hs => ⟨fun h => hm (h ▸ hs), hseen s hs⟩⟩

/-- Where the fields are known, nothing but a signature that comes twice is reported. -/
theorem eq_duplicateConstructor_of_mem {r : Rejection}
    (hu : ∀ c ∈ cs, c.unknownFields className fields = [])
    (hr : r ∈ constructorViolations className fields seen cs) :
    ∃ s, r = .structural (.duplicateConstructor className s) := by
  induction cs generalizing seen with
  | nil => exact absurd hr List.not_mem_nil
  | cons c rest ih =>
    obtain ⟨hc, hrest⟩ := List.forall_mem_cons.mp hu
    rw [constructorViolations, hc, List.nil_append, List.mem_append] at hr
    rcases hr with hr | hr
    · unfold require at hr
      split at hr
      · exact absurd hr List.not_mem_nil
      · exact ⟨_, List.mem_singleton.mp hr⟩
    · exact ih hrest hr

end Violations

namespace ClassNode

/-- The constructors of a class with the one that is written for it, which comes first. -/
def allConstructors (target : Target) (node : ClassNode) : List Constructor :=
  (if node.hasImplicitCopy target then [{ isCopy := true }] else []) ++ node.body.constructors

def constructorKeys (d : Diagram) (node : ClassNode) : List ConstructorKey :=
  (node.allConstructors d.target).map (Constructor.key (d.fields node))

def signatures (d : Diagram) (node : ClassNode) : List String :=
  (node.allConstructors d.target).map (Constructor.signature node.name (d.fields node))

/-- What the constructors take and the destructor releases are fields of the class. -/
structure NamesFields (d : Diagram) (node : ClassNode) : Prop where
  initialized : ∀ c ∈ node.body.constructors, ∀ id ∈ c.fields, ∃ f ∈ d.fields node, f.id = id
  released : ∀ destructor ∈ node.body.destructor, ∀ id ∈ destructor.fields,
    ∃ f ∈ d.fields node, f.id = id

variable {d : Diagram} {node : ClassNode}

theorem isSome_fieldPosition?_iff {fields : List Field} {id : String} :
    (fieldPosition? fields id).isSome = true ↔ ∃ f ∈ fields, f.id = id := by
  simp [fieldPosition?]

theorem namesFields_iff :
    node.NamesFields d ↔
      (∀ c ∈ node.body.constructors, c.unknownFields node.name (d.fields node) = []) ∧
        node.body.destructor.toList.flatMap (Destructor.unknownFields node.name (d.fields node)) = [] := by
  simp only [Constructor.unknownFields, Destructor.unknownFields, List.flatMap_eq_nil_iff,
    require_eq_nil_iff, isSome_fieldPosition?_iff, Option.mem_toList]
  exact ⟨fun h => ⟨h.initialized, h.released⟩, fun h => ⟨h.1, h.2⟩⟩

theorem signatures_eq (d : Diagram) (node : ClassNode) :
    node.signatures d = node.takenSignatures d.target ++
      node.body.constructors.map (Constructor.signature node.name (d.fields node)) := by
  unfold signatures allConstructors takenSignatures
  cases node.hasImplicitCopy d.target <;> rfl

theorem lifecycleViolations_eq_nil_iff :
    node.lifecycleViolations d = [] ↔ node.NamesFields d ∧ (node.signatures d).Nodup := by
  have htaken : (node.takenSignatures d.target).Nodup := by
    unfold takenSignatures
    split <;> simp
  rw [lifecycleViolations, List.append_eq_nil_iff, constructorViolations_eq_nil_iff, namesFields_iff,
    signatures_eq, List.nodup_append]
  constructor
  · rintro ⟨⟨hu, hn, hs⟩, hd⟩
    exact ⟨⟨hu, hd⟩, htaken, hn, fun s hm t ht he => hs t ht (he ▸ hm)⟩
  · rintro ⟨⟨hu, hd⟩, _, hn, hs⟩
    exact ⟨⟨hu, hn, fun t ht hm => hs t hm t ht rfl⟩, hd⟩

theorem eq_duplicateConstructor_of_mem_lifecycleViolations (h : node.NamesFields d) {r : Rejection}
    (hr : r ∈ node.lifecycleViolations d) :
    ∃ s, r = .structural (.duplicateConstructor node.name s) := by
  obtain ⟨hu, hd⟩ := namesFields_iff.mp h
  rw [lifecycleViolations, hd, List.append_nil] at hr
  exact eq_duplicateConstructor_of_mem hu hr

end ClassNode

namespace Diagram

/-- Whether constructors and destructors are in order, where all other references are. -/
def lifecycle (d : Diagram) : Except Rejection Unit :=
  verdict (d.classes.flatMap (ClassNode.lifecycleViolations d))

variable {d : Diagram} {registry : Registry} {node : ClassNode}

theorem lifecycle_eq_ok_iff :
    d.lifecycle = .ok () ↔ ∀ node ∈ d.classes, node.NamesFields d ∧ (node.signatures d).Nodup := by
  rw [lifecycle, verdict_eq_ok_iff, List.flatMap_eq_nil_iff]
  simp only [ClassNode.lifecycleViolations_eq_nil_iff]

theorem lifecycle_of_resolve {m : Model} (h : d.resolve = .ok m) : d.lifecycle = .ok () := by
  have hv := verdict_eq_ok_iff.mp (resolve_eq_ok_iff.mp h).2.1
  rw [Registry.classViolations, List.append_eq_nil_iff] at hv
  exact verdict_eq_ok_iff.mpr hv.2

/-- What holds of a class that names fields where it should holds of every resolved class. -/
theorem forall₂_classes_of_resolve {m : Model} {r : ClassNode → ModelClass → Prop}
    (h : d.resolve = .ok m)
    (hr : ∀ node placement, node.NamesFields d → r node (node.toModel d.registry placement)) :
    List.Forall₂ r d.classes m.classes := by
  have hnames := lifecycle_eq_ok_iff.mp (lifecycle_of_resolve h)
  obtain ⟨_, _, placement, _, rfl⟩ := resolve_eq_ok_iff.mp h
  apply forall₂_map_self
  intro node hnode
  exact hr node placement (hnames node hnode).1

private theorem nodup_signatures_iff (hf : ∀ f ∈ d.fields node, TypeSpelled f.type.name) :
    (node.signatures d).Nodup ↔ (node.constructorKeys d).Nodup :=
  nodup_map_iff_of_iff fun _ _ _ _ => Constructor.signature_eq_iff hf

private theorem accept_eq_error_of_lifecycle {r : Rejection} (hv : d.validate = .ok ())
    (hb : Registry.build d = .ok registry)
    (hp : verdict (d.classes.flatMap (ClassNode.parentViolations registry)) = .ok ())
    (hf : verdict (d.classes.flatMap (ClassNode.friendViolations registry)) = .ok ())
    (hr : d.lifecycle = .error r) : d.accept = .error r := by
  obtain ⟨_, rfl⟩ := build_eq_ok_iff.mp hb
  have hc : verdict d.registry.classViolations = .error r := by
    rw [Registry.classViolations, diagram_registry, verdict_eq_ok_iff.mp hp,
      verdict_eq_ok_iff.mp hf]
    exact hr
  rw [accept, hv, resolve, hb]
  simp only [bind, Except.bind, hc]

/-- Constructors are refused for looking the same if and only if two of one class have the same key,
where names are legal and references hold. The refusal is the one of the whole diagram. The keys are
what signatures spell: signatures of one class are equal only where the keys are. -/
theorem duplicateConstructor_iff_keys_repeat (hvalid : d.validate = .ok ())
    (hbuild : Registry.build d = .ok registry)
    (hparents : verdict (d.classes.flatMap (ClassNode.parentViolations registry)) = .ok ())
    (hfriends : verdict (d.classes.flatMap (ClassNode.friendViolations registry)) = .ok ())
    (hknown : ∀ node ∈ d.classes, node.NamesFields d) :
    ((∃ c s, d.lifecycle = .error (.structural (.duplicateConstructor c s))) ↔
        ∃ node ∈ d.classes, ¬ (node.constructorKeys d).Nodup) ∧
      (d.lifecycle = .ok () ↔ ∀ node ∈ d.classes, (node.constructorKeys d).Nodup) ∧
      (∀ r, d.lifecycle = .error r → d.accept = .error r) ∧
      ∀ node ∈ d.classes, ∀ c e : Constructor,
        c.signature node.name (d.fields node) = e.signature node.name (d.fields node) ↔
          c.key (d.fields node) = e.key (d.fields node) := by
  have hn := (build_eq_ok_iff.mp hbuild).1
  have hnames : ∀ node ∈ d.classes, ∀ f ∈ d.fields node, TypeSpelled f.type.name :=
    fun node hc f hf => Target.typeSpelled_of_isTypeName (isTypeName_fieldType hvalid hn hc hf)
  have hok : d.lifecycle = .ok () ↔ ∀ node ∈ d.classes, (node.constructorKeys d).Nodup := by
    rw [lifecycle_eq_ok_iff]
    refine forall₂_congr fun node hc => ?_
    rw [nodup_signatures_iff (hnames node hc), and_iff_right (hknown node hc)]
  refine ⟨⟨?_, ?_⟩, hok, fun r => accept_eq_error_of_lifecycle hvalid hbuild hparents hfriends,
    fun node hc c e => Constructor.signature_eq_iff (hnames node hc)⟩
  · rintro ⟨c, s, hr⟩
    by_contra h
    push Not at h
    rw [hok.mpr h] at hr
    cases hr
  · rintro ⟨node, hc, hk⟩
    cases hr : d.lifecycle with
    | ok => exact absurd (hok.mp hr node hc) hk
    | error r =>
      -- the first violation, as every other one, is a signature that comes twice
      obtain ⟨other, ho, hm⟩ := List.mem_flatMap.mp (List.mem_of_head? (verdict_eq_error_iff.mp hr))
      obtain ⟨s, rfl⟩ := ClassNode.eq_duplicateConstructor_of_mem_lifecycleViolations
        (hknown other ho) hm
      exact ⟨_, s, rfl⟩

/-- A buffer with two constructors that take it, one of which lists the length, too. -/
def bufferTakenTwice : Diagram where
  target := .cpp
  classes := [{ id := "b", body :=
    { name := "Buffer",
      properties := [
        { id := "d", name := "data", type :=
          { name := "unsigned int", isConst := true, pointers := [⟨true, true, "size"⟩] } },
        { id := "n", name := "name", type := { name := "char", dimensions := [⟨16, "used"⟩] } }],
      constructors := [
        { name := "named", fields := ["n", "d"] }, { name := "make", fields := ["d"] },
        { name := "sized", fields := ["d", "d.size"] }],
      destructor := some { fields := ["d"] },
      copyConstructor := true } }]

theorem duplicateConstructor_bufferTakenTwice :
    bufferTakenTwice.accept = .error (.structural
        (.duplicateConstructor "Buffer" "const unsigned int* const, unsigned int")) ∧
      ∃ node ∈ bufferTakenTwice.classes, ¬ (node.constructorKeys bufferTakenTwice).Nodup := by
  have hl : bufferTakenTwice.lifecycle = .error (.structural
      (.duplicateConstructor "Buffer" "const unsigned int* const, unsigned int")) := by
    decide +kernel
  have hknown : ∀ node ∈ bufferTakenTwice.classes, node.NamesFields bufferTakenTwice := by
    intro node hc
    rw [List.mem_singleton.mp hc, ClassNode.namesFields_iff]
    exact ⟨by decide +kernel, by decide +kernel⟩
  obtain ⟨hiff, -, hr, -⟩ := duplicateConstructor_iff_keys_repeat (by decide +kernel)
    (build_eq_ok_iff.mpr ⟨by decide +kernel, rfl⟩) (by decide +kernel) (by decide +kernel) hknown
  exact ⟨hr _ hl, hiff.mp ⟨_, _, hl⟩⟩

end Diagram

end ClassScaffold
