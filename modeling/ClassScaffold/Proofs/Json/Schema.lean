import ClassScaffold.Json.Decoding
import ClassScaffold.Proofs.Basic

/-! Layouts of types in JSON, and what may be done to the JSON form of a value without changing what
is read from it. -/
namespace ClassScaffold

/-- A value without parts, a list, a value or `null`, or a structure. A field of a structure has a
key and, where it may be left out, the value that it has then. -/
inductive Schema where
  | plain
  | list (item : Schema)
  | nullable (inner : Schema)
  | structure (fields : List (String × Option Json × Schema))

namespace Schema

/-- The members of the fields that are given. -/
def givenMembers : List String → List (Option Json) → List (String × Json)
  | key :: keys, slot :: slots => (slot.map (key, ·)).toList ++ givenMembers keys slots
  | _, _ => []

mutual

/-- The second value is the first one with any number of its structures changed: fields that have
their default left out, members in another order and among others that name no field, or the fields
alone, as a list in which the last ones may be missing. -/
inductive Alters : Schema → Json → Json → Prop
  | plain {value : Json} : Alters .plain value value
  | list {item : Schema} {items items' : List Json} (h : AltersItems item items items') :
    Alters (.list item) (.list items) (.list items')
  | null {inner : Schema} : Alters (.nullable inner) .null .null
  | present {inner : Schema} {value value' : Json} (hn : value ≠ .null)
    (h : Alters inner value value') : Alters (.nullable inner) value value'
  | record {fields : List (String × Option Json × Schema)} {members : List (String × Json)}
    {slots : List (Option Json)} {members' : List (String × Json)} (extra : List (String × Json))
    (h : AltersFields fields members slots)
    (hp : members'.Perm (givenMembers (fields.map (·.1)) slots ++ extra))
    (he : ∀ member ∈ extra, member.1 ∉ fields.map (·.1)) :
    Alters (.structure fields) (.record members) (.record members')
  | array {fields : List (String × Option Json × Schema)} {members : List (String × Json)}
    {given : List Json} (missing : Nat)
    (h : AltersFields fields members (given.map some ++ List.replicate missing none)) :
    Alters (.structure fields) (.record members) (.list given)

inductive AltersItems : Schema → List Json → List Json → Prop
  | nil {item : Schema} : AltersItems item [] []
  | cons {item : Schema} {value value' : Json} {items items' : List Json}
    (h : Alters item value value') (hs : AltersItems item items items') :
    AltersItems item (value :: items) (value' :: items')

/-- What may stand in the place of a field: a value, or nothing for the default. -/
inductive AltersField : Option Json → Schema → Json → Option Json → Prop
  | given {default? : Option Json} {schema : Schema} {value value' : Json}
    (h : Alters schema value value') : AltersField default? schema value (some value')
  | omitted {schema : Schema} {value : Json} : AltersField (some value) schema value none

/-- One slot for every field, in the order of the fields. -/
inductive AltersFields :
    List (String × Option Json × Schema) → List (String × Json) → List (Option Json) → Prop
  | nil : AltersFields [] [] []
  | cons {key : String} {default? : Option Json} {schema : Schema} {value : Json}
    {slot : Option Json} {fields : List (String × Option Json × Schema)}
    {members : List (String × Json)} {slots : List (Option Json)}
    (h : AltersField default? schema value slot) (hs : AltersFields fields members slots) :
    AltersFields ((key, default?, schema) :: fields) ((key, value) :: members) (slot :: slots)

end

section Slots
variable {fields : List (String × Option Json × Schema)} {members : List (String × Json)}
  {slots : List (Option Json)}

private theorem AltersFields.length_eq (h : AltersFields fields members slots) :
    fields.length = slots.length := by
  induction fields generalizing members slots with
  | nil => cases h; rfl
  | cons field fields ih =>
    cases h with
    | cons _ hs => rw [List.length_cons, List.length_cons, ih hs]

private theorem key_mem_of_mem_givenMembers {keys : List String} {member : String × Json}
    (h : member ∈ givenMembers keys slots) : member.1 ∈ keys := by
  induction keys, slots using givenMembers.induct with
  | case1 key keys slot slots ih =>
    rw [givenMembers, List.mem_append] at h
    rcases h with h | h
    · cases slot with
      | none => cases h
      | some value => exact List.mem_cons.mpr (.inl (congrArg Prod.fst (List.mem_singleton.mp h)))
    · exact List.mem_cons_of_mem _ (ih h)
  | case2 keys slots hn =>
    rw [givenMembers.eq_2 _ _ hn] at h
    cases h

private theorem filter_key_eq_nil {key : String} (h : ∀ member ∈ members, member.1 ≠ key) :
    members.filter (·.1 == key) = [] := by
  simpa [List.filter_eq_nil_iff] using fun k v hm => h (k, v) hm

/-- Every field finds what is given for it, whatever stands around these members. -/
private theorem forall₂_member? {keys : List String} {extra : List (String × Json)}
    (before : List (String × Json)) (hl : keys.length = slots.length) (hn : keys.Nodup)
    (hb : ∀ member ∈ before, member.1 ∉ keys)
    (he : ∀ member ∈ extra, member.1 ∉ keys)
    (hp : members.Perm (before ++ (givenMembers keys slots ++ extra))) :
    List.Forall₂ (fun key slot => Json.member? members key = some slot) keys slots := by
  induction keys generalizing slots before with
  | nil =>
    obtain rfl := List.eq_nil_of_length_eq_zero hl.symm
    exact .nil
  | cons key keys ih =>
    obtain ⟨slot, slots, rfl⟩ := List.exists_cons_of_length_eq_add_one hl.symm
    obtain ⟨hk, hn⟩ := List.nodup_cons.mp hn
    rw [givenMembers, List.append_assoc] at hp
    refine .cons ?_ (ih (before ++ (slot.map (key, ·)).toList) (by simpa using hl) hn ?_
      (fun member hm h => he member hm (List.mem_cons_of_mem _ h)) (by rwa [List.append_assoc]))
    · have hfilter := hp.filter (·.1 == key)
      rw [List.filter_append, List.filter_append, List.filter_append,
        filter_key_eq_nil fun member hm h => hb member hm (h ▸ List.mem_cons_self),
        filter_key_eq_nil fun member hm h => hk (h.subst (key_mem_of_mem_givenMembers hm)),
        filter_key_eq_nil fun member hm h => he member hm (h ▸ List.mem_cons_self)] at hfilter
      rw [Json.member?]
      cases slot with
      | none => rw [List.perm_nil.mp hfilter]
      | some value =>
        have hone : [(key, value)].filter (·.1 == key) = [(key, value)] := by simp
        rw [Option.map_some, Option.toList_some, hone] at hfilter
        rw [List.perm_singleton.mp hfilter]
    · intro member hm h
      rcases List.mem_append.mp hm with hm | hm
      · exact hb member hm (List.mem_cons_of_mem _ h)
      · cases slot with
        | none => cases hm
        | some value =>
          cases List.mem_singleton.mp hm
          exact hk h

/-- Whatever was done to a structure, its fields are found. -/
theorem Alters.slots_eq {j : Json} (h : Alters (.structure fields) (.record members) j)
    (hn : (fields.map (·.1)).Nodup) :
    ∃ slots, Json.slots (fields.map (·.1)) j = some slots ∧ AltersFields fields members slots := by
  cases h with
  | record extra h hp he =>
    refine ⟨_, mapM_eq_some_of_forall₂ (forall₂_member? [] ?_ hn (by simp) he hp), h⟩
    rw [List.length_map, h.length_eq]
  | array missing h =>
    have hl := h.length_eq
    rw [List.length_append, List.length_map, List.length_replicate] at hl
    refine ⟨_, ?_, h⟩
    rw [Json.slots, List.length_map, if_pos (by omega), hl, Nat.add_sub_cancel_left]

end Slots

section Reading
variable {schema : Schema} {default? : Option Json} {value : Json}

@[simp] theorem altersFields_nil_iff {members : List (String × Json)} {slots : List (Option Json)} :
    AltersFields [] members slots ↔ members = [] ∧ slots = [] :=
  ⟨fun h => by cases h; exact ⟨rfl, rfl⟩, fun ⟨hm, hs⟩ => hm ▸ hs ▸ .nil⟩

@[simp] theorem altersFields_cons_iff {key key' : String}
    {fields : List (String × Option Json × Schema)} {members : List (String × Json)}
    {slots : List (Option Json)} :
    AltersFields ((key, default?, schema) :: fields) ((key', value) :: members) slots ↔
      key' = key ∧ ∃ slot rest, slots = slot :: rest ∧ AltersField default? schema value slot ∧
        AltersFields fields members rest := by
  constructor
  · intro h
    cases h with
    | cons h hs => exact ⟨rfl, _, _, rfl, h, hs⟩
  · rintro ⟨rfl, slot, rest, rfl, h, hs⟩
    exact .cons h hs

private theorem Alters.ne_null : ∀ {schema : Schema} {value j : Json}, Alters schema value j →
    value ≠ .null → j ≠ .null
  | .plain, _, _, h, hn => by
    cases h
    exact hn
  | .list _, _, _, h, _ => by
    cases h
    exact nofun
  | .nullable _, _, _, h, hn => by
    cases h with
    | null => exact hn
    | present _ h => exact h.ne_null hn
  | .structure _, _, _, h, _ => by
    cases h <;> exact nofun

end Reading

section Unchanged

private theorem givenMembers_whole (members : List (String × Json)) :
    givenMembers (members.map (·.1)) (members.map (some ·.2)) = members := by
  induction members with
  | nil => rfl
  | cons member members ih =>
    rw [List.map_cons, List.map_cons, givenMembers, ih]
    rfl

private theorem AltersFields.keys_eq {fields : List (String × Option Json × Schema)}
    {members : List (String × Json)} {slots : List (Option Json)}
    (h : AltersFields fields members slots) : fields.map (·.1) = members.map (·.1) := by
  induction fields generalizing members slots with
  | nil => cases h; rfl
  | cons field fields ih =>
    cases h with
    | cons _ hs => rw [List.map_cons, List.map_cons, ih hs]

theorem Alters.whole {fields : List (String × Option Json × Schema)}
    {members : List (String × Json)} (h : AltersFields fields members (members.map (some ·.2))) :
    Alters (.structure fields) (.record members) (.record members) := by
  refine .record [] h ?_ (by simp)
  rw [h.keys_eq, givenMembers_whole, List.append_nil]

end Unchanged

/-- What is written for a value is read as this value, however it was changed. -/
structure Decodes {α : Type} (schema : Schema) (encode : α → Json) (decode : Json → Option α) :
    Prop where
  same (a : α) : schema.Alters (encode a) (encode a)
  reads {a : α} {j : Json} (h : schema.Alters (encode a) j) : decode j = some a

namespace Decodes
variable {α : Type} {schema : Schema} {encode : α → Json} {decode : Json → Option α}

theorem plain (h : ∀ a, decode (encode a) = some a) : Decodes .plain encode decode where
  same _ := .plain
  reads ha := by
    cases ha
    exact h _

theorem text : Decodes .plain Json.text Json.text? :=
  plain fun _ => rfl

theorem bool : Decodes .plain Json.bool Json.bool? :=
  plain fun _ => rfl

theorem uint32 : Decodes .plain (fun n : UInt32 => Json.nat n.toNat) Json.uint32? := by
  refine plain fun n => ?_
  have hlt : (n.toNat : Int) < UInt32.size := Int.ofNat_lt.mpr n.toNat_lt
  rw [Json.nat, Json.uint32?, if_pos ⟨Int.natCast_nonneg _, hlt⟩, Int.toNat_natCast,
    UInt32.ofNat_toNat]

theorem list (hd : Decodes schema encode decode) :
    Decodes (.list schema) (fun values => .list (values.map encode)) (Json.listOf decode) where
  same values := by
    refine .list ?_
    induction values with
    | nil => exact .nil
    | cons a values ih => exact .cons (hd.same a) ih
  reads {values j} h := by
    cases h with
    | list h =>
      rename_i items
      rw [Json.listOf]
      refine mapM_eq_some_of_forall₂ ?_
      induction values generalizing items with
      | nil => cases h; exact .nil
      | cons a values ih =>
        cases h with
        | cons h hs => exact .cons (hd.reads h) (ih hs)

theorem texts : Decodes (.list .plain) Json.texts (Json.listOf Json.text?) :=
  text.list

theorem nullable (hd : Decodes schema encode decode) (hn : ∀ a, encode a ≠ .null) :
    Decodes (.nullable schema) (Json.optional encode) (Json.nullable decode) where
  same a? := by
    cases a? with
    | none => exact .null
    | some a => exact .present (hn a) (hd.same a)
  reads {a? j} h := by
    cases a? with
    | none =>
      cases h with
      | null => rfl
      | present hv => exact absurd rfl hv
    | some a =>
      have hj : schema.Alters (encode a) j := by
        change Alters (.nullable schema) (encode a) j at h
        generalize hv : encode a = value at h ⊢
        cases h with
        | null => exact absurd hv (hn a)
        | present _ h => exact h
      rw [Json.nullable, hd.reads hj]
      · rfl
      · exact hj.ne_null (hn a)

section Fields
variable {a : α} {slot : Option Json} (hd : Decodes schema encode decode)
include hd

theorem required (h : AltersField none schema (encode a) slot) :
    Json.required decode slot = some a := by
  cases h with
  | given h => exact hd.reads h

theorem orElse (fallback : α)
    (h : AltersField (some (encode fallback)) schema (encode a) slot) :
    Json.orElse fallback decode slot = some a := by
  generalize hg : encode fallback = given, hv : encode a = value at h
  cases h with
  | given h => exact hd.reads (hv ▸ h)
  | omitted =>
    -- two values that are written alike are read alike
    have ha := hd.reads (hd.same a)
    rw [hv, ← hg, hd.reads (hd.same fallback)] at ha
    exact ha

end Fields

end Decodes

end Schema

end ClassScaffold
