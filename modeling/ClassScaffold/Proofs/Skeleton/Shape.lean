import ClassScaffold.Json.Display
import ClassScaffold.Proofs.Basic
import Mathlib.Data.List.Forall2

namespace ClassScaffold

/-- What a template may rely on: that there is a value at all, a list, or members of a record. -/
inductive Shape where
  | plain
  | list (item : Shape)
  | record (fields : List (String × Shape))

namespace Shape

mutual

/-- Whether a value has a shape. A record may have further members. -/
def Fits : Shape → Json → Prop
  | .plain, _ => True
  | .list item, value => ∃ items, value = .list items ∧ ∀ v ∈ items, item.Fits v
  | .record fields, value => ∃ members, value = .record members ∧ FitsFields fields members

def FitsFields : List (String × Shape) → List (String × Json) → Prop
  | [], _ => True
  | (key, shape) :: rest, members =>
    (∃ v, members.reverse.lookup key = some v ∧ shape.Fits v) ∧ FitsFields rest members

end

/-- The shape of what a path leads to. -/
def descend : Shape → List String → Option Shape
  | shape, [] => some shape
  | .record fields, step :: steps => (fields.lookup step).bind (descend · steps)
  | _, _ :: _ => none

private theorem FitsFields.lookup {fields : List (String × Shape)} {members : List (String × Json)}
    {key : String} {shape : Shape} (h : FitsFields fields members)
    (hl : fields.lookup key = some shape) :
    ∃ v, members.reverse.lookup key = some v ∧ shape.Fits v := by
  induction fields with
  | nil => cases hl
  | cons field rest ih =>
    obtain ⟨name, first⟩ := field
    obtain ⟨hfirst, hrest⟩ := h
    by_cases hk : key = name
    · subst hk
      rw [List.lookup_cons_self] at hl
      cases hl
      exact hfirst
    · have hb : (key == name) = false := beq_false_of_ne hk
      rw [List.lookup_cons, hb] at hl
      exact ih hrest hl

/-- A path that a shape knows leads somewhere in every value of the shape. -/
theorem Fits.descend {shape inner : Shape} {value : Json} {steps : List String}
    (h : shape.Fits value) (hd : shape.descend steps = some inner) :
    ∃ v, value.descend steps = some v ∧ inner.Fits v := by
  induction steps generalizing shape value with
  | nil =>
    simp only [Shape.descend, Option.some.injEq] at hd
    exact ⟨value, by simp [Json.descend], hd ▸ h⟩
  | cons step steps ih =>
    cases shape with
    | plain | list => simp [Shape.descend] at hd
    | record fields =>
      obtain ⟨members, rfl, hf⟩ := h
      rw [Shape.descend, Option.bind_eq_some_iff] at hd
      obtain ⟨next, hl, hd⟩ := hd
      obtain ⟨v, hv, hn⟩ := hf.lookup hl
      obtain ⟨w, hw, hi⟩ := ih hn hd
      exact ⟨w, by simp [Json.descend, hv, hw], hi⟩

/-- Whether a member is the one that a field stands for. -/
def FieldFits (field : String × Shape) (member : String × Json) : Prop :=
  field.1 = member.1 ∧ field.2.Fits member.2

/-- With distinct keys it is enough that the members are those of the fields, one by one. -/
theorem fits_record {fields : List (String × Shape)} {members : List (String × Json)}
    (hn : (fields.map Prod.fst).Nodup) (h : List.Forall₂ FieldFits fields members) :
    (Shape.record fields).Fits (.record members) := by
  have hkeys : members.map Prod.fst = fields.map Prod.fst := by
    clear hn
    induction h with
    | nil => rfl
    | cons hf _ ih => rw [List.map_cons, List.map_cons, hf.1, ih]
  have hr : (members.reverse.map Prod.fst).Nodup := by
    rw [List.map_reverse, hkeys]
    exact List.nodup_reverse.mpr hn
  have hall : ∀ field ∈ fields, ∃ v, (field.1, v) ∈ members ∧ field.2.Fits v := by
    clear hn hkeys hr
    induction h with
    | nil => simp
    | @cons field member _ _ hf _ ih =>
      intro other ho
      rcases List.mem_cons.mp ho with rfl | ho
      · exact ⟨member.2, by rw [hf.1]; exact List.mem_cons_self, hf.2⟩
      · obtain ⟨v, hv, hfit⟩ := ih other ho
        exact ⟨v, List.mem_cons_of_mem _ hv, hfit⟩
  refine ⟨members, rfl, ?_⟩
  clear h hn hkeys
  induction fields with
  | nil => trivial
  | cons field rest ih =>
    obtain ⟨v, hv, hf⟩ := hall field List.mem_cons_self
    exact ⟨⟨v, (lookup_eq_some_iff_mem hr).mpr (List.mem_reverse.mpr hv), hf⟩,
      ih fun f hm => hall f (List.mem_cons_of_mem _ hm)⟩

theorem fits_list {α : Type} {item : Shape} {encode : α → Json} (h : ∀ a, item.Fits (encode a))
    (values : List α) : (Shape.list item).Fits (.list (values.map encode)) := by
  refine ⟨_, rfl, fun v hv => ?_⟩
  obtain ⟨a, _, rfl⟩ := List.mem_map.mp hv
  exact h a

theorem fits_plain (value : Json) : Shape.plain.Fits value :=
  trivial

theorem fits_texts (texts : List String) : (Shape.list .plain).Fits (.texts texts) :=
  fits_list (fun _ => fits_plain _) texts

end Shape

end ClassScaffold
