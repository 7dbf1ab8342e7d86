import ClassScaffold.Validation

/-! Violations by place. A place is a list of positions from the outside in, and of two places the one
is first that comes first where they part. Lists of violations that are put together in the order of
the places start with the one at the first place. -/
namespace ClassScaffold

/-- Something is wrong at the place, and nothing is wrong at a place before it. -/
def IsFirst (wrong : List Nat → Rejection → Prop) (place : List Nat) (r : Rejection) : Prop :=
  wrong place r ∧ ∀ other s, wrong other s → ¬ List.Lex (· < ·) other place

/-- The list is empty only where nothing is wrong, and it starts with what is wrong first. -/
structure Reports (wrong : List Nat → Rejection → Prop) (found : List Rejection) : Prop where
  nothing : found = [] → ∀ place r, ¬ wrong place r
  first : ∀ r, found.head? = some r → ∃ place, IsFirst wrong place r

namespace Reports
variable {wrong : List Nat → Rejection → Prop} {found : List Rejection} {r : Rejection}

theorem congr {others : List Nat → Rejection → Prop} (h : Reports wrong found)
    (hw : ∀ place s, wrong place s ↔ others place s) : Reports others found := by
  have heq : wrong = others := funext fun place => funext fun s => propext (hw place s)
  exact heq ▸ h

theorem check {condition : Bool} {holds : Prop} (hc : condition = true ↔ holds)
    (hwrong : ¬ holds → wrong [] r) (honly : ∀ place s, wrong place s → ¬ holds) :
    Reports wrong (require condition r) where
  nothing := by
    intro hnil place s hs
    have hholds : holds := hc.mp (require_eq_nil_iff.mp hnil)
    exact honly place s hs hholds
  first := by
    intro s hs
    cases condition with
    | true => cases hs
    | false =>
      cases hs
      have hfails : ¬ holds := fun h => Bool.false_ne_true (hc.mpr h)
      refine ⟨[], hwrong hfails, ?_⟩
      rintro _ _ _ ⟨⟩

/-- Parts one after the other report what is wrong in the first of them that is not in order. -/
theorem join {parts : List (List Rejection)}
    (hparts : ∀ i part, parts[i]? = some part → Reports (fun place => wrong (i :: place)) part)
    (hplaces : ∀ place s, wrong place s → ∃ i part inner, parts[i]? = some part ∧ place = i :: inner) :
    Reports wrong parts.flatten where
  nothing := by
    intro hnil place s hs
    obtain ⟨i, part, inner, hpart, rfl⟩ := hplaces place s hs
    have hempty : part = [] := List.flatten_eq_nil_iff.mp hnil part (List.mem_of_getElem? hpart)
    exact (hparts i part hpart).nothing hempty inner s hs
  first := by
    intro s hs
    rw [List.head?_flatten, List.findSome?_eq_some_iff] at hs
    obtain ⟨before, part, after, rfl, hhead, hbefore⟩ := hs
    obtain ⟨inner, hwrong, hfirst⟩ :=
      (hparts before.length part (by simp)).first s hhead
    refine ⟨before.length :: inner, hwrong, ?_⟩
    intro other t ht
    obtain ⟨j, part', inner', hpart', rfl⟩ := hplaces other t ht
    rw [List.cons_lex_cons_iff]
    rintro (hlt | ⟨rfl, hlex⟩)
    · -- what stands before the part is in order
      have hmem : part' ∈ before := by
        rw [List.getElem?_append_left hlt] at hpart'
        exact List.mem_of_getElem? hpart'
      have hempty : part' = [] := List.head?_eq_none_iff.mp (hbefore part' hmem)
      exact (hparts j part' hpart').nothing hempty inner' t ht
    · exact hfirst inner' t ht hlex

/-- The same for items that are looked through one after the other. -/
theorem flatMap {α : Type} {items : List α} {violations : α → List Rejection}
    {inside : α → List Nat → Rejection → Prop} (hitems : ∀ a, Reports (inside a) (violations a))
    (hwrong : ∀ place s, wrong place s ↔
      ∃ i a inner, items[i]? = some a ∧ place = i :: inner ∧ inside a inner s) :
    Reports wrong (items.flatMap violations) := by
  rw [List.flatMap_def]
  apply join
  · intro i part hpart
    rw [List.getElem?_map, Option.map_eq_some_iff] at hpart
    obtain ⟨a, ha, rfl⟩ := hpart
    apply (hitems a).congr
    intro place s
    rw [hwrong]
    constructor
    · intro hs
      exact ⟨i, a, place, ha, rfl, hs⟩
    · rintro ⟨_, b, _, hb, ⟨⟩, hs⟩
      cases ha.symm.trans hb
      exact hs
  · intro place s hs
    obtain ⟨i, a, inner, ha, rfl, _⟩ := (hwrong place s).mp hs
    exact ⟨i, violations a, inner, by rw [List.getElem?_map, ha, Option.map_some], rfl⟩

theorem checks {α : Type} {items : List α} {condition : α → Bool} {rejection : α → Rejection}
    {holds : α → Prop} (hc : ∀ a, condition a = true ↔ holds a)
    (hwrong : ∀ place s, wrong place s ↔
      ∃ i a, items[i]? = some a ∧ place = [i] ∧ ¬ holds a ∧ s = rejection a) :
    Reports wrong (items.flatMap fun a => require (condition a) (rejection a)) := by
  have hitem (a : α) : Reports (fun place s => place = [] ∧ ¬ holds a ∧ s = rejection a)
      (require (condition a) (rejection a)) :=
    check (hc a) (fun hfails => ⟨rfl, hfails, rfl⟩) (fun _ _ hs => hs.2.1)
  apply flatMap hitem
  intro place s
  rw [hwrong]
  refine exists_congr fun i => exists_congr fun a => ?_
  constructor
  · rintro ⟨ha, rfl, hfails, rfl⟩
    exact ⟨[], ha, rfl, rfl, hfails, rfl⟩
  · rintro ⟨_, ha, rfl, rfl, hfails, rfl⟩
    exact ⟨ha, rfl, hfails, rfl⟩

theorem verdict_ok_iff (h : Reports wrong found) :
    verdict found = .ok () ↔ ∀ place s, ¬ wrong place s := by
  rw [verdict_eq_ok_iff]
  constructor
  · exact h.nothing
  · intro hnone
    cases found with
    | nil => rfl
    | cons s rest =>
      obtain ⟨place, hwrong, _⟩ := h.first s rfl
      exact absurd hwrong (hnone place s)

/-- Where one thing at most is wrong at each place, the verdict is what is wrong first. -/
theorem verdict_error_iff (h : Reports wrong found)
    (hone : ∀ place s t, wrong place s → wrong place t → s = t) :
    verdict found = .error r ↔ ∃ place, IsFirst wrong place r := by
  rw [verdict_eq_error_iff]
  refine ⟨h.first r, ?_⟩
  rintro ⟨place, hwrong, hfirst⟩
  cases found with
  | nil => exact absurd hwrong (h.nothing rfl place r)
  | cons s rest =>
    obtain ⟨place', hwrong', hfirst'⟩ := h.first s rfl
    have hplace : place = place' := List.lex_trichotomous (fun _ _ => by omega)
      (hfirst place' s hwrong') (hfirst' place r hwrong)
    rw [List.head?_cons, hone place r s hwrong (hplace ▸ hwrong')]

end Reports

end ClassScaffold
