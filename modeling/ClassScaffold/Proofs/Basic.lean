import Mathlib.Data.List.Nodup
import Mathlib.Data.List.Perm.Basic

/-! Lists with distinct keys, lists without repetitions, and steps in sequence. -/
namespace ClassScaffold

/-- With distinct keys a look-up finds exactly the pairs of the list. -/
theorem lookup_eq_some_iff_mem {α β : Type} [BEq α] [LawfulBEq α] {pairs : List (α × β)} {key : α}
    {value : β} (hn : (pairs.map Prod.fst).Nodup) :
    pairs.lookup key = some value ↔ (key, value) ∈ pairs := by
  induction pairs with
  | nil => simp
  | cons pair rest ih =>
    obtain ⟨k, v⟩ := pair
    rw [List.map_cons, List.nodup_cons] at hn
    by_cases hk : key = k
    · subst hk
      have hr : (key, value) ∉ rest := fun hm => hn.1 (List.mem_map.mpr ⟨_, hm, rfl⟩)
      simp [hr, eq_comm]
    · have hb : (key == k) = false := beq_false_of_ne hk
      simp [List.lookup_cons, hb, hk, ih hn.2]

theorem mem_of_lookup {α β : Type} [BEq α] [LawfulBEq α] {pairs : List (α × β)} {key : α} {value : β}
    (h : pairs.lookup key = some value) : (key, value) ∈ pairs := by
  obtain ⟨before, after, rfl, -⟩ := List.lookup_eq_some_iff.mp h
  exact List.mem_append_right _ List.mem_cons_self

section Key
variable {α β : Type} [BEq β] [LawfulBEq β] {key : α → β} {items others : List α}

theorem find?_key_eq_some_iff (hn : (items.map key).Nodup) {k : β} {a : α} :
    items.find? (fun a => key a == k) = some a ↔ a ∈ items ∧ key a = k := by
  constructor
  · intro h
    exact ⟨List.mem_of_find?_eq_some h, by simpa using List.find?_some h⟩
  · rintro ⟨hm, rfl⟩
    have hs : (items.find? (fun b => key b == key a)).isSome :=
      List.find?_isSome.mpr ⟨a, hm, beq_self_eq_true _⟩
    obtain ⟨b, hb⟩ := Option.isSome_iff_exists.mp hs
    have hk : key b = key a := by simpa using List.find?_some hb
    rw [hb, List.inj_on_of_nodup_map hn (List.mem_of_find?_eq_some hb) hm hk]

/-- What a search by key finds does not depend on the order. -/
theorem find?_key_of_perm (hp : items.Perm others) (hn : (items.map key).Nodup) (k : β) :
    items.find? (fun a => key a == k) = others.find? (fun a => key a == k) := by
  refine Option.ext fun a => ?_
  rw [find?_key_eq_some_iff hn, find?_key_eq_some_iff ((hp.map key).nodup_iff.mp hn), hp.mem_iff]

end Key

theorem nodup_eraseDups {α : Type} [BEq α] [LawfulBEq α] : ∀ items : List α, items.eraseDups.Nodup
  | [] => by simp
  | item :: rest => by
    rw [List.eraseDups_cons, List.nodup_cons]
    exact ⟨by simp, nodup_eraseDups _⟩
termination_by items => items.length
decreasing_by
  have := List.length_filter_le (fun other => !other == item) rest
  simp only [List.length_cons]
  omega

theorem eraseDups_of_nodup {α : Type} [BEq α] [LawfulBEq α] {items : List α} (hn : items.Nodup) :
    items.eraseDups = items := by
  induction items with
  | nil => rfl
  | cons item rest ih =>
    obtain ⟨hi, hr⟩ := List.nodup_cons.mp hn
    have hfilter : rest.filter (fun other => !other == item) = rest := by
      apply List.filter_eq_self.mpr
      intro other ho
      have hne : other ≠ item := by
        rintro rfl
        exact hi ho
      simpa using hne
    rw [List.eraseDups_cons, hfilter, ih hr]

/-- What is found for every element is found in their order. -/
theorem forall₂_filterMap {α β : Type} {find : α → Option β} {items : List α}
    (h : ∀ a ∈ items, (find a).isSome = true) :
    List.Forall₂ (fun a b => find a = some b) items (items.filterMap find) := by
  induction items with
  | nil => exact .nil
  | cons a rest ih =>
    obtain ⟨ha, hr⟩ := List.forall_mem_cons.mp h
    obtain ⟨b, hb⟩ := Option.isSome_iff_exists.mp ha
    rw [List.filterMap_cons_some hb]
    exact .cons hb (ih hr)

theorem forall₂_map_self {α β : Type} {r : α → β → Prop} {f : α → β} {items : List α}
    (h : ∀ a ∈ items, r a (f a)) : List.Forall₂ r items (items.map f) := by
  apply List.forall₂_map_right_iff.mpr
  exact List.forall₂_same.mpr h

theorem rel_map_self {α β : Type} {r : α → β → Prop} {f : α → β} {o : Option α}
    (h : ∀ a ∈ o, r a (f a)) : Option.Rel r o (o.map f) := by
  cases o with
  | none => exact .none
  | some a => exact .some (h a rfl)

theorem exists_of_forall₂ {α β : Type} {r : α → β → Prop} {items : List α} {others : List β} {a : α}
    (h : List.Forall₂ r items others) (hm : a ∈ items) : ∃ b ∈ others, r a b := by
  induction h with
  | nil => exact absurd hm List.not_mem_nil
  | cons hr _ ih =>
    rcases List.mem_cons.mp hm with rfl | hm
    · exact ⟨_, List.mem_cons_self, hr⟩
    · obtain ⟨b, hb, hr⟩ := ih hm
      exact ⟨b, List.mem_cons_of_mem _ hb, hr⟩

theorem map_eq_of_forall₂ {α β γ : Type} {r : α → β → Prop} {f : α → γ} {g : β → γ}
    {items : List α} {others : List β} (h : List.Forall₂ r items others)
    (hfg : ∀ a b, r a b → f a = g b) : items.map f = others.map g := by
  induction h with
  | nil => rfl
  | cons hr _ ih => rw [List.map_cons, List.map_cons, ih, hfg _ _ hr]

/-- A filter that only lets through what is related to nothing but itself. -/
theorem filter_eq_of_forall₂ {α : Type} {r : α → α → Prop} {p : α → Bool} {items others : List α}
    (h : List.Forall₂ r items others) (hp : ∀ a b, r a b → p b = p a ∧ (p a = true → b = a)) :
    others.filter p = items.filter p := by
  induction h with
  | nil => rfl
  | cons hr _ ih =>
    obtain ⟨hsame, heq⟩ := hp _ _ hr
    rw [List.filter_cons, List.filter_cons, hsame, ih]
    split
    · rename_i hpa
      rw [heq hpa]
    · rfl

theorem mem_of_forall₂ {α β : Type} {r : α → β → Prop} {items : List α} {others : List β}
    (h : List.Forall₂ r items others) :
    List.Forall₂ (fun a b => a ∈ items ∧ b ∈ others ∧ r a b) items others := by
  obtain ⟨hlength, hr⟩ := List.forall₂_iff_zip.mp h
  refine List.forall₂_iff_zip.mpr ⟨hlength, fun hm => ?_⟩
  obtain ⟨ha, hb⟩ := List.of_mem_zip hm
  exact ⟨ha, hb, hr hm⟩

theorem rel_find? {α β : Type} {r : α → β → Prop} {p : α → Bool} {q : β → Bool} {items : List α}
    {others : List β} (h : List.Forall₂ r items others) (hpq : ∀ a b, r a b → q b = p a) :
    Option.Rel r (items.find? p) (others.find? q) := by
  induction h with
  | nil => exact .none
  | @cons a b _ _ hr _ ih =>
    rw [List.find?_cons, List.find?_cons, hpq a b hr]
    cases p a with
    | true => exact .some hr
    | false => exact ih

theorem map_eq_of_rel {α β γ : Type} {r : α → β → Prop} {f : α → γ} {g : β → γ} {a : Option α}
    {b : Option β} (h : Option.Rel r a b) (hfg : ∀ a b, r a b → g b = f a) : b.map g = a.map f := by
  cases h with
  | none => rfl
  | some hr => rw [Option.map_some, Option.map_some, hfg _ _ hr]

theorem forall₂_set {α : Type} {r : α → α → Prop} {items : List α} {i : Nat} {a b : α}
    (ha : items[i]? = some a) (hr : r a b) (hrest : ∀ k x, items[k]? = some x → k ≠ i → r x x) :
    List.Forall₂ r items (items.set i b) := by
  refine List.forall₂_iff_get.mpr ⟨List.length_set.symm, fun k hk hk' => ?_⟩
  rw [List.get_eq_getElem, List.get_eq_getElem, List.getElem_set]
  split
  · rename_i hki
    subst hki
    rwa [(List.getElem?_eq_some_iff.mp ha).2]
  · rename_i hki
    exact hrest k _ (List.getElem?_eq_getElem hk) (Ne.symm hki)

theorem map_set_of_eq {α β : Type} {f : α → β} {items : List α} {i : Nat} {a b : α}
    (ha : items[i]? = some a) (hf : f b = f a) : (items.set i b).map f = items.map f := by
  have hr : List.Forall₂ (fun x y => f x = f y) items (items.set i b) :=
    forall₂_set ha hf.symm fun _ _ _ _ => rfl
  exact (map_eq_of_forall₂ hr fun _ _ h => h).symm

theorem mapM_eq_some_of_forall₂ {α β : Type} {step : α → Option β} {items : List α}
    {results : List β} (h : List.Forall₂ (fun a b => step a = some b) items results) :
    items.mapM step = some results := by
  induction h with
  | nil => rfl
  | cons hs _ ih =>
    rw [List.mapM_cons, hs, ih]
    rfl

/-- Where elements stop to have a property, a list falls apart in one way. -/
theorem append_cut_iff {α : Type} {p : α → Bool} {xs ys rest others : List α}
    (hx : ∀ x ∈ xs, p x = true) (hy : ∀ y ∈ ys, p y = true) (hr : ∀ z ∈ rest.head?, p z = false)
    (ho : ∀ z ∈ others.head?, p z = false) :
    xs ++ rest = ys ++ others ↔ xs = ys ∧ rest = others := by
  refine ⟨fun h => ?_, fun ⟨hxy, hro⟩ => by rw [hxy, hro]⟩
  induction xs generalizing ys with
  | nil =>
    cases ys with
    | nil => exact ⟨rfl, h⟩
    | cons y ys =>
      have hpy := hy y List.mem_cons_self
      rw [hr y (by rw [List.nil_append] at h; rw [h]; rfl)] at hpy
      cases hpy
  | cons x xs ih =>
    cases ys with
    | nil =>
      have hpx := hx x List.mem_cons_self
      rw [ho x (by rw [List.nil_append] at h; rw [← h]; rfl)] at hpx
      cases hpx
    | cons y ys =>
      rw [List.cons_append, List.cons_append, List.cons.injEq] at h
      obtain ⟨rfl, h⟩ := h
      obtain ⟨rfl, hro⟩ := ih (fun z hz => hx z (List.mem_cons_of_mem _ hz))
        (fun z hz => hy z (List.mem_cons_of_mem _ hz)) h
      exact ⟨rfl, hro⟩

theorem mem_of_mem_intercalate {α : Type} {a : α} {separator : List α} {words : List (List α)}
    (h : a ∈ separator.intercalate words) : a ∈ separator ∨ ∃ w ∈ words, a ∈ w := by
  induction words with
  | nil => exact absurd h (by simp)
  | cons w ws ih =>
    cases ws with
    | nil =>
      rw [List.intercalate_singleton] at h
      exact .inr ⟨w, List.mem_cons_self, h⟩
    | cons v vs =>
      rw [List.intercalate_cons_cons, List.mem_append, List.mem_append] at h
      rcases h with (h | h) | h
      · exact .inr ⟨w, List.mem_cons_self, h⟩
      · exact .inl h
      · exact (ih h).imp_right fun ⟨u, hu, hm⟩ => ⟨u, List.mem_cons_of_mem _ hu, hm⟩

/-- Words that are not empty and do not have the character that starts the separator are told from the
text they are joined to. -/
theorem intercalate_inj {α : Type} [DecidableEq α] {a : α} {separator : List α}
    {words others : List (List α)} (hw : ∀ w ∈ words, w ≠ [] ∧ a ∉ w)
    (ho : ∀ w ∈ others, w ≠ [] ∧ a ∉ w) :
    (a :: separator).intercalate words = (a :: separator).intercalate others ↔ words = others := by
  have hcons (w : List α) (ws : List (List α)) : (a :: separator).intercalate (w :: ws) =
      w ++ if ws = [] then [] else a :: (separator ++ (a :: separator).intercalate ws) := by
    cases ws with
    | nil => simp
    | cons v vs => simp [List.intercalate_cons_cons]
  have hne {w : List α} (hw : a ∉ w) : ∀ b ∈ w, (b != a) = true := by
    intro b hb
    rw [bne_iff_ne]
    rintro rfl
    exact hw hb
  have hrest (ws : List (List α)) : ∀ b ∈ (if ws = [] then [] else
      a :: (separator ++ (a :: separator).intercalate ws)).head?, (b != a) = false := by
    cases ws <;> simp
  refine ⟨fun h => ?_, congrArg _⟩
  induction words generalizing others with
  | nil =>
    cases others with
    | nil => rfl
    | cons v vs =>
      rw [hcons, List.intercalate_nil] at h
      exact absurd (List.append_eq_nil_iff.mp h.symm).1 (ho v List.mem_cons_self).1
  | cons w ws ih =>
    cases others with
    | nil =>
      rw [hcons, List.intercalate_nil] at h
      exact absurd (List.append_eq_nil_iff.mp h).1 (hw w List.mem_cons_self).1
    | cons v vs =>
      obtain ⟨hws, hw⟩ := (List.forall_mem_cons.mp hw).symm
      obtain ⟨hvs, hv⟩ := (List.forall_mem_cons.mp ho).symm
      rw [hcons, hcons, append_cut_iff (hne hw.2) (hne hv.2) (hrest ws) (hrest vs)] at h
      obtain ⟨rfl, h⟩ := h
      cases ws with
      | nil =>
        cases vs with
        | nil => rfl
        | cons => simp at h
      | cons =>
        cases vs with
        | nil => simp at h
        | cons =>
          rw [if_neg (List.cons_ne_nil _ _), if_neg (List.cons_ne_nil _ _), List.cons.injEq] at h
          rw [ih hws hvs (List.append_cancel_left h.2)]

section Images
variable {α β γ : Type} {f : α → β} {g : α → γ} {xs ys : List α}

/-- Two ways to tell elements apart tell lists of them apart alike. -/
theorem map_eq_map_iff_of_iff (h : ∀ x ∈ xs, ∀ y ∈ ys, (f x = f y ↔ g x = g y)) :
    xs.map f = ys.map f ↔ xs.map g = ys.map g := by
  induction xs generalizing ys with
  | nil => simp only [List.map_nil, List.nil_eq, List.map_eq_nil_iff]
  | cons x xs ih =>
    cases ys with
    | nil => simp only [List.map_cons, List.map_nil, List.cons_ne_nil]
    | cons y ys =>
      have hhead := h x List.mem_cons_self y List.mem_cons_self
      have htail := ih fun a ha b hb => h a (List.mem_cons_of_mem _ ha) b (List.mem_cons_of_mem _ hb)
      simp only [List.map_cons, List.cons.injEq, hhead, htail]

theorem nodup_map_iff_of_iff (h : ∀ x ∈ xs, ∀ y ∈ xs, (f x = f y ↔ g x = g y)) :
    (xs.map f).Nodup ↔ (xs.map g).Nodup := by
  rw [List.nodup_iff_pairwise_ne, List.nodup_iff_pairwise_ne, List.pairwise_map, List.pairwise_map]
  exact List.Pairwise.iff_of_mem fun {a b} ha hb => not_congr (h a ha b hb)

end Images

section Steps
variable {α β ε : Type}

theorem bind_eq_ok_iff {x : Except ε α} {next : α → Except ε β} {b : β} :
    x >>= next = .ok b ↔ ∃ a, x = .ok a ∧ next a = .ok b := by
  cases x with
  | error e => exact ⟨nofun, fun ⟨_, hx, _⟩ => nomatch hx⟩
  | ok a => exact ⟨fun h => ⟨a, rfl, h⟩, fun ⟨_, hx, h⟩ => by cases hx; exact h⟩

theorem bind_eq_error_iff {x : Except ε α} {next : α → Except ε β} {e : ε} :
    x >>= next = .error e ↔ x = .error e ∨ ∃ a, x = .ok a ∧ next a = .error e := by
  cases x with
  | error fault =>
    refine ⟨fun h => .inl (by cases h; rfl), ?_⟩
    rintro (h | ⟨_, hx, _⟩)
    · cases h
      rfl
    · cases hx
  | ok a =>
    refine ⟨fun h => .inr ⟨a, rfl, h⟩, ?_⟩
    rintro (h | ⟨_, hx, h⟩)
    · cases h
    · cases hx
      exact h

theorem exists_ok_of_toBool {x : Except ε α} (h : x.toBool = true) : ∃ a, x = .ok a := by
  cases x with
  | error e => cases h
  | ok a => exact ⟨a, rfl⟩

theorem exists_ok_of_any {x : Except ε α} {p : α → Bool} (h : x.toOption.any p = true) :
    ∃ a, x = .ok a ∧ p a = true := by
  cases x with
  | ok a => exact ⟨a, rfl, h⟩
  | error e => cases h

theorem exists_ok_of_ne_error {x : Except ε α} (h : ∀ e, x ≠ .error e) : ∃ a, x = .ok a := by
  cases x with
  | error e => exact absurd rfl (h e)
  | ok a => exact ⟨a, rfl⟩

theorem mapError_eq_ok_iff {ε' : Type} {x : Except ε α} {f : ε → ε'} {a : α} :
    x.mapError f = .ok a ↔ x = .ok a := by
  cases x with
  | error e => exact ⟨nofun, nofun⟩
  | ok b => exact ⟨fun h => congrArg _ (Except.ok.inj h), fun h => congrArg _ (Except.ok.inj h)⟩

theorem exists_mapM_ok {step : α → Except ε β} {items : List α}
    (hs : ∀ a ∈ items, ∃ b, step a = .ok b) : ∃ results, items.mapM step = .ok results := by
  induction items with
  | nil => exact ⟨[], rfl⟩
  | cons a rest ih =>
    obtain ⟨b, hb⟩ := hs a (.head _)
    obtain ⟨results, hr⟩ := ih fun a' ha => hs a' (.tail _ ha)
    refine ⟨b :: results, ?_⟩
    rw [List.mapM_cons, hb, hr]
    rfl

theorem mapM_eq_ok_iff {step : α → Except ε β} {items : List α} {results : List β} :
    items.mapM step = .ok results ↔
      List.Forall₂ (fun a b => step a = .ok b) items results := by
  induction items generalizing results with
  | nil => simp [List.forall₂_nil_left_iff, pure, Except.pure, eq_comm]
  | cons a rest ih =>
    rw [List.mapM_cons, bind_eq_ok_iff, List.forall₂_cons_left_iff]
    refine exists_congr fun b => ?_
    simp only [bind_eq_ok_iff, ih]
    constructor
    · rintro ⟨ha, others, ho, hr⟩
      exact ⟨others, ha, ho, (Except.ok.inj hr).symm⟩
    · rintro ⟨others, ha, ho, rfl⟩
      exact ⟨ha, others, ho, rfl⟩

/-- Steps over a list fail as the first of them does that fails. -/
theorem mapM_eq_error_iff {step : α → Except ε β} {items : List α} {e : ε} :
    items.mapM step = .error e ↔ ∃ i a, items[i]? = some a ∧
      (∀ b ∈ items.take i, ∃ r, step b = .ok r) ∧ step a = .error e := by
  induction items with
  | nil => simp [pure, Except.pure]
  | cons a rest ih =>
    have hrest (r : β) : (do return r :: (← rest.mapM step)) = Except.error e ↔
        rest.mapM step = .error e := by
      rw [bind_eq_error_iff]
      exact or_iff_left fun ⟨_, _, h⟩ => nomatch h
    simp only [List.mapM_cons, bind_eq_error_iff, hrest, ih]
    constructor
    · rintro (he | ⟨r, hr, i, b, hb, hok, he⟩)
      · exact ⟨0, a, rfl, by simp, he⟩
      · refine ⟨i + 1, b, hb, ?_, he⟩
        rw [List.take_succ_cons]
        exact List.forall_mem_cons.mpr ⟨⟨r, hr⟩, hok⟩
    · rintro ⟨i, b, hb, hok, he⟩
      cases i with
      | zero =>
        cases hb
        exact .inl he
      | succ i =>
        rw [List.take_succ_cons] at hok
        obtain ⟨⟨r, hr⟩, hok⟩ := List.forall_mem_cons.mp hok
        exact .inr ⟨r, hr, i, b, hb, hok, he⟩

theorem mapM_ok_of_perm {step : α → Except ε β} {items others : List α} {results : List β}
    (hp : items.Perm others) (h : items.mapM step = .ok results) :
    ∃ results', others.mapM step = .ok results' ∧ results'.Perm results := by
  obtain ⟨results', hf, hr⟩ := List.perm_comp_forall₂ hp.symm (mapM_eq_ok_iff.mp h)
  exact ⟨results', mapM_eq_ok_iff.mpr hf, hr⟩

end Steps

end ClassScaffold
