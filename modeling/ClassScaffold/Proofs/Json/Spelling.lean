import ClassScaffold.Proofs.Json.Scalars
import Mathlib.Data.List.TakeWhile

/-! Texts that spell a value, with white space wherever it may stand, and what is read from them. -/
namespace ClassScaffold.Json

/-- White space only. -/
def Blank (cs : List Char) : Prop :=
  ∀ c ∈ cs, isSpace c = true

def IsScalar : Json → Prop
  | .list _ | .record _ => False
  | _ => True

/-- A key and the colon behind it. -/
inductive SpellsKey (key : String) : List Char → Prop
  | mk {before after : List Char} (hb : Blank before) (ha : Blank after) :
    SpellsKey key (before ++ (quoted key ++ (after ++ [':'])))

mutual

/-- The characters of a value, from its first to its last. -/
inductive Spells : Json → List Char → Prop
  | scalar {value : Json} (h : value.IsScalar) : Spells value (scalarChars value)
  | emptyList {gap : List Char} (h : Blank gap) : Spells (.list []) ('[' :: (gap ++ [']']))
  | list {items : List Json} {cs : List Char} (h : SpellsItems items cs) :
    Spells (.list items) ('[' :: cs)
  | emptyRecord {gap : List Char} (h : Blank gap) :
    Spells (.record []) ('\x7b' :: (gap ++ ['\x7d']))
  | record {members : List (String × Json)} {cs : List Char} (h : SpellsMembers members cs) :
    Spells (.record members) ('\x7b' :: cs)

/-- The characters of a value and white space around it. -/
inductive SpellsPadded : Json → List Char → Prop
  | mk {value : Json} {before cs after : List Char} (hb : Blank before) (h : Spells value cs)
    (ha : Blank after) : SpellsPadded value (before ++ (cs ++ after))

inductive SpellsItems : List Json → List Char → Prop
  | last {item : Json} {cs : List Char} (h : SpellsPadded item cs) :
    SpellsItems [item] (cs ++ [']'])
  | next {item : Json} {items : List Json} {cs rest : List Char} (h : SpellsPadded item cs)
    (hr : SpellsItems items rest) : SpellsItems (item :: items) (cs ++ ',' :: rest)

inductive SpellsMembers : List (String × Json) → List Char → Prop
  | last {key : String} {value : Json} {ks cs : List Char} (hk : SpellsKey key ks)
    (h : SpellsPadded value cs) : SpellsMembers [(key, value)] (ks ++ (cs ++ ['\x7d']))
  | next {key : String} {value : Json} {members : List (String × Json)} {ks cs rest : List Char}
    (hk : SpellsKey key ks) (h : SpellsPadded value cs) (hr : SpellsMembers members rest) :
    SpellsMembers ((key, value) :: members) (ks ++ (cs ++ ',' :: rest))

end

section Reading
variable {before cs rest : List Char} {value : Json} {fuel : Nat} {c : Char}

private theorem skipSpace_blank (h : Blank before) (hc : isSpace c = false) :
    skipSpace (before ++ c :: cs) = c :: cs := by
  rw [skipSpace, List.dropWhile_append_of_pos h, List.dropWhile_cons, hc]
  rfl

private theorem EndsNumber.blank (hb : Blank before) (hr : EndsNumber rest) :
    EndsNumber (before ++ rest) := by
  cases before with
  | nil => exact hr
  | cons c before =>
    intro x hx
    obtain rfl : c = x := by simpa using hx
    have hspace := hb c List.mem_cons_self
    simp only [isSpace, Bool.or_eq_true, beq_iff_eq, or_assoc] at hspace
    rcases hspace with rfl | rfl | rfl | rfl <;> decide

private theorem endsNumber_cons (h : c ∈ [',', ']', '\x7d']) : EndsNumber (c :: rest) := by
  intro x hx
  obtain rfl : c = x := by simpa using hx
  simp only [List.mem_cons, List.not_mem_nil, or_false] at h
  rcases h with rfl | rfl | rfl <;> decide

/-- Enough fuel for every value of so many characters. -/
def ReadsValues (fuel : Nat) : Prop :=
  ∀ {value : Json} {before cs rest : List Char}, Blank before → Spells value cs →
    EndsNumber rest → 2 * cs.length + 1 ≤ fuel →
    readValue fuel (before ++ (cs ++ rest)) = some (value, rest)

def ReadsItems (fuel : Nat) : Prop :=
  ∀ {items : List Json} {cs rest : List Char}, SpellsItems items cs → 2 * cs.length + 2 ≤ fuel →
    readItems fuel (cs ++ rest) = some (items, rest)

def ReadsMembers (fuel : Nat) : Prop :=
  ∀ {members : List (String × Json)} {cs rest : List Char}, SpellsMembers members cs →
    2 * cs.length + 2 ≤ fuel → readMembers fuel (cs ++ rest) = some (some members, rest)

private theorem ReadsValues.padded (hv : ReadsValues fuel) (h : SpellsPadded value cs)
    (rest : List Char) (hr : EndsNumber rest) (hf : 2 * cs.length + 1 ≤ fuel) :
    ∃ after, Blank after ∧ readValue fuel (cs ++ rest) = some (value, after ++ rest) := by
  obtain ⟨hb, hs, ha⟩ := h
  simp only [List.length_append] at hf
  refine ⟨_, ha, ?_⟩
  rw [List.append_assoc, List.append_assoc]
  exact hv hb hs (hr.blank ha) (by omega)

private theorem readsItems_succ (hv : ReadsValues fuel) (hi : ReadsItems fuel) :
    ReadsItems (fuel + 1) := by
  intro items cs rest h hf
  cases h with
  | last h =>
    simp only [List.length_append] at hf
    obtain ⟨after, ha, hread⟩ := hv.padded h (']' :: rest) (endsNumber_cons (by decide))
      (by omega)
    rw [List.append_assoc, List.singleton_append, readItems, hread]
    simp [skipSpace_blank ha (c := ']') rfl]
  | next h hs =>
    rename_i item items cs chars
    simp only [List.length_append, List.length_cons] at hf
    obtain ⟨after, ha, hread⟩ := hv.padded h (',' :: (chars ++ rest))
      (endsNumber_cons (by decide)) (by omega)
    rw [List.append_assoc, List.cons_append, readItems, hread]
    simp [skipSpace_blank ha (c := ',') rfl, hi hs (by omega)]

private theorem SpellsKey.reads {key : String} {ks : List Char} (h : SpellsKey key ks)
    (tail : List Char) : ∃ inner after, skipSpace (ks ++ tail) = '"' :: inner ∧ Blank after ∧
      readString inner = some (some key, after ++ ':' :: tail) := by
  obtain ⟨hb, ha⟩ := h
  refine ⟨_, _, ?_, ha, readString_escaped key _⟩
  rw [List.append_assoc, List.append_assoc, List.append_assoc, quoted_append]
  exact skipSpace_blank hb (c := '"') rfl

private theorem readsMembers_succ (hv : ReadsValues fuel) (hm : ReadsMembers fuel) :
    ReadsMembers (fuel + 1) := by
  intro members cs rest h hf
  cases h with
  | last hk h =>
    rename_i key value ks cs
    simp only [List.length_append] at hf
    obtain ⟨after, ha, hread⟩ := hv.padded h ('\x7d' :: rest) (endsNumber_cons (by decide))
      (by omega)
    obtain ⟨inner, behind, hskip, hbehind, hs⟩ := hk.reads (cs ++ '\x7d' :: rest)
    rw [List.append_assoc, List.append_assoc, List.singleton_append, readMembers, hskip]
    simp [hs, skipSpace_blank hbehind (c := ':') rfl, hread, skipSpace_blank ha (c := '\x7d') rfl]
  | next hk h hr =>
    rename_i key value members ks cs chars
    simp only [List.length_append, List.length_cons] at hf
    obtain ⟨after, ha, hread⟩ := hv.padded h (',' :: (chars ++ rest))
      (endsNumber_cons (by decide)) (by omega)
    obtain ⟨inner, behind, hskip, hbehind, hs⟩ := hk.reads (cs ++ ',' :: (chars ++ rest))
    rw [List.append_assoc, List.append_assoc, List.cons_append, readMembers, hskip]
    simp [hs, skipSpace_blank hbehind (c := ':') rfl, hread, skipSpace_blank ha (c := ',') rfl,
      hm hr (by omega)]

private theorem ne_of_opensNumber (hc : opensNumber c = true) (d : Char)
    (hd : opensNumber d = false) : c ≠ d := by
  rintro rfl
  cases hd.symm.trans hc

private theorem isSpace_of_opensNumber (hc : opensNumber c = true) : isSpace c = false := by
  have hne := ne_of_opensNumber hc
  simp [isSpace, hne ' ' rfl, hne '\t' rfl, hne '\n' rfl, hne '\r' rfl]

private theorem readValue_number (hb : Blank before)
    (hv : ∃ c tail, scalarChars value = c :: tail ∧ opensNumber c = true)
    (hr : readNumber (scalarChars value ++ rest) = some (value, rest)) :
    readValue (fuel + 1) (before ++ (scalarChars value ++ rest)) = some (value, rest) := by
  obtain ⟨c, tail, hcs, hc⟩ := hv
  have hne := ne_of_opensNumber hc
  rw [hcs, List.cons_append] at hr ⊢
  rw [readValue, skipSpace_blank hb (isSpace_of_opensNumber hc)]
  simp [hne '"' rfl, hne '[' rfl, hne '\x7b' rfl, hne 'n' rfl, hne 't' rfl, hne 'f' rfl, hr]

private theorem readValue_scalar (hs : value.IsScalar) (hb : Blank before) (hr : EndsNumber rest) :
    readValue (fuel + 1) (before ++ (scalarChars value ++ rest)) = some (value, rest) := by
  cases value with
  | null =>
    rw [scalarChars, List.cons_append, readValue, skipSpace_blank hb (c := 'n') rfl]
    rfl
  | bool b =>
    cases b with
    | true =>
      rw [scalarChars, List.cons_append, readValue, skipSpace_blank hb (c := 't') rfl]
      rfl
    | false =>
      rw [scalarChars, List.cons_append, readValue, skipSpace_blank hb (c := 'f') rfl]
      rfl
  | int n => exact readValue_number hb (int_eq_cons n) (readNumber_int n hr)
  | real negative digits exponent =>
    exact readValue_number hb (real_eq_cons ..) (readNumber_real negative digits exponent hr)
  | text s =>
    rw [scalarChars, quoted_append, readValue, skipSpace_blank hb (c := '"') rfl]
    simp [readString_escaped]
  | illFormed =>
    rw [scalarChars, List.cons_append, readValue, skipSpace_blank hb (c := '"') rfl]
    rfl
  | list | record => exact hs.elim

/-- No value starts like the end of a list. -/
private theorem Spells.eq_cons (h : Spells value cs) :
    ∃ c tail, cs = c :: tail ∧ isSpace c = false ∧ c ≠ ']' := by
  have hnumber {value : Json} (hv : ∃ c tail, scalarChars value = c :: tail ∧ opensNumber c = true) :
      ∃ c tail, scalarChars value = c :: tail ∧ isSpace c = false ∧ c ≠ ']' := by
    obtain ⟨c, tail, hcs, hc⟩ := hv
    exact ⟨c, tail, hcs, isSpace_of_opensNumber hc, ne_of_opensNumber hc ']' rfl⟩
  cases h with
  | scalar h =>
    cases value with
    | null => exact ⟨'n', _, by rw [scalarChars], rfl, by decide⟩
    | bool b =>
      cases b with
      | true => exact ⟨'t', _, by rw [scalarChars], rfl, by decide⟩
      | false => exact ⟨'f', _, by rw [scalarChars], rfl, by decide⟩
    | int n => exact hnumber (int_eq_cons n)
    | real negative digits exponent => exact hnumber (real_eq_cons ..)
    | text s => exact ⟨'"', _, by rw [scalarChars, quoted]; rfl, rfl, by decide⟩
    | illFormed => exact ⟨'"', _, by rw [scalarChars], rfl, by decide⟩
    | list | record => exact h.elim
  | emptyList | list => exact ⟨'[', _, rfl, rfl, by decide⟩
  | emptyRecord | record => exact ⟨'\x7b', _, rfl, rfl, by decide⟩

private theorem SpellsItems.skipSpace_eq_cons {items : List Json} (h : SpellsItems items cs)
    (rest : List Char) : ∃ c tail, skipSpace (cs ++ rest) = c :: tail ∧ c ≠ ']' := by
  have hpadded {item : Json} {cs : List Char} (h : SpellsPadded item cs) (rest : List Char) :
      ∃ c tail, skipSpace (cs ++ rest) = c :: tail ∧ c ≠ ']' := by
    obtain ⟨hb, h, ha⟩ := h
    obtain ⟨c, tail, rfl, hc, hne⟩ := h.eq_cons
    rw [List.append_assoc, List.append_assoc, List.cons_append, skipSpace_blank hb hc]
    exact ⟨c, _, rfl, hne⟩
  cases h with
  | last h | next h =>
    rw [List.append_assoc]
    exact hpadded h _

private theorem SpellsMembers.skipSpace_eq_cons {members : List (String × Json)}
    (h : SpellsMembers members cs) (rest : List Char) :
    ∃ tail, skipSpace (cs ++ rest) = '"' :: tail := by
  cases h with
  | last hk | next hk =>
    obtain ⟨inner, -, hskip, -⟩ := hk.reads _
    exact ⟨inner, by rw [List.append_assoc, hskip]⟩

private theorem readsValues_succ (hi : ReadsItems fuel) (hm : ReadsMembers fuel) :
    ReadsValues (fuel + 1) := by
  intro value before cs rest hb h hr hf
  cases h with
  | scalar h => exact readValue_scalar h hb hr
  | emptyList h =>
    rw [List.cons_append, List.append_assoc, List.singleton_append, readValue,
      skipSpace_blank hb rfl]
    simp [skipSpace_blank h (c := ']') rfl]
  | list h =>
    obtain ⟨c, tail, hskip, hne⟩ := h.skipSpace_eq_cons rest
    rw [List.length_cons] at hf
    rw [List.cons_append, readValue, skipSpace_blank hb rfl]
    simp [hskip, hne, hi h (by omega)]
  | emptyRecord h =>
    rw [List.cons_append, List.append_assoc, List.singleton_append, readValue,
      skipSpace_blank hb rfl]
    simp [skipSpace_blank h (c := '\x7d') rfl]
  | record h =>
    obtain ⟨tail, hskip⟩ := h.skipSpace_eq_cons rest
    rw [List.length_cons] at hf
    rw [List.cons_append, readValue, skipSpace_blank hb rfl]
    simp [hskip, hm h (by omega)]

private theorem reads (fuel : Nat) : ReadsValues fuel ∧ ReadsItems fuel ∧ ReadsMembers fuel := by
  induction fuel with
  | zero =>
    refine ⟨fun _ _ _ hf => ?_, fun _ hf => ?_, fun _ hf => ?_⟩
    all_goals omega
  | succ fuel ih =>
    obtain ⟨hv, hi, hm⟩ := ih
    exact ⟨readsValues_succ hi hm, readsItems_succ hv hi, readsMembers_succ hv hm⟩

/-- A text that spells a value is read as that value. -/
theorem parse?_of_spellsPadded {s : String} (h : SpellsPadded value s.toList) :
    parse? s = some value := by
  obtain ⟨after, ha, hread⟩ := ReadsValues.padded (reads (2 * s.toList.length + 2)).1 h []
    (by simp [EndsNumber]) (by omega)
  have hskip : skipSpace after = [] := by
    rw [skipSpace, List.dropWhile_eq_nil_iff]
    exact ha
  rw [List.append_nil, List.append_nil] at hread
  have hguard : (guard (skipSpace after).isEmpty : Option Unit) = some () :=
    if_pos (by rw [hskip]; rfl)
  rw [parse?, hread]
  change ((guard (skipSpace after).isEmpty : Option Unit).bind fun _ => some value) = some value
  rw [hguard]
  rfl

end Reading

section Writing

private theorem blank_nil : Blank [] := by
  simp [Blank]

private theorem blank_lineBreak (depth : Nat) : Blank (lineBreak depth) := by
  intro c hc
  rcases List.mem_cons.mp hc with rfl | hc
  · rfl
  · rw [List.eq_of_mem_replicate hc]
    rfl

private theorem blank_blank : Blank [' '] := by
  simp [Blank, isSpace]

private theorem Spells.padded {value : Json} {cs : List Char} (h : Spells value cs) :
    SpellsPadded value cs := by
  have := SpellsPadded.mk blank_nil h blank_nil
  rwa [List.append_nil, List.nil_append] at this

private theorem SpellsKey.quoted {before : List Char} (key : String) (hb : Blank before) :
    SpellsKey key (before ++ (Json.quoted key ++ [':'])) :=
  .mk hb blank_nil

mutual

private theorem spells_prettyChars : ∀ (depth : Nat) (value : Json),
    Spells value (prettyChars depth value)
  | _, .list [] => by
    rw [prettyChars]
    exact .emptyList blank_nil
  | depth, .list (item :: items) => by
    rw [prettyChars.eq_2 _ _ (List.cons_ne_nil _ _), List.cons_append, List.cons_append,
      List.append_assoc]
    exact .list (spells_prettyItems (depth + 1) (item :: items) (List.cons_ne_nil _ _)
      (blank_lineBreak depth))
  | _, .record [] => by
    rw [prettyChars]
    exact .emptyRecord blank_nil
  | depth, .record (member :: members) => by
    rw [prettyChars.eq_4 _ _ (List.cons_ne_nil _ _), List.cons_append, List.cons_append,
      List.append_assoc]
    exact .record (spells_prettyMembers (depth + 1) (member :: members) (List.cons_ne_nil _ _)
      (blank_lineBreak depth))
  | _, .null | _, .bool _ | _, .int _ | _, .real .. | _, .text _ | _, .illFormed => by
    rw [prettyChars] <;> first | exact .scalar trivial | exact nofun

private theorem spells_prettyItems : ∀ (depth : Nat) (items : List Json), items ≠ [] →
    ∀ {after : List Char}, Blank after →
      SpellsItems items (prettyItems depth items ++ (after ++ [']']))
  | _, [], h, _, _ => absurd rfl h
  | depth, [item], _, after, ha => by
    have := SpellsItems.last (.mk (blank_lineBreak depth) (spells_prettyChars depth item) ha)
    rw [prettyItems]
    simpa using this
  | depth, item :: next :: rest, _, after, ha => by
    have := SpellsItems.next
      (.mk (blank_lineBreak depth) (spells_prettyChars depth item) blank_nil)
      (spells_prettyItems depth (next :: rest) (List.cons_ne_nil _ _) ha)
    rw [prettyItems.eq_3 _ _ _ (List.cons_ne_nil _ _)]
    simpa using this

private theorem spells_prettyMembers : ∀ (depth : Nat) (members : List (String × Json)),
    members ≠ [] → ∀ {after : List Char}, Blank after →
      SpellsMembers members (prettyMembers depth members ++ (after ++ ['\x7d']))
  | _, [], h, _, _ => absurd rfl h
  | depth, [(key, value)], _, after, ha => by
    have := SpellsMembers.last (.quoted key (blank_lineBreak depth))
      (.mk blank_blank (spells_prettyChars depth value) ha)
    rw [prettyMembers]
    simpa using this
  | depth, (key, value) :: next :: rest, _, after, ha => by
    have := SpellsMembers.next (.quoted key (blank_lineBreak depth))
      (.mk blank_blank (spells_prettyChars depth value) blank_nil)
      (spells_prettyMembers depth (next :: rest) (List.cons_ne_nil _ _) ha)
    rw [prettyMembers.eq_3 _ _ _ _ (List.cons_ne_nil _ _)]
    simpa using this

end

theorem spellsPadded_pretty (value : Json) : SpellsPadded value value.pretty.toList := by
  rw [pretty, String.toList_ofList]
  exact (spells_prettyChars 0 value).padded

/-- What is written on many lines is read back, for every value. -/
theorem parse?_pretty (value : Json) : parse? value.pretty = some value :=
  parse?_of_spellsPadded value.spellsPadded_pretty

end Writing

end ClassScaffold.Json
