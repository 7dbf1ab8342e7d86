import ClassScaffold.Proofs.Basic
import ClassScaffold.Text.Lines
import Mathlib.Data.List.DropRight

/-! Brackets in texts. A text is balanced if every bracket has its counterpart and what stands between
the two is balanced as well. Only the brackets count for that, so that lines may be cut, indented and
closed. -/
namespace ClassScaffold.Text

/-- Every opening bracket with the one that closes it. -/
def bracketPairs : List (Char × Char) :=
  [('(', ')'), ('[', ']'), ('\x7b', '\x7d')]

/-- The bracket that closes the one that a character opens. -/
def closing? (c : Char) : Option Char :=
  bracketPairs.lookup c

def isBracket (c : Char) : Bool :=
  bracketPairs.any fun pair => c == pair.1 || c == pair.2

/-- Brackets are closed in the reverse order in which they are opened. -/
inductive Nested : List Char → Prop where
  | nil : Nested []
  | plain {c : Char} {cs : List Char} (hc : isBracket c = false) (h : Nested cs) : Nested (c :: cs)
  | enclosed {opening closing : Char} {inside rest : List Char}
      (hb : closing? opening = some closing) (hi : Nested inside) (hr : Nested rest) :
      Nested (opening :: (inside ++ closing :: rest))

def Balanced (s : String) : Prop :=
  Nested s.toList

/-- The brackets that have to be closed after a character, the next one first. -/
def dueAfter (due : List Char) (c : Char) : Option (List Char) :=
  match closing? c with
  | some closing => some (closing :: due)
  | none =>
    if isBracket c then
      if due.head? = some c then some due.tail else none
    else some due

/-- The brackets that have to be closed after a text. -/
def due? (due : List Char) : List Char → Option (List Char)
  | [] => some due
  | c :: cs => (dueAfter due c).bind (due? · cs)

def brackets (cs : List Char) : List Char :=
  cs.filter isBracket

section Due
variable {due : List Char} {c closing : Char} {cs ds : List Char}

theorem due?_append (due cs ds : List Char) :
    due? due (cs ++ ds) = (due? due cs).bind (due? · ds) := by
  induction cs generalizing due with
  | nil => rfl
  | cons c cs ih =>
    rw [List.cons_append, due?, due?, Option.bind_assoc]
    exact congrArg _ (funext ih)

theorem closing?_eq_some_iff {opening : Char} :
    closing? opening = some closing ↔ (opening, closing) ∈ bracketPairs :=
  lookup_eq_some_iff_mem (by decide)

private theorem closing?_of_plain (hc : isBracket c = false) : closing? c = none := by
  refine Option.eq_none_iff_forall_not_mem.mpr fun closing hb => ?_
  have hpair := List.any_eq_false.mp hc _ (closing?_eq_some_iff.mp hb)
  simp at hpair

private theorem dueAfter_plain (hc : isBracket c = false) : dueAfter due c = some due := by
  simp [dueAfter, closing?_of_plain hc, hc]

private theorem dueAfter_opening (hb : closing? c = some closing) :
    dueAfter due c = some (closing :: due) := by
  simp only [dueAfter, hb]

/-- A character opens a bracket, closes the next one, or is no bracket. -/
private theorem dueAfter_cases {after : List Char} (h : dueAfter due c = some after) :
    (∃ closing, closing? c = some closing ∧ after = closing :: due) ∨
      (closing? c = none ∧ isBracket c = true ∧ due = c :: after) ∨
        isBracket c = false ∧ after = due := by
  unfold dueAfter at h
  split at h
  · rename_i closing hb
    cases h
    exact .inl ⟨closing, hb, rfl⟩
  · rename_i hb
    split at h
    · rename_i hc
      split at h
      · rename_i hnext
        cases h
        obtain ⟨rest, rfl⟩ := List.head?_eq_some_iff.mp hnext
        exact .inr (.inl ⟨hb, hc, rfl⟩)
      · cases h
    · rename_i hc
      cases h
      exact .inr (.inr ⟨Bool.eq_false_iff.mpr hc, rfl⟩)

private theorem closing?_closing {opening : Char} (hb : closing? opening = some closing) :
    closing? closing = none ∧ isBracket closing = true := by
  have hall : ∀ pair ∈ bracketPairs, closing? pair.2 = none ∧ isBracket pair.2 = true := by decide
  exact hall _ (closing?_eq_some_iff.mp hb)

private theorem dueAfter_closing {opening : Char} (hb : closing? opening = some closing) :
    dueAfter (closing :: due) closing = some due := by
  obtain ⟨hnone, hbracket⟩ := closing?_closing hb
  simp [dueAfter, hnone, hbracket]

/-- A nested text closes what it opens, and nothing else. -/
theorem Nested.due? (h : Nested cs) (due : List Char) : due? due cs = some due := by
  induction h generalizing due with
  | nil => rfl
  | plain hc _ ih => rw [Text.due?, dueAfter_plain hc, Option.bind_some, ih]
  | enclosed hb _ _ ihi ihr =>
    rw [Text.due?, dueAfter_opening hb, Option.bind_some, due?_append, ihi, Option.bind_some,
      Text.due?, dueAfter_closing hb, Option.bind_some, ihr]

/-- A text that closes these brackets in turn, and is nested between them. -/
private def Closes : List Char → List Char → Prop
  | [], cs => Nested cs
  | closing :: due, cs => ∃ inside rest, cs = inside ++ closing :: rest ∧ Nested inside ∧
      Closes due rest

private theorem Closes.plain (hc : isBracket c = false) (h : Closes due cs) :
    Closes due (c :: cs) := by
  cases due with
  | nil => exact .plain hc h
  | cons closing due =>
    obtain ⟨inside, rest, rfl, hi, hr⟩ := h
    exact ⟨c :: inside, rest, rfl, .plain hc hi, hr⟩

private theorem Closes.opening (hb : closing? c = some closing) (h : Closes (closing :: due) cs) :
    Closes due (c :: cs) := by
  obtain ⟨inside, rest, rfl, hi, hr⟩ := h
  cases due with
  | nil => exact .enclosed hb hi hr
  | cons next due =>
    obtain ⟨between, rest, rfl, hn, hr⟩ := hr
    refine ⟨c :: (inside ++ closing :: between), rest, ?_, .enclosed hb hi hn, hr⟩
    simp only [List.cons_append, List.append_assoc]

private theorem closes_of_due? (h : due? due cs = some []) : Closes due cs := by
  induction cs generalizing due with
  | nil =>
    cases h
    exact .nil
  | cons c cs ih =>
    obtain ⟨after, hc, hcs⟩ := Option.bind_eq_some_iff.mp h
    have hrest := ih hcs
    rcases dueAfter_cases hc with ⟨closing, hb, rfl⟩ | ⟨-, -, rfl⟩ | ⟨hplain, rfl⟩
    · exact hrest.opening hb
    · -- the bracket that is due comes at once
      exact ⟨[], cs, rfl, .nil, hrest⟩
    · exact hrest.plain hplain

theorem nested_iff : Nested cs ↔ due? [] cs = some [] :=
  ⟨fun h => h.due? [], closes_of_due?⟩

instance (cs : List Char) : Decidable (Nested cs) :=
  decidable_of_iff _ nested_iff.symm

/-- What was opened was closed or is due. -/
private theorem count_dueAfter {opening : Char} {after : List Char}
    (hb : closing? opening = some closing) (h : dueAfter due c = some after) :
    [c].count closing + after.count closing = [c].count opening + due.count closing := by
  obtain ⟨hclosing, hbracket⟩ := closing?_closing hb
  rcases dueAfter_cases h with ⟨other, ho, rfl⟩ | ⟨hn, -, rfl⟩ | ⟨hplain, rfl⟩
  · have hne : c ≠ closing := by
      rintro rfl
      rw [hclosing] at ho
      cases ho
    have hsame : other = closing ↔ c = opening := by
      have hall : ∀ p ∈ bracketPairs, ∀ q ∈ bracketPairs, p.2 = q.2 ↔ p.1 = q.1 := by decide
      exact hall _ (closing?_eq_some_iff.mp ho) _ (closing?_eq_some_iff.mp hb)
    simp only [List.count_cons, List.count_nil, beq_iff_eq, hsame, hne, if_false]
    omega
  · have hne : c ≠ opening := by
      rintro rfl
      rw [hb] at hn
      cases hn
    simp only [List.count_cons, List.count_nil, beq_iff_eq, hne, if_false]
    omega
  · have hne : c ≠ opening ∧ c ≠ closing := by
      constructor
      · rintro rfl
        rw [closing?_of_plain hplain] at hb
        cases hb
      · rintro rfl
        rw [hbracket] at hplain
        cases hplain
    simp [hne.1, hne.2]

private theorem count_due? {opening : Char} {after : List Char}
    (hb : closing? opening = some closing) (h : due? due cs = some after) :
    cs.count closing + after.count closing = cs.count opening + due.count closing := by
  induction cs generalizing due with
  | nil =>
    cases h
    rfl
  | cons c cs ih =>
    obtain ⟨next, hc, hcs⟩ := Option.bind_eq_some_iff.mp h
    have hstep := count_dueAfter hb hc
    have hrest := ih hcs
    rw [← List.singleton_append, List.count_append, List.count_append]
    omega

/-- No start of a nested text closes more brackets of a kind than it opens. -/
theorem Nested.count_le {opening : Char} (h : Nested (cs ++ ds))
    (hb : closing? opening = some closing) : cs.count closing ≤ cs.count opening := by
  have hall := h.due? []
  rw [due?_append, Option.bind_eq_some_iff] at hall
  obtain ⟨due, hcs, _⟩ := hall
  have hcount := count_due? hb hcs
  rw [List.count_nil] at hcount
  omega

theorem due?_brackets (due cs : List Char) : due? due (brackets cs) = due? due cs := by
  induction cs generalizing due with
  | nil => rfl
  | cons c cs ih =>
    cases hc : isBracket c with
    | true =>
      rw [brackets, List.filter_cons_of_pos hc, due?, due?]
      exact congrArg _ (funext ih)
    | false =>
      rw [brackets, List.filter_cons_of_neg (by simp [hc]), due?, dueAfter_plain hc,
        Option.bind_some]
      exact ih due

end Due

section Texts
variable {cs ds : List Char} {s t : String}

theorem brackets_append (cs ds : List Char) : brackets (cs ++ ds) = brackets cs ++ brackets ds :=
  List.filter_append ..

theorem Nested.append (hc : Nested cs) (hd : Nested ds) : Nested (cs ++ ds) := by
  rw [nested_iff, due?_append, hc.due?, Option.bind_some, hd.due?]

/-- Whatever is no bracket may change. -/
theorem Nested.of_brackets_eq (h : Nested cs) (hb : brackets cs = brackets ds) : Nested ds := by
  rw [nested_iff, ← due?_brackets, ← hb, due?_brackets]
  exact h.due? []

instance (s : String) : Decidable (Balanced s) :=
  inferInstanceAs (Decidable (Nested s.toList))

theorem Balanced.append (hs : Balanced s) (ht : Balanced t) : Balanced (s ++ t) := by
  rw [Balanced, String.toList_append]
  exact Nested.append hs ht

theorem Balanced.join {texts : List String} (h : ∀ s ∈ texts, Balanced s) :
    Balanced (String.join texts) := by
  rw [Balanced, String.toList_join]
  induction texts with
  | nil => exact .nil
  | cons s rest ih =>
    rw [List.flatMap_cons]
    exact Nested.append (h s List.mem_cons_self) (ih fun t ht => h t (List.mem_cons_of_mem _ ht))

theorem Balanced.intercalate {separator : String} {texts : List String} (hs : Balanced separator)
    (h : ∀ s ∈ texts, Balanced s) : Balanced (separator.intercalate texts) := by
  induction texts with
  | nil => exact .nil
  | cons s rest ih =>
    cases rest with
    | nil => simpa using h s List.mem_cons_self
    | cons t rest =>
      rw [String.intercalate_cons_cons]
      exact ((h s List.mem_cons_self).append hs).append
        (ih fun t ht => h t (List.mem_cons_of_mem _ ht))

/-- Balanced text may be put in anywhere. -/
theorem Balanced.insert {before after : String} (h : Balanced (before ++ after)) (hs : Balanced s) :
    Balanced (before ++ s ++ after) := by
  have hall := nested_iff.mp h
  rw [String.toList_append, due?_append, Option.bind_eq_some_iff] at hall
  obtain ⟨due, hb, ha⟩ := hall
  rw [Balanced, nested_iff, String.toList_append, String.toList_append, due?_append, due?_append, hb,
    Option.bind_some, Nested.due? hs, Option.bind_some, ha]

/-- A class of characters without brackets. -/
theorem isBracket_eq_false {p : Char → Bool}
    (hp : (bracketPairs.all fun pair => !p pair.1 && !p pair.2) = true) {c : Char}
    (hc : p c = true) : isBracket c = false := by
  refine List.any_eq_false.mpr fun pair hpair => ?_
  have hnone := List.all_eq_true.mp hp pair hpair
  simp only [Bool.and_eq_true, Bool.not_eq_true'] at hnone
  simp only [Bool.or_eq_true, beq_iff_eq]
  rintro (rfl | rfl)
  · rw [hnone.1] at hc
    cases hc
  · rw [hnone.2] at hc
    cases hc

theorem balanced_of_plain (h : ∀ c ∈ s.toList, isBracket c = false) : Balanced s := by
  refine Nested.nil.of_brackets_eq (Eq.symm (List.filter_eq_nil_iff.mpr fun c hc => ?_))
  simp [h c hc]

end Texts

section Lines

theorem brackets_splitLinesFrom (line cs : List Char) :
    brackets ((splitLinesFrom line cs).flatMap String.toList) = brackets (line.reverse ++ cs) := by
  induction cs generalizing line with
  | nil =>
    unfold splitLinesFrom
    cases line <;> simp
  | cons c rest ih =>
    unfold splitLinesFrom
    split
    · rename_i hc
      subst hc
      rw [List.flatMap_cons, brackets_append, brackets_append, ih]
      split
      · simp [brackets, isBracket, bracketPairs]
      · simp [brackets, isBracket, bracketPairs]
    · rw [ih, List.reverse_cons, List.append_assoc]
      rfl

theorem brackets_splitLines (s : String) :
    brackets ((splitLines s).flatMap String.toList) = brackets s.toList :=
  brackets_splitLinesFrom [] s.toList

private theorem isBracket_of_isBlank {c : Char} (h : isBlank c = true) : isBracket c = false :=
  isBracket_eq_false (by decide) h

/-- Only blank lines are lost. -/
theorem brackets_codeLines (s : String) :
    brackets ((codeLines s).flatMap String.toList) = brackets s.toList := by
  have hcut : splitLines s = codeLines s ++ (splitLines s).rtakeWhile isBlankText :=
    List.rdropWhile_append_rtakeWhile.symm
  have hblank : brackets (((splitLines s).rtakeWhile isBlankText).flatMap String.toList) = [] := by
    refine List.filter_eq_nil_iff.mpr fun c hc => ?_
    obtain ⟨line, hl, hc⟩ := List.mem_flatMap.mp hc
    have hline : isBlankText line = true := List.mem_rtakeWhile_imp hl
    simp [isBracket_of_isBlank (List.all_eq_true.mp hline c hc)]
  rw [← brackets_splitLines, hcut, List.flatMap_append, brackets_append, hblank, List.append_nil]

private theorem brackets_indentedLine (line : String) :
    brackets (indentedLine line).toList = brackets line.toList := by
  unfold indentedLine
  split
  · rename_i h
    rw [String.isEmpty_iff.mp h]
  · rw [String.toList_append, brackets_append]
    rfl

private theorem brackets_intercalate (lines : List String) :
    brackets ("\n".intercalate lines).toList = brackets (lines.flatMap String.toList) := by
  induction lines with
  | nil => rfl
  | cons line rest ih =>
    cases rest with
    | nil => simp
    | cons next rest =>
      have hfeed : brackets "\n".toList = [] := rfl
      rw [String.intercalate_cons_cons, String.toList_append, String.toList_append, brackets_append,
        brackets_append, ih, hfeed, List.append_nil, ← brackets_append]
      rfl

theorem brackets_indented (s : String) : brackets (indented s).toList = brackets s.toList := by
  rw [indented, brackets_intercalate, List.flatMap_map, ← brackets_splitLines, brackets, brackets,
    List.filter_flatMap, List.filter_flatMap]
  exact congrArg ((splitLines s).flatMap ·) (funext brackets_indentedLine)

/-- Only line feeds are lost or added. -/
theorem brackets_closed (s : String) : brackets (closed s).toList = brackets s.toList := by
  have hcut : s.toList = dropEndWhile (· == '\n') s.toList ++ s.toList.rtakeWhile (· == '\n') :=
    List.rdropWhile_append_rtakeWhile.symm
  have hfeeds : brackets (s.toList.rtakeWhile (· == '\n')) = [] := by
    refine List.filter_eq_nil_iff.mpr fun c hc => ?_
    have hb := List.mem_rtakeWhile_imp hc
    simp [isBracket_eq_false (p := (· == '\n')) (by decide) hb]
  have hkept : brackets (dropEndWhile (· == '\n') s.toList) = brackets s.toList := by
    nth_rewrite 2 [hcut]
    rw [brackets_append, hfeeds, List.append_nil]
  unfold closed
  split
  · rename_i h
    rw [← hkept, h]
    rfl
  · rename_i h
    rw [← hkept, String.toList_append, brackets_append, String.toList_ofList]
    simp [brackets, isBracket, bracketPairs]

section Balanced
variable {s : String} (h : Balanced s)
include h

theorem Balanced.codeLines : Balanced (String.join (codeLines s)) := by
  refine Nested.of_brackets_eq h ?_
  rw [String.toList_join, brackets_codeLines]

theorem Balanced.indented : Balanced (indented s) :=
  Nested.of_brackets_eq h (brackets_indented s).symm

theorem Balanced.closed : Balanced (closed s) :=
  Nested.of_brackets_eq h (brackets_closed s).symm

end Balanced

end Lines

end ClassScaffold.Text
