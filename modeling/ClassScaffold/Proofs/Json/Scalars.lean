import ClassScaffold.Json.Reader
import ClassScaffold.Json.Writer
import Mathlib.Data.Option.Basic

namespace ClassScaffold.Json

section Strings
variable {c e : Char} {cs : List Char}

private def withChar (c : Char) (p : List StringUnit × List Char) : List StringUnit × List Char :=
  (.char c :: p.1, p.2)

private theorem readUnits_plain (hq : c ≠ '"') (hb : c ≠ '\\') (hc : 0x20 ≤ c.toNat) :
    readUnits (c :: cs) = (readUnits cs).map (withChar c) := by
  have hguard : (guard (0x20 ≤ c.toNat) : Option Unit) = some () := if_pos hc
  rw [readUnits.eq_5 _ _ hq (fun _ _ _ _ _ h => absurd h hb) (fun _ _ h => absurd h hb), hguard]
  cases readUnits cs <;> rfl

private theorem readUnits_short (hu : e ≠ 'u') (he : shortEscape? e = some c) :
    readUnits ('\\' :: e :: cs) = (readUnits cs).map (withChar c) := by
  rw [readUnits.eq_4 _ _ (fun _ _ _ _ _ h => absurd h hu), he]
  cases readUnits cs <;> rfl

private theorem hexNumber?_escape :
    ∀ n < 0x20, Text.hexNumber? ['0', '0', hexDigit (n / 16), hexDigit (n % 16)] = some n := by
  decide

private theorem readUnits_hex (hc : c.toNat < 0x20) :
    readUnits ('\\' :: 'u' :: '0' :: '0' :: hexDigit (c.toNat / 16) :: hexDigit (c.toNat % 16) :: cs) =
      (readUnits cs).map (withChar c) := by
  have hunit : StringUnit.ofNat c.toNat = .char c := by
    rw [StringUnit.ofNat, if_neg (by omega), Char.ofNat_toNat]
  rw [readUnits.eq_3, hexNumber?_escape _ hc]
  cases readUnits cs <;> simp [hunit, withChar]

private theorem readUnits_escapeChar :
    readUnits (escapeChar c ++ cs) = (readUnits cs).map (withChar c) := by
  have hchar {n : Nat} (h : c.toNat = n) : c = Char.ofNat n := by rw [← h, Char.ofNat_toNat]
  rw [escapeChar]
  split
  · subst c
    exact readUnits_short (by decide) rfl
  split
  · subst c
    exact readUnits_short (by decide) rfl
  split
  · subst c
    exact readUnits_short (by decide) rfl
  split
  · subst c
    exact readUnits_short (by decide) rfl
  split
  · subst c
    exact readUnits_short (by decide) rfl
  split
  · rename_i h
    rw [hchar h]
    exact readUnits_short (by decide) rfl
  split
  · rename_i h
    rw [hchar h]
    exact readUnits_short (by decide) rfl
  split
  · rename_i h
    exact readUnits_hex h
  · rename_i hq hb _ _ _ _ _ h
    exact readUnits_plain hq hb (by omega)

private theorem readUnits_escaped (rest : List Char) (cs : List Char) :
    readUnits (cs.flatMap escapeChar ++ '"' :: rest) = some (cs.map .char, rest) := by
  induction cs with
  | nil => rw [List.flatMap_nil, List.nil_append, readUnits.eq_2, List.map_nil]
  | cons c cs ih => rw [List.flatMap_cons, List.append_assoc, readUnits_escapeChar, ih]; rfl

private theorem joinUnits_chars (cs : List Char) : joinUnits (cs.map .char) = some cs := by
  induction cs with
  | nil => rfl
  | cons c cs ih => rw [List.map_cons, joinUnits, ih]; rfl

theorem quoted_append (s : String) (rest : List Char) :
    quoted s ++ rest = '"' :: (s.toList.flatMap escapeChar ++ '"' :: rest) := by
  simp [quoted]

/-- A text comes back from what is written for it, whatever characters it has. -/
theorem readString_escaped (s : String) (rest : List Char) :
    readString (s.toList.flatMap escapeChar ++ '"' :: rest) = some (some s, rest) := by
  rw [readString, readUnits_escaped]
  simp [joinUnits_chars]

end Strings

section Numbers
variable {n : Nat} {rest : List Char}

/-- Whether a number before the text ends there. -/
def EndsNumber (rest : List Char) : Prop :=
  ∀ c ∈ rest.head?, c.isDigit = false ∧ c ≠ '.' ∧ isExponentMark c = false

private theorem isDigit_of_mem_toDigits {c : Char} (h : c ∈ Nat.toDigits 10 n) : c.isDigit = true :=
  Nat.isDigit_of_mem_toDigits (by decide) (by decide) h

private theorem toDigits_eq_cons (n : Nat) : ∃ c cs, Nat.toDigits 10 n = c :: cs ∧
    c.isDigit = true ∧ (c = '0' → n = 0) := by
  induction n using Nat.strongRecOn with
  | ind n ih =>
    by_cases h : n < 10
    · refine ⟨n.digitChar, [], Nat.toDigits_of_lt_base h, ?_, Nat.digitChar_eq_zero.mp⟩
      rw [Nat.isDigit_digitChar]
      exact decide_eq_true h
    · obtain ⟨c, cs, hcs, hd, hz⟩ := ih (n / 10) (by omega)
      refine ⟨c, cs ++ [(n % 10).digitChar], ?_, hd, fun h => by have := hz h; omega⟩
      rw [Nat.toDigits_of_base_le (by decide) (by omega), hcs, List.cons_append]

private theorem decimalNumber_toDigits (n : Nat) : Text.decimalNumber (Nat.toDigits 10 n) = n := by
  have h := @Nat.ofDigitChars_ten_toDigits n
  rwa [Nat.ofDigitChars_eq_foldl] at h

private theorem span_digits (hr : ∀ c ∈ rest.head?, c.isDigit = false) {cs : List Char}
    (hd : ∀ c ∈ cs, c.isDigit = true) :
    (cs ++ rest).takeWhile Char.isDigit = cs ∧ (cs ++ rest).dropWhile Char.isDigit = rest := by
  rw [List.takeWhile_append_of_pos hd, List.dropWhile_append_of_pos hd]
  cases rest with
  | nil => simp
  | cons c rest => simp [hr c rfl]

private theorem readWhole_toDigits (hr : ∀ c ∈ rest.head?, c.isDigit = false) :
    readWhole (Nat.toDigits 10 n ++ rest) = some (Nat.toDigits 10 n, rest) := by
  obtain ⟨c, cs, hcs, hc, hz⟩ := toDigits_eq_cons n
  by_cases h : c = '0'
  · rw [hz h, Nat.toDigits_zero]
    rfl
  · have hd : ∀ x ∈ cs, x.isDigit = true := fun x hx =>
      isDigit_of_mem_toDigits (hcs ▸ List.mem_cons_of_mem c hx)
    rw [hcs, List.cons_append, readWhole.eq_2 _ _ h, if_pos hc, (span_digits hr hd).1,
      (span_digits hr hd).2]

private theorem readFraction_none (h : ∀ c ∈ rest.head?, c ≠ '.') :
    readFraction rest = some (none, rest) :=
  readFraction.eq_2 _ fun _ hr => h '.' (by rw [hr]; rfl) rfl

private theorem readExponent_none (h : ∀ c ∈ rest.head?, isExponentMark c = false) :
    readExponent rest = some (none, rest) := by
  cases rest with
  | nil => rfl
  | cons c rest => rw [readExponent, h c rfl]; rfl

/-- A whole number, and the same behind a sign. -/
private theorem readUnsigned_toDigits (negative : Bool) (hr : EndsNumber rest) :
    readUnsigned negative (Nat.toDigits 10 n ++ rest) =
      some (ofParts negative (Nat.toDigits 10 n) none none, rest) := by
  rw [readUnsigned, readWhole_toDigits fun c hc => (hr c hc).1]
  simp only [Option.bind_eq_bind, Option.bind_some, readFraction_none fun c hc => (hr c hc).2.1,
    readExponent_none fun c hc => (hr c hc).2.2]
  rfl

private theorem toList_nat (n : Nat) : (toString n).toList = Nat.toDigits 10 n := by
  rw [Nat.toString_eq_ofList_toDigits, String.toList_ofList]

private theorem toList_int (n : Int) :
    (toString n).toList = (if n < 0 then ['-'] else []) ++ Nat.toDigits 10 n.natAbs := by
  rw [Int.toString_eq_repr, Int.repr_eq_if]
  split
  · rename_i h
    have habs : n.toNat = n.natAbs := by omega
    rw [if_neg (by omega), Nat.toList_repr, List.nil_append, habs]
  · rename_i h
    rw [if_pos (by omega), String.toList_append, Nat.toList_repr]
    have habs : (-n).toNat = n.natAbs := by omega
    rw [habs]
    rfl

private theorem readNumber_digits (cs : List Char) :
    readNumber (Nat.toDigits 10 n ++ cs) = readUnsigned false (Nat.toDigits 10 n ++ cs) := by
  obtain ⟨c, tail, hcs, hc, -⟩ := toDigits_eq_cons n
  rw [hcs, List.cons_append, readNumber]
  rintro _ ⟨rfl, -⟩
  cases hc

theorem readNumber_int (n : Int) (hr : EndsNumber rest) :
    readNumber ((toString n).toList ++ rest) = some (.int n, rest) := by
  rw [toList_int]
  split
  · rename_i h
    rw [List.append_assoc, List.singleton_append, readNumber, readUnsigned_toDigits true hr]
    have hn : -(n.natAbs : Int) = n := by omega
    have hz : ¬ (n.natAbs : Int) = 0 := by omega
    simp only [ofParts, decimalNumber_toDigits, if_true, if_neg hz, hn]
  · rename_i h
    rw [List.nil_append, readNumber_digits, readUnsigned_toDigits false hr]
    have hn : (n.natAbs : Int) = n := by omega
    simp only [ofParts, decimalNumber_toDigits, Bool.false_eq_true, if_false, hn]

private theorem readExponent_int (n : Int) (hr : ∀ c ∈ rest.head?, c.isDigit = false) :
    readExponent ('e' :: ((toString n).toList ++ rest)) = some (some n, rest) := by
  have hd : ∀ c ∈ Nat.toDigits 10 n.natAbs, c.isDigit = true := fun _ => isDigit_of_mem_toDigits
  have hsign : readSign ((toString n).toList ++ rest) =
      (decide (n < 0), Nat.toDigits 10 n.natAbs ++ rest) := by
    rw [toList_int]
    split
    · rename_i h
      rw [List.append_assoc, decide_eq_true h]
      rfl
    · rename_i h
      obtain ⟨c, tail, hcs, hc, -⟩ := toDigits_eq_cons n.natAbs
      rw [List.nil_append, hcs, List.cons_append, decide_eq_false h, readSign]
      · rintro _ ⟨rfl, -⟩
        cases hc
      · rintro _ ⟨rfl, -⟩
        cases hc
  rw [readExponent, hsign]
  simp only [isExponentMark, beq_self_eq_true, Bool.true_or, if_true, (span_digits hr hd).1,
    (span_digits hr hd).2]
  obtain ⟨c, tail, hcs, -, -⟩ := toDigits_eq_cons n.natAbs
  rw [hcs]
  simp only [← hcs, decimalNumber_toDigits, decide_eq_true_eq]
  split
  · have hn : -(n.natAbs : Int) = n := by omega
    rw [hn]
  · have hn : (n.natAbs : Int) = n := by omega
    rw [hn]

private theorem readUnsigned_real (negative : Bool) (digits : Nat) (exponent : Int)
    (hr : EndsNumber rest) :
    readUnsigned negative (Nat.toDigits 10 digits ++ 'e' :: ((toString exponent).toList ++ rest)) =
      some (.real negative digits exponent, rest) := by
  have hfraction : readFraction ('e' :: ((toString exponent).toList ++ rest)) = some (none, _) :=
    readFraction_none (by simp)
  rw [readUnsigned, readWhole_toDigits (by simp)]
  simp only [Option.bind_eq_bind, Option.bind_some, hfraction,
    readExponent_int exponent fun c hc => (hr c hc).1]
  simp [ofParts, decimalNumber_toDigits]

theorem readNumber_real (negative : Bool) (digits : Nat) (exponent : Int) (hr : EndsNumber rest) :
    readNumber (scalarChars (.real negative digits exponent) ++ rest) =
      some (.real negative digits exponent, rest) := by
  rw [scalarChars, toList_nat, List.append_assoc, List.append_assoc, List.cons_append]
  cases negative with
  | true =>
    rw [if_pos rfl, List.singleton_append, readNumber]
    exact readUnsigned_real true digits exponent hr
  | false =>
    rw [if_neg (by simp), List.nil_append, readNumber_digits]
    exact readUnsigned_real false digits exponent hr

def opensNumber (c : Char) : Bool :=
  c == '-' || c.isDigit

theorem int_eq_cons (n : Int) :
    ∃ c cs, scalarChars (.int n) = c :: cs ∧ opensNumber c = true := by
  obtain ⟨c, cs, hcs, hc, -⟩ := toDigits_eq_cons n.natAbs
  rw [scalarChars, toList_int, hcs]
  split
  · exact ⟨_, _, rfl, rfl⟩
  · exact ⟨_, _, rfl, by rw [opensNumber, hc, Bool.or_true]⟩

theorem real_eq_cons (negative : Bool) (digits : Nat) (exponent : Int) :
    ∃ c cs, scalarChars (.real negative digits exponent) = c :: cs ∧ opensNumber c = true := by
  obtain ⟨c, cs, hcs, hc, -⟩ := toDigits_eq_cons digits
  rw [scalarChars, toList_nat, hcs]
  cases negative with
  | true => exact ⟨_, _, rfl, rfl⟩
  | false => exact ⟨_, _, rfl, by rw [opensNumber, hc, Bool.or_true]⟩

end Numbers

end ClassScaffold.Json
