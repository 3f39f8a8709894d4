import Mathlib

/-!
# Latin-1 Texts

Texts whose characters are bytes, as a gateway hands over the values of header fields:
lower case, surrounding blanks, splitting at a separator and reading a decimal number.

- §1 characters
- §2 separators
- §3 decimal numbers
-/

namespace DecisionFirewall.Lib

/-- A text of Latin-1 characters. -/
abbrev Latin1 := List UInt8

namespace Latin1

/-! ## §1 Characters -/

/-- The text of a literal. -/
def ofString (s : String) : Latin1 := s.toList.map fun c => UInt8.ofNat c.toNat

/-- The same characters as a Unicode text. -/
def toText (t : Latin1) : String := String.ofList (t.map fun b => Char.ofNat b.toNat)

/-- `t.isascii()`. -/
def IsAscii (t : Latin1) : Prop := ∀ b ∈ t, b < 128

instance (t : Latin1) : Decidable t.IsAscii := inferInstanceAs (Decidable (∀ b ∈ t, _))

/-- `len(t.encode("utf-8"))`. -/
def utf8Length (t : Latin1) : Nat := (t.map fun b => if b < 128 then 1 else 2).sum

theorem utf8Length_of_isAscii {t : Latin1} (h : t.IsAscii) : t.utf8Length = t.length := by
  induction t with
  | nil => rfl
  | cons b t ih =>
    have htail := ih fun c hc => h c (List.mem_cons_of_mem _ hc)
    unfold utf8Length at htail ⊢
    rw [List.map_cons, List.sum_cons, htail, if_pos (h b List.mem_cons_self), List.length_cons]
    omega

/-- The lower case of a character; the multiplication sign stands among the capitals. -/
def lowerChar (b : UInt8) : UInt8 :=
  if 65 ≤ b ∧ b ≤ 90 ∨ 192 ≤ b ∧ b ≤ 222 ∧ b ≠ 215 then b + 32 else b

/-- `t.lower()`. -/
def lower (t : Latin1) : Latin1 := t.map lowerChar

/-- Lower case neither enters nor leaves ASCII. -/
theorem lowerChar_lt_iff (b : UInt8) : lowerChar b < 128 ↔ b < 128 := by
  unfold lowerChar
  -- the two ranges of capitals move within their halves
  split
  case isTrue h =>
    simp only [UInt8.le_iff_toNat_le, UInt8.lt_iff_toNat_lt, UInt8.toNat_add,
      UInt8.reduceToNat] at h ⊢
    omega
  case isFalse => rfl

theorem isAscii_lower_iff {t : Latin1} : t.lower.IsAscii ↔ t.IsAscii := by
  unfold IsAscii lower
  simp only [List.forall_mem_map, lowerChar_lt_iff]

/-- `str.isspace` of a character. -/
def isSpace (b : UInt8) : Bool :=
  9 ≤ b && b ≤ 13 || 28 ≤ b && b ≤ 32 || b == 133 || b == 160

/-- `t.strip()`. -/
def strip (t : Latin1) : Latin1 := ((t.dropWhile isSpace).reverse.dropWhile isSpace).reverse

/-! ## §2 Separators -/

/-- `t.partition(c)`, where `c` occurs: what stands before its first occurrence and what
stands behind it. -/
def splitOnce (c : UInt8) : Latin1 → Option (Latin1 × Latin1)
  | [] => none
  | b :: t => if b = c then some ([], t) else (splitOnce c t).map fun p => (b :: p.1, p.2)

/-- A text splits where the separator occurs first. -/
theorem splitOnce_eq_some {c : UInt8} {t before after : Latin1} :
    splitOnce c t = some (before, after) ↔ t = before ++ c :: after ∧ c ∉ before := by
  -- induction on the text
  induction t generalizing before with
  | nil => simp [splitOnce]
  | cons b t ih =>
    unfold splitOnce
    by_cases hb : b = c
    · rw [if_pos hb]
      cases before with
      | nil => simp [hb]
      | cons d before =>
        simp only [Option.some.injEq, Prod.mk.injEq, List.cons_append, List.cons.injEq,
          List.mem_cons, not_or]
        constructor
        · rintro ⟨h, -⟩
          cases h
        · rintro ⟨⟨rfl, -⟩, hc, -⟩
          exact absurd hb.symm hc
    · rw [if_neg hb]
      cases before with
      | nil =>
        simp only [Option.map_eq_some_iff, Prod.mk.injEq, reduceCtorEq, false_and, and_false,
          exists_false, List.nil_append, List.cons.injEq, hb, List.not_mem_nil,
          not_false_eq_true, and_true]
      | cons d before =>
        simp only [Option.map_eq_some_iff, Prod.mk.injEq, List.cons.injEq, List.cons_append,
          List.mem_cons, not_or, Prod.exists]
        constructor
        · rintro ⟨x, y, hsplit, ⟨rfl, rfl⟩, rfl⟩
          obtain ⟨rfl, hc⟩ := ih.mp hsplit
          exact ⟨⟨rfl, rfl⟩, fun h => hb h.symm, hc⟩
        · rintro ⟨⟨rfl, rfl⟩, -, hc⟩
          exact ⟨before, after, ih.mpr ⟨rfl, hc⟩, ⟨rfl, rfl⟩, rfl⟩

theorem splitOnce_eq_none {c : UInt8} {t : Latin1} : splitOnce c t = none ↔ c ∉ t := by
  induction t with
  | nil => simp [splitOnce]
  | cons b t ih =>
    unfold splitOnce
    by_cases hb : b = c
    · simp [hb]
    · rw [if_neg hb, Option.map_eq_none_iff, ih, List.mem_cons, not_or]
      exact ⟨fun h => ⟨fun hc => hb hc.symm, h⟩, And.right⟩

/-! ## §3 Decimal numbers -/

/-- `t.isascii() and t.isdecimal()`. -/
def IsDecimal (t : Latin1) : Prop := t ≠ [] ∧ ∀ b ∈ t, 48 ≤ b ∧ b ≤ 57

instance (t : Latin1) : Decidable t.IsDecimal := inferInstanceAs (Decidable (_ ∧ _))

/-- The number that decimal digits write. -/
def decimalValue (t : Latin1) : Nat := t.foldl (fun n b => 10 * n + (b.toNat - 48)) 0

theorem isDecimal_zeros {n : Nat} (h : 0 < n) : IsDecimal (List.replicate n 48) := by
  refine ⟨fun hnil => ?_, fun b hb => ?_⟩
  · have hlength := congrArg List.length hnil
    rw [List.length_replicate, List.length_nil] at hlength
    omega
  · rw [List.eq_of_mem_replicate hb]
    decide

theorem decimalValue_zeros (n : Nat) : decimalValue (List.replicate n 48) = 0 := by
  unfold decimalValue
  induction n with
  | zero => rfl
  | succ n ih =>
    rw [List.replicate_succ, List.foldl_cons]
    exact ih

/-- `sys.int_info.default_max_str_digits`. -/
def MAX_STR_DIGITS : Nat := 4300

/-- `int(t)` of decimal digits; `none` is a `ValueError`. -/
def int? (t : Latin1) : Option Nat :=
  if MAX_STR_DIGITS < t.length then none else some t.decimalValue

end Latin1

end DecisionFirewall.Lib
