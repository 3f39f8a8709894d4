import DecisionFirewall.Base.Json
import DecisionFirewall.Lib.Reading
import DecisionFirewall.Lib.Table

/-!
# Canonical JSON Determines the Value

Two JSON values with one canonical text are the same value, up to the order of the
members of their objects (`sorted_eq_of_canonicalJson`). A digest that does not
collide therefore identifies what it was taken of.

- §1 strings
- §2 the text of a value whose members are in order
- §3 the canonical text
- §4 objects with the same keys
-/

namespace DecisionFirewall.Json

open Lib.Reading

/-! ## §1 Strings -/

theorem hexDigit_inj {n m : Nat} (hn : n < 16) (hm : m < 16) (h : hexDigit n = hexDigit m) :
    n = m := by
  have hall : ∀ n < 16, ∀ m < 16, hexDigit n = hexDigit m → n = m := by decide
  exact hall n hn m hm h

theorem escapeUnit_append_inj {n m : Nat} (hn : n < 65536) (hm : m < 65536) {s t : List Char}
    (h : escapeUnit n ++ s = escapeUnit m ++ t) : n = m ∧ s = t := by
  simp only [escapeUnit, List.cons_append, List.nil_append, List.cons.injEq, true_and] at h
  obtain ⟨h3, h2, h1, h0, hrest⟩ := h
  have hd3 := hexDigit_inj (by omega) (by omega) h3
  have hd2 := hexDigit_inj (by omega) (by omega) h2
  have hd1 := hexDigit_inj (by omega) (by omega) h1
  have hd0 := hexDigit_inj (by omega) (by omega) h0
  exact ⟨by omega, hrest⟩

/-- The code point that a two-character escape stands for. -/
def shortCode (d : Char) : Nat :=
  if d = 'n' then 10 else if d = 'r' then 13 else if d = 't' then 9
  else if d = 'f' then 12 else if d = 'b' then 8 else d.toNat

/-- The four shapes of an escaped character. -/
inductive EscapeShape (c : Char) : Prop where
  | short (d : Char) (hd : d ≠ 'u') (h : escapeChar c = ['\\', d]) (hc : c.toNat = shortCode d)
  | plain (h : escapeChar c = [c]) (hquote : c ≠ '"') (hslash : c ≠ '\\')
  | unit (h : escapeChar c = escapeUnit c.toNat) (hc : c.toNat < 65536)
  | pair (h : escapeChar c = escapeUnit (55296 + (c.toNat - 65536) / 1024) ++
      escapeUnit (56320 + (c.toNat - 65536) % 1024)) (hc : 65536 ≤ c.toNat)

theorem escapeShape (c : Char) : EscapeShape c := by
  by_cases hquote : c = '"'
  · exact .short '"' (by decide) (by simp [escapeChar, hquote]) (by simp [hquote, shortCode])
  by_cases hslash : c = '\\'
  · exact .short '\\' (by decide) (by simp [escapeChar, hslash]) (by simp [hslash, shortCode])
  by_cases hn : c.toNat = 10
  · exact .short 'n' (by decide) (by simp [escapeChar, hquote, hslash, hn]) (by simp [hn, shortCode])
  by_cases hr : c.toNat = 13
  · exact .short 'r' (by decide) (by simp [escapeChar, hquote, hslash, hr]) (by simp [hr, shortCode])
  by_cases ht : c.toNat = 9
  · exact .short 't' (by decide) (by simp [escapeChar, hquote, hslash, ht]) (by simp [ht, shortCode])
  by_cases hf : c.toNat = 12
  · exact .short 'f' (by decide) (by simp [escapeChar, hquote, hslash, hf]) (by simp [hf, shortCode])
  by_cases hb : c.toNat = 8
  · exact .short 'b' (by decide) (by simp [escapeChar, hquote, hslash, hb]) (by simp [hb, shortCode])
  by_cases hplain : 32 ≤ c.toNat ∧ c.toNat ≤ 126
  · exact .plain (by simp [escapeChar, hquote, hslash, hn, hr, ht, hf, hb, hplain]) hquote hslash
  by_cases hunit : c.toNat < 65536
  · exact .unit (by simp [escapeChar, hquote, hslash, hn, hr, ht, hf, hb, hplain, hunit]) hunit
  · exact .pair (by simp [escapeChar, hquote, hslash, hn, hr, ht, hf, hb, hplain, hunit])
      (by omega)

/-- A code point is no surrogate. -/
theorem toNat_not_surrogate (c : Char) : c.toNat < 55296 ∨ 57343 < c.toNat := by
  have h := c.valid
  simp only [UInt32.isValidChar, Nat.isValidChar] at h
  simp only [Char.toNat]
  omega

theorem toNat_lt (c : Char) : c.toNat < 1114112 := by
  have h := c.valid
  simp only [UInt32.isValidChar, Nat.isValidChar] at h
  simp only [Char.toNat]
  omega

theorem eq_of_toNat {c d : Char} (h : c.toNat = d.toNat) : c = d := by
  apply Char.ext
  exact UInt32.toNat_inj.mp h

theorem escapeUnit_ne_short {n : Nat} {d : Char} (hd : d ≠ 'u') (s t : List Char) :
    escapeUnit n ++ s ≠ ['\\', d] ++ t := by
  intro h
  simp only [escapeUnit, List.cons_append, List.nil_append, List.cons.injEq, true_and] at h
  exact hd h.1.symm

theorem escapeUnit_ne_plain {n : Nat} {c : Char} (hc : c ≠ '\\') (s t : List Char) :
    escapeUnit n ++ s ≠ [c] ++ t := by
  intro h
  simp only [escapeUnit, List.cons_append, List.nil_append, List.cons.injEq] at h
  exact hc h.1.symm

theorem prefixFree_escapeChar : PrefixFree escapeChar := by
  intro c d s t h
  have hc₁ := toNat_not_surrogate c
  have hd₁ := toNat_not_surrogate d
  have hc₂ := toNat_lt c
  have hd₂ := toNat_lt d
  rcases escapeShape c with ⟨e, he, hc, hce⟩ | ⟨hc, hcq, hcs⟩ | ⟨hc, hcn⟩ | ⟨hc, hcn⟩ <;>
    rcases escapeShape d with ⟨e', he', hd, hde⟩ | ⟨hd, hdq, hds⟩ | ⟨hd, hdn⟩ | ⟨hd, hdn⟩ <;>
    rw [hc, hd] at h
  -- two-character escapes
  · simp only [List.cons_append, List.nil_append, List.cons.injEq, true_and] at h
    obtain ⟨rfl, rfl⟩ := h
    exact ⟨eq_of_toNat (hce.trans hde.symm), rfl⟩
  · simp only [List.cons_append, List.nil_append, List.cons.injEq] at h
    exact absurd h.1.symm hds
  · exact absurd h.symm (escapeUnit_ne_short he _ _)
  · rw [List.append_assoc] at h
    exact absurd h.symm (escapeUnit_ne_short he _ _)
  -- a printable character
  · simp only [List.cons_append, List.nil_append, List.cons.injEq] at h
    exact absurd h.1 hcs
  · simp only [List.cons_append, List.nil_append, List.cons.injEq] at h
    exact h
  · exact absurd h.symm (escapeUnit_ne_plain hcs _ _)
  · rw [List.append_assoc] at h
    exact absurd h.symm (escapeUnit_ne_plain hcs _ _)
  -- one code unit
  · exact absurd h (escapeUnit_ne_short he' _ _)
  · exact absurd h (escapeUnit_ne_plain hds _ _)
  · obtain ⟨hn, rfl⟩ := escapeUnit_append_inj hcn hdn h
    exact ⟨eq_of_toNat hn, rfl⟩
  · rw [List.append_assoc] at h
    obtain ⟨hn, -⟩ := escapeUnit_append_inj hcn (by omega) h
    omega
  -- a surrogate pair
  · rw [List.append_assoc] at h
    exact absurd h (escapeUnit_ne_short he' _ _)
  · rw [List.append_assoc] at h
    exact absurd h (escapeUnit_ne_plain hds _ _)
  · rw [List.append_assoc] at h
    obtain ⟨hn, -⟩ := escapeUnit_append_inj (by omega) hdn h
    omega
  · rw [List.append_assoc, List.append_assoc] at h
    obtain ⟨hhigh, h⟩ := escapeUnit_append_inj (by omega) (by omega) h
    obtain ⟨hlow, rfl⟩ := escapeUnit_append_inj (by omega) (by omega) h
    exact ⟨eq_of_toNat (by omega), rfl⟩

theorem avoids_escapeChar : Avoids escapeChar '"' := by
  intro c s t h
  rcases escapeShape c with ⟨e, he, hc, -⟩ | ⟨hc, hcq, -⟩ | ⟨hc, -⟩ | ⟨hc, -⟩ <;> rw [hc] at h
  · simp at h
  · simp only [List.cons_append, List.cons.injEq] at h
    exact hcq h.1
  · simp [escapeUnit] at h
  · simp [escapeUnit] at h

/-- A written string is read back. -/
theorem renderString_append_inj {a b : String} {s t : List Char}
    (h : renderString a ++ s = renderString b ++ t) : a = b ∧ s = t := by
  simp only [renderString, List.cons_append, List.append_assoc, List.cons.injEq, true_and,
    List.nil_append] at h
  obtain ⟨hlist, rfl⟩ := flatMap_append_inj prefixFree_escapeChar avoids_escapeChar h
  exact ⟨String.toList_inj.mp hlist, rfl⟩

/-! ## §2 Members in order -/

mutual

/-- The text of a value, its members in the order in which they stand. -/
def text : Json → List Char
  | .null => "null".toList
  | .bool true => "true".toList
  | .bool false => "false".toList
  | .int n => (toString n).toList
  | .float repr => repr.toList
  | .str s => renderString s
  | .arr xs => '[' :: joinComma (textItems xs) ++ [']']
  | .obj fields => '{' :: joinComma (textFields fields) ++ ['}']

def textItems : List Json → List (List Char)
  | [] => []
  | x :: xs => text x :: textItems xs

def textFields : List (String × Json) → List (List Char)
  | [] => []
  | (k, v) :: fields => (renderString k ++ ':' :: text v) :: textFields fields

end

/-- The shape of `float.__repr__`: a number that no integer is written as. -/
def IsFloatText (repr : String) : Prop :=
  (∀ c ∈ repr.toList, c ∈ "0123456789+-.e".toList) ∧ ∃ c ∈ repr.toList, c = '.' ∨ c = 'e'

mutual

/-- Every number of the value is written as a number. -/
def NumbersOk : Json → Prop
  | .float repr => IsFloatText repr
  | .arr xs => NumbersOkItems xs
  | .obj fields => NumbersOkFields fields
  | _ => True

def NumbersOkItems : List Json → Prop
  | [] => True
  | x :: xs => NumbersOk x ∧ NumbersOkItems xs

def NumbersOkFields : List (String × Json) → Prop
  | [] => True
  | (_, v) :: fields => NumbersOk v ∧ NumbersOkFields fields

end

/-- The characters that end a value. -/
def IsDelimiter (c : Char) : Prop := c = ',' ∨ c = ']' ∨ c = '}'

/-- The characters of `null`, the booleans and the numbers. -/
def wordChars : List Char :=
  ['n', 'u', 'l', 't', 'r', 'e', 'f', 'a', 's', '0', '1', '2', '3', '4', '5', '6', '7', '8', '9',
    '+', '-', '.']

theorem toList_toString_int (n : Int) :
    ∀ c ∈ (toString n).toList, c.isDigit = true ∨ c = '-' := by
  intro c hc
  have hrepr : toString n = Int.repr n := rfl
  rw [hrepr] at hc
  cases n with
  | ofNat m =>
    have hdigits : c ∈ Nat.toDigits 10 m := by
      simpa [Int.repr, Nat.repr] using hc
    exact .inl (Nat.isDigit_of_mem_toDigits (by omega) (by omega) hdigits)
  | negSucc m =>
    have hcases : c = '-' ∨ c ∈ Nat.toDigits 10 (m + 1) := by
      simpa [Int.repr, Nat.repr] using hc
    rcases hcases with rfl | hdigits
    · exact .inr rfl
    · exact .inl (Nat.isDigit_of_mem_toDigits (by omega) (by omega) hdigits)

theorem text_int_ne_nil (n : Int) : (toString n).toList ≠ [] := by
  have hrepr : toString n = Int.repr n := rfl
  rw [hrepr]
  cases n with
  | ofNat m => simp [Int.repr, Nat.repr]
  | negSucc m => simp [Int.repr]

/-- The value is written as one word. -/
def IsWord : Json → Prop
  | .str _ | .arr _ | .obj _ => False
  | _ => True

theorem mem_wordChars_of_isDigit {c : Char} (h : c.isDigit = true ∨ c = '-') :
    c ∈ wordChars := by
  rcases h with h | rfl
  · simp only [Char.isDigit, ge_iff_le, Bool.and_eq_true, decide_eq_true_eq] at h
    have hdigits : ∀ n, 48 ≤ n → n ≤ 57 → Char.ofNat n ∈ wordChars := by
      intro n h1 h2
      interval_cases n <;> decide
    have hc : Char.ofNat c.toNat = c := Char.ofNat_toNat c
    rw [← hc]
    apply hdigits
    · exact UInt32.le_iff_toNat_le.mp h.1
    · exact UInt32.le_iff_toNat_le.mp h.2
  · decide

theorem text_mem_wordChars {v : Json} (hv : v.IsWord) (hn : v.NumbersOk) :
    ∀ c ∈ v.text, c ∈ wordChars := by
  cases v with
  | null => simp [text, wordChars]
  | bool b => cases b <;> simp [text, wordChars]
  | int n => exact fun c hc => mem_wordChars_of_isDigit (toList_toString_int n c hc)
  | float repr =>
    intro c hc
    have hall : "0123456789+-.e".toList.all (wordChars.contains ·) = true := by rfl
    have hmem := List.all_eq_true.mp hall c (hn.1 c hc)
    simpa using hmem
  | str _ => exact hv.elim
  | arr _ => exact hv.elim
  | obj _ => exact hv.elim

theorem text_ne_nil {v : Json} (hv : v.IsWord) (hn : v.NumbersOk) : v.text ≠ [] := by
  cases v with
  | null => simp [text]
  | bool b => cases b <;> simp [text]
  | int n => exact text_int_ne_nil n
  | float repr =>
    obtain ⟨c, hc, -⟩ := hn.2
    exact List.ne_nil_of_mem hc
  | str _ => exact hv.elim
  | arr _ => exact hv.elim
  | obj _ => exact hv.elim

/-- What tells the words apart: a character that the other words lack. -/
theorem word_inj {v w : Json} (hv : v.IsWord) (hw : w.IsWord) (hvn : v.NumbersOk)
    (hwn : w.NumbersOk) (h : v.text = w.text) : v = w := by
  have hint : ∀ (n : Int) (c : Char), c ∈ text (.int n) → c.isDigit = true ∨ c = '-' :=
    toList_toString_int
  have hintOf : ∀ (n : Int) (u : Json) (c : Char), c ∈ text u → ¬ (c.isDigit = true ∨ c = '-') →
      text (.int n) ≠ text u := by
    intro n u c hc hnot heq
    exact hnot (hint n c (heq ▸ hc))
  have hfloatOf : ∀ (r : String) (u : Json) (c : Char), IsFloatText r → c ∈ text u →
      c ∉ "0123456789+-.e".toList → text (.float r) ≠ text u := by
    intro r u c hr hc hnot heq
    exact hnot (hr.1 c (show c ∈ text (.float r) from heq ▸ hc))
  have hintFloat : ∀ (n : Int) (r : String), IsFloatText r →
      text (.int n) ≠ text (.float r) := by
    intro n r hr
    obtain ⟨c, hc, hcases⟩ := hr.2
    apply hintOf n (.float r) c hc
    rcases hcases with rfl | rfl <;> decide
  have hnull : 'n' ∈ text .null := by simp [text]
  have htrue : 't' ∈ text (.bool true) := by simp [text]
  have hfalse : 'f' ∈ text (.bool false) := by simp [text]
  cases v with
  | null =>
    cases w with
    | null => rfl
    | bool b => cases b <;> simp [text] at h
    | int n => exact absurd h.symm (hintOf n _ 'n' hnull (by decide))
    | float r => exact absurd h.symm (hfloatOf r _ 'n' hwn hnull (by decide))
    | str _ | arr _ | obj _ => exact hw.elim
  | bool b =>
    cases w with
    | null => cases b <;> simp [text] at h
    | bool b' => cases b <;> cases b' <;> first | rfl | simp [text] at h
    | int n =>
      cases b with
      | true => exact absurd h.symm (hintOf n _ 't' htrue (by decide))
      | false => exact absurd h.symm (hintOf n _ 'f' hfalse (by decide))
    | float r =>
      cases b with
      | true => exact absurd h.symm (hfloatOf r _ 't' hwn htrue (by decide))
      | false => exact absurd h.symm (hfloatOf r _ 'f' hwn hfalse (by decide))
    | str _ | arr _ | obj _ => exact hw.elim
  | int n =>
    cases w with
    | null => exact absurd h (hintOf n _ 'n' hnull (by decide))
    | bool b =>
      cases b with
      | true => exact absurd h (hintOf n _ 't' htrue (by decide))
      | false => exact absurd h (hintOf n _ 'f' hfalse (by decide))
    | int m =>
      have hrepr : Int.repr n = Int.repr m := String.toList_inj.mp h
      rw [Int.repr_inj.mp hrepr]
    | float r => exact absurd h (hintFloat n r hwn)
    | str _ | arr _ | obj _ => exact hw.elim
  | float r =>
    cases w with
    | null => exact absurd h (hfloatOf r _ 'n' hvn hnull (by decide))
    | bool b =>
      cases b with
      | true => exact absurd h (hfloatOf r _ 't' hvn htrue (by decide))
      | false => exact absurd h (hfloatOf r _ 'f' hvn hfalse (by decide))
    | int n => exact absurd h.symm (hintFloat n r hvn)
    | float r' => rw [String.toList_inj.mp h]
    | str _ | arr _ | obj _ => exact hw.elim
  | str _ | arr _ | obj _ => exact hv.elim

/-- No value starts with a delimiter, and none is empty. -/
theorem text_append_ne {v : Json} (hn : v.NumbersOk) {c : Char} (hc : IsDelimiter c)
    (s t : List Char) : v.text ++ s ≠ c :: t := by
  intro h
  by_cases hv : v.IsWord
  · cases hw : v.text with
    | nil => exact text_ne_nil hv hn hw
    | cons d rest =>
      have hmem := text_mem_wordChars hv hn d (by simp [hw])
      rw [hw, List.cons_append, List.cons.injEq] at h
      rw [h.1] at hmem
      rcases hc with rfl | rfl | rfl <;> simp [wordChars] at hmem
  · cases v with
    | str a =>
      simp only [text, renderString, List.cons_append, List.cons.injEq] at h
      rcases hc with rfl | rfl | rfl <;> simp at h
    | arr xs =>
      simp only [text, List.cons_append, List.cons.injEq] at h
      rcases hc with rfl | rfl | rfl <;> simp at h
    | obj fields =>
      simp only [text, List.cons_append, List.cons.injEq] at h
      rcases hc with rfl | rfl | rfl <;> simp at h
    | null | bool _ | int _ | float _ => exact hv trivial

/-- A word and a bracketed value start differently. -/
theorem word_append_ne {v : Json} (hv : v.IsWord) (hn : v.NumbersOk) {c : Char}
    (hc : c ∉ wordChars) (s t : List Char) : v.text ++ s ≠ c :: t := by
  intro h
  cases hw : v.text with
  | nil => exact text_ne_nil hv hn hw
  | cons d rest =>
    have hmem := text_mem_wordChars hv hn d (by simp [hw])
    rw [hw, List.cons_append, List.cons.injEq] at h
    exact hc (h.1 ▸ hmem)

/-- A word is read back up to the delimiter. -/
theorem word_text_append_inj {v w : Json} (hv : v.IsWord) (hvn : v.NumbersOk) (hwn : w.NumbersOk)
    {s t : List Char} (hs : Delimited IsDelimiter s) (ht : Delimited IsDelimiter t)
    (h : v.text ++ s = w.text ++ t) : v = w ∧ s = t := by
  by_cases hw : w.IsWord
  · have hchars : ∀ c ∈ wordChars, ¬ IsDelimiter c := by
      intro c hc hd
      rcases hd with rfl | rfl | rfl <;> simp [wordChars] at hc
    obtain ⟨htext, hrest⟩ := word_append_inj
      (fun c hc => hchars c (text_mem_wordChars hv hvn c hc))
      (fun c hc => hchars c (text_mem_wordChars hw hwn c hc)) hs ht h
    exact ⟨word_inj hv hw hvn hwn htext, hrest⟩
  · cases w with
    | str a => exact absurd h (word_append_ne hv hvn (by decide) _ _)
    | arr xs => exact absurd h (word_append_ne hv hvn (by decide) _ _)
    | obj fields => exact absurd h (word_append_ne hv hvn (by decide) _ _)
    | null | bool _ | int _ | float _ => exact absurd trivial hw

mutual

/-- A written value is read back. -/
theorem text_append_inj : (v w : Json) → v.NumbersOk → w.NumbersOk → (s t : List Char) →
    Delimited IsDelimiter s → Delimited IsDelimiter t → v.text ++ s = w.text ++ t → v = w ∧ s = t
  | .null, _, hv, hw, _, _, hs, ht, h => word_text_append_inj (v := .null) trivial hv hw hs ht h
  | .bool _, _, hv, hw, _, _, hs, ht, h => word_text_append_inj (v := .bool _) trivial hv hw hs ht h
  | .int _, _, hv, hw, _, _, hs, ht, h => word_text_append_inj (v := .int _) trivial hv hw hs ht h
  | .float _, _, hv, hw, _, _, hs, ht, h => word_text_append_inj (v := .float _) trivial hv hw hs ht h
  | .str a, w, hv, hw, s, t, hs, ht, h => by
    by_cases hword : w.IsWord
    · rw [(word_text_append_inj hword hw hv ht hs h.symm).1] at hword
      exact hword.elim
    cases w with
    | null | bool _ | int _ | float _ => exact absurd trivial hword
    | str b =>
      obtain ⟨rfl, rfl⟩ := renderString_append_inj h
      exact ⟨rfl, rfl⟩
    | arr ys => simp [text, renderString] at h
    | obj fields => simp [text, renderString] at h
  | .arr xs, w, hv, hw, s, t, hs, ht, h => by
    by_cases hword : w.IsWord
    · rw [(word_text_append_inj hword hw hv ht hs h.symm).1] at hword
      exact hword.elim
    cases w with
    | null | bool _ | int _ | float _ => exact absurd trivial hword
    | str b => simp [text, renderString] at h
    | arr ys =>
      simp only [text, List.cons_append, List.append_assoc, List.nil_append, List.cons.injEq,
        true_and] at h
      obtain ⟨rfl, rfl⟩ := textItems_append_inj xs ys hv hw s t h
      exact ⟨rfl, rfl⟩
    | obj fields => simp [text] at h
  | .obj fields, w, hv, hw, s, t, hs, ht, h => by
    by_cases hword : w.IsWord
    · rw [(word_text_append_inj hword hw hv ht hs h.symm).1] at hword
      exact hword.elim
    cases w with
    | null | bool _ | int _ | float _ => exact absurd trivial hword
    | str b => simp [text, renderString] at h
    | arr ys => simp [text] at h
    | obj fields' =>
      simp only [text, List.cons_append, List.append_assoc, List.nil_append, List.cons.injEq,
        true_and] at h
      obtain ⟨rfl, rfl⟩ := textFields_append_inj fields fields' hv hw s t h
      exact ⟨rfl, rfl⟩

/-- A written array is read back item by item. -/
theorem textItems_append_inj : (xs ys : List Json) → NumbersOkItems xs → NumbersOkItems ys →
    (s t : List Char) →
    joinComma (textItems xs) ++ ']' :: s = joinComma (textItems ys) ++ ']' :: t → xs = ys ∧ s = t
  | [], ys, _, hy, s, t, h => by
    cases ys with
    | nil => simpa [textItems, joinComma] using h
    | cons y ys =>
      -- an item where the other array is closed
      cases ys <;> simp only [textItems, joinComma, List.nil_append, List.append_assoc] at h <;>
        exact absurd h.symm (text_append_ne hy.1 (.inr (.inl rfl)) _ _)
  | [x], ys, hx, hy, s, t, h => by
    match ys with
    | [] =>
      simp only [textItems, joinComma, List.nil_append] at h
      exact absurd h (text_append_ne hx.1 (.inr (.inl rfl)) _ _)
    | [y] =>
      simp only [textItems, joinComma] at h
      obtain ⟨rfl, hrest⟩ := text_append_inj x y hx.1 hy.1 _ _
        (delimited_cons.mpr (.inr (.inl rfl))) (delimited_cons.mpr (.inr (.inl rfl))) h
      simpa using hrest
    | y :: y' :: ys =>
      simp only [textItems, joinComma, List.append_assoc, List.cons_append] at h
      obtain ⟨-, hrest⟩ := text_append_inj x y hx.1 hy.1 _ _
        (delimited_cons.mpr (.inr (.inl rfl))) (delimited_cons.mpr (.inl rfl)) h
      simp at hrest
  | x :: x' :: xs, ys, hx, hy, s, t, h => by
    match ys with
    | [] =>
      simp only [textItems, joinComma, List.nil_append, List.append_assoc] at h
      exact absurd h (text_append_ne hx.1 (.inr (.inl rfl)) _ _)
    | [y] =>
      simp only [textItems, joinComma, List.append_assoc, List.cons_append] at h
      obtain ⟨-, hrest⟩ := text_append_inj x y hx.1 hy.1 _ _
        (delimited_cons.mpr (.inl rfl)) (delimited_cons.mpr (.inr (.inl rfl))) h
      simp at hrest
    | y :: y' :: ys =>
      simp only [textItems, joinComma, List.append_assoc, List.cons_append] at h
      obtain ⟨rfl, hrest⟩ := text_append_inj x y hx.1 hy.1 _ _
        (delimited_cons.mpr (.inl rfl)) (delimited_cons.mpr (.inl rfl)) h
      rw [List.cons.injEq] at hrest
      obtain ⟨hitems, rfl⟩ := textItems_append_inj (x' :: xs) (y' :: ys) hx.2 hy.2 s t
        (by simpa only [textItems] using hrest.2)
      rw [hitems]
      exact ⟨rfl, rfl⟩

/-- A written object is read back member by member. -/
theorem textFields_append_inj : (fs gs : List (String × Json)) → NumbersOkFields fs →
    NumbersOkFields gs → (s t : List Char) →
    joinComma (textFields fs) ++ '}' :: s = joinComma (textFields gs) ++ '}' :: t →
    fs = gs ∧ s = t
  | [], gs, _, _, s, t, h => by
    cases gs with
    | nil => simpa [textFields, joinComma] using h
    | cons g gs => cases gs <;> simp [textFields, joinComma, renderString] at h
  | [(k, v)], gs, hf, hg, s, t, h => by
    match gs with
    | [] => simp [textFields, joinComma, renderString] at h
    | [(k', v')] =>
      simp only [textFields, joinComma, List.append_assoc, List.cons_append] at h
      obtain ⟨rfl, hmember⟩ := renderString_append_inj h
      rw [List.cons.injEq] at hmember
      obtain ⟨rfl, hrest⟩ := text_append_inj v v' hf.1 hg.1 _ _
        (delimited_cons.mpr (.inr (.inr rfl))) (delimited_cons.mpr (.inr (.inr rfl))) hmember.2
      simpa using hrest
    | (k', v') :: g' :: gs =>
      simp only [textFields, joinComma, List.append_assoc, List.cons_append] at h
      obtain ⟨rfl, hmember⟩ := renderString_append_inj h
      rw [List.cons.injEq] at hmember
      obtain ⟨-, hrest⟩ := text_append_inj v v' hf.1 hg.1 _ _
        (delimited_cons.mpr (.inr (.inr rfl))) (delimited_cons.mpr (.inl rfl)) hmember.2
      simp at hrest
  | (k, v) :: f' :: fs, gs, hf, hg, s, t, h => by
    match gs with
    | [] => simp [textFields, joinComma, renderString] at h
    | [(k', v')] =>
      simp only [textFields, joinComma, List.append_assoc, List.cons_append] at h
      obtain ⟨rfl, hmember⟩ := renderString_append_inj h
      rw [List.cons.injEq] at hmember
      obtain ⟨-, hrest⟩ := text_append_inj v v' hf.1 hg.1 _ _
        (delimited_cons.mpr (.inl rfl)) (delimited_cons.mpr (.inr (.inr rfl))) hmember.2
      simp at hrest
    | (k', v') :: g' :: gs =>
      simp only [textFields, joinComma, List.append_assoc, List.cons_append] at h
      obtain ⟨rfl, hmember⟩ := renderString_append_inj h
      rw [List.cons.injEq] at hmember
      obtain ⟨rfl, hrest⟩ := text_append_inj v v' hf.1 hg.1 _ _
        (delimited_cons.mpr (.inl rfl)) (delimited_cons.mpr (.inl rfl)) hmember.2
      rw [List.cons.injEq] at hrest
      obtain ⟨hfields, rfl⟩ := textFields_append_inj (f' :: fs) (g' :: gs) hf.2 hg.2 s t
        (by simpa only [textFields] using hrest.2)
      rw [hfields]
      exact ⟨rfl, rfl⟩

end

/-! ## §3 The canonical text -/

mutual

/-- The value with the members of every object in key order. -/
def sorted : Json → Json
  | .arr xs => .arr (sortedItems xs)
  | .obj fields => .obj ((sortedFields fields).mergeSort fun a b => decide (a.1 ≤ b.1))
  | v => v

def sortedItems : List Json → List Json
  | [] => []
  | x :: xs => sorted x :: sortedItems xs

def sortedFields : List (String × Json) → List (String × Json)
  | [] => []
  | (k, v) :: fields => (k, sorted v) :: sortedFields fields

end

theorem textFields_eq_map (fields : List (String × Json)) :
    textFields fields = fields.map fun f => renderString f.1 ++ ':' :: text f.2 := by
  induction fields with
  | nil => rfl
  | cons f fields ih => simp [textFields, ih]

theorem sortedFields_eq_map (fields : List (String × Json)) :
    sortedFields fields = fields.map fun f => (f.1, sorted f.2) := by
  induction fields with
  | nil => rfl
  | cons f fields ih => simp [sortedFields, ih]

/-- Sorting the members before or after writing their values is the same. -/
theorem sortMembers_map (fields : List (String × Json)) :
    sortMembers (fields.map fun f => (f.1, text f.2)) =
      (fields.mergeSort fun a b => decide (a.1 ≤ b.1)).map fun f => (f.1, text f.2) := by
  symm
  apply List.map_mergeSort
  intro a _ b _
  rfl

mutual

/-- The canonical text is the text of the value in key order. -/
theorem render_eq_text : (v : Json) → render v = text (sorted v)
  | .null => rfl
  | .bool true => rfl
  | .bool false => rfl
  | .int _ => rfl
  | .float _ => rfl
  | .str _ => rfl
  | .arr xs => by
    simp only [render, sorted, text, renderItems_eq_text xs]
  | .obj fields => by
    simp only [render, sorted, text, renderFields_eq_text fields, sortMembers_map,
      textFields_eq_map, List.map_map]
    rfl

theorem renderItems_eq_text : (xs : List Json) → renderItems xs = textItems (sortedItems xs)
  | [] => rfl
  | x :: xs => by
    simp only [renderItems, sortedItems, textItems, render_eq_text x, renderItems_eq_text xs]

theorem renderFields_eq_text : (fields : List (String × Json)) →
    renderFields fields = (sortedFields fields).map fun f => (f.1, text f.2)
  | [] => rfl
  | (k, v) :: fields => by
    simp only [renderFields, sortedFields, List.map_cons, render_eq_text v,
      renderFields_eq_text fields]

end

theorem numbersOkFields_iff (fields : List (String × Json)) :
    NumbersOkFields fields ↔ ∀ f ∈ fields, NumbersOk f.2 := by
  induction fields with
  | nil => simp [NumbersOkFields]
  | cons f fields ih => simp [NumbersOkFields, ih]

mutual

theorem NumbersOk.sorted : (v : Json) → v.NumbersOk → v.sorted.NumbersOk
  | .null, _ => trivial
  | .bool _, _ => trivial
  | .int _, _ => trivial
  | .float _, h => h
  | .str _, _ => trivial
  | .arr xs, h => numbersOkItems_sorted xs h
  | .obj fields, h => by
    have hfields := (numbersOkFields_iff _).mp (numbersOkFields_sorted fields h)
    refine (numbersOkFields_iff _).mpr fun f hf => ?_
    exact hfields f ((List.mergeSort_perm _ _).mem_iff.mp hf)

theorem numbersOkItems_sorted : (xs : List Json) → NumbersOkItems xs →
    NumbersOkItems (sortedItems xs)
  | [], _ => trivial
  | x :: xs, h => ⟨NumbersOk.sorted x h.1, numbersOkItems_sorted xs h.2⟩

theorem numbersOkFields_sorted : (fields : List (String × Json)) → NumbersOkFields fields →
    NumbersOkFields (sortedFields fields)
  | [], _ => trivial
  | (_, v) :: fields, h => ⟨NumbersOk.sorted v h.1, numbersOkFields_sorted fields h.2⟩

end

/-- Canonical JSON is injective up to the order of members. -/
theorem sorted_eq_of_canonicalJson {v w : Json} (hv : v.NumbersOk) (hw : w.NumbersOk)
    (h : canonicalJson v = canonicalJson w) : v.sorted = w.sorted := by
  have hrender : v.render = w.render := String.ofList_inj.mp h
  rw [render_eq_text, render_eq_text] at hrender
  have happend : v.sorted.text ++ [] = w.sorted.text ++ [] := by rw [hrender]
  exact (text_append_inj _ _ (.sorted v hv) (.sorted w hw) [] [] delimited_nil delimited_nil
    happend).1

/-! ## §4 Objects with the same keys -/

/-- Two objects with the same distinct keys in the same order that sort into one object
carry the same values. -/
theorem values_eq_of_sorted {fs gs : List (String × Json)}
    (hkeys : fs.map Prod.fst = gs.map Prod.fst) (hnodup : (fs.map Prod.fst).Nodup)
    (h : (Json.obj fs).sorted = (Json.obj gs).sorted) :
    fs.map (fun f => f.2.sorted) = gs.map fun f => f.2.sorted := by
  simp only [sorted, Json.obj.injEq] at h
  have hperm : (sortedFields fs).Perm (sortedFields gs) := by
    refine (List.mergeSort_perm (sortedFields fs) fun a b => decide (a.1 ≤ b.1)).symm.trans ?_
    rw [h]
    exact List.mergeSort_perm _ _
  have hfst : ∀ fields : List (String × Json),
      (sortedFields fields).map Prod.fst = fields.map Prod.fst := by
    intro fields
    simp [sortedFields_eq_map]
  have hsame : sortedFields fs = sortedFields gs :=
    Lib.Table.eq_of_perm_of_keys hperm (by rw [hfst, hfst, hkeys]) (by rw [hfst]; exact hnodup)
  have hsnd := congrArg (List.map Prod.snd) hsame
  rw [sortedFields_eq_map, sortedFields_eq_map, List.map_map, List.map_map] at hsnd
  exact hsnd

/-- Two objects with the same distinct keys in the same order and one canonical text
carry the same values. -/
theorem values_eq_of_canonicalJson {fs gs : List (String × Json)}
    (hf : NumbersOkFields fs) (hg : NumbersOkFields gs) (hkeys : fs.map Prod.fst = gs.map Prod.fst)
    (hnodup : (fs.map Prod.fst).Nodup) (h : canonicalJson (.obj fs) = canonicalJson (.obj gs)) :
    fs.map (fun f => f.2.sorted) = gs.map fun f => f.2.sorted := by
  apply values_eq_of_sorted hkeys hnodup
  have hsorted : (Json.obj fs).sorted = (Json.obj gs).sorted := sorted_eq_of_canonicalJson hf hg h
  exact hsorted

/-! ## §5 Texts, nullable texts and lists of texts -/

@[simp] theorem numbersOk_ofOption (s : Option String) : (ofOption s).NumbersOk := by
  cases s <;> trivial

@[simp] theorem numbersOkItems_map_str (l : List String) : NumbersOkItems (l.map .str) := by
  induction l with
  | nil => trivial
  | cons s l ih => exact ⟨trivial, ih⟩

@[simp] theorem sorted_ofOption (s : Option String) : (ofOption s).sorted = ofOption s := by
  cases s <;> rfl

@[simp] theorem sortedItems_map_str (l : List String) : sortedItems (l.map .str) = l.map .str := by
  induction l with
  | nil => rfl
  | cons s l ih => simp [sortedItems, sorted, ih]

@[simp] theorem ofOption_inj {s t : Option String} : ofOption s = ofOption t ↔ s = t := by
  cases s <;> cases t <;> simp [ofOption]

theorem str_injective : Function.Injective Json.str := by
  intro s t h
  cases h
  rfl

end DecisionFirewall.Json
