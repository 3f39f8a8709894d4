import DecisionFirewall.Base.JsonText

/-!
# Reading JSON

`strict_json_loads` of `adf_poc/utils.py`: `json.loads` that rejects duplicate members and
numbers that are not finite. What is written canonically is read back
(`strictJsonLoads_canonicalJson`).

- §1 what the reader takes from the standard library
- §2 strings
- §3 words
- §4 values
- §5 what is read back

A text is a sequence of Unicode scalar values: the escape of a lone surrogate is not read.
-/

namespace DecisionFirewall

open Lib.Reading

/-! ## §1 The library -/

/-- The characters of numbers and of the constants. -/
def isWordChar (c : Char) : Bool := c.isAlphanum || c = '+' || c = '-' || c = '.'

/-- `(?:0|[1-9][0-9]*)`. -/
def isNatLiteral : List Char → Bool
  | [] => false
  | '0' :: cs => cs.isEmpty
  | c :: cs => c.isDigit && cs.all Char.isDigit

/-- `-?(?:0|[1-9][0-9]*)`. -/
def isIntLiteral : List Char → Bool
  | '-' :: cs => isNatLiteral cs
  | cs => isNatLiteral cs

/-- `[-+]?[0-9]+`. -/
def isExponent : List Char → Bool
  | '+' :: cs | '-' :: cs => !cs.isEmpty && cs.all Char.isDigit
  | cs => !cs.isEmpty && cs.all Char.isDigit

/-- `([eE][-+]?[0-9]+)?`. -/
def isExponentPart : List Char → Bool
  | [] => true
  | c :: cs => (c = 'e' || c = 'E') && isExponent cs

/-- `(\.[0-9]+)?([eE][-+]?[0-9]+)?`, and not empty. -/
def isFloatTail : List Char → Bool
  | [] => false
  | '.' :: cs => !(cs.takeWhile Char.isDigit).isEmpty && isExponentPart (cs.dropWhile Char.isDigit)
  | cs => isExponentPart cs

/-- The literals that `json` reads as floating-point numbers. -/
def isFloatLiteral (cs : List Char) : Bool :=
  isIntLiteral (cs.takeWhile fun c => c = '-' || c.isDigit) &&
    isFloatTail (cs.dropWhile fun c => c = '-' || c.isDigit)

/-- What `json.loads` takes from the rest of the library. -/
structure JsonLibrary where
  /-- the text of some bytes in the encoding that `json.detect_encoding` finds; `none` is a
  `UnicodeDecodeError` -/
  decode : List UInt8 → Option String
  /-- `repr(float(literal))`; `none` where the value is not finite -/
  floatRepr : String → Option String
  /-- the integer that a number with this text equals, if `float.is_integer` holds of it -/
  floatInteger : String → Option Int
  /-- a text in ASCII that starts with an opening brace is its own bytes -/
  decode_ascii : ∀ cs : List Char, (∀ c ∈ cs, 0 < c.toNat ∧ c.toNat < 128) →
    decode (('{' :: cs).map fun c => c.toNat.toUInt8) = some (String.ofList ('{' :: cs))
  /-- a number is read back from its own text -/
  floatRepr_repr : ∀ s r, floatRepr s = some r → floatRepr r = some r
  /-- that text is a literal, with a lower-case exponent -/
  floatRepr_literal : ∀ s r, floatRepr s = some r →
    isFloatLiteral r.toList = true ∧ 'E' ∉ r.toList

namespace Json

/-! ## §2 Strings -/

/-- The value of a hexadecimal digit. -/
def hexValue (c : Char) : Option Nat :=
  if 48 ≤ c.toNat ∧ c.toNat ≤ 57 then some (c.toNat - 48)
  else if 97 ≤ c.toNat ∧ c.toNat ≤ 102 then some (c.toNat - 87)
  else if 65 ≤ c.toNat ∧ c.toNat ≤ 70 then some (c.toNat - 55)
  else none

/-- Four hexadecimal digits. -/
def readUnit : List Char → Option (Nat × List Char)
  | a :: b :: c :: d :: cs => do
    let a ← hexValue a
    let b ← hexValue b
    let c ← hexValue c
    let d ← hexValue d
    some (4096 * a + 256 * b + 16 * c + d, cs)
  | _ => none

/-- The escapes of one letter. -/
def shortEscape (c : Char) : Option Char :=
  if c = '"' ∨ c = '\\' ∨ c = '/' then some c
  else if c = 'b' then some (Char.ofNat 8)
  else if c = 'f' then some (Char.ofNat 12)
  else if c = 'n' then some (Char.ofNat 10)
  else if c = 'r' then some (Char.ofNat 13)
  else if c = 't' then some (Char.ofNat 9)
  else none

/-- The second half of a surrogate pair. -/
def readLowSurrogate : List Char → Option (Nat × List Char)
  | '\\' :: 'u' :: cs => do
    let (m, cs) ← readUnit cs
    if 56320 ≤ m ∧ m ≤ 57343 then some (m, cs) else none
  | _ => none

/-- What follows `\u`: one code unit, or two that make a pair. -/
def readUnicode (cs : List Char) : Option (Char × List Char) := do
  let (n, cs) ← readUnit cs
  if 55296 ≤ n ∧ n ≤ 57343 then
    if n ≤ 56319 then
      let (m, cs) ← readLowSurrogate cs
      some (Char.ofNat (65536 + (n - 55296) * 1024 + (m - 56320)), cs)
    else none
  else some (Char.ofNat n, cs)

/-- One character of a string, escaped or not. -/
def readChar : List Char → Option (Char × List Char)
  | [] => none
  | '\\' :: cs => match cs with
    | [] => none
    | c :: cs => if c = 'u' then readUnicode cs else (shortEscape c).map fun e => (e, cs)
  | c :: cs => if c.toNat < 32 then none else some (c, cs)

/-- The characters of a string up to its closing mark. -/
def readChars : Nat → List Char → Option (List Char × List Char)
  | 0, _ => none
  | fuel + 1, cs =>
    if cs.head? = some '"' then some ([], cs.tail)
    else do
      let (c, cs) ← readChar cs
      let (rest, cs) ← readChars fuel cs
      some (c :: rest, cs)

/-- What follows the opening mark of a string. -/
def readString (cs : List Char) : Option (String × List Char) :=
  (readChars cs.length cs).map fun r => (String.ofList r.1, r.2)

theorem hexValue_hexDigit {n : Nat} (h : n < 16) : hexValue (hexDigit n) = some n := by
  have hall : ∀ n < 16, hexValue (hexDigit n) = some n := by decide
  exact hall n h

/-- The four digits of a code unit. -/
theorem readUnit_escapeUnit {n : Nat} (h : n < 65536) (cs : List Char) :
    readUnit ((escapeUnit n).drop 2 ++ cs) = some (n, cs) := by
  have hvalue : 4096 * (n / 4096 % 16) + 256 * (n / 256 % 16) + 16 * (n / 16 % 16) + n % 16 = n := by
    omega
  simp only [escapeUnit, List.drop_succ_cons, List.drop_zero, List.cons_append, List.nil_append,
    readUnit, hexValue_hexDigit (Nat.mod_lt _ (by omega : 16 > 0)), Option.bind_eq_bind,
    Option.bind_some, hvalue]

theorem escapeUnit_append (n : Nat) (cs : List Char) :
    escapeUnit n ++ cs = '\\' :: 'u' :: ((escapeUnit n).drop 2 ++ cs) := rfl

theorem shortEscape_of_shortCode {c d : Char} (h : escapeChar c = ['\\', d]) :
    shortEscape d = some c := by
  unfold escapeChar at h
  split_ifs at h with h₁ h₂ h₃ h₄ h₅ h₆ h₇ h₈ h₉ <;>
    simp only [List.cons.injEq, and_true, true_and, reduceCtorEq, and_false, escapeUnit,
      List.cons_append, List.nil_append] at h
  · rw [← h, h₁]
    rfl
  · rw [← h, h₂]
    rfl
  · rw [← h, ← Char.ofNat_toNat c, h₃]
    rfl
  · rw [← h, ← Char.ofNat_toNat c, h₄]
    rfl
  · rw [← h, ← Char.ofNat_toNat c, h₅]
    rfl
  · rw [← h, ← Char.ofNat_toNat c, h₆]
    rfl
  · rw [← h, ← Char.ofNat_toNat c, h₇]
    rfl

/-- A code unit outside the surrogates. -/
theorem readUnicode_unit {n : Nat} (hn : n < 65536) (h : n < 55296 ∨ 57343 < n) (cs : List Char) :
    readUnicode ((escapeUnit n).drop 2 ++ cs) = some (Char.ofNat n, cs) := by
  have hsurrogate : ¬ (55296 ≤ n ∧ n ≤ 57343) := by omega
  rw [readUnicode, readUnit_escapeUnit hn]
  exact if_neg hsurrogate

/-- The two halves of a pair. -/
theorem readUnicode_pair {n m : Nat} (hn : 55296 ≤ n ∧ n ≤ 56319) (hm : 56320 ≤ m ∧ m ≤ 57343)
    (cs : List Char) : readUnicode ((escapeUnit n).drop 2 ++ (escapeUnit m ++ cs)) =
      some (Char.ofNat (65536 + (n - 55296) * 1024 + (m - 56320)), cs) := by
  have hlow : readLowSurrogate (escapeUnit m ++ cs) = some (m, cs) := by
    rw [escapeUnit_append, readLowSurrogate, readUnit_escapeUnit (by omega)]
    exact if_pos hm
  have hhigh : 55296 ≤ n ∧ n ≤ 57343 := by omega
  rw [readUnicode, readUnit_escapeUnit (by omega)]
  simp only [Option.bind_eq_bind, Option.bind_some, if_pos hhigh, if_pos hn.2, hlow]

/-- An escaped character is read back. -/
theorem readChar_escapeChar (c : Char) (cs : List Char) :
    readChar (escapeChar c ++ cs) = some (c, cs) := by
  have hsurrogate := toNat_not_surrogate c
  have hbound := toNat_lt c
  rcases escapeShape c with ⟨d, hd, h, -⟩ | ⟨h, hquote, hslash⟩ | ⟨h, hc⟩ | ⟨h, hc⟩
  · rw [h]
    simp only [List.cons_append, List.nil_append, readChar, if_neg hd, shortEscape_of_shortCode h,
      Option.map_some]
  · -- a plain character is printable
    have hprintable : 32 ≤ c.toNat := by
      by_contra hlt
      have hplain := h
      unfold escapeChar at hplain
      split_ifs at hplain <;> simp_all [escapeUnit]
    rw [h, List.cons_append, List.nil_append]
    unfold readChar
    split
    · contradiction
    · rename_i heq
      exact absurd (List.cons.inj heq).1 hslash
    · rename_i heq
      obtain ⟨rfl, rfl⟩ := List.cons.inj heq
      rw [if_neg (by omega)]
  · have hunit := readUnicode_unit hc hsurrogate cs
    rw [Char.ofNat_toNat] at hunit
    rw [h, escapeUnit_append]
    simp only [readChar, if_true, hunit]
  · have hpair := readUnicode_pair (n := 55296 + (c.toNat - 65536) / 1024)
      (m := 56320 + (c.toNat - 65536) % 1024) (by omega) (by omega) cs
    have hcode : 65536 + (55296 + (c.toNat - 65536) / 1024 - 55296) * 1024 +
        (56320 + (c.toNat - 65536) % 1024 - 56320) = c.toNat := by omega
    rw [hcode, Char.ofNat_toNat] at hpair
    rw [h, List.append_assoc, escapeUnit_append]
    simp only [readChar, if_true, hpair]

theorem escapeChar_ne_nil (c : Char) : escapeChar c ≠ [] := by
  unfold escapeChar
  split_ifs <;> simp [escapeUnit]

/-- The characters of a string are read back. -/
theorem readChars_flatMap (l cs : List Char) {fuel : Nat} (hfuel : l.length < fuel) :
    readChars fuel (l.flatMap escapeChar ++ '"' :: cs) = some (l, cs) := by
  induction l generalizing fuel with
  | nil =>
    cases fuel with
    | zero => omega
    | succ fuel => simp [readChars]
  | cons c l ih =>
    cases fuel with
    | zero => omega
    | succ fuel =>
      have hquote : ((c :: l).flatMap escapeChar ++ '"' :: cs).head? ≠ some '"' := by
        intro hhead
        obtain ⟨t, ht⟩ := List.head?_eq_some_iff.mp hhead
        rw [List.flatMap_cons, List.append_assoc] at ht
        exact avoids_escapeChar c _ _ ht
      rw [readChars, if_neg hquote, List.flatMap_cons, List.append_assoc, readChar_escapeChar]
      simp only [Option.bind_eq_bind, Option.bind_some, ih (Nat.lt_of_succ_lt_succ hfuel)]

/-- A written string is read back. -/
theorem readString_renderString (s : String) (cs : List Char) :
    readString ((renderString s ++ cs).tail) = some (s, cs) := by
  have hlength : s.toList.length ≤ (s.toList.flatMap escapeChar).length := by
    rw [List.length_flatMap]
    calc s.toList.length = (s.toList.map fun _ => 1).sum := by simp
      _ ≤ (s.toList.map fun c => (escapeChar c).length).sum :=
        List.sum_le_sum fun c _ => List.length_pos_iff.mpr (escapeChar_ne_nil c)
  have hfuel : s.toList.length < (s.toList.flatMap escapeChar ++ '"' :: cs).length := by
    simp only [List.length_append, List.length_cons]
    omega
  simp only [renderString, List.cons_append, List.tail_cons, List.append_assoc, List.nil_append,
    readString, readChars_flatMap _ _ hfuel, Option.map_some, String.ofList_toList]

/-! ## §3 Words -/

/-- `int(literal)`. -/
def intValue : List Char → Int
  | '-' :: cs => -(Nat.ofDigitChars 10 cs 0 : Int)
  | cs => Nat.ofDigitChars 10 cs 0

/-- The value of a number or constant. -/
def wordValue (lib : JsonLibrary) (word : List Char) : Option Json :=
  if word = "null".toList then some .null
  else if word = "true".toList then some (.bool true)
  else if word = "false".toList then some (.bool false)
  else if isIntLiteral word then some (.int (intValue word))
  else if isFloatLiteral word then (lib.floatRepr (String.ofList word)).map .float
  else none

def readWord (lib : JsonLibrary) (cs : List Char) : Option (Json × List Char) :=
  (wordValue lib (cs.takeWhile isWordChar)).map fun v => (v, cs.dropWhile isWordChar)

theorem isNatLiteral_all {cs : List Char} (h : isNatLiteral cs = true) :
    ∀ c ∈ cs, c.isDigit = true := by
  unfold isNatLiteral at h
  split at h
  · contradiction
  · simp only [List.isEmpty_iff] at h
    subst h
    simp
  · simpa using h

theorem isIntLiteral_all {cs : List Char} (h : isIntLiteral cs = true) :
    ∀ c ∈ cs, (c = '-' || c.isDigit) = true := by
  unfold isIntLiteral at h
  split at h
  · intro c hc
    rcases List.mem_cons.mp hc with rfl | hc
    · rfl
    · simp [isNatLiteral_all h c hc]
  · intro c hc
    simp [isNatLiteral_all h c hc]

/-- No literal is both. -/
theorem isFloatLiteral_of_isIntLiteral {cs : List Char} (h : isIntLiteral cs = true) :
    isFloatLiteral cs = false := by
  have hall := isIntLiteral_all h
  have hdrop : cs.dropWhile (fun c => c = '-' || c.isDigit) = [] :=
    List.dropWhile_eq_nil_iff.mpr hall
  simp [isFloatLiteral, hdrop, isFloatTail]

/-- The digits of a number that is not zero do not start with one. -/
theorem head_toDigits {n : Nat} (h : n ≠ 0) : (Nat.toDigits 10 n).head? ≠ some '0' := by
  induction n using Nat.base_induction 10 (by decide) with
  | single m hm =>
    rw [Nat.toDigits_of_lt_base hm]
    have hall : ∀ m < 10, m ≠ 0 → [m.digitChar].head? ≠ some '0' := by decide
    exact hall m hm h
  | digit m k hk hm ih =>
    rw [← Nat.toDigits_append_toDigits (by decide) hm hk, List.head?_append]
    have hne : m ≠ 0 := by omega
    obtain ⟨c, hc⟩ : ∃ c, (Nat.toDigits 10 m).head? = some c :=
      Option.isSome_iff_exists.mp (by simp)
    have ih := ih hne
    rw [hc] at ih ⊢
    exact ih

theorem isNatLiteral_toDigits (n : Nat) : isNatLiteral (Nat.toDigits 10 n) = true := by
  by_cases hzero : n = 0
  · subst hzero
    rfl
  · have hhead := head_toDigits hzero
    have hdigits : ∀ c ∈ Nat.toDigits 10 n, c.isDigit = true := fun c hc =>
      Nat.isDigit_of_mem_toDigits (by omega) (by omega) hc
    cases hcs : Nat.toDigits 10 n with
    | nil => exact absurd hcs (by simp)
    | cons c cs =>
      rw [hcs] at hhead hdigits
      unfold isNatLiteral
      split
      · contradiction
      · rename_i heq
        exact absurd (by rw [← (List.cons.inj heq).1]; rfl) hhead
      · rename_i heq
        obtain ⟨rfl, rfl⟩ := List.cons.inj heq
        simpa using hdigits

theorem head_toDigits_ne_minus (n : Nat) {cs : List Char} (h : Nat.toDigits 10 n = '-' :: cs) :
    False := by
  have hdigit := Nat.isDigit_of_mem_toDigits (b := 10) (n := n) (c := '-') (by omega) (by omega)
    (by simp [h])
  exact absurd hdigit (by decide)

/-- A written integer is read back. -/
theorem intLiteral_toString (n : Int) :
    isIntLiteral (toString n).toList = true ∧ intValue (toString n).toList = n := by
  have hrepr : toString n = Int.repr n := rfl
  rw [hrepr]
  cases n with
  | ofNat m =>
    have htext : (Int.repr (Int.ofNat m)).toList = Nat.toDigits 10 m := by
      simp [Int.repr, Nat.repr]
    have hnat := isNatLiteral_toDigits m
    rw [htext]
    cases hcs : Nat.toDigits 10 m with
    | nil => exact absurd hcs (by simp)
    | cons c cs =>
      have hc : c ≠ '-' := fun heq => head_toDigits_ne_minus m (heq ▸ hcs)
      rw [hcs] at hnat
      constructor
      · unfold isIntLiteral
        split
        · rename_i heq
          exact absurd (List.cons.inj heq).1 hc
        · exact hnat
      · unfold intValue
        split
        · rename_i heq
          exact absurd (List.cons.inj heq).1 hc
        · rw [← hcs, Nat.ofDigitChars_ten_toDigits]
          rfl
  | negSucc m =>
    have htext : (Int.repr (Int.negSucc m)).toList = '-' :: Nat.toDigits 10 (m + 1) := by
      simp [Int.repr, Nat.repr]
    rw [htext]
    refine ⟨isNatLiteral_toDigits (m + 1), ?_⟩
    simp only [intValue, Nat.ofDigitChars_ten_toDigits]
    rfl

/-- The characters after the integer part of a number. -/
def tailChars : List Char := ['+', '-', '.', 'e', 'E']

theorem isExponent_all {cs : List Char} (h : isExponent cs = true) :
    ∀ c ∈ cs, c.isDigit = true ∨ c ∈ tailChars := by
  unfold isExponent at h
  split at h <;> simp only [Bool.and_eq_true, List.all_eq_true] at h
  · intro c hc
    rcases List.mem_cons.mp hc with rfl | hc
    · exact .inr (by decide)
    · exact .inl (h.2 c hc)
  · intro c hc
    rcases List.mem_cons.mp hc with rfl | hc
    · exact .inr (by decide)
    · exact .inl (h.2 c hc)
  · exact fun c hc => .inl (h.2 c hc)

theorem isExponentPart_all {cs : List Char} (h : isExponentPart cs = true) :
    ∀ c ∈ cs, c.isDigit = true ∨ c ∈ tailChars := by
  cases cs with
  | nil => simp
  | cons d cs =>
    simp only [isExponentPart, Bool.and_eq_true, Bool.or_eq_true, decide_eq_true_eq] at h
    intro c hc
    rcases List.mem_cons.mp hc with rfl | hc
    · rcases h.1 with rfl | rfl
      · exact .inr (by decide)
      · exact .inr (by decide)
    · exact isExponent_all h.2 c hc

/-- What follows the integer part of a floating-point literal. -/
theorem isFloatTail_cases {cs : List Char} (h : isFloatTail cs = true) :
    (∀ c ∈ cs, c.isDigit = true ∨ c ∈ tailChars) ∧ ∃ c ∈ cs, c = '.' ∨ c = 'e' ∨ c = 'E' := by
  unfold isFloatTail at h
  split at h
  · contradiction
  · rename_i cs
    simp only [Bool.and_eq_true] at h
    refine ⟨?_, '.', by simp, .inl rfl⟩
    intro c hc
    rcases List.mem_cons.mp hc with rfl | hc
    · exact .inr (by decide)
    · -- the fraction, then the exponent
      rw [← List.takeWhile_append_dropWhile (p := Char.isDigit) (l := cs)] at hc
      rcases List.mem_append.mp hc with hc | hc
      · exact .inl (List.mem_takeWhile_imp hc)
      · exact isExponentPart_all h.2 c hc
  · rename_i hnil _
    refine ⟨isExponentPart_all h, ?_⟩
    cases cs with
    | nil => exact (hnil rfl).elim
    | cons c cs =>
      simp only [isExponentPart, Bool.and_eq_true, Bool.or_eq_true, decide_eq_true_eq] at h
      exact ⟨c, by simp, .inr h.1⟩

theorem isFloatLiteral_cases {cs : List Char} (h : isFloatLiteral cs = true) :
    (∀ c ∈ cs, c.isDigit = true ∨ c ∈ tailChars) ∧ ∃ c ∈ cs, c = '.' ∨ c = 'e' ∨ c = 'E' := by
  simp only [isFloatLiteral, Bool.and_eq_true] at h
  obtain ⟨htail, c, hc, hmark⟩ := isFloatTail_cases h.2
  have hsplit := List.takeWhile_append_dropWhile (p := fun c => decide (c = '-') || c.isDigit)
    (l := cs)
  refine ⟨?_, c, by rw [← hsplit]; exact List.mem_append_right _ hc, hmark⟩
  intro c hc
  rw [← hsplit] at hc
  rcases List.mem_append.mp hc with hc | hc
  · have hint := isIntLiteral_all h.1 c hc
    simp only [Bool.or_eq_true, decide_eq_true_eq] at hint
    rcases hint with rfl | hdigit
    · exact .inr (by decide)
    · exact .inl hdigit
  · exact htail c hc

theorem isWordChar_of_number {c : Char} (h : c.isDigit = true ∨ c ∈ tailChars) :
    isWordChar c = true := by
  rcases h with h | h
  · simp [isWordChar, Char.isAlphanum, h]
  · have hall : tailChars.all isWordChar = true := by rfl
    exact List.all_eq_true.mp hall c h

/-! ## §4 Values -/

def isSpace (c : Char) : Bool := c = ' ' || c = '\t' || c = '\n' || c = '\r'

def skipSpace (cs : List Char) : List Char := cs.dropWhile isSpace

mutual

/-- A value; the fuel bounds the calls. -/
def readValue (lib : JsonLibrary) : Nat → List Char → Option (Json × List Char)
  | 0, _ => none
  | fuel + 1, cs =>
    if cs.head? = some '"' then (readString cs.tail).map fun r => (.str r.1, r.2)
    else if cs.head? = some '[' then
      let cs := skipSpace cs.tail
      if cs.head? = some ']' then some (.arr [], cs.tail)
      else (readItems lib fuel cs).map fun r => (.arr r.1, r.2)
    else if cs.head? = some '{' then
      let cs := skipSpace cs.tail
      if cs.head? = some '}' then some (.obj [], cs.tail)
      else (readMembers lib fuel cs).bind fun r =>
        -- `_reject_duplicate_pairs`
        if (r.1.map Prod.fst).Nodup then some (.obj r.1, r.2) else none
    else readWord lib cs

/-- The items of an array that is not empty, up to its closing bracket. -/
def readItems (lib : JsonLibrary) : Nat → List Char → Option (List Json × List Char)
  | 0, _ => none
  | fuel + 1, cs => (readValue lib fuel cs).bind fun r =>
    let cs := skipSpace r.2
    if cs.head? = some ']' then some ([r.1], cs.tail)
    else if cs.head? = some ',' then
      (readItems lib fuel (skipSpace cs.tail)).map fun rest => (r.1 :: rest.1, rest.2)
    else none

/-- The members of an object that is not empty, up to its closing brace. -/
def readMembers (lib : JsonLibrary) : Nat → List Char → Option (List (String × Json) × List Char)
  | 0, _ => none
  | fuel + 1, cs =>
    if cs.head? ≠ some '"' then none
    else (readString cs.tail).bind fun key =>
      let cs := skipSpace key.2
      if cs.head? ≠ some ':' then none
      else (readValue lib fuel (skipSpace cs.tail)).bind fun r =>
        let cs := skipSpace r.2
        if cs.head? = some '}' then some ([(key.1, r.1)], cs.tail)
        else if cs.head? = some ',' then
          (readMembers lib fuel (skipSpace cs.tail)).map fun rest => ((key.1, r.1) :: rest.1, rest.2)
        else none

end

end Json

/-- `strict_json_loads` of a text; `none` is an exception. -/
def strictJsonLoads (lib : JsonLibrary) (text : String) : Option Json :=
  (Json.readValue lib (text.toList.length + 1) (Json.skipSpace text.toList)).bind fun r =>
    if Json.skipSpace r.2 = [] then some r.1 else none

/-- `strict_json_loads` of some bytes. -/
def strictJsonLoadsBytes (lib : JsonLibrary) (raw : List UInt8) : Option Json :=
  (lib.decode raw).bind (strictJsonLoads lib)

/-! ## §5 What is read back -/

namespace Json

variable (lib : JsonLibrary)

mutual

/-- The value is one that the reader makes: its numbers are written as they are read, and
no object has two members of one name. -/
def Readable : Json → Prop
  | .float repr => lib.floatRepr repr = some repr
  | .arr xs => ReadableItems xs
  | .obj fields => (fields.map Prod.fst).Nodup ∧ ReadableFields fields
  | _ => True

def ReadableItems : List Json → Prop
  | [] => True
  | x :: xs => Readable x ∧ ReadableItems xs

def ReadableFields : List (String × Json) → Prop
  | [] => True
  | (_, v) :: fields => Readable v ∧ ReadableFields fields

end

variable {lib}

theorem readableItems_iff {xs : List Json} : ReadableItems lib xs ↔ ∀ x ∈ xs, x.Readable lib := by
  induction xs with
  | nil => simp [ReadableItems]
  | cons x xs ih => simp [ReadableItems, ih]

theorem readableFields_iff {fields : List (String × Json)} :
    ReadableFields lib fields ↔ ∀ f ∈ fields, f.2.Readable lib := by
  induction fields with
  | nil => simp [ReadableFields]
  | cons f fields ih => simp [ReadableFields, ih]

mutual

theorem Readable.numbersOk : (v : Json) → v.Readable lib → v.NumbersOk
  | .null, _ => trivial
  | .bool _, _ => trivial
  | .int _, _ => trivial
  | .float r, h => by
    obtain ⟨hliteral, hupper⟩ := lib.floatRepr_literal r r h
    obtain ⟨hall, c, hc, hmark⟩ := isFloatLiteral_cases hliteral
    constructor
    · intro d hd
      have hdigits : ∀ n, 48 ≤ n → n ≤ 57 → Char.ofNat n ∈ "0123456789+-.e".toList := by
        intro n h₁ h₂
        interval_cases n <;> decide
      rcases hall d hd with hdigit | htail
      · simp only [Char.isDigit, ge_iff_le, Bool.and_eq_true, decide_eq_true_eq] at hdigit
        rw [← Char.ofNat_toNat d]
        exact hdigits _ (UInt32.le_iff_toNat_le.mp hdigit.1) (UInt32.le_iff_toNat_le.mp hdigit.2)
      · simp only [tailChars, List.mem_cons, List.not_mem_nil, or_false] at htail
        rcases htail with rfl | rfl | rfl | rfl | rfl
        · decide
        · decide
        · decide
        · decide
        · exact absurd hd hupper
    · rcases hmark with rfl | rfl | rfl
      · exact ⟨_, hc, .inl rfl⟩
      · exact ⟨_, hc, .inr rfl⟩
      · exact absurd hc hupper
  | .str _, _ => trivial
  | .arr xs, h => numbersOkItems_of_readable xs h
  | .obj fields, h => numbersOkFields_of_readable fields h.2

theorem numbersOkItems_of_readable : (xs : List Json) → ReadableItems lib xs → NumbersOkItems xs
  | [], _ => trivial
  | x :: xs, h => ⟨Readable.numbersOk x h.1, numbersOkItems_of_readable xs h.2⟩

theorem numbersOkFields_of_readable : (fields : List (String × Json)) →
    ReadableFields lib fields → NumbersOkFields fields
  | [], _ => trivial
  | (_, v) :: fields, h => ⟨Readable.numbersOk v h.1, numbersOkFields_of_readable fields h.2⟩

end

/-- A word is the value it was written for. -/
theorem wordValue_text {v : Json} (hword : v.IsWord) (h : v.Readable lib) :
    wordValue lib v.text = some v := by
  cases v with
  | null => rfl
  | bool b => cases b <;> rfl
  | int n =>
    have hne : ∀ w : Json, w.IsWord → w.NumbersOk → w ≠ .int n → text (.int n) ≠ w.text :=
      fun w hw hok hneq heq => hneq (word_inj hw trivial hok trivial heq.symm)
    have hnull := hne .null trivial trivial (by simp)
    have htrue := hne (.bool true) trivial trivial (by simp)
    have hfalse := hne (.bool false) trivial trivial (by simp)
    obtain ⟨hliteral, hvalue⟩ := intLiteral_toString n
    simp only [text] at hnull htrue hfalse ⊢
    rw [wordValue, if_neg hnull, if_neg htrue, if_neg hfalse, if_pos hliteral, hvalue]
  | float r =>
    obtain ⟨hliteral, -⟩ := lib.floatRepr_literal r r h
    have hint : isIntLiteral r.toList ≠ true := by
      intro hint
      rw [isFloatLiteral_of_isIntLiteral hint] at hliteral
      cases hliteral
    have hconstant : ∀ w : List Char, isFloatLiteral w = false → r.toList ≠ w := by
      intro w hw heq
      rw [heq, hw] at hliteral
      cases hliteral
    simp only [text]
    rw [wordValue, if_neg (hconstant _ (by decide)), if_neg (hconstant _ (by decide)),
      if_neg (hconstant _ (by decide)), if_neg hint, if_pos hliteral, String.ofList_toList,
      show lib.floatRepr r = some r from h]
    rfl
  | str _ => exact hword.elim
  | arr _ => exact hword.elim
  | obj _ => exact hword.elim

/-- The text after a value starts with no character of a word. -/
theorem not_isWordChar_of_isDelimiter {c : Char} (h : IsDelimiter c) : isWordChar c = false := by
  rcases h with rfl | rfl | rfl <;> decide

theorem isWordChar_text {v : Json} (hword : v.IsWord) (h : v.NumbersOk) :
    ∀ c ∈ v.text, isWordChar c = true := by
  intro c hc
  have hall : wordChars.all isWordChar = true := by rfl
  exact List.all_eq_true.mp hall c (text_mem_wordChars hword h c hc)

/-- A written word is read back. -/
theorem readWord_text {v : Json} (hword : v.IsWord) (h : v.Readable lib) {cs : List Char}
    (hcs : Delimited IsDelimiter cs) : readWord lib (v.text ++ cs) = some (v, cs) := by
  have hchars := isWordChar_text hword h.numbersOk
  have hrest : cs.takeWhile isWordChar = [] ∧ cs.dropWhile isWordChar = cs := by
    cases cs with
    | nil => exact ⟨rfl, rfl⟩
    | cons c cs =>
      have hc := not_isWordChar_of_isDelimiter (delimited_cons.mp hcs)
      exact ⟨List.takeWhile_cons_of_neg (by simp [hc]), List.dropWhile_cons_of_neg (by simp [hc])⟩
  rw [readWord, List.takeWhile_append_of_pos hchars, List.dropWhile_append_of_pos hchars, hrest.1,
    hrest.2, List.append_nil, wordValue_text hword h]
  rfl

/-- A value starts with a character that is no space, and no delimiter. -/
theorem head_text {v : Json} (h : v.NumbersOk) :
    ∃ c cs, v.text = c :: cs ∧ isSpace c = false ∧ ¬ IsDelimiter c := by
  have hdelimiter : ∀ c cs, v.text = c :: cs → ¬ IsDelimiter c := by
    intro c cs htext hc
    exact text_append_ne h hc [] cs (by rw [List.append_nil, htext])
  have hcases : ∃ c cs, v.text = c :: cs ∧ isSpace c = false := by
    by_cases hword : v.IsWord
    · obtain ⟨c, cs, hcs⟩ := List.exists_cons_of_ne_nil (text_ne_nil hword h)
      refine ⟨c, cs, hcs, ?_⟩
      have hall : wordChars.all (fun c => !isSpace c) = true := by rfl
      simpa using List.all_eq_true.mp hall c (text_mem_wordChars hword h c (by simp [hcs]))
    · cases v with
      | str s => exact ⟨_, _, rfl, by decide⟩
      | arr xs => exact ⟨_, _, rfl, by decide⟩
      | obj fields => exact ⟨_, _, rfl, by decide⟩
      | null => exact absurd trivial hword
      | bool _ => exact absurd trivial hword
      | int _ => exact absurd trivial hword
      | float _ => exact absurd trivial hword
  obtain ⟨c, cs, htext, hspace⟩ := hcases
  exact ⟨c, cs, htext, hspace, hdelimiter c cs htext⟩

theorem skipSpace_text {v : Json} (h : v.NumbersOk) (cs : List Char) :
    skipSpace (v.text ++ cs) = v.text ++ cs := by
  obtain ⟨c, rest, htext, hspace, -⟩ := head_text h
  rw [htext, List.cons_append]
  exact List.dropWhile_cons_of_neg (by simp [hspace])

theorem skipSpace_cons {c : Char} (h : isSpace c = false) (cs : List Char) :
    skipSpace (c :: cs) = c :: cs :=
  List.dropWhile_cons_of_neg (by simp [h])

mutual

/-- The calls that the reader makes for a value. -/
def cost : Json → Nat
  | .arr xs => 1 + costItems xs
  | .obj fields => 1 + costFields fields
  | _ => 1

def costItems : List Json → Nat
  | [] => 0
  | x :: xs => 1 + cost x + costItems xs

def costFields : List (String × Json) → Nat
  | [] => 0
  | (_, v) :: fields => 1 + cost v + costFields fields

end

/-- The parts, each with a comma, are one comma longer than the joined text. -/
theorem sum_le_length_joinComma (parts : List (List Char)) :
    (parts.map fun p => p.length + 1).sum ≤ (joinComma parts).length + 1 := by
  induction parts with
  | nil => simp [joinComma]
  | cons x rest ih =>
    cases rest with
    | nil => simp [joinComma]
    | cons y rest =>
      simp only [joinComma, List.map_cons, List.sum_cons, List.length_append,
        List.length_cons] at ih ⊢
      omega

mutual

/-- The text of a value is no shorter than the calls for it. -/
theorem cost_le : (v : Json) → v.NumbersOk → cost v ≤ v.text.length
  | .null, _ => by simp [cost, text]
  | .bool true, _ => by simp [cost, text]
  | .bool false, _ => by simp [cost, text]
  | .int n, h => List.length_pos_iff.mpr (text_ne_nil (v := .int n) trivial h)
  | .float r, h => List.length_pos_iff.mpr (text_ne_nil (v := .float r) trivial h)
  | .str s, _ => by simp [cost, text, renderString]
  | .arr xs, h => by
    have hitems := costItems_le xs h
    have hjoin := sum_le_length_joinComma (textItems xs)
    simp only [cost, text, List.length_append, List.length_cons, List.length_nil]
    omega
  | .obj fields, h => by
    have hfields := costFields_le fields h
    have hjoin := sum_le_length_joinComma (textFields fields)
    simp only [cost, text, List.length_append, List.length_cons, List.length_nil]
    omega

theorem costItems_le : (xs : List Json) → NumbersOkItems xs →
    costItems xs ≤ ((textItems xs).map fun p => p.length + 1).sum
  | [], _ => le_refl 0
  | x :: xs, h => by
    have hx := cost_le x h.1
    have hxs := costItems_le xs h.2
    simp only [costItems, textItems, List.map_cons, List.sum_cons]
    omega

theorem costFields_le : (fields : List (String × Json)) → NumbersOkFields fields →
    costFields fields ≤ ((textFields fields).map fun p => p.length + 1).sum
  | [], _ => le_refl 0
  | (k, v) :: fields, h => by
    have hv := cost_le v h.1
    have hfields := costFields_le fields h.2
    simp only [costFields, textFields, List.map_cons, List.sum_cons, List.length_append,
      List.length_cons]
    omega

end

/-- A word is read as a word. -/
theorem readValue_word {v : Json} (hword : v.IsWord) (h : v.Readable lib) {fuel : Nat}
    (hfuel : 1 ≤ fuel) {cs : List Char} (hcs : Delimited IsDelimiter cs) :
    readValue lib fuel (v.text ++ cs) = some (v, cs) := by
  obtain ⟨fuel, rfl⟩ := Nat.exists_eq_add_of_le' hfuel
  obtain ⟨c, rest, htext⟩ := List.exists_cons_of_ne_nil (text_ne_nil hword h.numbersOk)
  have hc : isWordChar c = true := isWordChar_text hword h.numbersOk c (by simp [htext])
  have hhead : ∀ d : Char, isWordChar d = false → (v.text ++ cs).head? ≠ some d := by
    intro d hd heq
    rw [htext, List.cons_append, List.head?_cons, Option.some.injEq] at heq
    rw [heq, hd] at hc
    cases hc
  rw [readValue, if_neg (hhead _ (by decide)), if_neg (hhead _ (by decide)),
    if_neg (hhead _ (by decide)), readWord_text hword h hcs]

mutual

/-- A written value is read back. -/
theorem readValue_text : (v : Json) → v.Readable lib → (fuel : Nat) → cost v ≤ fuel →
    (cs : List Char) → Delimited IsDelimiter cs → readValue lib fuel (v.text ++ cs) = some (v, cs)
  | .null, h, _, hfuel, _, hcs => readValue_word (v := .null) trivial h hfuel hcs
  | .bool _, h, _, hfuel, _, hcs => readValue_word (v := .bool _) trivial h hfuel hcs
  | .int _, h, _, hfuel, _, hcs => readValue_word (v := .int _) trivial h hfuel hcs
  | .float _, h, _, hfuel, _, hcs => readValue_word (v := .float _) trivial h hfuel hcs
  | .str s, _, fuel, hfuel, cs, _ => by
    obtain ⟨fuel, rfl⟩ := Nat.exists_eq_add_of_le' (show 1 ≤ fuel from hfuel)
    have hstring := readString_renderString s cs
    rw [readValue, if_pos (by rfl), text, hstring]
    rfl
  | .arr [], _, fuel, hfuel, cs, _ => by
    obtain ⟨fuel, rfl⟩ := Nat.exists_eq_add_of_le' (show 1 ≤ fuel from hfuel)
    simp [readValue, text, textItems, joinComma, skipSpace_cons (by decide : isSpace ']' = false)]
  | .arr (x :: xs), h, fuel, hfuel, cs, _ => by
    simp only [cost] at hfuel
    obtain ⟨fuel, rfl⟩ := Nat.exists_eq_add_of_le' (show 1 ≤ fuel by omega)
    have hitems := readItems_text (x :: xs) (by simp) h fuel (by omega) cs
    obtain ⟨c, rest, htext, hspace, hdelimiter⟩ := head_text (Readable.numbersOk x h.1)
    have hskip : skipSpace (joinComma (textItems (x :: xs)) ++ ']' :: cs) =
        joinComma (textItems (x :: xs)) ++ ']' :: cs := by
      cases xs <;> simp only [textItems, joinComma, htext, List.cons_append] <;>
        exact skipSpace_cons hspace _
    have hhead : (joinComma (textItems (x :: xs)) ++ ']' :: cs).head? ≠ some ']' := by
      cases xs <;> simp only [textItems, joinComma, htext, List.cons_append, List.head?_cons,
        ne_eq, Option.some.injEq] <;> exact fun heq => hdelimiter (.inr (.inl heq))
    rw [readValue, if_neg (by simp [text]), if_pos (by rfl)]
    simp only [text, List.cons_append, List.tail_cons, List.append_assoc, List.nil_append, hskip]
    rw [if_neg hhead, hitems]
    rfl
  | .obj [], _, fuel, hfuel, cs, _ => by
    obtain ⟨fuel, rfl⟩ := Nat.exists_eq_add_of_le' (show 1 ≤ fuel from hfuel)
    simp [readValue, text, textFields, joinComma, skipSpace_cons (by decide : isSpace '}' = false)]
  | .obj ((k, v) :: fields), h, fuel, hfuel, cs, _ => by
    simp only [cost] at hfuel
    obtain ⟨fuel, rfl⟩ := Nat.exists_eq_add_of_le' (show 1 ≤ fuel by omega)
    have hmembers := readMembers_text ((k, v) :: fields) (by simp) h.2 fuel (by omega) cs
    obtain ⟨rest, hrest⟩ : ∃ rest, joinComma (textFields ((k, v) :: fields)) ++ '}' :: cs =
        '"' :: rest := by
      cases fields <;> simp [textFields, joinComma, renderString]
    have hskip : skipSpace (joinComma (textFields ((k, v) :: fields)) ++ '}' :: cs) =
        joinComma (textFields ((k, v) :: fields)) ++ '}' :: cs := by
      rw [hrest]
      exact skipSpace_cons (by decide) _
    rw [readValue, if_neg (by simp [text]), if_neg (by simp [text]), if_pos (by rfl)]
    simp only [text, List.cons_append, List.tail_cons, List.append_assoc, List.nil_append, hskip]
    rw [if_neg (by rw [hrest]; simp), hmembers, Option.bind_some, if_pos h.1]

theorem readItems_text : (xs : List Json) → xs ≠ [] → ReadableItems lib xs → (fuel : Nat) →
    costItems xs ≤ fuel → (cs : List Char) →
    readItems lib fuel (joinComma (textItems xs) ++ ']' :: cs) = some (xs, cs)
  | [], hne, _, _, _, _ => absurd rfl hne
  | [x], _, hxs, fuel, hfuel, cs => by
    obtain ⟨hx, -⟩ := hxs
    simp only [costItems] at hfuel
    obtain ⟨fuel, rfl⟩ := Nat.exists_eq_add_of_le' (show 1 ≤ fuel by omega)
    have hvalue := readValue_text x hx fuel (by omega) (']' :: cs)
      (delimited_cons.mpr (.inr (.inl rfl)))
    simp [readItems, textItems, joinComma, hvalue, skipSpace_cons (by decide : isSpace ']' = false)]
  | x :: y :: ys, _, hxs, fuel, hfuel, cs => by
    obtain ⟨hx, hxs⟩ := hxs
    simp only [costItems] at hfuel
    obtain ⟨fuel, rfl⟩ := Nat.exists_eq_add_of_le' (show 1 ≤ fuel by omega)
    have hvalue := readValue_text x hx fuel (by omega)
      (',' :: (joinComma (textItems (y :: ys)) ++ ']' :: cs)) (delimited_cons.mpr (.inl rfl))
    have hitems := readItems_text (y :: ys) (by simp) hxs fuel (by simp only [costItems]; omega) cs
    obtain ⟨c, rest, htext, hspace, -⟩ := head_text (Readable.numbersOk y hxs.1)
    have hskip : skipSpace (joinComma (textItems (y :: ys)) ++ ']' :: cs) =
        joinComma (textItems (y :: ys)) ++ ']' :: cs := by
      cases ys <;> simp only [textItems, joinComma, htext, List.cons_append] <;>
        exact skipSpace_cons hspace _
    have hsplit : joinComma (textItems (x :: y :: ys)) ++ ']' :: cs =
        x.text ++ ',' :: (joinComma (textItems (y :: ys)) ++ ']' :: cs) := by
      simp only [textItems, joinComma, List.append_assoc, List.cons_append]
    rw [hsplit, readItems, hvalue, Option.bind_some]
    simp only [skipSpace_cons (by decide : isSpace ',' = false), List.head?_cons, List.tail_cons,
      hskip, hitems]
    rfl

theorem readMembers_text : (fields : List (String × Json)) → fields ≠ [] →
    ReadableFields lib fields → (fuel : Nat) → costFields fields ≤ fuel → (cs : List Char) →
    readMembers lib fuel (joinComma (textFields fields) ++ '}' :: cs) = some (fields, cs)
  | [], hne, _, _, _, _ => absurd rfl hne
  | [(k, v)], _, hfields, fuel, hfuel, cs => by
    obtain ⟨hv, -⟩ := hfields
    simp only [costFields] at hfuel
    obtain ⟨fuel, rfl⟩ := Nat.exists_eq_add_of_le' (show 1 ≤ fuel by omega)
    have hstring := readString_renderString k (':' :: (v.text ++ '}' :: cs))
    have hvalue := readValue_text v hv fuel (by omega) ('}' :: cs)
      (delimited_cons.mpr (.inr (.inr rfl)))
    have hsplit : joinComma (textFields [(k, v)]) ++ '}' :: cs =
        renderString k ++ ':' :: (v.text ++ '}' :: cs) := by
      simp only [textFields, joinComma, List.append_assoc, List.cons_append]
    rw [hsplit, readMembers, if_neg (by simp [renderString]), hstring, Option.bind_some]
    simp only [skipSpace_cons (by decide : isSpace ':' = false), List.head?_cons, List.tail_cons,
      ne_eq, not_true_eq_false, if_false, skipSpace_text (Readable.numbersOk v hv), hvalue,
      Option.bind_some, skipSpace_cons (by decide : isSpace '}' = false), if_true]
  | (k, v) :: (k', v') :: fields, _, hfields, fuel, hfuel, cs => by
    obtain ⟨hv, hfields⟩ := hfields
    simp only [costFields] at hfuel
    obtain ⟨fuel, rfl⟩ := Nat.exists_eq_add_of_le' (show 1 ≤ fuel by omega)
    have hstring := readString_renderString k
      (':' :: (v.text ++ ',' :: (joinComma (textFields ((k', v') :: fields)) ++ '}' :: cs)))
    have hvalue := readValue_text v hv fuel (by omega)
      (',' :: (joinComma (textFields ((k', v') :: fields)) ++ '}' :: cs))
      (delimited_cons.mpr (.inl rfl))
    have hmembers := readMembers_text ((k', v') :: fields) (by simp) hfields fuel
      (by simp only [costFields]; omega) cs
    obtain ⟨rest, hrest⟩ : ∃ rest, joinComma (textFields ((k', v') :: fields)) ++ '}' :: cs =
        '"' :: rest := by
      cases fields <;> simp [textFields, joinComma, renderString]
    have hskip : skipSpace (joinComma (textFields ((k', v') :: fields)) ++ '}' :: cs) =
        joinComma (textFields ((k', v') :: fields)) ++ '}' :: cs := by
      rw [hrest]
      exact skipSpace_cons (by decide) _
    have hsplit : joinComma (textFields ((k, v) :: (k', v') :: fields)) ++ '}' :: cs =
        renderString k ++ ':' ::
          (v.text ++ ',' :: (joinComma (textFields ((k', v') :: fields)) ++ '}' :: cs)) := by
      simp only [textFields, joinComma, List.append_assoc, List.cons_append]
    rw [hsplit, readMembers, if_neg (by simp [renderString]), hstring, Option.bind_some]
    simp only [skipSpace_cons (by decide : isSpace ':' = false), List.head?_cons, List.tail_cons,
      ne_eq, not_true_eq_false, if_false, skipSpace_text (Readable.numbersOk v hv), hvalue,
      Option.bind_some, skipSpace_cons (by decide : isSpace ',' = false), hskip, hmembers]
    rfl

end

/-- A text written in the order of the members is read back. -/
theorem strictJsonLoads_text {v : Json} (h : v.Readable lib) :
    strictJsonLoads lib (String.ofList v.text) = some v := by
  have hskip := skipSpace_text h.numbersOk []
  have hvalue := readValue_text v h (v.text.length + 1)
    ((cost_le v h.numbersOk).trans (Nat.le_succ _)) [] delimited_nil
  rw [List.append_nil] at hskip hvalue
  simp only [strictJsonLoads, String.toList_ofList, hskip, hvalue, Option.bind_some]
  rfl

mutual

/-- The reader makes values that it reads back. -/
theorem Readable.sorted : (v : Json) → v.Readable lib → v.sorted.Readable lib
  | .null, _ => trivial
  | .bool _, _ => trivial
  | .int _, _ => trivial
  | .float _, h => h
  | .str _, _ => trivial
  | .arr xs, h => readableItems_sorted xs h
  | .obj fields, h => by
    have hperm := List.mergeSort_perm (sortedFields fields) fun a b => decide (a.1 ≤ b.1)
    have hfields := readableFields_iff.mp (readableFields_sorted fields h.2)
    have hkeys : (sortedFields fields).map Prod.fst = fields.map Prod.fst := by
      simp [sortedFields_eq_map]
    refine ⟨(hperm.map Prod.fst).nodup_iff.mpr (hkeys ▸ h.1), ?_⟩
    exact readableFields_iff.mpr fun f hf => hfields f (hperm.mem_iff.mp hf)

theorem readableItems_sorted : (xs : List Json) → ReadableItems lib xs →
    ReadableItems lib (sortedItems xs)
  | [], _ => trivial
  | x :: xs, h => ⟨Readable.sorted x h.1, readableItems_sorted xs h.2⟩

theorem readableFields_sorted : (fields : List (String × Json)) → ReadableFields lib fields →
    ReadableFields lib (sortedFields fields)
  | [], _ => trivial
  | (_, v) :: fields, h => ⟨Readable.sorted v h.1, readableFields_sorted fields h.2⟩

end

/-- A canonical text is read back, its members in key order. -/
theorem strictJsonLoads_canonicalJson {v : Json} (h : v.Readable lib) :
    strictJsonLoads lib (canonicalJson v) = some v.sorted := by
  rw [canonicalJson, render_eq_text]
  exact strictJsonLoads_text (h.sorted)

theorem readable_of_readWord {cs rest : List Char} {v : Json}
    (h : readWord lib cs = some (v, rest)) : v.Readable lib := by
  obtain ⟨w, hword, heq⟩ := Option.map_eq_some_iff.mp h
  obtain rfl : w = v := (Prod.mk.inj heq).1
  unfold wordValue at hword
  split_ifs at hword
  · cases hword
    trivial
  · cases hword
    trivial
  · cases hword
    trivial
  · cases hword
    trivial
  · obtain ⟨r, hr, rfl⟩ := Option.map_eq_some_iff.mp hword
    exact lib.floatRepr_repr _ _ hr

/-- What one level of fuel reads is readable. -/
theorem readable_of_read (fuel : Nat) :
    (∀ cs v rest, readValue lib fuel cs = some (v, rest) → v.Readable lib) ∧
    (∀ cs xs rest, readItems lib fuel cs = some (xs, rest) → ReadableItems lib xs) ∧
    ∀ cs fields rest, readMembers lib fuel cs = some (fields, rest) →
      ReadableFields lib fields := by
  induction fuel with
  | zero => simp [readValue, readItems, readMembers]
  | succ fuel ih =>
    obtain ⟨hvalue, hitems, hmembers⟩ := ih
    refine ⟨?_, ?_, ?_⟩
    · intro cs v rest h
      rw [readValue] at h
      dsimp only at h
      split_ifs at h with hquote hbracket hempty hbrace hnone
      · obtain ⟨r, -, heq⟩ := Option.map_eq_some_iff.mp h
        cases heq
        trivial
      · cases h
        trivial
      · obtain ⟨r, hr, heq⟩ := Option.map_eq_some_iff.mp h
        cases heq
        exact hitems _ _ _ hr
      · cases h
        exact ⟨List.nodup_nil, trivial⟩
      · obtain ⟨r, hr, heq⟩ := Option.bind_eq_some_iff.mp h
        split_ifs at heq with hnodup
        cases heq
        exact ⟨hnodup, hmembers _ _ _ hr⟩
      · exact readable_of_readWord h
    · intro cs xs rest h
      rw [readItems] at h
      obtain ⟨r, hr, h⟩ := Option.bind_eq_some_iff.mp h
      have hfirst := hvalue _ _ _ hr
      dsimp only at h
      split_ifs at h with hclosed hcomma
      · cases h
        exact ⟨hfirst, trivial⟩
      · obtain ⟨more, hmore, heq⟩ := Option.map_eq_some_iff.mp h
        cases heq
        exact ⟨hfirst, hitems _ _ _ hmore⟩
    · intro cs fields rest h
      rw [readMembers] at h
      split_ifs at h with hquote
      obtain ⟨key, -, h⟩ := Option.bind_eq_some_iff.mp h
      dsimp only at h
      split_ifs at h with hcolon
      obtain ⟨r, hr, h⟩ := Option.bind_eq_some_iff.mp h
      have hfirst := hvalue _ _ _ hr
      split_ifs at h with hclosed hcomma
      · cases h
        exact ⟨hfirst, trivial⟩
      · obtain ⟨more, hmore, heq⟩ := Option.map_eq_some_iff.mp h
        cases heq
        exact ⟨hfirst, hmembers _ _ _ hmore⟩

theorem readable_of_strictJsonLoads {text : String} {v : Json}
    (h : strictJsonLoads lib text = some v) : v.Readable lib := by
  obtain ⟨r, hr, hv⟩ := Option.bind_eq_some_iff.mp h
  split_ifs at hv
  cases hv
  exact (readable_of_read _).1 _ _ _ hr

end Json

end DecisionFirewall
