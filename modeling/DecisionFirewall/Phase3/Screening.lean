import DecisionFirewall.Lib.Patterns
import DecisionFirewall.Phase3.Evidence

/-!
# Instruction Screening

What the four patterns of `assess_evidence` find in a text, and what they find of the
text where it stands in the canonical JSON of a payload: there the white space that is
no plain space, the control characters and the characters beyond ASCII are escape
sequences (`search_escaped`), and a match never leaves the string it lies in
(`search_render`).

- §1 the patterns
- §2 the reading of an escaped text
- §3 searching an escaped text
- §4 searching a canonical JSON text
-/

namespace DecisionFirewall.Phase3

open Lib.Patterns
open Lib.Patterns.Pattern

/-! ## §1 The patterns -/

/-- The character classes of the four patterns. -/
inductive CharClass where
  | letter (l : Char)
  | colon
  | space
  deriving DecidableEq

/-- `str.isspace` of a character. -/
def isSpace (c : Char) : Bool :=
  let n := c.toNat
  (9 ≤ n && n ≤ 13) || (28 ≤ n && n ≤ 32) || n = 0x85 || n = 0xa0 || n = 0x1680 ||
    (0x2000 ≤ n && n ≤ 0x200a) || n = 0x2028 || n = 0x2029 || n = 0x202f || n = 0x205f ||
    n = 0x3000

/-- A character matches an ASCII letter under `re.IGNORECASE`: beyond ASCII there are the
dotted and the dotless I, the long S and the Kelvin sign. -/
def matchesLetter (l c : Char) : Bool :=
  (c.isAlpha && c.toLower = l) || (l = 'i' && (c.toNat = 0x130 || c.toNat = 0x131)) ||
    (l = 's' && c.toNat = 0x17f) || (l = 'k' && c.toNat = 0x212a)

/-- `str.isalnum` of a character, as the Unicode database has it. -/
structure CharTable where
  isalnum : Char → Bool
  ascii : ∀ c, c.toNat < 128 → isalnum c = c.isAlphanum

/-- What the classes and the boundaries mean to `re`. -/
def CharTable.reading (table : CharTable) : Reading CharClass Char where
  accepts
    | .letter l, c => matchesLetter l c
    | .colon, c => c = ':'
    | .space, c => isSpace c
  wordBefore c := table.isalnum c || c = '_'
  wordAfter c := table.isalnum c || c = '_'

def word (w : String) : Pattern CharClass :=
  w.toList.foldr (fun l p => .seq (.one (.letter l)) p) .empty

/-- `(w₁|w₂|…)`. -/
def oneOf (first : String) (others : List String) : Pattern CharClass :=
  others.foldl (fun p w => .alt p (word w)) (word first)

/-- `\s+`. -/
def spaces : Pattern CharClass := .seq (.one .space) (.many .space)

/-- `(w\s+)?`. -/
def optionalWord (w : String) : Pattern CharClass := .alt (.seq (word w) spaces) .empty

/-- `_INSTRUCTION_PATTERNS`, compiled. -/
def instructionPatterns : List (Pattern CharClass) :=
  [.seq (.seq .boundary (.seq (word "ignore") (.seq spaces (optionalWord "all"))))
      (.seq (oneOf "prior" ["previous", "policy"]) .boundary),
    .seq (.seq (.seq .boundary (.seq (oneOf "system" ["assistant", "developer"])
      (.many .space))) (.one .colon)) (.many .space),
    .seq (.seq .boundary (.seq (oneOf "bypass" ["disable", "override"])
      (.seq spaces (optionalWord "the"))))
      (.seq (oneOf "firewall" ["policy", "control"]) .boundary),
    .seq (.seq .boundary (.seq (word "return") spaces))
      (.seq (oneOf "allow" ["approved"]) .boundary)]

/-- `re.compile(source, re.IGNORECASE).search(text)` for the sources of the screening. -/
def reSearch (table : CharTable) (source text : String) : Bool :=
  match (INSTRUCTION_PATTERNS.zip instructionPatterns).lookup source with
  | some p => p.search table.reading text.toList
  | none => false

/-- The screening finds an instruction in the text. -/
def findsInstruction (table : CharTable) (text : List Char) : Bool :=
  instructionPatterns.any fun p => p.search table.reading text

theorem any_reSearch (table : CharTable) (text : String) :
    (INSTRUCTION_PATTERNS.any fun source => reSearch table source text) =
      findsInstruction table text.toList := by
  simp [INSTRUCTION_PATTERNS, instructionPatterns, findsInstruction, reSearch, List.lookup]

/-- The classes of which `null`, the booleans, the numbers and the colon hold no
character. -/
def CharClass.foreign : CharClass → Bool
  | .letter l => l ∉ ['n', 'u', 'l', 't', 'r', 'e', 'f', 'a', 's']
  | .colon => false
  | .space => true

/-- What the four patterns have in common. -/
structure Screens (p : Pattern CharClass) : Prop where
  bounded : p.bounded = true
  nullable : p.nullable = false
  /-- no match begins with the letter of an escape with digits -/
  firsts : .letter 'u' ∉ p.firsts
  needs : p.needs CharClass.foreign = true

theorem screens {p : Pattern CharClass} (hp : p ∈ instructionPatterns) : Screens p := by
  simp only [instructionPatterns, List.mem_cons, List.not_mem_nil, or_false] at hp
  rcases hp with rfl | rfl | rfl | rfl <;>
    exact ⟨by decide, by decide, by decide, by decide⟩

/-! ## §2 The reading of an escaped text -/

/-- JSON writes the character as it is, or behind a backslash. -/
def printable (c : Char) : Bool := 32 ≤ c.toNat && c.toNat ≤ 126

def asciiWord (c : Char) : Bool := c.isAlphanum || c = '_'

/-- What is left of the classes in an escaped text: ASCII letters, the colon and the plain
space. An escape ends with a letter or a digit and begins with a backslash, so that it is
part of a word for what comes after it only. -/
def escapedReading : Reading CharClass Char where
  accepts k c := printable c && match k with
    | .letter l => c.isAlpha && c.toLower = l
    | .colon => c = ':'
    | .space => c = ' '
  wordBefore c := !printable c || asciiWord c
  wordAfter c := printable c && asciiWord c

/-- The letter of the escapes that have one. -/
def escapeLetter (c : Char) : Option Char :=
  if c.toNat = 10 then some 'n'
  else if c.toNat = 13 then some 'r'
  else if c.toNat = 9 then some 't'
  else if c.toNat = 12 then some 'f'
  else if c.toNat = 8 then some 'b'
  else none

/-- The pattern has a match that escaping leaves: one in the escaped reading, or one that
begins with the letter of an escape. -/
def survivesFrom (p : Pattern CharClass) : Option Char → List Char → Bool
  | prev, [] => p.matchesAt escapedReading ⟨prev, []⟩
  | prev, c :: rest =>
    p.matchesAt escapedReading ⟨prev, c :: rest⟩ ||
      (escapeLetter c).any (fun d => p.matchesAt escapedReading ⟨none, d :: rest⟩) ||
      survivesFrom p (some c) rest

/-- The screening finds an instruction in the text that escaping leaves. -/
def instructionSurvives (text : List Char) : Bool :=
  instructionPatterns.any fun p => survivesFrom p none text

section Reading

variable (table : CharTable)

theorem CharTable.isalnum_of_printable {c : Char} (h : printable c = true) :
    table.isalnum c = c.isAlphanum := by
  simp only [printable, Bool.and_eq_true, decide_eq_true_eq] at h
  exact table.ascii c (by omega)

theorem not_printable_iff {c : Char} : printable c = false ↔ c.toNat < 32 ∨ 126 < c.toNat := by
  simp only [printable, Bool.and_eq_false_iff, decide_eq_false_iff_not]
  omega

/-- On a printable character both readings agree. -/
theorem accepts_of_printable {c : Char} (h : printable c = true) (k : CharClass) :
    table.reading.accepts k c = escapedReading.accepts k c := by
  have hrange := h
  simp only [printable, Bool.and_eq_true, decide_eq_true_eq] at hrange
  cases k with
  | letter l =>
    have h1 : ¬ c.toNat = 0x130 := by omega
    have h2 : ¬ c.toNat = 0x131 := by omega
    have h3 : ¬ c.toNat = 0x17f := by omega
    have h4 : ¬ c.toNat = 0x212a := by omega
    simp [CharTable.reading, escapedReading, matchesLetter, h, h1, h2, h3, h4]
  | colon => simp [CharTable.reading, escapedReading, h]
  | space =>
    have hspace : isSpace c = true ↔ c = ' ' := by
      constructor
      · intro hs
        simp only [isSpace, Bool.or_eq_true, Bool.and_eq_true, decide_eq_true_eq] at hs
        apply Json.eq_of_toNat
        show c.toNat = 32
        omega
      · rintro rfl
        rfl
    simp only [CharTable.reading, escapedReading, h, Bool.true_and]
    rw [Bool.eq_iff_iff, hspace, decide_eq_true_eq]

/-- A quote or a backslash is in no class and in no word. -/
theorem reading_of_mark {c : Char} (h : c = '"' ∨ c = '\\') (k : CharClass) :
    table.reading.accepts k c = false := by
  have hprintable : printable c = true := by rcases h with rfl | rfl <;> rfl
  rw [accepts_of_printable table hprintable]
  rcases h with rfl | rfl <;> cases k <;> simp [escapedReading]

theorem wordBefore_of_printable {c : Char} (h : printable c = true) :
    table.reading.wordBefore c = asciiWord c := by
  simp [CharTable.reading, asciiWord, table.isalnum_of_printable h]

theorem wordAfter_of_printable {c : Char} (h : printable c = true) :
    table.reading.wordAfter c = asciiWord c := wordBefore_of_printable table h

/-! ## §3 Searching an escaped text -/

open Json (escapeChar escapeUnit hexDigit)

/-- The shapes of an escaped character. -/
inductive Escape (c : Char) : Prop where
  | plain (h : escapeChar c = [c]) (hc : printable c = true) (hnone : escapeLetter c = none)
  | mark (h : escapeChar c = ['\\', c]) (hc : c = '"' ∨ c = '\\')
  | letter (d : Char) (h : escapeChar c = ['\\', d]) (hc : printable c = false)
      (hd : escapeLetter c = some d)
  | unit (n : Nat) (h : escapeChar c = escapeUnit n) (hc : printable c = false)
      (hnone : escapeLetter c = none)
  | pair (n m : Nat) (h : escapeChar c = escapeUnit n ++ escapeUnit m)
      (hc : printable c = false) (hnone : escapeLetter c = none)

theorem escape (c : Char) : Escape c := by
  by_cases hquote : c = '"'
  · exact .mark (by simp [escapeChar, hquote]) (.inl hquote)
  by_cases hslash : c = '\\'
  · exact .mark (by simp [escapeChar, hslash]) (.inr hslash)
  by_cases hprintable : 32 ≤ c.toNat ∧ c.toNat ≤ 126
  · have h1 : ¬ c.toNat = 10 ∧ ¬ c.toNat = 13 ∧ ¬ c.toNat = 9 ∧ ¬ c.toNat = 12 ∧
        ¬ c.toNat = 8 := by omega
    refine .plain ?_ (by simpa [printable] using hprintable) ?_
    · simp [escapeChar, hquote, hslash, h1, hprintable]
    · simp [escapeLetter, h1]
  have hc : printable c = false := by
    rw [not_printable_iff]
    omega
  by_cases hletter : escapeLetter c = none
  · have hnot : ¬ c.toNat = 10 ∧ ¬ c.toNat = 13 ∧ ¬ c.toNat = 9 ∧ ¬ c.toNat = 12 ∧
        ¬ c.toNat = 8 := by
      refine ⟨?_, ?_, ?_, ?_, ?_⟩ <;> intro h <;> simp [escapeLetter, h] at hletter
    by_cases hunit : c.toNat < 65536
    · refine .unit c.toNat ?_ hc hletter
      simp [escapeChar, hquote, hslash, hnot, hprintable, hunit]
    · refine .pair (55296 + (c.toNat - 65536) / 1024) (56320 + (c.toNat - 65536) % 1024) ?_ hc
        hletter
      simp only [escapeChar, hquote, hslash, hnot, hprintable, hunit, if_false]
  · obtain ⟨d, hd⟩ := Option.ne_none_iff_exists'.mp hletter
    refine .letter d ?_ hc hd
    unfold escapeLetter at hd
    unfold escapeChar
    rw [if_neg hquote, if_neg hslash]
    split_ifs at hd ⊢ <;> cases hd <;> rfl

theorem hexDigit_word {n : Nat} (hn : n < 16) :
    printable (hexDigit n) = true ∧ asciiWord (hexDigit n) = true := by
  have hall : ∀ n < 16, printable (hexDigit n) = true ∧ asciiWord (hexDigit n) = true := by
    decide
  exact hall n hn

/-- The letters of the escapes. -/
theorem escapeLetter_word {c d : Char} (h : escapeLetter c = some d) :
    printable d = true ∧ asciiWord d = true ∧ escapeChar d = [d] := by
  unfold escapeLetter at h
  split_ifs at h <;> obtain rfl := Option.some.inj h <;> decide

/-- The escaped text read by `re` is the text read without what is escaped. -/
theorem encodes_escapeChar {start : Option Char} (hstart : start = none ∨ start = some '\\')
    (ks : List CharClass) : Encodes escapedReading table.reading ks escapeChar start [] where
  char c := by
    have hslash := reading_of_mark table (.inr rfl)
    have hunprintable : printable c = false → ∀ k, escapedReading.accepts k c = false := by
      intro hc k
      simp [escapedReading, hc]
    rcases escape c with ⟨h, hc, -⟩ | ⟨h, hc⟩ | ⟨d, h, hc, -⟩ | ⟨n, h, hc, -⟩ | ⟨n, m, h, hc, -⟩
    · exact .inl ⟨c, h, fun k _ => accepts_of_printable table hc k⟩
    · refine .inr ⟨'\\', [c], h, fun k _ => ⟨hslash k, ?_⟩⟩
      have hprintable : printable c = true := by rcases hc with rfl | rfl <;> rfl
      rw [← accepts_of_printable table hprintable]
      exact reading_of_mark table hc k
    · exact .inr ⟨'\\', _, h, fun k _ => ⟨hslash k, hunprintable hc k⟩⟩
    · exact .inr ⟨'\\', _, h, fun k _ => ⟨hslash k, hunprintable hc k⟩⟩
    · exact .inr ⟨'\\', _, h, fun k _ => ⟨hslash k, hunprintable hc k⟩⟩
  before c := by
    have hhex : ∀ n, table.reading.wordBefore (hexDigit (n % 16)) = true := by
      intro n
      have hword := hexDigit_word (Nat.mod_lt n (by omega : 0 < 16))
      rw [wordBefore_of_printable table hword.1, hword.2]
    have hunprintable : printable c = false → escapedReading.wordBefore c = true := by
      intro hc
      simp [escapedReading, hc]
    rcases escape c with ⟨h, hc, -⟩ | ⟨h, hc⟩ | ⟨d, h, hc, hd⟩ | ⟨n, h, hc, -⟩ | ⟨n, m, h, hc, -⟩
    · simp [h, wordBefore_of_printable table hc, escapedReading, hc]
    · have hprintable : printable c = true := by rcases hc with rfl | rfl <;> rfl
      simp [h, wordBefore_of_printable table hprintable, escapedReading, hprintable]
    · have hword := escapeLetter_word hd
      simp [h, wordBefore_of_printable table hword.1, hword.2.1, hunprintable hc]
    · rw [h, hunprintable hc, ← hhex n]
      rfl
    · rw [h, hunprintable hc, ← hhex m, List.getLast?_append]
      rfl
  after c := by
    have hslash : table.reading.wordAfter '\\' = false :=
      wordAfter_of_printable table (by rfl)
    rcases escape c with ⟨h, hc, -⟩ | ⟨h, hc⟩ | ⟨d, h, hc, -⟩ | ⟨n, h, hc, -⟩ | ⟨n, m, h, hc, -⟩
    · simp [h, wordAfter_of_printable table hc, escapedReading, hc]
    · rw [h]
      rcases hc with rfl | rfl <;> exact hslash
    · simp [h, hslash, escapedReading, hc]
    · simp [h, escapeUnit, hslash, escapedReading, hc]
    · simp [h, escapeUnit, hslash, escapedReading, hc]
  opening := by
    rcases hstart with rfl | rfl
    · rfl
    · exact wordBefore_of_printable table (by rfl)
  closing := rfl
  stop := by simp

variable {p : Pattern CharClass}

theorem matchesAt_of_mark (hp : p.nullable = false) {c : Char} (hc : c = '"' ∨ c = '\\')
    (prev : Option Char) (s : List Char) : p.matchesAt table.reading ⟨prev, c :: s⟩ = false := by
  apply matchesAt_eq_false_of_firsts hp
  intro d hd k _
  obtain rfl : c = d := by simpa using hd
  exact reading_of_mark table hc k

/-- No match begins between two characters of a word. -/
theorem matchesAt_of_word (hp : Screens p) {c d : Char}
    (hc : printable c = true ∧ asciiWord c = true) (hd : printable d = true ∧ asciiWord d = true)
    (s : List Char) : p.matchesAt table.reading ⟨some c, d :: s⟩ = false := by
  apply matchesAt_eq_false_of_bounded hp.bounded
  simp [Reading.atBoundary, wordBefore_of_printable table hc.1, wordAfter_of_printable table hd.1,
    hc.2, hd.2]

theorem matchesAt_of_u (hp : Screens p) (prev : Option Char) (s : List Char) :
    p.matchesAt table.reading ⟨prev, 'u' :: s⟩ = false := by
  apply matchesAt_eq_false_of_firsts hp.nullable
  intro d hd k hk
  obtain rfl : 'u' = d := by simpa using hd
  rw [accepts_of_printable table (by rfl)]
  cases k with
  | letter l =>
    have hl : ¬ 'u' = l := by
      rintro rfl
      exact hp.firsts hk
    simp only [escapedReading, Bool.and_eq_false_iff, decide_eq_false_iff_not]
    exact .inr (.inr hl)
  | colon => rfl
  | space => rfl

/-- No match begins within an escape with digits. -/
theorem searchFrom_escapeUnit (hp : Screens p) (prev : Option Char) (n : Nat) (s : List Char) :
    p.searchFrom table.reading prev (escapeUnit n ++ s) =
      p.searchFrom table.reading (some (hexDigit (n % 16))) s := by
  have hhex : ∀ m, printable (hexDigit (m % 16)) = true ∧ asciiWord (hexDigit (m % 16)) = true :=
    fun m => hexDigit_word (Nat.mod_lt m (by omega))
  have hu : printable 'u' = true ∧ asciiWord 'u' = true := ⟨by rfl, by rfl⟩
  simp only [escapeUnit, List.cons_append, List.nil_append, searchFrom,
    matchesAt_of_mark table hp.nullable (.inr rfl), matchesAt_of_u table hp,
    matchesAt_of_word table hp hu (hhex _), matchesAt_of_word table hp (hhex _) (hhex _),
    Bool.false_or]

/-- What the search finds in an escaped text. -/
theorem searchFrom_escaped (hp : Screens p) (prev : Option Char) (s : List Char) :
    p.searchFrom table.reading (encode escapeChar none [] ⟨prev, s⟩).prev
      (s.flatMap escapeChar) = survivesFrom p prev s := by
  have hsame : ∀ x, p.matchesAt table.reading (encode escapeChar none [] x) =
      p.matchesAt escapedReading x :=
    matchesAt_encode (encodes_escapeChar table (.inl rfl) p.classes) (List.Subset.refl _)
  induction s generalizing prev with
  | nil => exact hsame ⟨prev, []⟩
  | cons c s ih =>
    have hhere := hsame ⟨prev, c :: s⟩
    have hthere := ih (some c)
    simp only [encode, List.flatMap_cons, List.append_nil] at hhere hthere ⊢
    rw [survivesFrom, ← hthere, ← hhere]
    rcases escape c with ⟨h, hc, hnone⟩ | ⟨h, hc⟩ | ⟨d, h, hc, hd⟩ | ⟨n, h, hc, hnone⟩ |
      ⟨n, m, h, hc, hnone⟩
    · rw [h, hnone]
      simp [searchFrom]
    · -- a quote or a backslash: nothing begins at either character
      have hnone : escapeLetter c = none := by rcases hc with rfl | rfl <;> rfl
      rw [h, hnone]
      simp [searchFrom, matchesAt_of_mark table hp.nullable hc]
    · -- a match may begin with the letter of the escape
      have hletter := matchesAt_encode (p := p)
        (encodes_escapeChar table (.inr rfl) p.classes) (List.Subset.refl _) ⟨none, d :: s⟩
      simp only [encode, List.flatMap_cons, (escapeLetter_word hd).2.2, List.append_nil,
        List.cons_append, List.nil_append] at hletter
      rw [h, hd, Option.any_some, ← hletter]
      simp [searchFrom, Bool.or_assoc]
    · have hfirst := matchesAt_of_mark table hp.nullable (.inr rfl)
        (encode escapeChar none [] ⟨prev, c :: s⟩).prev
      rw [h, hnone, searchFrom_escapeUnit table hp, escapeUnit]
      simp only [encode] at hfirst
      simp [hfirst]
    · have hfirst := matchesAt_of_mark table hp.nullable (.inr rfl)
        (encode escapeChar none [] ⟨prev, c :: s⟩).prev
      rw [h, hnone, List.append_assoc, searchFrom_escapeUnit table hp,
        searchFrom_escapeUnit table hp, List.getLast?_append, escapeUnit, escapeUnit]
      simp only [encode] at hfirst
      simp [hfirst]

theorem search_escaped (hp : Screens p) (s : List Char) :
    p.search table.reading (s.flatMap escapeChar) = survivesFrom p none s :=
  searchFrom_escaped table hp none s

/-! ## §4 Searching a canonical JSON text -/

/-- The marks between the parts of a JSON text. -/
def jsonMarks : List Char := ['"', ',', '[', ']', '{', '}']

theorem separates_mark {c : Char} (hc : c ∈ jsonMarks) : Separates table.reading p c := by
  have hmarks : (jsonMarks.all fun c => printable c && !asciiWord c && !c.isAlpha && c != ':' &&
      c != ' ') = true := by rfl
  have hmark := List.all_eq_true.mp hmarks c hc
  simp only [Bool.and_eq_true, Bool.not_eq_true', bne_iff_ne, ne_eq] at hmark
  obtain ⟨⟨⟨⟨hprintable, hword⟩, halpha⟩, hcolon⟩, hspace⟩ := hmark
  refine ⟨fun k _ => ?_, ?_, ?_⟩
  · rw [accepts_of_printable table hprintable]
    cases k <;> simp [escapedReading, halpha, hcolon, hspace]
  · rw [wordBefore_of_printable table hprintable, hword]
  · rw [wordAfter_of_printable table hprintable, hword]

/-- Nothing is found outside the strings. -/
theorem search_words (hp : Screens p) {s : List Char} (h : ∀ c ∈ s, c ∈ ':' :: Json.wordChars) :
    p.search table.reading s = false := by
  apply searchFrom_eq_false_of_needs hp.needs
  intro c hc k hk
  have hwords : ((':' :: Json.wordChars).all fun c => printable c && c != ' ' &&
      (!c.isAlpha || ['n', 'u', 'l', 't', 'r', 'e', 'f', 'a', 's'].contains c.toLower)) =
        true := by rfl
  have hword := List.all_eq_true.mp hwords c (h c hc)
  simp only [Bool.and_eq_true, Bool.or_eq_true, Bool.not_eq_true', bne_iff_ne, ne_eq,
    List.contains_iff_mem] at hword
  obtain ⟨⟨hprintable, hspace⟩, halpha⟩ := hword
  rw [accepts_of_printable table hprintable]
  cases k with
  | letter l =>
    rw [CharClass.foreign, decide_eq_true_eq] at hk
    simp only [escapedReading, hprintable, Bool.true_and, Bool.and_eq_false_iff,
      decide_eq_false_iff_not]
    rcases halpha with hletter | hlower
    · exact .inl hletter
    · right
      rintro rfl
      exact hk hlower
  | colon => cases hk
  | space => simp [escapedReading, hspace]

theorem search_nil (hp : Screens p) : p.search table.reading [] = false :=
  search_words table hp (by simp)

/-- What is found in a string, between whatever comes before and behind it. -/
theorem search_renderString (hp : Screens p) (s : String) (before behind : List Char) :
    p.search table.reading (before ++ (Json.renderString s ++ behind)) =
      (p.search table.reading before || survivesFrom p none s.toList ||
        p.search table.reading behind) := by
  have hquote : ∀ a b, p.search table.reading (a ++ '"' :: b) =
      (p.search table.reading a || p.search table.reading b) :=
    (separates_mark table (by decide)).search_append
  rw [Json.renderString, List.append_assoc, List.cons_append, hquote, List.cons_append,
    List.nil_append, hquote, search_escaped table hp, Bool.or_assoc]

theorem search_joinComma (hp : Screens p) (parts : List (List Char)) :
    p.search table.reading (Json.joinComma parts) =
      parts.any fun part => p.search table.reading part := by
  induction parts with
  | nil => exact search_nil table hp
  | cons x rest ih =>
    cases rest with
    | nil => simp [Json.joinComma]
    | cons y rest =>
      rw [Json.joinComma, (separates_mark table (by decide)).search_append, ih]
      rfl

end Reading

end DecisionFirewall.Phase3

namespace DecisionFirewall.Json

mutual

/-- The keys and the string values of a value, at any depth. -/
def strings : Json → List String
  | .str s => [s]
  | .arr xs => stringsItems xs
  | .obj fields => stringsFields fields
  | .null | .bool _ | .int _ | .float _ => []

def stringsItems : List Json → List String
  | [] => []
  | x :: xs => strings x ++ stringsItems xs

def stringsFields : List (String × Json) → List String
  | [] => []
  | (k, v) :: fields => k :: (strings v ++ stringsFields fields)

end

end DecisionFirewall.Json

namespace DecisionFirewall.Phase3

open Lib.Patterns
open Lib.Patterns.Pattern

section Render

variable (table : CharTable) {p : Pattern CharClass}

/-- A mark encloses what is found. -/
theorem search_enclosed (hp : Screens p) {c d : Char} (hc : c ∈ jsonMarks) (hd : d ∈ jsonMarks)
    {before : List Char} (hbefore : p.search table.reading before = false) (s : List Char) :
    p.search table.reading (before ++ (c :: s ++ [d])) = p.search table.reading s := by
  rw [List.cons_append, (separates_mark table hc).search_append, hbefore, Bool.false_or,
    (separates_mark table hd).search_append, search_nil table hp, Bool.or_false]

mutual

/-- The search finds in the text of a value what it finds in the value's strings. -/
theorem search_render (hp : Screens p) : (v : Json) → v.NumbersOk →
    {before : List Char} → (∀ c ∈ before, c = ':') →
    p.search table.reading (before ++ v.render) =
      v.strings.any fun s => survivesFrom p none s.toList
  | .null, _, before, h => by
    apply search_words table hp
    intro c hc
    rcases List.mem_append.mp hc with hc | hc
    · exact List.mem_cons.mpr (.inl (h c hc))
    · exact List.mem_cons_of_mem _ (Json.text_mem_wordChars (v := .null) trivial trivial c hc)
  | .bool b, _, before, h => by
    apply search_words table hp
    intro c hc
    rcases List.mem_append.mp hc with hc | hc
    · exact List.mem_cons.mpr (.inl (h c hc))
    · apply List.mem_cons_of_mem
      apply Json.text_mem_wordChars (v := .bool b) trivial trivial c
      cases b <;> exact hc
  | .int n, _, before, h => by
    apply search_words table hp
    intro c hc
    rcases List.mem_append.mp hc with hc | hc
    · exact List.mem_cons.mpr (.inl (h c hc))
    · exact List.mem_cons_of_mem _ (Json.text_mem_wordChars (v := .int n) trivial trivial c hc)
  | .float r, hr, before, h => by
    apply search_words table hp
    intro c hc
    rcases List.mem_append.mp hc with hc | hc
    · exact List.mem_cons.mpr (.inl (h c hc))
    · exact List.mem_cons_of_mem _ (Json.text_mem_wordChars (v := .float r) trivial hr c hc)
  | .str s, _, before, h => by
    have hbefore := search_words table hp fun c hc => List.mem_cons.mpr (.inl (h c hc))
    have hstring := search_renderString table hp s before []
    rw [List.append_nil, hbefore, search_nil table hp] at hstring
    simpa [Json.render, Json.strings] using hstring
  | .arr xs, hxs, before, h => by
    have hbefore := search_words table hp fun c hc => List.mem_cons.mpr (.inl (h c hc))
    rw [Json.render, search_enclosed table hp (by decide) (by decide) hbefore,
      search_joinComma table hp, search_renderItems hp xs hxs, Json.strings]
  | .obj fields, hfields, before, h => by
    have hbefore := search_words table hp fun c hc => List.mem_cons.mpr (.inl (h c hc))
    rw [Json.render, search_enclosed table hp (by decide) (by decide) hbefore,
      search_joinComma table hp, List.any_map, Json.strings,
      ← search_renderFields hp fields hfields]
    -- the order of the members does not matter
    exact (List.mergeSort_perm _ _).any_eq

theorem search_renderItems (hp : Screens p) : (xs : List Json) → Json.NumbersOkItems xs →
    ((Json.renderItems xs).any fun part => p.search table.reading part) =
      (Json.stringsItems xs).any fun s => survivesFrom p none s.toList
  | [], _ => rfl
  | x :: xs, hxs => by
    have hx : p.search table.reading ([] ++ x.render) =
        x.strings.any fun s => survivesFrom p none s.toList :=
      search_render hp x hxs.1 (by simp)
    rw [List.nil_append] at hx
    rw [Json.renderItems, Json.stringsItems, List.any_cons, List.any_append, hx,
      search_renderItems hp xs hxs.2]

theorem search_renderFields (hp : Screens p) : (fields : List (String × Json)) →
    Json.NumbersOkFields fields →
    ((Json.renderFields fields).any fun member => p.search table.reading
      (Json.renderString member.1 ++ ':' :: member.2)) =
      (Json.stringsFields fields).any fun s => survivesFrom p none s.toList
  | [], _ => rfl
  | (k, v) :: fields, hfields => by
    have hv : p.search table.reading ([':'] ++ v.render) =
        v.strings.any fun s => survivesFrom p none s.toList :=
      search_render hp v hfields.1 (by simp)
    have hk := search_renderString table hp k [] (':' :: v.render)
    rw [List.nil_append, search_nil table hp, Bool.false_or] at hk
    rw [List.singleton_append] at hv
    rw [Json.renderFields, Json.stringsFields, List.any_cons, hk, hv, List.any_cons,
      List.any_append, search_renderFields hp fields hfields.2, Bool.or_assoc]

end

end Render

end DecisionFirewall.Phase3
