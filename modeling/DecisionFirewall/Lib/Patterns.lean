import Mathlib

/-!
# Patterns with Word Boundaries

Searching a text for a pattern built of character classes, repetition of a class,
choice and word boundaries. What the classes mean is a parameter, so that one pattern
can be read in two alphabets; an encoding of one alphabet in the other that respects
the classes carries matches across (`ends_encode`).

- §1 patterns, readings and positions
- §2 where a match can begin and end
- §3 texts encoded in another alphabet
- §4 a separator between two texts
- §5 a character behind the text
-/

namespace DecisionFirewall.Lib.Patterns

variable {κ α β : Type}

/-! ## §1 Patterns, readings and positions -/

/-- A pattern over character classes. -/
inductive Pattern (κ : Type) where
  | empty
  | boundary
  | one (k : κ)
  | many (k : κ)
  | seq (a b : Pattern κ)
  | alt (a b : Pattern κ)

/-- What the classes mean for characters of `α`. A character may count as part of a word
for the boundary behind it and not for the one before it. -/
structure Reading (κ α : Type) where
  accepts : κ → α → Bool
  wordBefore : α → Bool
  wordAfter : α → Bool

/-- A place in a text: the character before it and the text from there on. -/
structure Position (α : Type) where
  prev : Option α
  rest : List α

namespace Reading

variable (R : Reading κ α)

/-- A word begins or ends here. -/
def atBoundary (x : Position α) : Bool :=
  x.prev.any R.wordBefore != x.rest.head?.any R.wordAfter

/-- Behind one character of the class. -/
def step (k : κ) : Position α → List (Position α)
  | ⟨_, []⟩ => []
  | ⟨_, c :: rest⟩ => if R.accepts k c then [⟨some c, rest⟩] else []

/-- Behind any number of characters of the class. -/
def run (k : κ) : Option α → List α → List (Position α)
  | prev, [] => [⟨prev, []⟩]
  | prev, c :: rest =>
    ⟨prev, c :: rest⟩ :: if R.accepts k c then run k (some c) rest else []

end Reading

namespace Pattern

variable (R : Reading κ α)

/-- The ends of the matches that begin at a position. -/
def ends : Pattern κ → Position α → List (Position α)
  | empty, x => [x]
  | boundary, x => if R.atBoundary x then [x] else []
  | one k, x => R.step k x
  | many k, x => R.run k x.prev x.rest
  | seq a b, x => (a.ends x).flatMap b.ends
  | alt a b, x => a.ends x ++ b.ends x

def matchesAt (p : Pattern κ) (x : Position α) : Bool := !(p.ends R x).isEmpty

/-- Some match begins here or further on. -/
def searchFrom (p : Pattern κ) : Option α → List α → Bool
  | prev, [] => p.matchesAt R ⟨prev, []⟩
  | prev, c :: rest => p.matchesAt R ⟨prev, c :: rest⟩ || searchFrom p (some c) rest

def search (p : Pattern κ) (text : List α) : Bool := p.searchFrom R none text

/-- The classes of a pattern. -/
def classes : Pattern κ → List κ
  | empty | boundary => []
  | one k | many k => [k]
  | seq a b | alt a b => a.classes ++ b.classes

/-- The pattern can match the empty text. -/
def nullable : Pattern κ → Bool
  | empty | boundary | many _ => true
  | one _ => false
  | seq a b => a.nullable && b.nullable
  | alt a b => a.nullable || b.nullable

/-- The classes that a match can begin with. -/
def firsts : Pattern κ → List κ
  | empty | boundary => []
  | one k | many k => [k]
  | seq a b => a.firsts ++ if a.nullable then b.firsts else []
  | alt a b => a.firsts ++ b.firsts

/-- Every match begins at a boundary. -/
def bounded : Pattern κ → Bool
  | boundary => true
  | seq a _ => a.bounded
  | empty | one _ | many _ | alt _ _ => false

/-- Every match holds a character of one of these classes. -/
def needs (f : κ → Bool) : Pattern κ → Bool
  | empty | boundary | many _ => false
  | one k => f k
  | seq a b => a.needs f || b.needs f
  | alt a b => a.needs f && b.needs f

variable {R}

theorem matchesAt_iff {p : Pattern κ} {x : Position α} :
    p.matchesAt R x = true ↔ ∃ y, y ∈ p.ends R x := by
  rw [matchesAt, Bool.not_eq_true', List.isEmpty_eq_false_iff_exists_mem]

theorem matchesAt_of_ends_eq_nil {p : Pattern κ} {x : Position α} (h : p.ends R x = []) :
    p.matchesAt R x = false := by
  rw [matchesAt, h]
  rfl

theorem matchesAt_eq_false_of_bounded {p : Pattern κ} {x : Position α} (hp : p.bounded = true)
    (h : R.atBoundary x = false) : p.matchesAt R x = false := by
  apply matchesAt_of_ends_eq_nil
  induction p with
  | boundary =>
    rw [ends, h]
    rfl
  | seq a b iha =>
    rw [ends, iha hp]
    rfl
  | empty => cases hp
  | one k => cases hp
  | many k => cases hp
  | alt a b => cases hp

attribute [local simp] Reading.run in
/-- Any number of characters of a class match everywhere. -/
theorem run_ne_nil (k : κ) (prev : Option α) (s : List α) : R.run k prev s ≠ [] := by
  cases s <;> simp

theorem matchesAt_seq_many {p : Pattern κ} {k : κ} {x : Position α} :
    (seq p (many k)).matchesAt R x = p.matchesAt R x := by
  rw [Bool.eq_iff_iff, matchesAt_iff, matchesAt_iff]
  simp only [ends, List.mem_flatMap]
  constructor
  · rintro ⟨y, z, hz, -⟩
    exact ⟨z, hz⟩
  · rintro ⟨z, hz⟩
    obtain ⟨y, hy⟩ := List.exists_mem_of_ne_nil _ (run_ne_nil (R := R) k z.prev z.rest)
    exact ⟨y, z, hz, hy⟩

theorem searchFrom_congr {p q : Pattern κ} (h : ∀ x, p.matchesAt R x = q.matchesAt R x)
    (prev : Option α) (s : List α) : p.searchFrom R prev s = q.searchFrom R prev s := by
  induction s generalizing prev with
  | nil => exact h _
  | cons c s ih => rw [searchFrom, searchFrom, h, ih]

/-! ## §2 Where a match can begin and end -/

theorem mem_step {k : κ} {x y : Position α} :
    y ∈ R.step k x ↔ ∃ c, R.accepts k c = true ∧ x.rest = c :: y.rest ∧ y.prev = some c := by
  obtain ⟨prev, rest⟩ := x
  obtain ⟨prev', rest'⟩ := y
  cases rest with
  | nil => simp [Reading.step]
  | cons c rest =>
    by_cases h : R.accepts k c = true
    · simp only [Reading.step, if_pos h, List.mem_singleton, Position.mk.injEq, List.cons.injEq]
      constructor
      · rintro ⟨rfl, rfl⟩
        exact ⟨c, h, ⟨rfl, rfl⟩, rfl⟩
      · rintro ⟨d, -, ⟨rfl, rfl⟩, rfl⟩
        exact ⟨rfl, rfl⟩
    · simp only [Reading.step, if_neg h, List.not_mem_nil, List.cons.injEq, false_iff]
      rintro ⟨d, hd, ⟨rfl, -⟩, -⟩
      exact h hd

theorem rest_suffix_of_mem_run {k : κ} {prev : Option α} {s : List α} {y : Position α}
    (h : y ∈ R.run k prev s) : y.rest <:+ s := by
  induction s generalizing prev with
  | nil =>
    rw [Reading.run, List.mem_singleton] at h
    rw [h]
  | cons c s ih =>
    rw [Reading.run, List.mem_cons] at h
    rcases h with rfl | h
    · exact List.suffix_rfl
    · split at h
      · exact (ih h).trans (List.suffix_cons c s)
      · cases h

/-- A match only goes forward. -/
theorem rest_suffix_of_mem_ends {p : Pattern κ} {x y : Position α} (h : y ∈ p.ends R x) :
    y.rest <:+ x.rest := by
  induction p generalizing x y with
  | empty =>
    rw [ends, List.mem_singleton] at h
    rw [h]
  | boundary =>
    rw [ends] at h
    split at h
    · rw [List.mem_singleton.mp h]
    · cases h
  | one k =>
    obtain ⟨c, -, hrest, -⟩ := mem_step.mp h
    rw [hrest]
    exact List.suffix_cons c y.rest
  | many k => exact rest_suffix_of_mem_run h
  | seq a b iha ihb =>
    obtain ⟨z, hz, hy⟩ := List.mem_flatMap.mp h
    exact (ihb hy).trans (iha hz)
  | alt a b iha ihb =>
    rcases List.mem_append.mp h with h | h
    · exact iha h
    · exact ihb h

/-- A pattern that needs a class matches no text without a character of it. -/
theorem ends_eq_nil_of_needs {f : κ → Bool} {p : Pattern κ} {x : Position α}
    (hp : p.needs f = true) (h : ∀ c ∈ x.rest, ∀ k, f k = true → R.accepts k c = false) :
    p.ends R x = [] := by
  induction p generalizing x with
  | empty => cases hp
  | boundary => cases hp
  | many k => cases hp
  | one k =>
    apply List.eq_nil_iff_forall_not_mem.mpr
    intro y hy
    obtain ⟨c, hc, hrest, -⟩ := mem_step.mp hy
    have hno := h c (by rw [hrest]; exact List.mem_cons_self) k hp
    rw [hc] at hno
    cases hno
  | seq a b iha ihb =>
    rw [needs, Bool.or_eq_true] at hp
    apply List.flatMap_eq_nil_iff.mpr
    intro y hy
    rcases hp with hp | hp
    · rw [iha hp h] at hy
      cases hy
    · exact ihb hp fun c hc => h c ((rest_suffix_of_mem_ends hy).mem hc)
  | alt a b iha ihb =>
    rw [needs, Bool.and_eq_true] at hp
    rw [ends, iha hp.1 h, ihb hp.2 h]
    rfl

theorem searchFrom_eq_false_of_needs {f : κ → Bool} {p : Pattern κ} (hp : p.needs f = true)
    {s : List α} (h : ∀ c ∈ s, ∀ k, f k = true → R.accepts k c = false) (prev : Option α) :
    p.searchFrom R prev s = false := by
  induction s generalizing prev with
  | nil => exact matchesAt_of_ends_eq_nil (ends_eq_nil_of_needs hp h)
  | cons c s ih =>
    rw [searchFrom, matchesAt_of_ends_eq_nil (ends_eq_nil_of_needs hp h), Bool.false_or]
    exact ih (fun d hd => h d (List.mem_cons_of_mem c hd)) (some c)

/-- Where the next character begins no match, only the empty text matches. -/
theorem eq_of_mem_ends {p : Pattern κ} {x y : Position α}
    (h : ∀ c ∈ x.rest.head?, ∀ k ∈ p.firsts, R.accepts k c = false) (hy : y ∈ p.ends R x) :
    y = x ∧ p.nullable = true := by
  induction p generalizing x y with
  | empty => exact ⟨List.mem_singleton.mp hy, rfl⟩
  | boundary =>
    rw [ends] at hy
    split at hy
    · exact ⟨List.mem_singleton.mp hy, rfl⟩
    · cases hy
  | one k =>
    obtain ⟨c, hc, hrest, -⟩ := mem_step.mp hy
    have hno := h c (by rw [hrest]; exact rfl) k (List.mem_singleton_self k)
    rw [hc] at hno
    cases hno
  | many k =>
    obtain ⟨prev, rest⟩ := x
    cases rest with
    | nil => exact ⟨List.mem_singleton.mp hy, rfl⟩
    | cons c rest =>
      have hno := h c rfl k (List.mem_singleton_self k)
      rw [ends, Reading.run, hno] at hy
      exact ⟨List.mem_singleton.mp hy, rfl⟩
  | seq a b iha ihb =>
    obtain ⟨z, hz, hzy⟩ := List.mem_flatMap.mp hy
    obtain ⟨rfl, ha⟩ := iha (fun c hc k hk => h c hc k (List.mem_append_left _ hk)) hz
    have hb : ∀ c ∈ z.rest.head?, ∀ k ∈ b.firsts, R.accepts k c = false := by
      intro c hc k hk
      apply h c hc k
      rw [firsts, if_pos ha]
      exact List.mem_append_right _ hk
    obtain ⟨rfl, hnull⟩ := ihb hb hzy
    exact ⟨rfl, by rw [nullable, ha, hnull]; rfl⟩
  | alt a b iha ihb =>
    rcases List.mem_append.mp hy with hy | hy
    · obtain ⟨rfl, ha⟩ := iha (fun c hc k hk => h c hc k (List.mem_append_left _ hk)) hy
      exact ⟨rfl, by rw [nullable, ha]; rfl⟩
    · obtain ⟨rfl, hb⟩ := ihb (fun c hc k hk => h c hc k (List.mem_append_right _ hk)) hy
      exact ⟨rfl, by rw [nullable, hb, Bool.or_true]⟩

theorem matchesAt_eq_false_of_firsts {p : Pattern κ} {x : Position α} (hp : p.nullable = false)
    (h : ∀ c ∈ x.rest.head?, ∀ k ∈ p.firsts, R.accepts k c = false) :
    p.matchesAt R x = false := by
  apply matchesAt_of_ends_eq_nil
  apply List.eq_nil_iff_forall_not_mem.mpr
  intro y hy
  have hnull := (eq_of_mem_ends h hy).2
  rw [hp] at hnull
  cases hnull

/-! ## §3 Texts encoded in another alphabet -/

/-- The encoding keeps the meaning of the classes: a character is written as one character
of the same classes, or it is in none and its code begins with a character in none. The
text stands between a character and a rest that no word touches, and that no class goes on
into. -/
structure Encodes (R : Reading κ α) (S : Reading κ β) (ks : List κ) (e : α → List β)
    (start : Option β) (tail : List β) : Prop where
  char : ∀ c, (∃ d, e c = [d] ∧ ∀ k ∈ ks, S.accepts k d = R.accepts k c) ∨
    ∃ d ds, e c = d :: ds ∧ ∀ k ∈ ks, S.accepts k d = false ∧ R.accepts k c = false
  before : ∀ c, (e c).getLast?.any S.wordBefore = R.wordBefore c
  after : ∀ c, (e c).head?.any S.wordAfter = R.wordAfter c
  opening : start.any S.wordBefore = false
  closing : tail.head?.any S.wordAfter = false
  stop : ∀ d ∈ tail.head?, ∀ k ∈ ks, S.accepts k d = false

/-- The place in the encoded text. -/
def encode (e : α → List β) (start : Option β) (tail : List β) (x : Position α) : Position β where
  prev := match x.prev with
    | none => start
    | some c => (e c).getLast?
  rest := x.rest.flatMap e ++ tail

variable {S : Reading κ β} {ks : List κ} {e : α → List β} {start : Option β} {tail : List β}

theorem Encodes.ne_nil (h : Encodes R S ks e start tail) (c : α) : e c ≠ [] := by
  rcases h.char c with ⟨d, hd, -⟩ | ⟨d, ds, hd, -⟩ <;> simp [hd]

theorem Encodes.atBoundary (h : Encodes R S ks e start tail) (x : Position α) :
    S.atBoundary (encode e start tail x) = R.atBoundary x := by
  obtain ⟨prev, rest⟩ := x
  have hprev : (encode e start tail ⟨prev, rest⟩).prev.any S.wordBefore =
      prev.any R.wordBefore := by
    cases prev with
    | none => exact h.opening
    | some c => exact h.before c
  have hrest : (encode e start tail ⟨prev, rest⟩).rest.head?.any S.wordAfter =
      rest.head?.any R.wordAfter := by
    cases rest with
    | nil => exact h.closing
    | cons c rest =>
      simp only [encode, List.flatMap_cons, List.append_assoc]
      rw [List.head?_append_of_ne_nil _ (h.ne_nil c)]
      exact h.after c
  rw [Reading.atBoundary, hprev, hrest]
  rfl

theorem Encodes.step (h : Encodes R S ks e start tail) {k : κ} (hk : k ∈ ks) (x : Position α) :
    S.step k (encode e start tail x) = (R.step k x).map (encode e start tail) := by
  obtain ⟨prev, rest⟩ := x
  cases rest with
  | nil =>
    cases htail : tail with
    | nil => simp [encode, Reading.step]
    | cons d ds =>
      have hd := h.stop d (by rw [htail]; rfl) k hk
      simp [encode, Reading.step, hd]
  | cons c rest =>
    rcases h.char c with ⟨d, hc, hd⟩ | ⟨d, ds, hc, hd⟩
    · by_cases haccepts : R.accepts k c = true
      · simp [encode, Reading.step, hc, hd k hk, haccepts]
      · simp [encode, Reading.step, hc, hd k hk, haccepts]
    · simp [encode, Reading.step, hc, hd k hk]

theorem Encodes.run (h : Encodes R S ks e start tail) {k : κ} (hk : k ∈ ks) (prev : Option α)
    (s : List α) : S.run k (encode e start tail ⟨prev, s⟩).prev (s.flatMap e ++ tail) =
      (R.run k prev s).map (encode e start tail) := by
  induction s generalizing prev with
  | nil =>
    cases htail : tail with
    | nil => simp [encode, Reading.run]
    | cons d ds =>
      have hd := h.stop d (by rw [htail]; rfl) k hk
      simp [encode, Reading.run, hd]
  | cons c s ih =>
    rcases h.char c with ⟨d, hc, hd⟩ | ⟨d, ds, hc, hd⟩
    · by_cases haccepts : R.accepts k c = true
      · have hnext := ih (some c)
        simp only [encode, hc, List.getLast?_singleton] at hnext
        simp [encode, Reading.run, hc, hd k hk, haccepts, hnext]
      · simp [encode, Reading.run, hc, hd k hk, haccepts]
    · simp [encode, Reading.run, hc, hd k hk]

/-- The matches in the encoded text are those in the text. -/
theorem ends_encode (h : Encodes R S ks e start tail) {p : Pattern κ} (hp : p.classes ⊆ ks)
    (x : Position α) :
    p.ends S (encode e start tail x) = (p.ends R x).map (encode e start tail) := by
  induction p generalizing x with
  | empty => rfl
  | boundary =>
    rw [ends, ends, h.atBoundary]
    split <;> rfl
  | one k => exact h.step (hp (List.mem_singleton_self k)) x
  | many k => exact h.run (hp (List.mem_singleton_self k)) x.prev x.rest
  | seq a b iha ihb =>
    have ha := (List.append_subset.mp hp).1
    have hb := (List.append_subset.mp hp).2
    simp only [ends, iha ha, List.flatMap_map, List.map_flatMap, ihb hb]
  | alt a b iha ihb =>
    have ha := (List.append_subset.mp hp).1
    have hb := (List.append_subset.mp hp).2
    simp only [ends, iha ha, ihb hb, List.map_append]

theorem matchesAt_encode (h : Encodes R S ks e start tail) {p : Pattern κ}
    (hp : p.classes ⊆ ks) (x : Position α) :
    p.matchesAt S (encode e start tail x) = p.matchesAt R x := by
  rw [matchesAt, matchesAt, ends_encode h hp, List.isEmpty_map]

/-! ## §4 A separator between two texts -/

/-- No class and no word goes on over the character. -/
structure Separates (R : Reading κ α) (p : Pattern κ) (c : α) : Prop where
  accepts : ∀ k ∈ p.classes, R.accepts k c = false
  wordBefore : R.wordBefore c = false
  wordAfter : R.wordAfter c = false

variable {p : Pattern κ} {c : α}

theorem Separates.encodes (h : Separates R p c) (s : List α) :
    Encodes R R p.classes (fun d => [d]) none (c :: s) where
  char d := .inl ⟨d, rfl, fun _ _ => rfl⟩
  before d := rfl
  after d := rfl
  opening := rfl
  closing := by simp [h.wordAfter]
  stop := by
    intro d hd k hk
    obtain rfl : c = d := by simpa using hd
    exact h.accepts k hk

/-- Behind the separator the text begins anew. -/
theorem Separates.matchesAt_behind (h : Separates R p c) (s : List α) :
    p.matchesAt R ⟨some c, s⟩ = p.matchesAt R ⟨none, s⟩ := by
  have hencodes : Encodes R R p.classes (fun d => [d]) (some c) [] :=
    { char := fun d => .inl ⟨d, rfl, fun _ _ => rfl⟩
      before := fun d => rfl
      after := fun d => rfl
      opening := by simp [h.wordBefore]
      closing := rfl
      stop := by simp }
  have hsame := matchesAt_encode hencodes (List.Subset.refl p.classes) ⟨none, s⟩
  simpa [encode] using hsame

theorem Separates.searchFrom_behind (h : Separates R p c) (s : List α) :
    p.searchFrom R (some c) s = p.search R s := by
  rw [search]
  cases s with
  | nil => exact h.matchesAt_behind []
  | cons d s => rw [searchFrom, searchFrom, h.matchesAt_behind]

/-- Before the separator the text is at its end. -/
theorem Separates.matchesAt_before (h : Separates R p c) (prev : Option α) (s t : List α) :
    p.matchesAt R ⟨prev, s ++ c :: t⟩ = p.matchesAt R ⟨prev, s⟩ := by
  have hsame := matchesAt_encode (h.encodes t) (List.Subset.refl p.classes) ⟨prev, s⟩
  cases prev <;> simpa [encode] using hsame

theorem Separates.searchFrom_append (h : Separates R p c) (prev : Option α) (s t : List α) :
    p.searchFrom R prev (s ++ c :: t) = (p.searchFrom R prev s || p.search R t) := by
  induction s generalizing prev with
  | nil =>
    have hbefore := h.matchesAt_before prev [] t
    rw [List.nil_append] at hbefore ⊢
    rw [searchFrom, searchFrom, hbefore, h.searchFrom_behind]
  | cons d s ih =>
    rw [List.cons_append, searchFrom, searchFrom, ih, ← Bool.or_assoc]
    have hbefore := h.matchesAt_before prev (d :: s) t
    rw [List.cons_append] at hbefore
    rw [hbefore]

/-- A match lies on one side of the separator. -/
theorem Separates.search_append (h : Separates R p c) (s t : List α) :
    p.search R (s ++ c :: t) = (p.search R s || p.search R t) :=
  h.searchFrom_append none s t

/-! ## §5 A character behind the text -/

/-- The place in the longer text. -/
def append (x : Position α) (s : List α) : Position α := ⟨x.prev, x.rest ++ s⟩

theorem atBoundary_append (hc : R.wordAfter c = false) (x : Position α) :
    R.atBoundary (append x [c]) = R.atBoundary x := by
  obtain ⟨prev, rest⟩ := x
  cases rest <;> simp [Reading.atBoundary, append, hc]

theorem mem_run_append {k : κ} {prev : Option α} {s : List α} {y : Position α}
    (h : y ∈ R.run k prev s) (t : List α) : append y t ∈ R.run k prev (s ++ t) := by
  induction s generalizing prev with
  | nil =>
    rw [Reading.run, List.mem_singleton] at h
    rw [h]
    cases t <;> simp [append, Reading.run]
  | cons d s ih =>
    rw [Reading.run, List.mem_cons] at h
    rw [List.cons_append, Reading.run, List.mem_cons]
    rcases h with rfl | h
    · exact .inl rfl
    · split at h
      next hd =>
        rw [if_pos hd]
        exact .inr (ih h)
      next => cases h

/-- A match stays one in the longer text. -/
theorem mem_ends_append (hc : R.wordAfter c = false) {x y : Position α} (h : y ∈ p.ends R x) :
    append y [c] ∈ p.ends R (append x [c]) := by
  induction p generalizing x y with
  | empty => rw [List.mem_singleton.mp h]; exact List.mem_singleton_self _
  | boundary =>
    rw [ends] at h ⊢
    rw [atBoundary_append hc]
    split at h
    next hx =>
      rw [if_pos hx, List.mem_singleton.mp h]
      exact List.mem_singleton_self _
    next => cases h
  | one k =>
    obtain ⟨d, hd, hrest, hprev⟩ := mem_step.mp h
    apply mem_step.mpr
    exact ⟨d, hd, by simp [append, hrest], hprev⟩
  | many k => exact mem_run_append h [c]
  | seq a b iha ihb =>
    obtain ⟨z, hz, hy⟩ := List.mem_flatMap.mp h
    exact List.mem_flatMap.mpr ⟨append z [c], iha hz, ihb hy⟩
  | alt a b iha ihb =>
    rcases List.mem_append.mp h with h | h
    · exact List.mem_append_left _ (iha h)
    · exact List.mem_append_right _ (ihb h)

theorem eq_append_of_mem_run {k : κ} {prev : Option α} {s : List α} {y : Position α}
    (h : y ∈ R.run k prev (s ++ [c])) : y.rest = [] ∨ ∃ z ∈ R.run k prev s, y = append z [c] := by
  induction s generalizing prev with
  | nil =>
    rw [List.nil_append, Reading.run, List.mem_cons] at h
    rcases h with rfl | h
    · exact .inr ⟨⟨prev, []⟩, List.mem_singleton_self _, rfl⟩
    · split at h
      · rw [Reading.run, List.mem_singleton] at h
        exact .inl (by rw [h])
      · cases h
  | cons d s ih =>
    rw [List.cons_append, Reading.run, List.mem_cons] at h
    rcases h with rfl | h
    · exact .inr ⟨⟨prev, d :: s⟩, List.mem_cons_self, rfl⟩
    · split at h
      next hd =>
        rcases ih h with hend | ⟨z, hz, rfl⟩
        · exact .inl hend
        · refine .inr ⟨z, ?_, rfl⟩
          rw [Reading.run, if_pos hd]
          exact List.mem_cons_of_mem _ hz
      next => cases h

/-- A match in the longer text reaches its end or is one in the text. -/
theorem eq_append_of_mem_ends (hc : R.wordAfter c = false) {x y : Position α}
    (h : y ∈ p.ends R (append x [c])) :
    y.rest = [] ∨ ∃ z ∈ p.ends R x, y = append z [c] := by
  induction p generalizing x y with
  | empty => exact .inr ⟨x, List.mem_singleton_self x, List.mem_singleton.mp h⟩
  | boundary =>
    rw [ends, atBoundary_append hc] at h
    split at h
    next hx =>
      refine .inr ⟨x, ?_, List.mem_singleton.mp h⟩
      rw [ends, if_pos hx]
      exact List.mem_singleton_self x
    next => cases h
  | one k =>
    obtain ⟨prev, rest⟩ := x
    obtain ⟨prev', rest'⟩ := y
    obtain ⟨d, hd, hrest, hprev⟩ := mem_step.mp h
    cases rest with
    | nil =>
      rw [append, List.nil_append, List.cons.injEq] at hrest
      exact .inl hrest.2.symm
    | cons d' rest =>
      rw [append, List.cons_append, List.cons.injEq] at hrest
      obtain ⟨rfl, rfl⟩ := hrest
      exact .inr ⟨⟨prev', rest⟩, mem_step.mpr ⟨d', hd, rfl, hprev⟩, rfl⟩
  | many k => exact eq_append_of_mem_run h
  | seq a b iha ihb =>
    obtain ⟨z, hz, hy⟩ := List.mem_flatMap.mp h
    rcases iha hz with hend | ⟨v, hv, rfl⟩
    · have hsuffix := rest_suffix_of_mem_ends hy
      rw [hend] at hsuffix
      exact .inl (List.suffix_nil.mp hsuffix)
    · rcases ihb hy with hend | ⟨w, hw, rfl⟩
      · exact .inl hend
      · exact .inr ⟨w, List.mem_flatMap.mpr ⟨v, hv, hw⟩, rfl⟩
  | alt a b iha ihb =>
    rcases List.mem_append.mp h with h | h
    · exact (iha h).imp_right fun ⟨z, hz, hy⟩ => ⟨z, List.mem_append_left _ hz, hy⟩
    · exact (ihb h).imp_right fun ⟨z, hz, hy⟩ => ⟨z, List.mem_append_right _ hz, hy⟩

/-- A match that has to end with a character of other classes does not need the one behind
the text. -/
theorem matchesAt_seq_append {a b : Pattern κ} (hc : R.wordAfter c = false)
    (hb : b.nullable = false) (hclasses : ∀ k ∈ b.classes, R.accepts k c = false)
    (x : Position α) : (seq a b).matchesAt R (append x [c]) = (seq a b).matchesAt R x := by
  have hencodes : Encodes R R b.classes (fun d => [d]) none [c] :=
    { char := fun d => .inl ⟨d, rfl, fun _ _ => rfl⟩
      before := fun d => rfl
      after := fun d => rfl
      opening := rfl
      closing := by simp [hc]
      stop := by
        intro d hd
        obtain rfl : c = d := by simpa using hd
        exact hclasses }
  rw [Bool.eq_iff_iff, matchesAt_iff, matchesAt_iff]
  constructor
  · rintro ⟨y, hy⟩
    obtain ⟨z, hz, hyz⟩ := List.mem_flatMap.mp hy
    rcases eq_append_of_mem_ends hc hz with hend | ⟨w, hw, rfl⟩
    · -- nothing is left for `b`
      have hnull := (eq_of_mem_ends (by simp [hend]) hyz).2
      rw [hb] at hnull
      cases hnull
    · have hencode : append w [c] = encode (fun d => [d]) none [c] w := by
        cases w with
        | mk prev rest => cases prev <;> simp [append, encode]
      rw [hencode, ends_encode hencodes (List.Subset.refl _)] at hyz
      obtain ⟨v, hv, -⟩ := List.mem_map.mp hyz
      exact ⟨v, List.mem_flatMap.mpr ⟨w, hw, hv⟩⟩
  · rintro ⟨y, hy⟩
    exact ⟨append y [c], mem_ends_append hc hy⟩

theorem search_seq_append {a b : Pattern κ} (hc : R.wordAfter c = false)
    (hb : b.nullable = false) (hclasses : ∀ k ∈ b.classes, R.accepts k c = false)
    (s : List α) : (seq a b).search R (s ++ [c]) = (seq a b).search R s := by
  have hfrom : ∀ prev, (seq a b).searchFrom R prev (s ++ [c]) =
      (seq a b).searchFrom R prev s := by
    induction s with
    | nil =>
      intro prev
      have hsame := matchesAt_seq_append (a := a) hc hb hclasses ⟨prev, []⟩
      rw [append, List.nil_append] at hsame
      have hlast : (seq a b).matchesAt R ⟨some c, []⟩ = false := by
        apply matchesAt_of_ends_eq_nil
        apply List.flatMap_eq_nil_iff.mpr
        intro z hz
        have hz' := List.suffix_nil.mp (rest_suffix_of_mem_ends hz)
        apply List.eq_nil_iff_forall_not_mem.mpr
        intro y hy
        have hnull := (eq_of_mem_ends (by simp [hz']) hy).2
        rw [hb] at hnull
        cases hnull
      rw [List.nil_append, searchFrom, searchFrom, searchFrom, hsame, hlast, Bool.or_false]
    | cons d s ih =>
      intro prev
      have hsame := matchesAt_seq_append (a := a) hc hb hclasses ⟨prev, d :: s⟩
      rw [append, List.cons_append] at hsame
      rw [List.cons_append, searchFrom, searchFrom, hsame, ih]
  exact hfrom none

end Pattern

end DecisionFirewall.Lib.Patterns
