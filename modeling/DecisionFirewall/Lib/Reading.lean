import Mathlib

/-!
# Reading a Written Text Back

When is a text determined by what was written? A writer is read back when two texts
that agree, each followed by some rest, were written from the same value and leave
the same rest.

- §1 words up to a delimiter
- §2 codes with a closing mark
-/

namespace DecisionFirewall.Lib.Reading

variable {α β : Type*}

/-! ## §1 Words -/

/-- The text is empty or starts with a delimiter. -/
def Delimited (D : β → Prop) (s : List β) : Prop := ∀ c ∈ s.head?, D c

@[simp] theorem delimited_nil {D : β → Prop} : Delimited D [] := by
  simp [Delimited]

@[simp] theorem delimited_cons {D : β → Prop} {c : β} {s : List β} :
    Delimited D (c :: s) ↔ D c := by
  simp [Delimited]

/-- A word without a delimiter ends where the first delimiter stands. -/
theorem word_append_inj {D : β → Prop} {x y s t : List β} (hx : ∀ c ∈ x, ¬ D c)
    (hy : ∀ c ∈ y, ¬ D c) (hs : Delimited D s) (ht : Delimited D t) (h : x ++ s = y ++ t) :
    x = y ∧ s = t := by
  induction x generalizing y with
  | nil =>
    cases y with
    | nil => exact ⟨rfl, h⟩
    | cons d y =>
      -- the rest would start inside a word
      rw [List.nil_append, List.cons_append] at h
      subst h
      exact absurd (delimited_cons.mp hs) (hy d (by simp))
  | cons c x ih =>
    cases y with
    | nil =>
      rw [List.nil_append, List.cons_append] at h
      subst h
      exact absurd (delimited_cons.mp ht) (hx c (by simp))
    | cons d y =>
      rw [List.cons_append, List.cons_append, List.cons.injEq] at h
      obtain ⟨rfl, h⟩ := h
      obtain ⟨rfl, rfl⟩ := ih (fun c hc => hx c (by simp [hc])) (fun c hc => hy c (by simp [hc])) h
      exact ⟨rfl, rfl⟩

/-! ## §2 Codes -/

/-- A code word determines its letter, whatever follows. -/
def PrefixFree (f : α → List β) : Prop :=
  ∀ a b s t, f a ++ s = f b ++ t → a = b ∧ s = t

/-- No code word starts with the mark, nor is one empty. -/
def Avoids (f : α → List β) (q : β) : Prop :=
  ∀ a s t, f a ++ s ≠ q :: t

/-- A coded text with a closing mark is read back letter by letter. -/
theorem flatMap_append_inj {f : α → List β} {q : β} (hf : PrefixFree f) (hq : Avoids f q)
    {xs ys : List α} {s t : List β}
    (h : xs.flatMap f ++ q :: s = ys.flatMap f ++ q :: t) : xs = ys ∧ s = t := by
  induction xs generalizing ys with
  | nil =>
    cases ys with
    | nil => simpa using h
    | cons y ys =>
      rw [List.flatMap_nil, List.nil_append, List.flatMap_cons, List.append_assoc] at h
      exact absurd h.symm (hq _ _ _)
  | cons x xs ih =>
    cases ys with
    | nil =>
      rw [List.flatMap_nil, List.nil_append, List.flatMap_cons, List.append_assoc] at h
      exact absurd h (hq _ _ _)
    | cons y ys =>
      rw [List.flatMap_cons, List.append_assoc, List.flatMap_cons, List.append_assoc] at h
      obtain ⟨rfl, hrest⟩ := hf _ _ _ _ h
      obtain ⟨rfl, rfl⟩ := ih hrest
      exact ⟨rfl, rfl⟩

end DecisionFirewall.Lib.Reading
