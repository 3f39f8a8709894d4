import Mathlib

/-!
# Occurrences in a Text

Whether a pattern occurs in a text. A character that is not in the pattern cuts the text:
an occurrence is on one side of it.
-/

namespace DecisionFirewall.Lib

variable {α : Type} [DecidableEq α]

/-- The pattern occurs in the text. -/
def occurs (pattern : List α) : List α → Bool
  | [] => pattern.isEmpty
  | a :: text => pattern.isPrefixOf (a :: text) || occurs pattern text

theorem occurs_iff {pattern text : List α} : occurs pattern text = true ↔ pattern <:+: text := by
  induction text with
  | nil => rw [occurs, List.isEmpty_iff, List.infix_nil]
  | cons a text ih =>
    rw [occurs, Bool.or_eq_true, List.isPrefixOf_iff_prefix, ih, List.infix_cons_iff]

/-- A character outside the pattern cuts the text. -/
theorem occurs_append_cons {pattern before after : List α} {c : α} (hc : c ∉ pattern) :
    occurs pattern (before ++ c :: after) = (occurs pattern before || occurs pattern after) := by
  rw [Bool.eq_iff_iff, Bool.or_eq_true, occurs_iff, occurs_iff, occurs_iff]
  constructor
  · rintro ⟨left, right, heq⟩
    -- the occurrence ends before the cut, or it begins behind it
    rw [List.append_assoc, List.append_eq_append_iff] at heq
    rcases heq with ⟨middle, hbefore, hrest⟩ | ⟨middle, hleft, hrest⟩
    · rw [List.append_eq_append_iff] at hrest
      rcases hrest with ⟨tail, hmiddle, -⟩ | ⟨tail, hpattern, htail⟩
      · exact .inl ⟨left, tail, by rw [hbefore, hmiddle, List.append_assoc]⟩
      · cases tail with
        | nil => exact .inl ⟨left, [], by rw [hbefore, hpattern]; simp⟩
        | cons d tail =>
          obtain ⟨rfl, -⟩ := List.cons.inj htail
          exact absurd (by rw [hpattern]; simp) hc
    · cases middle with
      | nil =>
        rw [List.append_nil] at hleft
        rw [List.nil_append] at hrest
        cases pattern with
        | nil => exact .inl ⟨[], before, rfl⟩
        | cons p pattern =>
          obtain ⟨rfl, -⟩ := List.cons.inj hrest
          exact absurd List.mem_cons_self hc
      | cons d middle =>
        obtain ⟨-, htail⟩ := List.cons.inj hrest
        have hafter : after = middle ++ (pattern ++ right) := htail
        exact .inr ⟨middle, right, by rw [hafter, List.append_assoc]⟩
  · rintro (⟨left, right, rfl⟩ | ⟨left, right, rfl⟩)
    · exact ⟨left, right ++ c :: after, by simp⟩
    · exact ⟨before ++ c :: left, right, by simp⟩

omit [DecidableEq α] in
/-- Texts that begin without a character and go on behind it. -/
theorem prefix_append_cons_iff {word rest before after : List α} {c : α} (hword : c ∉ word)
    (hbefore : c ∉ before) :
    word ++ c :: rest <+: before ++ c :: after ↔ word = before ∧ rest <+: after := by
  induction word generalizing before with
  | nil =>
    cases before with
    | nil => simp
    | cons b before =>
      have hne : c ≠ b := fun heq => hbefore (heq ▸ List.mem_cons_self)
      simp [hne]
  | cons w word ih =>
    have hne : w ≠ c := fun heq => hword (heq ▸ List.mem_cons_self)
    cases before with
    | nil => simp [hne]
    | cons b before =>
      have hrest := ih (List.not_mem_of_not_mem_cons hword) (List.not_mem_of_not_mem_cons hbefore)
      rw [List.cons_append, List.cons_append, List.cons_prefix_cons, hrest, List.cons.injEq,
        and_assoc]

/-- A character of the pattern cuts a text whose first part is without it: an occurrence
begins at the end of that part, or it is behind the cut. -/
theorem occurs_append_cons_iff {word rest before after : List α} {c : α} (hword : c ∉ word)
    (hbefore : c ∉ before) :
    occurs (word ++ c :: rest) (before ++ c :: after) = true ↔
      (word <:+ before ∧ rest <+: after) ∨ occurs (word ++ c :: rest) after = true := by
  -- induction on the first part, along which the occurrence may begin
  induction before with
  | nil =>
    rw [List.nil_append, occurs, Bool.or_eq_true, List.isPrefixOf_iff_prefix]
    have h : word ++ c :: rest <+: [] ++ c :: after ↔ word = [] ∧ rest <+: after :=
      prefix_append_cons_iff hword List.not_mem_nil
    rw [List.nil_append] at h
    rw [h, List.suffix_nil]
  | cons b before ih =>
    rw [List.cons_append, occurs, Bool.or_eq_true, List.isPrefixOf_iff_prefix, ← List.cons_append,
      prefix_append_cons_iff hword hbefore, ih (List.not_mem_of_not_mem_cons hbefore),
      List.suffix_cons_iff]
    tauto

/-- Whether a pattern occurs in a text, from the part before a character and the part behind. -/
def occursBehind (c : α) (pattern before after : List α) : Bool :=
  match pattern.dropWhile (· ≠ c) with
  | [] => occurs pattern before || occurs pattern after
  | _ :: rest => (rest.isPrefixOf after && (pattern.takeWhile (· ≠ c)).isSuffixOf before) ||
      occurs pattern after

theorem occurs_eq_occursBehind {pattern before after : List α} {c : α} (hbefore : c ∉ before) :
    occurs pattern (before ++ c :: after) = occursBehind c pattern before after := by
  have hsplit := List.takeWhile_append_dropWhile (p := (· ≠ c)) (l := pattern)
  have hword : c ∉ pattern.takeWhile (· ≠ c) := fun hmem => by
    simpa using List.mem_takeWhile_imp hmem
  unfold occursBehind
  cases hdrop : pattern.dropWhile (· ≠ c) with
  | nil =>
    rw [hdrop, List.append_nil] at hsplit
    rw [hsplit] at hword
    exact occurs_append_cons hword
  | cons d rest =>
    have hd : d = c := by
      have hhead := List.head?_dropWhile_not (· ≠ c) pattern
      rw [hdrop] at hhead
      simpa using hhead
    subst hd
    rw [hdrop] at hsplit
    have hiff : occurs (pattern.takeWhile (· ≠ d) ++ d :: rest) (before ++ d :: after) = true ↔
        (pattern.takeWhile (· ≠ d) <:+ before ∧ rest <+: after) ∨
          occurs (pattern.takeWhile (· ≠ d) ++ d :: rest) after = true :=
      occurs_append_cons_iff hword hbefore
    rw [hsplit] at hiff
    rw [Bool.eq_iff_iff, hiff, Bool.or_eq_true, Bool.and_eq_true, List.isPrefixOf_iff_prefix,
      List.isSuffixOf_iff_suffix, and_comm]

/-- A character of the pattern that the text lacks. -/
theorem occurs_eq_false {pattern text : List α} {c : α} (hc : c ∈ pattern) (htext : c ∉ text) :
    occurs pattern text = false := by
  rw [Bool.eq_false_iff, ne_eq, occurs_iff]
  exact fun h => htext (h.subset hc)

/-- An occurrence does not begin with another character than the pattern does. -/
theorem occurs_cons_of_ne {pattern text : List α} {a b : α} (hne : a ≠ b) :
    occurs (a :: pattern) (b :: text) = occurs (a :: pattern) text := by
  have hprefix : (a :: pattern).isPrefixOf (b :: text) = false := by simp [List.isPrefixOf, hne]
  rw [occurs, hprefix, Bool.false_or]

end DecisionFirewall.Lib
