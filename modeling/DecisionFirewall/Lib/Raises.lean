import Mathlib

/-!
# What a Computation Raises

A computation that may fail, and the exceptions it can fail with. The exceptions of a
sequence are those of its parts.
-/

namespace DecisionFirewall.Lib

variable {E α β : Type}

/-- A sequence fails where its first part does, or what follows it. -/
theorem bind_eq_error {x : Except E α} {f : α → Except E β} {e : E} :
    (x >>= f) = .error e ↔ x = .error e ∨ ∃ a, x = .ok a ∧ f a = .error e := by
  cases x with
  | error e' => simp [bind, Except.bind]
  | ok a => simp [bind, Except.bind]

/-- Every exception of the computation is in `P`. -/
def Raises (P : E → Prop) (x : Except E α) : Prop := ∀ e, x = .error e → P e

namespace Raises

variable {P Q : E → Prop} {x : Except E α} {f : α → Except E β}

@[simp] theorem ok (a : α) : Raises P (.ok a : Except E α) := fun _ h => nomatch h

@[simp] theorem pure (a : α) : Raises P (Pure.pure a : Except E α) := ok a

@[simp] theorem error_iff {e : E} : Raises P (.error e : Except E α) ↔ P e := by
  constructor
  · exact fun h => h e rfl
  · intro h e' he
    cases he
    exact h

/-- A sequence raises what its first part raises, or what follows it raises. -/
theorem bind (hx : Raises P x) (hf : ∀ a, x = .ok a → Raises P (f a)) : Raises P (x >>= f) := by
  cases x with
  | error e => exact error_iff.mpr (hx e rfl)
  | ok a => exact hf a rfl

theorem bind_iff : Raises P (x >>= f) ↔ Raises P x ∧ ∀ a, x = .ok a → Raises P (f a) := by
  refine ⟨fun h => ⟨?_, ?_⟩, fun h => bind h.1 h.2⟩
  · rintro e rfl
    exact h e rfl
  · rintro a rfl
    exact h

theorem map {g : α → β} (hx : Raises P x) : Raises P (x.map g) := by
  cases x with
  | error e => exact error_iff.mpr (hx e rfl)
  | ok a => exact ok _

theorem mono (h : Raises P x) (hPQ : ∀ e, P e → Q e) : Raises Q x := fun e he => hPQ e (h e he)

end Raises

/-- A loop over numbered items: every turn starts in the state that the turn before has left, and
the first exception ends it. -/
def eachInOrder {σ : Type} (turn : Nat → σ → α → Except E σ) : Nat → σ → List α → Except E σ
  | _, s, [] => .ok s
  | index, s, x :: xs => turn index s x >>= fun s' => eachInOrder turn (index + 1) s' xs

section Loops

variable {σ : Type} {P : E → Prop} {turn : Nat → σ → α → Except E σ}

/-- What holds of the items behind the loop so far is kept by every turn. -/
theorem eachInOrder_trace {I : List α → σ → Prop} {index : Nat} {s s' : σ} {before xs : List α}
    (hs : I before s)
    (hturn : ∀ i before x s s', I before s → turn i s x = .ok s' → I (before ++ [x]) s')
    (h : eachInOrder turn index s xs = .ok s') : I (before ++ xs) s' := by
  induction xs generalizing index s before with
  | nil =>
    cases h
    exact (List.append_nil before).symm ▸ hs
  | cons x xs ih =>
    rw [eachInOrder] at h
    cases hfirst : turn index s x with
    | error e =>
      rw [hfirst] at h
      cases h
    | ok next =>
      rw [hfirst] at h
      have hrest := ih (hturn _ _ _ _ _ hs hfirst) h
      rw [List.append_assoc] at hrest
      exact hrest

/-- What holds at the start and is kept by every turn holds at the end. -/
theorem eachInOrder_induct {I : σ → Prop} {index : Nat} {s s' : σ} {xs : List α} (hs : I s)
    (hturn : ∀ i s x s', x ∈ xs → I s → turn i s x = .ok s' → I s')
    (h : eachInOrder turn index s xs = .ok s') : I s' := by
  induction xs generalizing index s with
  | nil =>
    cases h
    exact hs
  | cons x xs ih =>
    rw [eachInOrder] at h
    cases hfirst : turn index s x with
    | error e =>
      rw [hfirst] at h
      cases h
    | ok next =>
      rw [hfirst] at h
      exact ih (hturn _ _ _ _ List.mem_cons_self hs hfirst)
        (fun i s x s' hx => hturn i s x s' (List.mem_cons_of_mem _ hx)) h

/-- A loop raises what the turn behind some items raises that pass. -/
theorem raises_eachInOrder_iff {index : Nat} {s : σ} {xs : List α} :
    Raises P (eachInOrder turn index s xs) ↔ ∀ before x after s', xs = before ++ x :: after →
      eachInOrder turn index s before = .ok s' → Raises P (turn (index + before.length) s' x) := by
  induction xs generalizing index s with
  | nil =>
    refine iff_of_true (Raises.ok s) fun before x after s' hxs => ?_
    exact absurd hxs (by simp)
  | cons x xs ih =>
    rw [eachInOrder, Raises.bind_iff]
    constructor
    · rintro ⟨hfirst, hrest⟩ before y after s' hxs hbefore
      cases before with
      | nil =>
        obtain ⟨rfl, rfl⟩ := List.cons_eq_cons.mp hxs
        cases hbefore
        exact hfirst
      | cons z before =>
        obtain ⟨rfl, hrows⟩ := List.cons_eq_cons.mp hxs
        rw [eachInOrder] at hbefore
        cases hturn : turn index s x with
        | error e =>
          rw [hturn] at hbefore
          cases hbefore
        | ok next =>
          rw [hturn] at hbefore
          have hy := ih.mp (hrest next hturn) before y after s' hrows hbefore
          rw [List.length_cons, Nat.add_comm before.length, ← Nat.add_assoc]
          exact hy
    · intro h
      refine ⟨h [] x xs s rfl rfl, fun next hturn => ih.mpr ?_⟩
      intro before y after s' hxs hbefore
      have hy := h (x :: before) y after s' (by rw [hxs, List.cons_append]) (by
        rw [eachInOrder, hturn]
        exact hbefore)
      rw [List.length_cons, Nat.add_comm before.length, ← Nat.add_assoc] at hy
      exact hy

end Loops

/-- Both computations succeed with the same values, whatever they raise. -/
def Agrees (x y : Except E α) : Prop := ∀ a, x = .ok a ↔ y = .ok a

namespace Agrees

variable {x y : Except E α} {f g : α → Except E β}

theorem refl (x : Except E α) : Agrees x x := fun _ => Iff.rfl

theorem error (e e' : E) : Agrees (.error e : Except E α) (.error e') := by
  intro a
  exact iff_of_false (fun h => by cases h) fun h => by cases h

/-- Sequences agree where their first parts and what follows them do. -/
theorem bind (hx : Agrees x y) (hf : ∀ a, Agrees (f a) (g a)) : Agrees (x >>= f) (y >>= g) := by
  intro b
  cases x with
  | ok a =>
    rw [(hx a).mp rfl]
    exact hf a b
  | error e =>
    cases y with
    | ok a => exact absurd ((hx a).mpr rfl) (fun h => by cases h)
    | error e' => exact error e e' b

theorem map (hx : Agrees x y) (h : α → β) : Agrees (x.map h) (y.map h) := by
  intro b
  cases x with
  | ok a =>
    rw [(hx a).mp rfl]
  | error e =>
    cases y with
    | ok a => exact absurd ((hx a).mpr rfl) (fun h => by cases h)
    | error e' => exact error e e' b

end Agrees

end DecisionFirewall.Lib
