import Mathlib

/-!
# Hash Chains

A list of links, each of which names the digest of the one before it and its own. What the
last digest says about the whole list when the digests involved do not collide.
-/

namespace DecisionFirewall.Lib

/-- One link: the digest it continues, what its own digest is taken of, the digest it claims. -/
structure Link (M H : Type*) where
  prev : H
  body : M
  claimed : H

namespace Link

variable {M H : Type*} {digest : M → H} {p q : H} {xs ys : List (Link M H)}

/-- Each link continues the one before it, the first one `p`, and claims the digest of its
body. -/
def Linked (digest : M → H) : H → List (Link M H) → Prop
  | _, [] => True
  | p, x :: xs => x.prev = p ∧ x.claimed = digest x.body ∧ Linked digest x.claimed xs

/-- The digest that the next link has to continue. -/
def tip (p : H) (xs : List (Link M H)) : H := xs.foldl (fun _ x => x.claimed) p

@[simp] theorem tip_nil : tip p ([] : List (Link M H)) = p := rfl

@[simp] theorem tip_append_singleton (x : Link M H) : tip p (xs ++ [x]) = x.claimed := by
  rw [tip, List.foldl_append]
  rfl

theorem linked_append :
    Linked digest p (xs ++ ys) ↔ Linked digest p xs ∧ Linked digest (tip p xs) ys := by
  induction xs generalizing p with
  | nil => simp [Linked]
  | cons x xs ih =>
    have htip : tip p (x :: xs) = tip x.claimed xs := rfl
    simp only [List.cons_append, Linked, ih, htip, and_assoc]

theorem linked_append_singleton {x : Link M H} :
    Linked digest p (xs ++ [x]) ↔
      Linked digest p xs ∧ x.prev = tip p xs ∧ x.claimed = digest x.body := by
  rw [linked_append]
  simp [Linked]

/-- No link of the one list has another body than a link of the other and the same digest. -/
def NoCollision (digest : M → H) (xs ys : List (Link M H)) : Prop :=
  ∀ x ∈ xs, ∀ y ∈ ys, digest x.body = digest y.body → x.body = y.body

/-- Where a body tells which digest its link continues, two lists of one length that end in
one digest have the same bodies. -/
theorem Linked.bodies_eq (hx : Linked digest p xs) (hy : Linked digest q ys)
    (hlength : xs.length = ys.length) (htip : tip p xs = tip q ys)
    (hcollision : NoCollision digest xs ys)
    (hprev : ∀ x ∈ xs, ∀ y ∈ ys, x.body = y.body → x.prev = y.prev) :
    List.Forall₂ (fun x y : Link M H => x.body = y.body) xs ys := by
  -- from the last link back to the first
  induction xs using List.reverseRecOn generalizing ys with
  | nil =>
    cases ys with
    | nil => exact .nil
    | cons y ys => cases hlength
  | append_singleton xs x ih =>
    cases ys using List.reverseRecOn with
    | nil => simp at hlength
    | append_singleton ys y =>
      obtain ⟨hxs, hxprev, hxclaimed⟩ := linked_append_singleton.mp hx
      obtain ⟨hys, hyprev, hyclaimed⟩ := linked_append_singleton.mp hy
      have hbody : x.body = y.body := by
        apply hcollision x (by simp) y (by simp)
        rw [← hxclaimed, ← hyclaimed]
        simpa using htip
      have hrest : List.Forall₂ (fun x y : Link M H => x.body = y.body) xs ys := by
        apply ih hxs hys
        · simpa using hlength
        · rw [← hxprev, ← hyprev]
          exact hprev x (by simp) y (by simp) hbody
        · intro a ha b hb
          exact hcollision a (by simp [ha]) b (by simp [hb])
        · intro a ha b hb
          exact hprev a (by simp [ha]) b (by simp [hb])
      exact List.rel_append hrest (.cons hbody .nil)

end Link

end DecisionFirewall.Lib
