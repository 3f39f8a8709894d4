import Mathlib

/-!
# Keyed Tables

A relational table is a list of rows in insertion order. This file gives the two
write statements of a relational store a meaning over such lists and collects
what they keep:

- `INSERT` is `t ++ [row]`, guarded by the uniqueness of the row's keys;
- `UPDATE ... WHERE p` is `Table.updateWhere p f`.

§3 is the frame rule of such writes: a write to the rows of one key leaves every
selection by another key as it was.

Nothing here knows which rows the tables hold.
-/

namespace DecisionFirewall.Lib.Table

variable {α β κ : Type*}

/-! ## §1 Updating the rows that satisfy a condition -/

/-- `UPDATE t SET f WHERE p`. -/
def updateWhere (p : α → Bool) (f : α → α) (t : List α) : List α :=
  t.map fun row => if p row then f row else row

@[simp] theorem updateWhere_nil (p : α → Bool) (f : α → α) : updateWhere p f [] = [] := rfl

@[simp] theorem updateWhere_append (p : α → Bool) (f : α → α) (s t : List α) :
    updateWhere p f (s ++ t) = updateWhere p f s ++ updateWhere p f t := by
  simp [updateWhere]

@[simp] theorem length_updateWhere (p : α → Bool) (f : α → α) (t : List α) :
    (updateWhere p f t).length = t.length := by
  simp [updateWhere]

theorem mem_updateWhere {p : α → Bool} {f : α → α} {t : List α} {b : α} :
    b ∈ updateWhere p f t ↔ ∃ a ∈ t, b = if p a then f a else a := by
  simp only [updateWhere, List.mem_map]
  exact ⟨fun ⟨a, ha, h⟩ => ⟨a, ha, h.symm⟩, fun ⟨a, ha, h⟩ => ⟨a, ha, h.symm⟩⟩

/-- A projection that the update does not write keeps its column. -/
theorem map_updateWhere_of_eq {p : α → Bool} {f : α → α} {g : α → β}
    (h : ∀ a, p a = true → g (f a) = g a) (t : List α) :
    (updateWhere p f t).map g = t.map g := by
  simp only [updateWhere, List.map_map]
  apply List.map_congr_left
  intro a _
  by_cases hp : p a = true <;> simp [hp, h]

/-- A projection that carries the update over. -/
theorem map_updateWhere_comm {p : α → Bool} {f : α → α} {g : α → β} {q : β → Bool} {f' : β → β}
    {t : List α} (hp : ∀ a ∈ t, q (g a) = p a) (hf : ∀ a ∈ t, p a = true → g (f a) = f' (g a)) :
    (updateWhere p f t).map g = updateWhere q f' (t.map g) := by
  simp only [updateWhere, List.map_map]
  apply List.map_congr_left
  intro a ha
  simp only [Function.comp_apply, hp a ha]
  cases h : p a with
  | true => simp [hf a ha h]
  | false => simp

/-- The same for a nullable column. -/
theorem filterMap_updateWhere_of_eq {p : α → Bool} {f : α → α} {g : α → Option β}
    (h : ∀ a, p a = true → g (f a) = g a) (t : List α) :
    (updateWhere p f t).filterMap g = t.filterMap g := by
  simp only [updateWhere, List.filterMap_map]
  apply List.filterMap_congr
  intro a _
  by_cases hp : p a = true <;> simp [hp, h]

/-- Rows that the update leaves alone are selected exactly as before. -/
theorem filter_updateWhere_of_disjoint {p q : α → Bool} {f : α → α} {t : List α}
    (hq : ∀ a ∈ t, p a = true → q a = false) (hf : ∀ a ∈ t, p a = true → q (f a) = false) :
    (updateWhere p f t).filter q = t.filter q := by
  induction t with
  | nil => rfl
  | cons a t ih =>
    have ih' := ih (fun b hb => hq b (List.mem_cons_of_mem _ hb))
      (fun b hb => hf b (List.mem_cons_of_mem _ hb))
    simp only [updateWhere, List.map_cons, List.filter_cons] at ih' ⊢
    by_cases hp : p a = true
    · simp [hp, hq a (by simp) hp, hf a (by simp) hp, ih']
    · simp [hp, ih']

/-- A selection that only looks at columns the update keeps commutes with it. -/
theorem filter_updateWhere_of_eq {p q : α → Bool} {f : α → α} {t : List α}
    (hq : ∀ a ∈ t, p a = true → q (f a) = q a) :
    (updateWhere p f t).filter q = updateWhere p f (t.filter q) := by
  induction t with
  | nil => rfl
  | cons a t ih =>
    have ih' := ih (fun b hb => hq b (List.mem_cons_of_mem _ hb))
    simp only [updateWhere, List.map_cons, List.filter_cons] at ih' ⊢
    by_cases hp : p a = true
    · have := hq a (by simp) hp
      by_cases hqa : q a = true <;> simp [hp, this, hqa, ih']
    · by_cases hqa : q a = true <;> simp [hp, hqa, ih']

theorem updateWhere_eq_self {p : α → Bool} {f : α → α} {t : List α}
    (h : ∀ a ∈ t, p a = false) : updateWhere p f t = t := by
  induction t with
  | nil => rfl
  | cons a t ih =>
    have ha := h a (by simp)
    have ih' := ih (fun b hb => h b (List.mem_cons_of_mem _ hb))
    simp only [updateWhere, List.map_cons] at ih' ⊢
    simp [ha, ih']

/-! ## §2 Unique keys -/

/-- Under a unique key two rows with one key are the same row. -/
theorem eq_of_nodup_key {key : α → κ} {t : List α} (h : (t.map key).Nodup)
    {a b : α} (ha : a ∈ t) (hb : b ∈ t) (hk : key a = key b) : a = b :=
  List.inj_on_of_nodup_map h ha hb hk

/-- Looking a row up by a unique key finds exactly the row that carries it. -/
theorem find?_key_eq_some [DecidableEq κ] {key : α → κ} {t : List α}
    (h : (t.map key).Nodup) {a : α} {k : κ} :
    (t.find? fun b => key b = k) = some a ↔ a ∈ t ∧ key a = k := by
  constructor
  · intro ha
    exact ⟨List.mem_of_find?_eq_some ha, by simpa using List.find?_some ha⟩
  · rintro ⟨ha, hk⟩
    cases hf : t.find? fun b => key b = k with
    | none =>
      have := List.find?_eq_none.mp hf a ha
      simp [hk] at this
    | some b =>
      have hb := List.mem_of_find?_eq_some hf
      have hkb : key b = k := by simpa using List.find?_some hf
      rw [eq_of_nodup_key h hb ha (hkb.trans hk.symm)]

/-- A pair of an association list with distinct keys is the one its key finds. -/
theorem lookup_eq_some_of_mem [DecidableEq κ] {t : List (κ × β)} (h : (t.map Prod.fst).Nodup)
    {p : κ × β} (hp : p ∈ t) : t.lookup p.1 = some p.2 := by
  obtain ⟨l₁, l₂, rfl⟩ := List.append_of_mem hp
  refine List.lookup_eq_some_iff.mpr ⟨l₁, l₂, rfl, fun q hq => ?_⟩
  rw [List.map_append, List.map_cons, List.nodup_append] at h
  have hne := h.2.2 q.1 (List.mem_map_of_mem hq) p.1 (by simp)
  simpa using hne.symm

/-- Two tables with the same keys in the same order and the same rows are the same. -/
theorem eq_of_perm_of_keys {key : α → κ} {t t' : List α} (hperm : t.Perm t')
    (hkeys : t.map key = t'.map key) (h : (t.map key).Nodup) : t = t' := by
  refine List.ext_getElem hperm.length_eq fun i hi hi' => ?_
  obtain ⟨j, hj, hrow⟩ := List.getElem_of_mem (hperm.mem_iff.mp (List.getElem_mem hi))
  -- the row stands where its key stands
  have hj' : j < (t'.map key).length := by simpa using hj
  have hi'' : i < (t'.map key).length := by simpa using hi'
  have hkey : (t'.map key)[j] = (t'.map key)[i] := by
    rw [List.getElem_map, hrow]
    simp only [← hkeys]
    rw [List.getElem_map]
  have hij : j = i := (List.Nodup.getElem_inj_iff (hkeys ▸ h)).mp hkey
  subst hij
  exact hrow.symm

/-- The same for a nullable unique key: SQL ignores `NULL` in `UNIQUE`. -/
theorem eq_of_nodup_nullable_key {key : α → Option κ} {t : List α}
    (h : (t.filterMap key).Nodup) {a b : α} {k : κ} (ha : a ∈ t) (hb : b ∈ t)
    (hka : key a = some k) (hkb : key b = some k) : a = b := by
  induction t with
  | nil => simp at ha
  | cons c t ih =>
    have hmem : ∀ d ∈ t, key d = some k → k ∈ t.filterMap key :=
      fun d hd hkd => List.mem_filterMap.mpr ⟨d, hd, hkd⟩
    cases hc : key c with
    | none =>
      have hne : ∀ d, key d = some k → d ≠ c := fun d hd hdc => by simp [← hdc, hd] at hc
      simp only [List.filterMap_cons, hc] at h
      exact ih h (List.mem_of_ne_of_mem (hne a hka) ha) (List.mem_of_ne_of_mem (hne b hkb) hb)
    | some j =>
      simp only [List.filterMap_cons, hc, List.nodup_cons] at h
      obtain ⟨hj, ht⟩ := h
      rcases List.mem_cons.mp ha with rfl | ha'
      · rcases List.mem_cons.mp hb with rfl | hb'
        · rfl
        · rw [hka] at hc
          cases hc
          exact absurd (hmem b hb' hkb) hj
      · rcases List.mem_cons.mp hb with rfl | hb'
        · rw [hkb] at hc
          cases hc
          exact absurd (hmem a ha' hka) hj
        · exact ih ht ha' hb'

theorem nodup_concat {t : List κ} {k : κ} : (t ++ [k]).Nodup ↔ t.Nodup ∧ k ∉ t := by
  rw [List.nodup_append]
  constructor
  · rintro ⟨h, -, hd⟩
    exact ⟨h, fun hk => hd k hk k (by simp) rfl⟩
  · rintro ⟨h, hk⟩
    refine ⟨h, by simp, ?_⟩
    rintro a ha b hb rfl
    simp only [List.mem_singleton] at hb
    exact hk (hb ▸ ha)

/-- At most one row of a table satisfies `q` once `q` fixes the value of a unique key. -/
theorem filter_eq_singleton {key : α → κ} {q : α → Bool} {t : List α}
    (h : (t.map key).Nodup) {a : α} (ha : a ∈ t) (hqa : q a = true)
    (hq : ∀ b ∈ t, q b = true → key b = key a) : t.filter q = [a] := by
  induction t with
  | nil => simp at ha
  | cons c t ih =>
    simp only [List.map_cons, List.nodup_cons, List.mem_map, not_exists, not_and] at h
    obtain ⟨hc, ht⟩ := h
    rcases List.mem_cons.mp ha with rfl | ha'
    · have hnil : t.filter q = [] := by
        rw [List.filter_eq_nil_iff]
        intro b hb hqb
        exact hc b hb (hq b (List.mem_cons_of_mem _ hb) hqb)
      simp [hqa, hnil]
    · have hqc : q c = false := by
        by_contra hne
        have hqc' : q c = true := by simpa using hne
        exact hc a ha' (hq c (by simp) hqc').symm
      simp only [List.filter_cons, hqc, Bool.false_eq_true, if_false]
      exact ih ht ha' fun b hb hqb => hq b (List.mem_cons_of_mem _ hb) hqb

/-! ## §3 Writes to the rows of one key -/

/-- `t'` has the same rows as `t`, in the same order, wherever the (nullable) key is
not `k`. -/
def SameElsewhere [DecidableEq κ] (key : α → Option κ) (k : κ) (t t' : List α) : Prop :=
  ∀ c, c ≠ some k → t'.filter (fun a => key a = c) = t.filter (fun a => key a = c)

section SameElsewhere

variable [DecidableEq κ] {key : α → Option κ} {k : κ} {t t' : List α}

theorem SameElsewhere.refl : SameElsewhere key k t t := fun _ _ => rfl

theorem SameElsewhere.mem (h : SameElsewhere key k t t') {a : α} (ha : key a ≠ some k) :
    a ∈ t' ↔ a ∈ t := by
  have := congrArg (a ∈ ·) (h (key a) ha)
  simpa using this

theorem SameElsewhere.append {a : α} (ha : key a = some k) : SameElsewhere key k t (t ++ [a]) := by
  intro c hc
  have : ¬ some k = c := fun h => hc h.symm
  simp [List.filter_append, ha, this]

theorem SameElsewhere.update {p : α → Bool} {f : α → α}
    (hp : ∀ a ∈ t, p a = true → key a = some k) (hf : ∀ a, key (f a) = key a) :
    SameElsewhere key k t (updateWhere p f t) := by
  intro c hc
  refine filter_updateWhere_of_disjoint ?_ ?_
  · intro a ha hpa
    simpa [hp a ha hpa] using fun h => hc h.symm
  · intro a ha hpa
    simpa [hf, hp a ha hpa] using fun h => hc h.symm

end SameElsewhere

end DecisionFirewall.Lib.Table
