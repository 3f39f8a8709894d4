import DecisionFirewall.Base.Dict
import DecisionFirewall.Base.JsonBytes
import DecisionFirewall.Base.JsonLoads

/-!
# Values up to the Order of Members

Two dictionaries are equal in whatever order their members stand, at every depth. Equal
values have one canonical text, and a text tells all others apart.

- §1 equal values
- §2 objects by their lookups
- §3 numbers
-/

namespace DecisionFirewall.Json

/-! ## §1 Equal values -/

/-- The values differ at most in the order of their members. -/
def Same (v w : Json) : Prop := v.sorted = w.sorted

theorem Same.refl (v : Json) : Same v v := Eq.refl _

theorem Same.symm {v w : Json} (h : Same v w) : Same w v := Eq.symm h

theorem Same.trans {u v w : Json} (h : Same u v) (h' : Same v w) : Same u w := Eq.trans h h'

theorem same_sorted (v : Json) : Same v.sorted v := sorted_sorted v

theorem Same.canonicalJson_eq {v w : Json} (h : Same v w) : canonicalJson v = canonicalJson w := by
  rw [← canonicalJson_sorted v, ← canonicalJson_sorted w, show v.sorted = w.sorted from h]

/-- Only a text is equal to a text. -/
theorem same_str_iff {v : Json} {s : String} : Same v (.str s) ↔ v = .str s := by
  constructor
  · intro h
    cases v with
    | str t => exact h
    | null | bool _ | int _ | float _ | arr _ | obj _ => cases h
  · rintro rfl
    exact .refl _

/-- Only an object is equal to an object. -/
theorem Same.obj_of_obj {v : Json} {gs : List (String × Json)} (h : Same v (.obj gs)) :
    ∃ fs, v = .obj fs := by
  cases v with
  | obj fs => exact ⟨fs, rfl⟩
  | null | bool _ | int _ | float _ | str _ | arr _ => cases h

/-- A predicate that accepts no sequence and no object cannot tell equal values apart. -/
theorem Same.scalar {p : Json → Bool} (harr : ∀ xs, p (.arr xs) = false)
    (hobj : ∀ fs, p (.obj fs) = false) {v w : Json} (h : Same v w) : p v = p w := by
  cases v <;> cases w <;> first
    | rw [harr, harr]
    | rw [hobj, hobj]
    | (cases h <;> rfl)

/-! ## §2 Objects by their lookups -/

section Objects

variable {fs gs : List (String × Json)}

theorem map_fst_sortedFields (fs : List (String × Json)) :
    (sortedFields fs).map Prod.fst = fs.map Prod.fst := by
  rw [sortedFields_eq_map, List.map_map]
  rfl

theorem lookup_sortedFields (fs : List (String × Json)) (name : String) :
    (sortedFields fs).lookup name = (fs.lookup name).map sorted := by
  induction fs with
  | nil => rfl
  | cons f fs ih =>
    obtain ⟨k, v⟩ := f
    simp only [sortedFields, List.lookup_cons]
    cases name == k with
    | true => rfl
    | false => exact ih

theorem Same.perm (h : Same (.obj fs) (.obj gs)) : (sortedFields fs).Perm (sortedFields gs) := by
  simp only [Same, sorted, Json.obj.injEq] at h
  refine (List.mergeSort_perm (sortedFields fs) fun a b => decide (a.1 ≤ b.1)).symm.trans ?_
  rw [h]
  exact List.mergeSort_perm _ _

/-- Equal objects have equal members. -/
theorem Same.lookup (hf : (fs.map Prod.fst).Nodup) (h : Same (.obj fs) (.obj gs)) (name : String) :
    (fs.lookup name).map sorted = (gs.lookup name).map sorted := by
  rw [← lookup_sortedFields, ← lookup_sortedFields]
  exact lookup_eq_of_perm h.perm (by rw [map_fst_sortedFields]; exact hf) name

/-- Objects with equal members are equal. -/
theorem same_of_lookup (hf : (fs.map Prod.fst).Nodup) (hg : (gs.map Prod.fst).Nodup)
    (h : ∀ name, (fs.lookup name).map sorted = (gs.lookup name).map sorted) :
    Same (.obj fs) (.obj gs) := by
  have hf' : ((sortedFields fs).map Prod.fst).Nodup := by rwa [map_fst_sortedFields]
  have hg' : ((sortedFields gs).map Prod.fst).Nodup := by rwa [map_fst_sortedFields]
  -- the members of each are the ones that its lookups find
  have hperm : (sortedFields fs).Perm (sortedFields gs) := by
    refine (List.perm_ext_iff_of_nodup hf'.of_map hg'.of_map).mpr fun f => ?_
    rw [← lookup_eq_some_iff_mem hf', ← lookup_eq_some_iff_mem hg', lookup_sortedFields,
      lookup_sortedFields, h]
  have hsorted : Same (.obj (sortedFields fs)) (.obj (sortedFields gs)) :=
    sorted_eq_of_perm hperm hf'
  have hfields : ∀ fields, Same (.obj (sortedFields fields)) (.obj fields) := by
    intro fields
    simp only [Same, sorted, sortedFields_sortedFields]
  exact (hfields fs).symm.trans (hsorted.trans (hfields gs))

theorem Same.isSome_lookup (hf : (fs.map Prod.fst).Nodup) (h : Same (.obj fs) (.obj gs))
    (name : String) : (fs.lookup name).isSome = (gs.lookup name).isSome := by
  have hlookup := congrArg Option.isSome (h.lookup hf name)
  rwa [Option.isSome_map, Option.isSome_map] at hlookup

/-- A member of one has its equal in the other. -/
theorem Same.exists_lookup (hf : (fs.map Prod.fst).Nodup) (h : Same (.obj fs) (.obj gs))
    {name : String} {v : Json} (hv : fs.lookup name = some v) :
    ∃ w, gs.lookup name = some w ∧ Same v w := by
  have hlookup := h.lookup hf name
  rw [hv, Option.map_some] at hlookup
  obtain ⟨w, hw, hsame⟩ := Option.map_eq_some_iff.mp hlookup.symm
  exact ⟨w, hw, hsame.symm⟩

/-- Equal objects have equal members, also where a member is missing. -/
theorem Same.get {d d' : Dict} (hd : (d.map Prod.fst).Nodup) (h : Same (.obj d) (.obj d'))
    (name : String) : Same (d.get name) (d'.get name) := by
  have hlookup := h.lookup hd name
  unfold Dict.get
  cases hv : d.lookup name with
  | none =>
    rw [hv, Option.map_none] at hlookup
    rw [Option.map_eq_none_iff.mp hlookup.symm]
    exact .refl _
  | some v =>
    obtain ⟨w, hw, hsame⟩ := h.exists_lookup hd hv
    rw [hw]
    exact hsame

theorem Same.keys (h : Same (.obj fs) (.obj gs)) : (fs.map Prod.fst).Perm (gs.map Prod.fst) := by
  rw [← map_fst_sortedFields fs, ← map_fst_sortedFields gs]
  exact h.perm.map _

end Objects

/-! ## §3 Numbers -/

section Numbers

variable {p : String → Bool}

theorem allFloatsItems_iff {xs : List Json} :
    allFloatsItems p xs = true ↔ ∀ x ∈ xs, x.allFloats p = true := by
  induction xs with
  | nil => exact iff_of_true rfl (List.forall_mem_nil _)
  | cons x xs ih => rw [allFloatsItems, Bool.and_eq_true, ih, List.forall_mem_cons]

theorem allFloatsFields_iff {fields : List (String × Json)} :
    allFloatsFields p fields = true ↔ ∀ f ∈ fields, f.2.allFloats p = true := by
  induction fields with
  | nil => exact iff_of_true rfl (List.forall_mem_nil _)
  | cons f fields ih => rw [allFloatsFields, Bool.and_eq_true, ih, List.forall_mem_cons]

theorem allFloats_obj {fields : List (String × Json)} :
    (Json.obj fields).allFloats p = true ↔ ∀ f ∈ fields, f.2.allFloats p = true :=
  allFloatsFields_iff

theorem allFloats_mem {rows : List Json} {row : Json} (h : (Json.arr rows).allFloats p = true)
    (hrow : row ∈ rows) : row.allFloats p = true :=
  allFloatsItems_iff.mp h row hrow

/-- A member of an object has the numbers of the object. -/
theorem allFloats_get {fields : Dict} {name : String}
    (h : (Json.obj fields).allFloats p = true) : (fields.get name).allFloats p = true := by
  unfold Dict.get
  cases hlookup : fields.lookup name with
  | none => rfl
  | some v =>
    obtain ⟨before, after, heq, -⟩ := List.lookup_eq_some_iff.mp hlookup
    refine allFloats_obj.mp h (name, v) ?_
    rw [heq]
    exact List.mem_append_right _ List.mem_cons_self

mutual

theorem allFloats_of_forall (h : ∀ repr, p repr = true) : (v : Json) → v.allFloats p = true
  | .null => rfl
  | .bool _ => rfl
  | .int _ => rfl
  | .float repr => h repr
  | .str _ => rfl
  | .arr xs => allFloatsItems_of_forall h xs
  | .obj fields => allFloatsFields_of_forall h fields

theorem allFloatsItems_of_forall (h : ∀ repr, p repr = true) : (xs : List Json) →
    allFloatsItems p xs = true
  | [] => rfl
  | x :: xs => by
    rw [allFloatsItems, allFloats_of_forall h x, allFloatsItems_of_forall h xs, Bool.and_true]

theorem allFloatsFields_of_forall (h : ∀ repr, p repr = true) : (fields : List (String × Json)) →
    allFloatsFields p fields = true
  | [] => rfl
  | (_, v) :: fields => by
    rw [allFloatsFields, allFloats_of_forall h v, allFloatsFields_of_forall h fields, Bool.and_true]

end

mutual

/-- Sorting moves the numbers. -/
theorem allFloats_sorted : (v : Json) → v.sorted.allFloats p = v.allFloats p
  | .null => rfl
  | .bool _ => rfl
  | .int _ => rfl
  | .float _ => rfl
  | .str _ => rfl
  | .arr xs => allFloatsItems_sorted xs
  | .obj fields => by
    rw [Bool.eq_iff_iff, sorted, allFloats_obj]
    show _ ↔ allFloatsFields p fields = true
    rw [← allFloatsFields_sorted fields, allFloatsFields_iff]
    exact ⟨fun h f hf => h f (List.mem_mergeSort.mpr hf), fun h f hf => h f (List.mem_mergeSort.mp hf)⟩

theorem allFloatsItems_sorted : (xs : List Json) →
    allFloatsItems p (sortedItems xs) = allFloatsItems p xs
  | [] => rfl
  | x :: xs => by simp only [sortedItems, allFloatsItems, allFloats_sorted x, allFloatsItems_sorted xs]

theorem allFloatsFields_sorted : (fields : List (String × Json)) →
    allFloatsFields p (sortedFields fields) = allFloatsFields p fields
  | [] => rfl
  | (_, v) :: fields => by
    simp only [sortedFields, allFloatsFields, allFloats_sorted v, allFloatsFields_sorted fields]

end

/-- Equal values have the same numbers. -/
theorem Same.allFloats {v w : Json} (h : Same v w) : v.allFloats p = w.allFloats p := by
  rw [← allFloats_sorted v, ← allFloats_sorted w, show v.sorted = w.sorted from h]

end Numbers

end DecisionFirewall.Json
