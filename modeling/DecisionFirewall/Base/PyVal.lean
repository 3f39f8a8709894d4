import DecisionFirewall.Base.Float

/-!
# Python Values and Their Equality

The plain values that a decision record or an authorization can carry, compared with
`==` and written with `canonical_json`. The two do not see the same: `True`, `1` and
`1.0` are equal and have three texts, a tuple and a list are unequal and have one.

- §1 values
- §2 equality
- §3 kinds
- §4 equality and canonical text
- §5 a value equals itself
- §6 plain JSON values
-/

namespace DecisionFirewall

open Json

/-! ## §1 Values -/

/-- A value made of JSON scalars; `float` carries the text `json.dumps` writes. -/
inductive PyVal where
  | none
  | bool (b : Bool)
  | int (n : Int)
  | float (repr : String)
  | str (s : String)
  | tuple (xs : List PyVal)
  | list (xs : List PyVal)
  | dict (fields : List (String × PyVal))
  deriving Repr

namespace PyVal

mutual

/-- The value as `json.dumps` sees it. -/
def toJson : PyVal → Json
  | .none => .null
  | .bool b => .bool b
  | .int n => .int n
  | .float repr => .float repr
  | .str s => .str s
  | .tuple xs => .arr (toJsonItems xs)
  | .list xs => .arr (toJsonItems xs)
  | .dict fields => .obj (toJsonFields fields)

def toJsonItems : List PyVal → List Json
  | [] => []
  | x :: xs => toJson x :: toJsonItems xs

def toJsonFields : List (String × PyVal) → List (String × Json)
  | [] => []
  | (k, v) :: fields => (k, toJson v) :: toJsonFields fields

end

mutual

/-- The value that a record carries for a JSON value: sequences are tuples. -/
def ofJson : Json → PyVal
  | .null => .none
  | .bool b => .bool b
  | .int n => .int n
  | .float repr => .float repr
  | .str s => .str s
  | .arr xs => .tuple (ofJsonItems xs)
  | .obj fields => .dict (ofJsonFields fields)

def ofJsonItems : List Json → List PyVal
  | [] => []
  | x :: xs => ofJson x :: ofJsonItems xs

def ofJsonFields : List (String × Json) → List (String × PyVal)
  | [] => []
  | (k, v) :: fields => (k, ofJson v) :: ofJsonFields fields

end

mutual

@[simp] theorem toJson_ofJson : (j : Json) → toJson (ofJson j) = j
  | .null | .bool _ | .int _ | .float _ | .str _ => rfl
  | .arr xs => by rw [ofJson, toJson, toJsonItems_ofJsonItems xs]
  | .obj fields => by rw [ofJson, toJson, toJsonFields_ofJsonFields fields]

theorem toJsonItems_ofJsonItems : (xs : List Json) → toJsonItems (ofJsonItems xs) = xs
  | [] => rfl
  | x :: xs => by rw [ofJsonItems, toJsonItems, toJson_ofJson x, toJsonItems_ofJsonItems xs]

theorem toJsonFields_ofJsonFields : (fields : List (String × Json)) →
    toJsonFields (ofJsonFields fields) = fields
  | [] => rfl
  | (k, v) :: fields => by
    rw [ofJsonFields, toJsonFields, toJson_ofJson v, toJsonFields_ofJsonFields fields]

end

theorem toJsonFields_eq_map (fields : List (String × PyVal)) :
    toJsonFields fields = fields.map fun f => (f.1, toJson f.2) := by
  induction fields with
  | nil => rfl
  | cons f fields ih => simp [toJsonFields, ih]

/-! ## §2 Equality -/

/-- A boolean is an integer. -/
def asInt : PyVal → Option Int
  | .bool b => some (if b then 1 else 0)
  | .int n => some n
  | _ => Option.none

mutual

/-- `v == w`; dictionaries are compared without regard to order. -/
def pyEq (F : Type) [PyFloat F] : PyVal → PyVal → Bool
  | .none, w => match w with
    | .none => true
    | _ => false
  | .bool b, w => match w with
    | .float t => PyFloat.eqTextInt F t (if b then 1 else 0)
    | w => w.asInt = some (if b then 1 else 0)
  | .int n, w => match w with
    | .float t => PyFloat.eqTextInt F t n
    | w => w.asInt = some n
  | .float s, w => match w with
    | .float t => PyFloat.eqText F s t
    | w => match w.asInt with
      | some n => PyFloat.eqTextInt F s n
      | Option.none => false
  | .str s, w => match w with
    | .str t => s = t
    | _ => false
  | .tuple xs, w => match w with
    | .tuple ys => pyEqItems F xs ys
    | _ => false
  | .list xs, w => match w with
    | .list ys => pyEqItems F xs ys
    | _ => false
  | .dict fs, w => match w with
    | .dict gs => fs.length = gs.length && pyEqFields F fs gs
    | _ => false

def pyEqItems (F : Type) [PyFloat F] : List PyVal → List PyVal → Bool
  | [], ys => ys.isEmpty
  | x :: xs, ys => match ys with
    | [] => false
    | y :: ys => pyEq F x y && pyEqItems F xs ys

/-- Every member has an equal in the other dictionary. -/
def pyEqFields (F : Type) [PyFloat F] : List (String × PyVal) → List (String × PyVal) → Bool
  | [], _ => true
  | (k, v) :: fs, gs => (match gs.lookup k with
    | some w => pyEq F v w
    | Option.none => false) && pyEqFields F fs gs

end

/-! ## §3 Kinds -/

mutual

/-- The dictionaries of the value have distinct keys. -/
def KeysOk : PyVal → Prop
  | .tuple xs => KeysOkItems xs
  | .list xs => KeysOkItems xs
  | .dict fields => (fields.map Prod.fst).Nodup ∧ KeysOkFields fields
  | _ => True

def KeysOkItems : List PyVal → Prop
  | [] => True
  | x :: xs => KeysOk x ∧ KeysOkItems xs

def KeysOkFields : List (String × PyVal) → Prop
  | [] => True
  | (_, v) :: fields => KeysOk v ∧ KeysOkFields fields

end

mutual

/-- The two values have the same JSON types throughout, and the same floats. -/
def SameKinds : PyVal → PyVal → Prop
  | .none, w => match w with
    | .none => True
    | _ => False
  | .bool _, w => match w with
    | .bool _ => True
    | _ => False
  | .int _, w => match w with
    | .int _ => True
    | _ => False
  | .float s, w => match w with
    | .float t => s = t
    | _ => False
  | .str _, w => match w with
    | .str _ => True
    | _ => False
  | .tuple xs, w => match w with
    | .tuple ys => SameKindsItems xs ys
    | _ => False
  | .list xs, w => match w with
    | .list ys => SameKindsItems xs ys
    | _ => False
  | .dict fs, w => match w with
    | .dict gs => SameKindsFields fs gs
    | _ => False

def SameKindsItems : List PyVal → List PyVal → Prop
  | [], ys => ys = []
  | x :: xs, ys => match ys with
    | [] => False
    | y :: ys => SameKinds x y ∧ SameKindsItems xs ys

def SameKindsFields : List (String × PyVal) → List (String × PyVal) → Prop
  | [], _ => True
  | (k, v) :: fs, gs => (match gs.lookup k with
    | some w => SameKinds v w
    | Option.none => False) ∧ SameKindsFields fs gs

end

/-! ## §4 Equality and canonical text -/

/-- The members of an object with sorted values, before the members are sorted. -/
theorem sortedFields_toJsonFields (fields : List (String × PyVal)) :
    sortedFields (toJsonFields fields) = fields.map fun f => (f.1, (toJson f.2).sorted) := by
  rw [toJsonFields_eq_map, sortedFields_eq_map, List.map_map]
  rfl

/-- Members with distinct names sort into one order. -/
theorem mergeSort_eq_of_perm {fs gs : List (String × Json)} (hperm : fs.Perm gs)
    (hnodup : (fs.map Prod.fst).Nodup) :
    fs.mergeSort (fun a b => decide (a.1 ≤ b.1)) =
      gs.mergeSort fun a b => decide (a.1 ≤ b.1) := by
  have htrans : ∀ a b c : String × Json, decide (a.1 ≤ b.1) = true → decide (b.1 ≤ c.1) = true →
      decide (a.1 ≤ c.1) = true := by
    intro a b c hab hbc
    exact decide_eq_true (le_trans (of_decide_eq_true hab) (of_decide_eq_true hbc))
  have htotal : ∀ a b : String × Json, (decide (a.1 ≤ b.1) || decide (b.1 ≤ a.1)) = true := by
    intro a b
    simpa using le_total a.1 b.1
  have hsame : (fs.mergeSort fun a b => decide (a.1 ≤ b.1)).Perm
      (gs.mergeSort fun a b => decide (a.1 ≤ b.1)) :=
    (List.mergeSort_perm _ _).trans (hperm.trans (List.mergeSort_perm _ _).symm)
  refine hsame.eq_of_pairwise ?_ (List.pairwise_mergeSort htrans htotal fs)
    (List.pairwise_mergeSort htrans htotal gs)
  intro a b ha hb hab hba
  -- two members of one name are one member
  have hname : a.1 = b.1 := le_antisymm (of_decide_eq_true hab) (of_decide_eq_true hba)
  have ha' : a ∈ fs := (List.mergeSort_perm _ _).mem_iff.mp ha
  have hb' : b ∈ fs := hperm.mem_iff.mpr ((List.mergeSort_perm _ _).mem_iff.mp hb)
  exact List.inj_on_of_nodup_map hnodup ha' hb' hname

theorem lookup_mem {fields : List (String × PyVal)} {k : String} {v : PyVal}
    (h : fields.lookup k = some v) : (k, v) ∈ fields := by
  obtain ⟨l₁, l₂, rfl, -⟩ := List.lookup_eq_some_iff.mp h
  simp

theorem keysOkFields_mem {fields : List (String × PyVal)} (h : KeysOkFields fields)
    {f : String × PyVal} (hf : f ∈ fields) : KeysOk f.2 := by
  induction fields with
  | nil => exact absurd hf List.not_mem_nil
  | cons g fields ih =>
    rcases List.mem_cons.mp hf with rfl | hf
    · exact h.1
    · exact ih h.2 hf

/-- Two dictionaries whose members are found in each other have one canonical form. -/
theorem sorted_dict_eq {fs gs : List (String × PyVal)} (hfs : (fs.map Prod.fst).Nodup)
    (hlen : fs.length = gs.length)
    (hmem : ∀ f ∈ fs, ∃ w, gs.lookup f.1 = some w ∧ (toJson f.2).sorted = (toJson w).sorted) :
    (toJson (.dict fs)).sorted = (toJson (.dict gs)).sorted := by
  simp only [toJson, Json.sorted, Json.obj.injEq, sortedFields_toJsonFields]
  have hkeys : ((fs.map fun f => (f.1, (toJson f.2).sorted)).map Prod.fst).Nodup := by
    rw [List.map_map]
    exact hfs
  apply mergeSort_eq_of_perm _ hkeys
  apply List.Subperm.perm_of_length_le
  · apply List.subperm_of_subset (List.Nodup.of_map _ hkeys)
    intro m hm
    obtain ⟨f, hf, rfl⟩ := List.mem_map.mp hm
    obtain ⟨w, hw, heq⟩ := hmem f hf
    exact List.mem_map.mpr ⟨(f.1, w), lookup_mem hw, by rw [heq]⟩
  · simp [hlen]

/-- In one canonical form a name stands for one value. -/
theorem sorted_eq_of_dict {fs gs : List (String × PyVal)} (hgs : (gs.map Prod.fst).Nodup)
    (h : (toJson (.dict fs)).sorted = (toJson (.dict gs)).sorted) {f : String × PyVal}
    (hf : f ∈ fs) {w : PyVal} (hw : gs.lookup f.1 = some w) :
    (toJson f.2).sorted = (toJson w).sorted := by
  simp only [toJson, Json.sorted, Json.obj.injEq, sortedFields_toJsonFields] at h
  have hperm : (fs.map fun f => (f.1, (toJson f.2).sorted)).Perm
      (gs.map fun g => (g.1, (toJson g.2).sorted)) := by
    refine (List.mergeSort_perm _ fun a b => decide (a.1 ≤ b.1)).symm.trans ?_
    rw [h]
    exact List.mergeSort_perm _ _
  have hin : (f.1, (toJson f.2).sorted) ∈ gs.map fun g => (g.1, (toJson g.2).sorted) :=
    hperm.mem_iff.mp (List.mem_map.mpr ⟨f, hf, rfl⟩)
  have hin' : (f.1, (toJson w).sorted) ∈ gs.map fun g => (g.1, (toJson g.2).sorted) :=
    List.mem_map.mpr ⟨(f.1, w), lookup_mem hw, rfl⟩
  have hkeys : ((gs.map fun g => (g.1, (toJson g.2).sorted)).map Prod.fst).Nodup := by
    rw [List.map_map]
    exact hgs
  exact congrArg Prod.snd (List.inj_on_of_nodup_map hkeys hin hin' rfl)

variable (F : Type) [PyFloat F]

mutual

/-- Equal values of the same kinds have one canonical text. -/
theorem sorted_eq_of_sameKinds : (v w : PyVal) → KeysOk v → pyEq F v w = true → SameKinds v w →
    (toJson v).sorted = (toJson w).sorted
  | .none, w, _, _, hk => by
    cases w <;> first | rfl | exact hk.elim
  | .bool b, w, _, he, hk => by
    cases w with
    | bool b' => cases b <;> cases b' <;> simp_all [pyEq, asInt, toJson]
    | _ => exact hk.elim
  | .int n, w, _, he, hk => by
    cases w with
    | int m =>
      have hnm : m = n := by simpa [pyEq, asInt] using he
      rw [hnm]
    | _ => exact hk.elim
  | .float s, w, _, _, hk => by
    cases w with
    | float t =>
      have hst : s = t := hk
      rw [hst]
    | _ => exact hk.elim
  | .str s, w, _, he, hk => by
    cases w with
    | str t =>
      have hst : s = t := by simpa [pyEq] using he
      rw [hst]
    | _ => exact hk.elim
  | .tuple xs, w, ho, he, hk => by
    cases w with
    | tuple ys =>
      have hitems := sortedItems_eq_of_sameKinds xs ys ho he hk
      simp only [toJson, Json.sorted, hitems]
    | _ => exact hk.elim
  | .list xs, w, ho, he, hk => by
    cases w with
    | list ys =>
      have hitems := sortedItems_eq_of_sameKinds xs ys ho he hk
      simp only [toJson, Json.sorted, hitems]
    | _ => exact hk.elim
  | .dict fs, w, ho, he, hk => by
    cases w with
    | dict gs =>
      simp only [pyEq, Bool.and_eq_true, decide_eq_true_eq] at he
      exact sorted_dict_eq ho.1 he.1 (sortedFields_eq_of_sameKinds fs gs ho.2 he.2 hk)
    | _ => exact hk.elim

theorem sortedItems_eq_of_sameKinds : (xs ys : List PyVal) → KeysOkItems xs →
    pyEqItems F xs ys = true → SameKindsItems xs ys →
    sortedItems (toJsonItems xs) = sortedItems (toJsonItems ys)
  | [], ys, _, _, hk => by
    have hys : ys = [] := hk
    rw [hys]
  | x :: xs, ys, ho, he, hk => by
    cases ys with
    | nil => exact hk.elim
    | cons y ys =>
      simp only [pyEqItems, Bool.and_eq_true] at he
      simp only [toJsonItems, sortedItems, sorted_eq_of_sameKinds x y ho.1 he.1 hk.1,
        sortedItems_eq_of_sameKinds xs ys ho.2 he.2 hk.2]

theorem sortedFields_eq_of_sameKinds : (fs gs : List (String × PyVal)) → KeysOkFields fs →
    pyEqFields F fs gs = true → SameKindsFields fs gs →
    ∀ f ∈ fs, ∃ w, gs.lookup f.1 = some w ∧ (toJson f.2).sorted = (toJson w).sorted
  | [], _, _, _, _, f, hf => absurd hf List.not_mem_nil
  | (k, v) :: fs, gs, ho, he, hk, f, hf => by
    simp only [pyEqFields, Bool.and_eq_true] at he
    rcases List.mem_cons.mp hf with rfl | hf
    · cases hw : gs.lookup k with
      | none =>
        rw [hw] at he
        exact absurd he.1 Bool.false_ne_true
      | some w =>
        simp only [SameKindsFields, hw] at he hk
        exact ⟨w, rfl, sorted_eq_of_sameKinds v w ho.1 he.1 hk.1⟩
    · exact sortedFields_eq_of_sameKinds fs gs ho.2 he.2 hk.2 f hf

end

mutual

/-- Equal values with one canonical text are of the same kinds. -/
theorem sameKinds_of_sorted_eq : (v w : PyVal) → KeysOk w → pyEq F v w = true →
    (toJson v).sorted = (toJson w).sorted → SameKinds v w
  | .none, w, _, he, _ => by
    cases w <;> trivial
  | .bool _, w, _, _, hs => by
    cases w <;> trivial
  | .int _, w, _, _, hs => by
    cases w <;> trivial
  | .float s, w, _, _, hs => by
    cases w with
    | float t =>
      have hst : s = t := by simpa [toJson, Json.sorted] using hs
      exact hst
    | _ => simp [toJson, Json.sorted] at hs
  | .str _, w, _, _, hs => by
    cases w <;> trivial
  | .tuple xs, w, ho, he, hs => by
    cases w with
    | tuple ys =>
      simp only [toJson, Json.sorted, Json.arr.injEq] at hs
      exact sameKindsItems_of_sorted_eq xs ys ho he hs
    | _ => exact absurd he Bool.false_ne_true
  | .list xs, w, ho, he, hs => by
    cases w with
    | list ys =>
      simp only [toJson, Json.sorted, Json.arr.injEq] at hs
      exact sameKindsItems_of_sorted_eq xs ys ho he hs
    | _ => exact absurd he Bool.false_ne_true
  | .dict fs, w, ho, he, hs => by
    cases w with
    | dict gs =>
      simp only [pyEq, Bool.and_eq_true, decide_eq_true_eq] at he
      refine sameKindsFields_of_sorted_eq fs gs ho.2 he.2 ?_
      intro f hf w hw
      exact sorted_eq_of_dict ho.1 hs hf hw
    | _ => exact absurd he Bool.false_ne_true

theorem sameKindsItems_of_sorted_eq : (xs ys : List PyVal) → KeysOkItems ys →
    pyEqItems F xs ys = true → sortedItems (toJsonItems xs) = sortedItems (toJsonItems ys) →
    SameKindsItems xs ys
  | [], ys, _, he, _ => by
    have hys : ys = [] := List.isEmpty_iff.mp he
    exact hys
  | x :: xs, ys, ho, he, hs => by
    cases ys with
    | nil => exact absurd he Bool.false_ne_true
    | cons y ys =>
      simp only [pyEqItems, Bool.and_eq_true] at he
      simp only [toJsonItems, sortedItems, List.cons.injEq] at hs
      exact ⟨sameKinds_of_sorted_eq x y ho.1 he.1 hs.1,
        sameKindsItems_of_sorted_eq xs ys ho.2 he.2 hs.2⟩

theorem sameKindsFields_of_sorted_eq : (fs gs : List (String × PyVal)) → KeysOkFields gs →
    pyEqFields F fs gs = true →
    (∀ f ∈ fs, ∀ w, gs.lookup f.1 = some w → (toJson f.2).sorted = (toJson w).sorted) →
    SameKindsFields fs gs
  | [], _, _, _, _ => trivial
  | (k, v) :: fs, gs, ho, he, hs => by
    simp only [pyEqFields, Bool.and_eq_true] at he
    refine ⟨?_, sameKindsFields_of_sorted_eq fs gs ho he.2 fun f hf =>
      hs f (List.mem_cons_of_mem _ hf)⟩
    cases hw : gs.lookup k with
    | none =>
      rw [hw] at he
      exact absurd he.1 Bool.false_ne_true
    | some w =>
      rw [hw] at he
      exact sameKinds_of_sorted_eq v w (keysOkFields_mem ho (lookup_mem hw)) he.1
        (hs (k, v) (by simp) w hw)

end

/-! ## §5 A value equals itself -/

/-- Two dictionaries that are equal have equal members under one name. -/
theorem pyEqFields_mem {F : Type} [PyFloat F] {fs gs : List (String × PyVal)}
    (h : pyEqFields F fs gs = true) {f : String × PyVal} (hf : f ∈ fs) :
    ∃ w, gs.lookup f.1 = some w ∧ pyEq F f.2 w = true := by
  induction fs with
  | nil => exact absurd hf List.not_mem_nil
  | cons g fs ih =>
    simp only [pyEqFields, Bool.and_eq_true] at h
    rcases List.mem_cons.mp hf with rfl | hf
    · cases hw : gs.lookup f.1 with
      | none =>
        rw [hw] at h
        exact absurd h.1 Bool.false_ne_true
      | some w =>
        rw [hw] at h
        exact ⟨w, rfl, h.1⟩
    · exact ih h.2 hf

theorem lookup_of_mem {fields : List (String × PyVal)} (h : (fields.map Prod.fst).Nodup)
    {k : String} {v : PyVal} (hmem : (k, v) ∈ fields) : fields.lookup k = some v := by
  induction fields with
  | nil => exact absurd hmem List.not_mem_nil
  | cons g fields ih =>
    rw [List.map_cons, List.nodup_cons] at h
    rcases List.mem_cons.mp hmem with rfl | hmem
    · simp
    · have hne : k ≠ g.1 := by
        intro hk
        exact h.1 (hk ▸ List.mem_map_of_mem hmem)
      rw [List.lookup_cons, show (k == g.1) = false from beq_eq_false_iff_ne.mpr hne]
      exact ih h.2 hmem

mutual

theorem pyEq_refl [LawfulPyFloat F] : (v : PyVal) → KeysOk v → pyEq F v v = true
  | .none, _ => rfl
  | .bool b, _ => by simp [pyEq, asInt]
  | .int n, _ => by simp [pyEq, asInt]
  | .float s, _ => LawfulPyFloat.eqText_refl s
  | .str s, _ => by simp [pyEq]
  | .tuple xs, h => pyEqItems_refl xs h
  | .list xs, h => pyEqItems_refl xs h
  | .dict fields, h => by
    simp only [pyEq, decide_true, Bool.true_and]
    exact pyEqFields_of_mem fields fields h.2 fun f hf => lookup_of_mem h.1 hf

theorem pyEqItems_refl [LawfulPyFloat F] : (xs : List PyVal) → KeysOkItems xs → pyEqItems F xs xs = true
  | [], _ => rfl
  | x :: xs, h => by
    simp only [pyEqItems, pyEq_refl x h.1, pyEqItems_refl xs h.2, Bool.and_self]

/-- A dictionary equals one that holds its members. -/
theorem pyEqFields_of_mem [LawfulPyFloat F] : (fs gs : List (String × PyVal)) → KeysOkFields fs →
    (∀ f ∈ fs, gs.lookup f.1 = some f.2) → pyEqFields F fs gs = true
  | [], _, _, _ => rfl
  | (k, v) :: fs, gs, h, hmem => by
    have hfields := pyEqFields_of_mem fs gs h.2 fun f hf => hmem f (List.mem_cons_of_mem _ hf)
    have hlookup : gs.lookup k = some v := hmem (k, v) (by simp)
    simp only [pyEqFields, hlookup, pyEq_refl v h.1, hfields, Bool.and_self]

end

end PyVal

/-! ## §6 Plain JSON values -/

namespace Json

/-- The keys of each object are distinct and the numbers are written as numbers. -/
def Plain (j : Json) : Prop := (PyVal.ofJson j).KeysOk ∧ j.NumbersOk

@[simp] theorem plain_null : Plain .null := ⟨trivial, trivial⟩

@[simp] theorem plain_bool (b : Bool) : Plain (.bool b) := ⟨trivial, trivial⟩

@[simp] theorem plain_int (n : Int) : Plain (.int n) := ⟨trivial, trivial⟩

@[simp] theorem plain_str (s : String) : Plain (.str s) := ⟨trivial, trivial⟩

@[simp] theorem plain_toJson {F : Type} [PyFloat F] [LawfulPyFloat F] (x : F) :
    Plain (PyFloat.toJson x) :=
  ⟨trivial, LawfulPyFloat.isFloatText_repr x⟩

theorem plain_arr {xs : List Json} (h : ∀ x ∈ xs, x.Plain) : Plain (.arr xs) := by
  induction xs with
  | nil => exact ⟨trivial, trivial⟩
  | cons x xs ih =>
    have hx := h x (by simp)
    have hxs := ih fun y hy => h y (List.mem_cons_of_mem _ hy)
    exact ⟨⟨hx.1, hxs.1⟩, ⟨hx.2, hxs.2⟩⟩

@[simp] theorem ofJsonFields_map_fst (fields : List (String × Json)) :
    (PyVal.ofJsonFields fields).map Prod.fst = fields.map Prod.fst := by
  induction fields with
  | nil => rfl
  | cons f fields ih => simp [PyVal.ofJsonFields, ih]

theorem lookup_ofJsonFields (fields : List (String × Json)) (k : String) :
    (PyVal.ofJsonFields fields).lookup k = (fields.lookup k).map PyVal.ofJson := by
  induction fields with
  | nil => rfl
  | cons f fields ih =>
    obtain ⟨name, v⟩ := f
    simp only [PyVal.ofJsonFields, List.lookup_cons]
    cases k == name with
    | true => rfl
    | false => exact ih

/-- Equal objects have equal members under one name. -/
theorem pyEq_member {F : Type} [PyFloat F] {fs gs : List (String × Json)}
    (h : PyVal.pyEq F (.ofJson (.obj fs)) (.ofJson (.obj gs)) = true) {k : String} {v w : Json}
    (hv : (k, v) ∈ fs) (hw : gs.lookup k = some w) :
    PyVal.pyEq F (.ofJson v) (.ofJson w) = true := by
  simp only [PyVal.ofJson, PyVal.pyEq, Bool.and_eq_true] at h
  have hmem : (k, PyVal.ofJson v) ∈ PyVal.ofJsonFields fs := by
    clear h
    induction fs with
    | nil => exact absurd hv List.not_mem_nil
    | cons f fs ih =>
      rcases List.mem_cons.mp hv with rfl | hv
      · exact List.mem_cons_self
      · exact List.mem_cons_of_mem _ (ih hv)
  obtain ⟨w', hw', heq⟩ := PyVal.pyEqFields_mem h.2 hmem
  rw [lookup_ofJsonFields, hw] at hw'
  cases hw'
  exact heq

/-- Equal arrays have equal entries. -/
theorem pyEq_entries {F : Type} [PyFloat F] {xs ys : List Json}
    (h : PyVal.pyEq F (.ofJson (.arr xs)) (.ofJson (.arr ys)) = true) :
    List.Forall₂ (fun x y => PyVal.pyEq F (.ofJson x) (.ofJson y) = true) xs ys := by
  simp only [PyVal.ofJson, PyVal.pyEq] at h
  induction xs generalizing ys with
  | nil =>
    cases ys with
    | nil => exact .nil
    | cons y ys => exact absurd h Bool.false_ne_true
  | cons x xs ih =>
    cases ys with
    | nil => exact absurd h Bool.false_ne_true
    | cons y ys =>
      simp only [PyVal.ofJsonItems, PyVal.pyEqItems, Bool.and_eq_true] at h
      exact .cons h.1 (ih h.2)

theorem plain_obj {fields : List (String × Json)} (hkeys : (fields.map Prod.fst).Nodup)
    (h : ∀ f ∈ fields, f.2.Plain) : Plain (.obj fields) := by
  have hmembers : PyVal.KeysOkFields (PyVal.ofJsonFields fields) ∧ NumbersOkFields fields := by
    clear hkeys
    induction fields with
    | nil => exact ⟨trivial, trivial⟩
    | cons f fields ih =>
      have hf := h f (by simp)
      have hfields := ih fun g hg => h g (List.mem_cons_of_mem _ hg)
      exact ⟨⟨hf.1, hfields.1⟩, ⟨hf.2, hfields.2⟩⟩
  refine ⟨⟨?_, hmembers.1⟩, hmembers.2⟩
  rw [ofJsonFields_map_fst]
  exact hkeys

end Json

end DecisionFirewall
