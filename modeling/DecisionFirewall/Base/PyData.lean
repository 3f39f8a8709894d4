import DecisionFirewall.Base.JsonBytes

/-!
# Python Data and `json.dumps`

The values that callers hand to `canonical_json`. A dictionary may have other keys than
texts: they are sorted as Python values and written as texts, so that what is read back need
not be written the same way again.

- §1 values
- §2 `json.dumps`
- §3 equality
- §4 what is written can be read
- §5 the order of keys
- §6 what is read back equals what was written
-/

namespace DecisionFirewall

/-! ## §1 Values -/

/-- A key of a dictionary; `other` is one that `json.dumps` refuses. -/
inductive PyKey where
  | none
  | bool (b : Bool)
  | int (n : Int)
  | float (repr : String)
  | str (s : String)
  | other
  deriving DecidableEq, Repr

/-- A value; `float` carries the text `json.dumps` writes, and `other` is a value that
`json.dumps` refuses, such as a number that is not finite. -/
inductive PyData where
  | none
  | bool (b : Bool)
  | int (n : Int)
  | float (repr : String)
  | str (s : String)
  | list (xs : List PyData)
  | tuple (xs : List PyData)
  | dict (fields : List (PyKey × PyData))
  | other
  deriving Repr

/-- What the audit log takes from the rest of the library. -/
structure PyLibrary extends JsonLibrary where
  /-- the number that a finite `float` with this text is -/
  floatValue : String → ℚ
  /-- `str(value)` of a value that is no text -/
  strOf : PyData → String
  /-- `int(text)` -/
  intOfText : String → Option Int

namespace PyKey

variable (lib : PyLibrary)

/-- The number of a key. -/
def number : PyKey → Option ℚ
  | .bool b => some (if b then 1 else 0)
  | .int n => some n
  | .float repr => some (lib.floatValue repr)
  | _ => Option.none

/-- `k == l`. -/
def eq (k l : PyKey) : Bool :=
  match k.number lib, l.number lib with
  | some x, some y => x = y
  | _, _ => k = l

def isStr : PyKey → Bool
  | .str _ => true
  | _ => false

/-- A key that is no text is written as the value would be. -/
def word : PyKey → Json
  | .bool b => .bool b
  | .int n => .int n
  | .float repr => .float repr
  | _ => .null

def text : PyKey → String
  | .str s => s
  | k => String.ofList k.word.text

/-- `k <= l` of two texts or two numbers. -/
def le (k l : PyKey) : Bool :=
  match k, l with
  | .str s, .str t => s ≤ t
  | k, l => (k.number lib).getD 0 ≤ (l.number lib).getD 0

/-- The keys can be sorted: they are texts, or numbers, or there is nothing to compare. No
key is one that `json.dumps` refuses. -/
def Sortable (keys : List PyKey) : Bool :=
  !keys.contains .other &&
    (keys.all isStr || keys.all (fun k => (k.number lib).isSome) || keys.length ≤ 1)

end PyKey

namespace PyData

/-! ## §2 `json.dumps` -/

variable (lib : PyLibrary)

/-- The members with their keys as texts, in the order in which Python sorts the keys. -/
def sortMembers (members : List (PyKey × Json)) : List (String × Json) :=
  (if members.all fun m => m.1.isStr then
    members.mergeSort fun a b => decide (a.1.text ≤ b.1.text)
  else members.mergeSort fun a b => decide ((a.1.number lib).getD 0 ≤ (b.1.number lib).getD 0)).map
    fun m => (m.1.text, m.2)

mutual

/-- What `canonical_json` writes, its members in the order in which they are written; `none`
is an exception. -/
def dumps : PyData → Option Json
  | .none => some .null
  | .bool b => some (.bool b)
  | .int n => some (.int n)
  | .float repr => some (.float repr)
  | .str s => some (.str s)
  | .list xs => (dumpsItems xs).map .arr
  | .tuple xs => (dumpsItems xs).map .arr
  | .dict fields =>
    if PyKey.Sortable lib (fields.map Prod.fst) then
      (dumpsFields fields).map fun members => .obj (sortMembers lib members)
    else Option.none
  | .other => Option.none

def dumpsItems : List PyData → Option (List Json)
  | [] => some []
  | x :: xs => (dumps x).bind fun j => (dumpsItems xs).map fun js => j :: js

def dumpsFields : List (PyKey × PyData) → Option (List (PyKey × Json))
  | [] => some []
  | (k, v) :: fields => (dumps v).bind fun j => (dumpsFields fields).map fun js => (k, j) :: js

end

/-- `canonical_json(value)`. -/
def canonicalJson (v : PyData) : Option String := (v.dumps lib).map fun j => String.ofList j.text

mutual

/-- The value that `json.loads` makes. -/
def ofJson : Json → PyData
  | .null => .none
  | .bool b => .bool b
  | .int n => .int n
  | .float repr => .float repr
  | .str s => .str s
  | .arr xs => .list (ofJsonItems xs)
  | .obj fields => .dict (ofJsonFields fields)

def ofJsonItems : List Json → List PyData
  | [] => []
  | x :: xs => ofJson x :: ofJsonItems xs

def ofJsonFields : List (String × Json) → List (PyKey × PyData)
  | [] => []
  | (k, v) :: fields => (.str k, ofJson v) :: ofJsonFields fields

end

/-! ## §3 Equality -/

/-- The number of a value. -/
def number : PyData → Option ℚ
  | .bool b => some (if b then 1 else 0)
  | .int n => some n
  | .float repr => some (lib.floatValue repr)
  | _ => Option.none

mutual

/-- `v == w`; an object that `json.dumps` refuses equals nothing here. -/
def eq : PyData → PyData → Bool
  | .none, w => match w with
    | .none => true
    | _ => false
  | .bool b, w => w.number lib = some (if b then 1 else 0)
  | .int n, w => w.number lib = some (n : ℚ)
  | .float repr, w => w.number lib = some (lib.floatValue repr)
  | .str s, w => match w with
    | .str t => s = t
    | _ => false
  | .list xs, w => match w with
    | .list ys => eqItems xs ys
    | _ => false
  | .tuple xs, w => match w with
    | .tuple ys => eqItems xs ys
    | _ => false
  | .dict fs, w => match w with
    | .dict gs => fs.length = gs.length && eqFields fs gs
    | _ => false
  | .other, _ => false

def eqItems : List PyData → List PyData → Bool
  | [], ys => ys.isEmpty
  | x :: xs, ys => match ys with
    | [] => false
    | y :: ys => eq x y && eqItems xs ys

/-- Every member has an equal in the other dictionary. -/
def eqFields : List (PyKey × PyData) → List (PyKey × PyData) → Bool
  | [], _ => true
  | (k, v) :: fs, gs => (match gs.find? fun g => k.eq lib g.1 with
    | some g => eq v g.2
    | Option.none => false) && eqFields fs gs

end

mutual

/-- What `json.loads` can make: sequences are lists and keys are texts. -/
def Plain : PyData → Prop
  | .list xs => PlainItems xs
  | .tuple _ => False
  | .dict fields => PlainFields fields
  | .other => False
  | _ => True

def PlainItems : List PyData → Prop
  | [] => True
  | x :: xs => Plain x ∧ PlainItems xs

def PlainFields : List (PyKey × PyData) → Prop
  | [] => True
  | (k, v) :: fields => k.isStr = true ∧ Plain v ∧ PlainFields fields

end

mutual

/-- What every Python value satisfies: the keys of a dictionary are different, and the text of
a number is its `repr`. -/
def WellFormed : PyData → Prop
  | .float repr => lib.floatRepr repr = some repr
  | .list xs => WellFormedItems xs
  | .tuple xs => WellFormedItems xs
  | .dict fields => ((fields.map Prod.fst).Pairwise fun k l => k.eq lib l = false) ∧
      WellFormedFields fields
  | _ => True

def WellFormedItems : List PyData → Prop
  | [] => True
  | x :: xs => WellFormed x ∧ WellFormedItems xs

def WellFormedFields : List (PyKey × PyData) → Prop
  | [] => True
  | (k, v) :: fields => k.word.Readable lib.toJsonLibrary ∧ WellFormed v ∧ WellFormedFields fields

end

mutual

/-- In each dictionary the keys are in one order as Python values and as texts. -/
def KeysInOrder : PyData → Prop
  | .list xs => KeysInOrderItems xs
  | .tuple xs => KeysInOrderItems xs
  | .dict fields => (∀ k ∈ fields.map Prod.fst, ∀ l ∈ fields.map Prod.fst, k.le lib l = true →
      k.text ≤ l.text) ∧ KeysInOrderFields fields
  | _ => True

def KeysInOrderItems : List PyData → Prop
  | [] => True
  | x :: xs => KeysInOrder x ∧ KeysInOrderItems xs

def KeysInOrderFields : List (PyKey × PyData) → Prop
  | [] => True
  | (_, v) :: fields => KeysInOrder v ∧ KeysInOrderFields fields

end

variable {lib}

/-! ## §4 What is written can be read -/

theorem dumpsItems_eq_some {xs : List PyData} {js : List Json} :
    dumpsItems lib xs = some js ↔ List.Forall₂ (fun x j => dumps lib x = some j) xs js := by
  induction xs generalizing js with
  | nil => simp [dumpsItems, eq_comm]
  | cons x xs ih =>
    simp only [dumpsItems, Option.bind_eq_some_iff, Option.map_eq_some_iff, ih,
      List.forall₂_cons_left_iff]
    constructor
    · rintro ⟨j, hj, js, hjs, rfl⟩
      exact ⟨j, js, hj, hjs, rfl⟩
    · rintro ⟨j, js, hj, hjs, rfl⟩
      exact ⟨j, hj, js, hjs, rfl⟩

theorem dumpsFields_eq_some {fields : List (PyKey × PyData)} {members : List (PyKey × Json)} :
    dumpsFields lib fields = some members ↔
      List.Forall₂ (fun f m => m.1 = f.1 ∧ dumps lib f.2 = some m.2) fields members := by
  induction fields generalizing members with
  | nil => simp [dumpsFields, eq_comm]
  | cons f fields ih =>
    obtain ⟨k, v⟩ := f
    simp only [dumpsFields, Option.bind_eq_some_iff, Option.map_eq_some_iff, ih,
      List.forall₂_cons_left_iff]
    constructor
    · rintro ⟨j, hj, js, hjs, rfl⟩
      exact ⟨(k, j), js, ⟨rfl, hj⟩, hjs, rfl⟩
    · rintro ⟨⟨k', j⟩, js, ⟨rfl, hj⟩, hjs, rfl⟩
      exact ⟨j, hj, js, hjs, rfl⟩

theorem keys_of_dumpsFields {fields : List (PyKey × PyData)} {members : List (PyKey × Json)}
    (h : dumpsFields lib fields = some members) : members.map Prod.fst = fields.map Prod.fst := by
  have hall := dumpsFields_eq_some.mp h
  clear h
  induction hall with
  | nil => rfl
  | cons hhead _ ih => rw [List.map_cons, List.map_cons, ih, hhead.1]

theorem dumps_dict {fields : List (PyKey × PyData)} {j : Json}
    (h : dumps lib (.dict fields) = some j) :
    PyKey.Sortable lib (fields.map Prod.fst) = true ∧
      ∃ members, dumpsFields lib fields = some members ∧ j = .obj (sortMembers lib members) := by
  simp only [dumps] at h
  obtain ⟨hsort, hmap⟩ := Option.ite_none_right_eq_some.mp h
  obtain ⟨members, hmembers, rfl⟩ := Option.map_eq_some_iff.mp hmap
  exact ⟨hsort, members, hmembers, rfl⟩

/-- Sorting changes the order of the members only. -/
theorem sortMembers_perm (members : List (PyKey × Json)) :
    (sortMembers lib members).Perm (members.map fun m => (m.1.text, m.2)) := by
  unfold sortMembers
  apply List.Perm.map
  split_ifs
  · exact List.mergeSort_perm _ _
  · exact List.mergeSort_perm _ _

end PyData

namespace PyKey

variable {lib : PyLibrary}

@[simp] theorem eq_self (k : PyKey) : k.eq lib k = true := by
  unfold eq
  cases k.number lib <;> simp

/-- Two numbers are written differently. -/
theorem eq_of_text {k l : PyKey} (hk : k.word.Readable lib.toJsonLibrary)
    (hl : l.word.Readable lib.toJsonLibrary) (hknum : (k.number lib).isSome = true)
    (hlnum : (l.number lib).isSome = true) (h : k.text = l.text) : k = l := by
  have hword : ∀ m : PyKey, m.word.IsWord := by
    intro m
    cases m <;> trivial
  have htext : ∀ m : PyKey, (m.number lib).isSome = true → m.text = String.ofList m.word.text := by
    intro m hm
    cases m with
    | str s => cases hm
    | _ => rfl
  rw [htext k hknum, htext l hlnum] at h
  have hsame := Json.word_inj (hword k) (hword l) hk.numbersOk hl.numbersOk (String.ofList_inj.mp h)
  cases k <;> cases l <;> simp_all [word, number]

/-- The keys of a dictionary are written differently. -/
theorem nodup_text {keys : List PyKey} (hsort : Sortable lib keys = true)
    (hne : keys.Pairwise fun k l => k.eq lib l = false)
    (hword : ∀ k ∈ keys, k.word.Readable lib.toJsonLibrary) : (keys.map text).Nodup := by
  simp only [Sortable, Bool.and_eq_true, Bool.or_eq_true, List.all_eq_true, decide_eq_true_eq,
    or_assoc] at hsort
  rw [List.Nodup, List.pairwise_map]
  rcases hsort.2 with hstr | hnum | hone
  · refine hne.imp_of_mem fun {k l} hk hl hkl htext => ?_
    have hkstr := hstr k hk
    have hlstr := hstr l hl
    cases k with
    | str s =>
      cases l with
      | str t =>
        cases htext
        simp at hkl
      | _ => cases hlstr
    | _ => cases hkstr
  · refine hne.imp_of_mem fun {k l} hk hl hkl htext => ?_
    rw [eq_of_text (hword k hk) (hword l hl) (hnum k hk) (hnum l hl) htext] at hkl
    simp at hkl
  · cases keys with
    | nil => exact .nil
    | cons k keys =>
      have hnil : keys = [] := List.length_eq_zero_iff.mp (by simpa using hone)
      rw [hnil]
      exact List.pairwise_singleton _ _

theorem number_eq_of_getD {k l : PyKey} (hk : (k.number lib).isSome = true)
    (hl : (l.number lib).isSome = true)
    (h : (k.number lib).getD 0 = (l.number lib).getD 0) : k.eq lib l = true := by
  obtain ⟨x, hx⟩ := Option.isSome_iff_exists.mp hk
  obtain ⟨y, hy⟩ := Option.isSome_iff_exists.mp hl
  simp only [hx, hy, Option.getD_some] at h
  simp [eq, hx, hy, h]

theorem eq_symm {k l : PyKey} (h : k.eq lib l = true) : l.eq lib k = true := by
  unfold eq at *
  cases hk : k.number lib <;> cases hl : l.number lib <;> simp_all

/-- Two texts compare as they are written. -/
theorem le_of_isStr {k l : PyKey} (hk : k.isStr = true) (hl : l.isStr = true) :
    k.le lib l = decide (k.text ≤ l.text) := by
  cases k with
  | str s =>
    cases l with
    | str t => rfl
    | _ => cases hl
  | _ => cases hk

theorem le_of_number {k l : PyKey} (hk : (k.number lib).isSome = true) :
    k.le lib l = decide ((k.number lib).getD 0 ≤ (l.number lib).getD 0) := by
  cases k with
  | str s => cases hk
  | _ => rfl

theorem eq_of_isStr {k l : PyKey} (hk : k.isStr = true) (hl : l.isStr = true)
    (h : k.text = l.text) : k = l := by
  cases k with
  | str s =>
    cases l with
    | str t => rw [show s = t from h]
    | _ => cases hl
  | _ => cases hk

end PyKey

namespace PyData

variable {lib : PyLibrary}

theorem words_of_wellFormedFields {fields : List (PyKey × PyData)}
    (h : WellFormedFields lib fields) :
    ∀ k ∈ fields.map Prod.fst, k.word.Readable lib.toJsonLibrary := by
  induction fields with
  | nil => simp
  | cons f fields ih =>
    intro k hk
    rcases List.mem_cons.mp hk with rfl | hk
    · exact h.1
    · exact ih h.2.2 k hk

mutual

/-- What `json.dumps` writes of a value can be read. -/
theorem readable_of_dumps : (v : PyData) → v.WellFormed lib → (j : Json) →
    v.dumps lib = some j → j.Readable lib.toJsonLibrary
  | .none, _, _, rfl => trivial
  | .bool _, _, _, rfl => trivial
  | .int _, _, _, rfl => trivial
  | .float _, hv, _, rfl => hv
  | .str _, _, _, rfl => trivial
  | .list xs, hv, j, h => by
    obtain ⟨js, hjs, rfl⟩ := Option.map_eq_some_iff.mp h
    exact readable_of_dumpsItems xs hv js hjs
  | .tuple xs, hv, j, h => by
    obtain ⟨js, hjs, rfl⟩ := Option.map_eq_some_iff.mp h
    exact readable_of_dumpsItems xs hv js hjs
  | .dict fields, hv, j, h => by
    obtain ⟨hsort, members, hmembers, rfl⟩ := dumps_dict h
    have hvalues := readable_of_dumpsFields fields hv.2 members hmembers
    have hperm := @sortMembers_perm lib members
    constructor
    · rw [(hperm.map Prod.fst).nodup_iff, List.map_map]
      have hkeys := PyKey.nodup_text hsort hv.1 (words_of_wellFormedFields hv.2)
      rw [← keys_of_dumpsFields hmembers, List.map_map] at hkeys
      exact hkeys
    · apply Json.readableFields_iff.mpr
      intro f hf
      obtain ⟨m, hm, rfl⟩ := List.mem_map.mp (hperm.mem_iff.mp hf)
      exact hvalues m hm

theorem readable_of_dumpsItems : (xs : List PyData) → WellFormedItems lib xs → (js : List Json) →
    dumpsItems lib xs = some js → Json.ReadableItems lib.toJsonLibrary js
  | [], _, _, rfl => trivial
  | x :: xs, hxs, js, h => by
    obtain ⟨j, hj, hrest⟩ := Option.bind_eq_some_iff.mp h
    obtain ⟨js, hjs, rfl⟩ := Option.map_eq_some_iff.mp hrest
    exact ⟨readable_of_dumps x hxs.1 j hj, readable_of_dumpsItems xs hxs.2 js hjs⟩

theorem readable_of_dumpsFields : (fields : List (PyKey × PyData)) → WellFormedFields lib fields →
    (members : List (PyKey × Json)) → dumpsFields lib fields = some members →
    ∀ m ∈ members, m.2.Readable lib.toJsonLibrary
  | [], _, _, rfl => by simp
  | (k, v) :: fields, hf, members, h => by
    obtain ⟨j, hj, hrest⟩ := Option.bind_eq_some_iff.mp h
    obtain ⟨js, hjs, rfl⟩ := Option.map_eq_some_iff.mp hrest
    intro m hm
    rcases List.mem_cons.mp hm with rfl | hm
    · exact readable_of_dumps v hf.2.1 j hj
    · exact readable_of_dumpsFields fields hf.2.2 js hjs m hm

end

/-! ## §5 The order of keys -/

/-- An object is in canonical order when its names and its values are. -/
theorem sorted_obj_eq_iff {fields : List (String × Json)} :
    (Json.obj fields).sorted = .obj fields ↔
      (fields.map Prod.fst).Pairwise (· ≤ ·) ∧ ∀ f ∈ fields, f.2.sorted = f.2 := by
  simp only [Json.sorted, Json.obj.injEq]
  have hpair := Json.pairwise_mergeSort_fields (Json.sortedFields fields)
  constructor
  · intro h
    rw [h] at hpair
    refine ⟨List.pairwise_map.mpr hpair, fun f hf => ?_⟩
    -- each member is one whose value has been sorted
    rw [← h, List.mem_mergeSort, Json.sortedFields_eq_map] at hf
    obtain ⟨g, -, rfl⟩ := List.mem_map.mp hf
    exact Json.sorted_sorted g.2
  · rintro ⟨hnames, hvalues⟩
    have hsame : Json.sortedFields fields = fields := by
      rw [Json.sortedFields_eq_map]
      refine (List.map_congr_left fun f hf => ?_).trans (List.map_id _)
      rw [hvalues f hf]
      rfl
    rw [hsame, List.mergeSort_of_pairwise]
    exact (List.pairwise_map.mp hnames).imp decide_eq_true

theorem sorted_arr_eq_iff {js : List Json} :
    (Json.arr js).sorted = .arr js ↔ ∀ j ∈ js, j.sorted = j := by
  simp only [Json.sorted, Json.arr.injEq]
  induction js with
  | nil => simp [Json.sortedItems]
  | cons j js ih => simp [Json.sortedItems, ih]

/-- The names of an object are in order when the keys are in one order as values and as
texts. -/
theorem pairwise_sortMembers_iff {members : List (PyKey × Json)}
    (hsort : PyKey.Sortable lib (members.map Prod.fst) = true)
    (hne : (members.map Prod.fst).Pairwise fun k l => k.eq lib l = false) :
    ((sortMembers lib members).map Prod.fst).Pairwise (· ≤ ·) ↔
      ∀ k ∈ members.map Prod.fst, ∀ l ∈ members.map Prod.fst, k.le lib l = true →
        k.text ≤ l.text := by
  simp only [PyKey.Sortable, Bool.and_eq_true, Bool.or_eq_true, List.all_eq_true,
    decide_eq_true_eq, or_assoc] at hsort
  unfold sortMembers
  rw [List.map_map, List.pairwise_map]
  by_cases hstr : members.all fun m => m.1.isStr
  · -- texts are sorted as texts
    rw [if_pos hstr]
    rw [List.all_eq_true] at hstr
    have hleft : (members.mergeSort fun a b => decide (a.1.text ≤ b.1.text)).Pairwise
        fun a b => decide (a.1.text ≤ b.1.text) = true := List.pairwise_mergeSort
      (fun a b c hab hbc => decide_eq_true ((of_decide_eq_true hab).trans (of_decide_eq_true hbc)))
      (fun a b => by simpa using le_total a.1.text b.1.text) members
    refine iff_of_true (hleft.imp of_decide_eq_true) fun k hk l hl hle => ?_
    obtain ⟨a, ha, rfl⟩ := List.mem_map.mp hk
    obtain ⟨b, hb, rfl⟩ := List.mem_map.mp hl
    rw [PyKey.le_of_isStr (hstr a ha) (hstr b hb)] at hle
    exact of_decide_eq_true hle
  rw [if_neg hstr]
  have hcases : (∀ k ∈ members.map Prod.fst, (k.number lib).isSome = true) ∨
      (members.map Prod.fst).length ≤ 1 := by
    refine hsort.2.resolve_left fun hall => hstr ?_
    exact List.all_eq_true.mpr fun m hm => hall m.1 (List.mem_map_of_mem hm)
  rcases hcases with hnum | hone
  · set l := members.mergeSort fun a b =>
      decide ((a.1.number lib).getD 0 ≤ (b.1.number lib).getD 0) with hl
    have hpair : l.Pairwise fun a b =>
        decide ((a.1.number lib).getD 0 ≤ (b.1.number lib).getD 0) = true := List.pairwise_mergeSort
      (fun a b c hab hbc => decide_eq_true ((of_decide_eq_true hab).trans (of_decide_eq_true hbc)))
      (fun a b => by simpa using le_total ((a.1.number lib).getD 0) ((b.1.number lib).getD 0)) members
    have hperm : l.Perm members := List.mergeSort_perm _ _
    have hnumber : ∀ m ∈ l, (m.1.number lib).isSome = true := fun m hm =>
      hnum m.1 (List.mem_map_of_mem (hperm.mem_iff.mp hm))
    constructor
    · intro htexts k hk k' hk' hle
      obtain ⟨a, ha, rfl⟩ := List.mem_map.mp hk
      obtain ⟨b, hb, rfl⟩ := List.mem_map.mp hk'
      rw [PyKey.le_of_number (hnum _ hk)] at hle
      -- of two members the one with the smaller number comes first
      have hsymm : l.Pairwise fun a b => a.1.eq lib b.1 = false :=
        (List.Perm.pairwise_iff (fun {a b} hab => Bool.eq_false_iff.mpr fun hba =>
          Bool.eq_false_iff.mp hab (PyKey.eq_symm hba)) hperm).mpr (List.pairwise_map.mp hne)
      have hboth : l.Pairwise fun a b =>
          ((a.1.number lib).getD 0 ≤ (b.1.number lib).getD 0 → a.1.text ≤ b.1.text) ∧
          ((b.1.number lib).getD 0 ≤ (a.1.number lib).getD 0 → b.1.text ≤ a.1.text) := by
        have hthree := (hpair.and htexts).and hsymm
        refine hthree.imp_of_mem fun {a b} ha hb hab => ⟨fun _ => hab.1.2, fun hba => ?_⟩
        have heq := le_antisymm (of_decide_eq_true hab.1.1) hba
        have := PyKey.number_eq_of_getD (hnumber a ha) (hnumber b hb) heq
        rw [hab.2] at this
        cases this
      have hall := List.Pairwise.forall_of_forall_of_flip (fun a _ _ => le_refl a.1.text)
        (hboth.imp And.left) (hboth.imp And.right)
      exact hall (hperm.mem_iff.mpr ha) (hperm.mem_iff.mpr hb) (of_decide_eq_true hle)
    · intro hall
      refine hpair.imp_of_mem fun {a b} ha hb hab => ?_
      apply hall a.1 (List.mem_map_of_mem (hperm.mem_iff.mp ha)) b.1
        (List.mem_map_of_mem (hperm.mem_iff.mp hb))
      rw [PyKey.le_of_number (hnumber a ha)]
      exact hab
  · -- there is at most one key
    rcases Nat.le_one_iff_eq_zero_or_eq_one.mp hone with hzero | hlength
    · have hnil : members = [] := by simpa using hzero
      rw [hnil]
      simp
    · obtain ⟨m, rfl⟩ := List.length_eq_one_iff.mp (by simpa using hlength : members.length = 1)
      rw [List.mergeSort_singleton]
      refine iff_of_true (List.pairwise_singleton _ _) fun k hk l hl _ => ?_
      rw [List.mem_singleton.mp hk, List.mem_singleton.mp hl]

mutual

/-- What is written is in canonical order when the keys are. -/
theorem sorted_dumps_iff : (v : PyData) → v.WellFormed lib → (j : Json) →
    v.dumps lib = some j → (j.sorted = j ↔ v.KeysInOrder lib)
  | .none, _, _, rfl => iff_of_true rfl trivial
  | .bool _, _, _, rfl => iff_of_true rfl trivial
  | .int _, _, _, rfl => iff_of_true rfl trivial
  | .float _, _, _, rfl => iff_of_true rfl trivial
  | .str _, _, _, rfl => iff_of_true rfl trivial
  | .list xs, hv, j, h => by
    obtain ⟨js, hjs, rfl⟩ := Option.map_eq_some_iff.mp h
    rw [sorted_arr_eq_iff]
    exact sorted_dumpsItems_iff xs hv js hjs
  | .tuple xs, hv, j, h => by
    obtain ⟨js, hjs, rfl⟩ := Option.map_eq_some_iff.mp h
    rw [sorted_arr_eq_iff]
    exact sorted_dumpsItems_iff xs hv js hjs
  | .dict fields, hv, j, h => by
    obtain ⟨hsort, members, hmembers, rfl⟩ := dumps_dict h
    have hkeys := keys_of_dumpsFields hmembers
    have hvalues : (∀ f ∈ sortMembers lib members, f.2.sorted = f.2) ↔
        ∀ m ∈ members, m.2.sorted = m.2 := by
      have hperm := @sortMembers_perm lib members
      constructor
      · intro hall m hm
        exact hall (m.1.text, m.2) (hperm.mem_iff.mpr (List.mem_map_of_mem hm))
      · intro hall f hf
        obtain ⟨m, hm, rfl⟩ := List.mem_map.mp (hperm.mem_iff.mp hf)
        exact hall m hm
    rw [sorted_obj_eq_iff, hvalues, sorted_dumpsFields_iff fields hv.2 members hmembers,
      pairwise_sortMembers_iff (by rw [hkeys]; exact hsort) (by rw [hkeys]; exact hv.1), hkeys]
    rfl

theorem sorted_dumpsItems_iff : (xs : List PyData) → WellFormedItems lib xs → (js : List Json) →
    dumpsItems lib xs = some js → ((∀ j ∈ js, j.sorted = j) ↔ KeysInOrderItems lib xs)
  | [], _, _, rfl => iff_of_true (by simp) trivial
  | x :: xs, hxs, js, h => by
    obtain ⟨j, hj, hrest⟩ := Option.bind_eq_some_iff.mp h
    obtain ⟨js, hjs, rfl⟩ := Option.map_eq_some_iff.mp hrest
    rw [List.forall_mem_cons, sorted_dumps_iff x hxs.1 j hj, sorted_dumpsItems_iff xs hxs.2 js hjs]
    rfl

theorem sorted_dumpsFields_iff : (fields : List (PyKey × PyData)) → WellFormedFields lib fields →
    (members : List (PyKey × Json)) → dumpsFields lib fields = some members →
    ((∀ m ∈ members, m.2.sorted = m.2) ↔ KeysInOrderFields lib fields)
  | [], _, _, rfl => iff_of_true (by simp) trivial
  | (k, v) :: fields, hf, members, h => by
    obtain ⟨j, hj, hrest⟩ := Option.bind_eq_some_iff.mp h
    obtain ⟨js, hjs, rfl⟩ := Option.map_eq_some_iff.mp hrest
    rw [List.forall_mem_cons, sorted_dumps_iff v hf.2.1 j hj,
      sorted_dumpsFields_iff fields hf.2.2 js hjs]
    rfl

end

/-! ## §6 What is read back equals what was written -/

theorem find?_key {gs : List (PyKey × PyData)}
    (hne : (gs.map Prod.fst).Pairwise fun k l => k.eq lib l = false) {g : PyKey × PyData}
    (hg : g ∈ gs) : gs.find? (fun h => g.1.eq lib h.1) = some g := by
  induction gs with
  | nil => exact absurd hg List.not_mem_nil
  | cons h gs ih =>
    obtain ⟨hhead, hrest⟩ := List.pairwise_cons.mp hne
    rcases List.mem_cons.mp hg with rfl | hg
    · rw [List.find?_cons_of_pos]
      exact PyKey.eq_self g.1
    · rw [List.find?_cons_of_neg, ih hrest hg]
      intro heq
      have hne := hhead g.1 (List.mem_map_of_mem hg)
      rw [PyKey.eq_symm heq] at hne
      cases hne

theorem wellFormedFields_mem {fields : List (PyKey × PyData)} (h : WellFormedFields lib fields)
    {f : PyKey × PyData} (hf : f ∈ fields) : f.2.WellFormed lib := by
  induction fields with
  | nil => exact absurd hf List.not_mem_nil
  | cons g fields ih =>
    rcases List.mem_cons.mp hf with rfl | hf
    · exact h.2.1
    · exact ih h.2.2 hf

theorem plainFields_mem {fields : List (PyKey × PyData)} (h : PlainFields fields)
    {f : PyKey × PyData} (hf : f ∈ fields) : f.1.isStr = true ∧ f.2.Plain := by
  induction fields with
  | nil => exact absurd hf List.not_mem_nil
  | cons g fields ih =>
    rcases List.mem_cons.mp hf with rfl | hf
    · exact ⟨h.1, h.2.1⟩
    · exact ih h.2.2 hf

theorem forall₂_mem_left {α β : Type*} {R : α → β → Prop} {xs : List α} {ys : List β}
    (h : List.Forall₂ R xs ys) {x : α} (hx : x ∈ xs) : ∃ y ∈ ys, R x y := by
  induction h with
  | nil => exact absurd hx List.not_mem_nil
  | cons hhead _ ih =>
    rcases List.mem_cons.mp hx with rfl | hx
    · exact ⟨_, by simp, hhead⟩
    · obtain ⟨y, hy, hR⟩ := ih hx
      exact ⟨y, by simp [hy], hR⟩

/-- Two objects that are written alike have the same members. -/
theorem member_of_sortMembers {fs gs : List (PyKey × PyData)} {ms ns : List (PyKey × Json)}
    (hms : dumpsFields lib fs = some ms) (hns : dumpsFields lib gs = some ns)
    (hsame : sortMembers lib ms = sortMembers lib ns) (hfs : PlainFields fs) (hgs : PlainFields gs)
    {f : PyKey × PyData} (hf : f ∈ fs) :
    ∃ g ∈ gs, g.1 = f.1 ∧ ∃ j, f.2.dumps lib = some j ∧ g.2.dumps lib = some j := by
  obtain ⟨m, hm, hmkey, hmdumps⟩ := forall₂_mem_left (dumpsFields_eq_some.mp hms) hf
  have hin : (m.1.text, m.2) ∈ sortMembers lib ns := by
    rw [← hsame]
    exact (sortMembers_perm ms).mem_iff.mpr (List.mem_map_of_mem hm)
  obtain ⟨n, hn, hpair⟩ := List.mem_map.mp ((sortMembers_perm ns).mem_iff.mp hin)
  obtain ⟨htext, hvalue⟩ := Prod.mk.inj hpair
  obtain ⟨g, hg, hnkey, hndumps⟩ := forall₂_mem_left (dumpsFields_eq_some.mp hns).flip hn
  refine ⟨g, hg, ?_, m.2, hmdumps, ?_⟩
  · apply PyKey.eq_of_isStr (plainFields_mem hgs hg).1 (plainFields_mem hfs hf).1
    rw [← hnkey, ← hmkey, htext]
  · rw [hndumps, hvalue]

mutual

/-- Of what `json.loads` can make, two values with one text are equal. -/
theorem eq_of_dumps : (v w : PyData) → v.Plain → w.Plain → w.WellFormed lib → (j : Json) →
    v.dumps lib = some j → w.dumps lib = some j → v.eq lib w = true
  | .none, w, _, _, _, j, h, hw => by
    cases h
    cases w <;> simp_all [dumps, eq]
  | .bool b, w, _, _, _, j, h, hw => by
    cases h
    cases w <;> simp_all [dumps, eq, number]
  | .int n, w, _, _, _, j, h, hw => by
    cases h
    cases w <;> simp_all [dumps, eq, number]
  | .float r, w, _, _, _, j, h, hw => by
    cases h
    cases w <;> simp_all [dumps, eq, number]
  | .str s, w, _, _, _, j, h, hw => by
    cases h
    cases w <;> simp_all [dumps, eq]
  | .list xs, w, hv, hplain, hwf, j, h, hw => by
    obtain ⟨js, hjs, rfl⟩ := Option.map_eq_some_iff.mp h
    cases w with
    | list ys =>
      obtain ⟨js', hjs', hj⟩ := Option.map_eq_some_iff.mp hw
      cases hj
      exact eqItems_of_dumps xs ys hv hplain hwf js hjs hjs'
    | tuple ys => exact hplain.elim
    | dict gs =>
      obtain ⟨-, _, -, hj⟩ := dumps_dict hw
      cases hj
    | _ => cases hw
  | .tuple _, _, hv, _, _, _, _, _ => hv.elim
  | .dict fs, w, hv, hplain, hwf, j, h, hw => by
    obtain ⟨-, ms, hms, rfl⟩ := dumps_dict h
    cases w with
    | dict gs =>
      obtain ⟨-, ns, hns, hj⟩ := dumps_dict hw
      have hsame : sortMembers lib ms = sortMembers lib ns := Json.obj.inj hj
      have hlength : fs.length = gs.length := by
        rw [(dumpsFields_eq_some.mp hms).length_eq, (dumpsFields_eq_some.mp hns).length_eq]
        have hms := (@sortMembers_perm lib ms).length_eq
        have hns := (@sortMembers_perm lib ns).length_eq
        rw [List.length_map] at hms hns
        rw [← hms, ← hns, hsame]
      simp only [eq, hlength, decide_true, Bool.true_and]
      exact eqFields_of_dumps fs gs hv hplain hwf.1 hwf.2 fun f hf =>
        member_of_sortMembers hms hns hsame hv hplain hf
    | list ys =>
      obtain ⟨_, -, hj⟩ := Option.map_eq_some_iff.mp hw
      cases hj
    | tuple ys => exact hplain.elim
    | _ => cases hw
  | .other, _, hv, _, _, _, _, _ => hv.elim

theorem eqItems_of_dumps : (xs ys : List PyData) → PlainItems xs → PlainItems ys →
    WellFormedItems lib ys → (js : List Json) → dumpsItems lib xs = some js →
    dumpsItems lib ys = some js → eqItems lib xs ys = true
  | [], ys, _, _, _, js, h, hy => by
    cases h
    cases ys with
    | nil => rfl
    | cons y ys =>
      obtain ⟨_, -, hrest⟩ := Option.bind_eq_some_iff.mp hy
      obtain ⟨_, -, hnil⟩ := Option.map_eq_some_iff.mp hrest
      cases hnil
  | x :: xs, ys, hx, hy, hwf, js, h, h' => by
    obtain ⟨j, hj, hrest⟩ := Option.bind_eq_some_iff.mp h
    obtain ⟨js, hjs, rfl⟩ := Option.map_eq_some_iff.mp hrest
    cases ys with
    | nil => cases h'
    | cons y ys =>
      obtain ⟨j', hj', hrest'⟩ := Option.bind_eq_some_iff.mp h'
      obtain ⟨js', hjs', hcons⟩ := Option.map_eq_some_iff.mp hrest'
      cases hcons
      simp only [eqItems, eq_of_dumps x y hx.1 hy.1 hwf.1 j hj hj',
        eqItems_of_dumps xs ys hx.2 hy.2 hwf.2 js hjs hjs', Bool.and_self]

theorem eqFields_of_dumps : (fs gs : List (PyKey × PyData)) → PlainFields fs → PlainFields gs →
    ((gs.map Prod.fst).Pairwise fun k l => k.eq lib l = false) → WellFormedFields lib gs →
    (∀ f ∈ fs, ∃ g ∈ gs, g.1 = f.1 ∧ ∃ j, f.2.dumps lib = some j ∧ g.2.dumps lib = some j) →
    eqFields lib fs gs = true
  | [], _, _, _, _, _, _ => rfl
  | (k, v) :: fs, gs, hf, hg, hne, hwf, hmem => by
    obtain ⟨g, hgs, hkey, j, hv, hw⟩ := hmem (k, v) (by simp)
    have hfind := find?_key hne hgs
    rw [hkey] at hfind
    have hvalue := eq_of_dumps v g.2 hf.2.1 (plainFields_mem hg hgs).2
      (wellFormedFields_mem hwf hgs) j hv hw
    have hrest := eqFields_of_dumps fs gs hf.2.2 hg hne hwf fun f hf => hmem f (by simp [hf])
    simp only [eqFields, hfind, hvalue, hrest, Bool.and_self]

end

mutual

theorem plain_ofJson : (j : Json) → (ofJson j).Plain
  | .null => trivial
  | .bool _ => trivial
  | .int _ => trivial
  | .float _ => trivial
  | .str _ => trivial
  | .arr xs => plainItems_ofJson xs
  | .obj fields => plainFields_ofJson fields

theorem plainItems_ofJson : (xs : List Json) → PlainItems (ofJsonItems xs)
  | [] => trivial
  | x :: xs => ⟨plain_ofJson x, plainItems_ofJson xs⟩

theorem plainFields_ofJson : (fields : List (String × Json)) → PlainFields (ofJsonFields fields)
  | [] => trivial
  | (_, v) :: fields => ⟨rfl, plain_ofJson v, plainFields_ofJson fields⟩

end

theorem ofJsonFields_eq_map (fields : List (String × Json)) :
    ofJsonFields fields = fields.map fun f => (PyKey.str f.1, ofJson f.2) := by
  induction fields with
  | nil => rfl
  | cons f fields ih => simp [ofJsonFields, ih]

theorem pairwise_ofJsonFields {fields : List (String × Json)} (h : (fields.map Prod.fst).Nodup) :
    ((ofJsonFields fields).map Prod.fst).Pairwise fun k l => k.eq lib l = false := by
  rw [ofJsonFields_eq_map, List.map_map, List.pairwise_map]
  rw [List.Nodup, List.pairwise_map] at h
  exact h.imp fun {f g} hne => by simpa [PyKey.eq, PyKey.number] using hne

mutual

theorem wellFormed_ofJson : (j : Json) → j.Readable lib.toJsonLibrary → (ofJson j).WellFormed lib
  | .null, _ => trivial
  | .bool _, _ => trivial
  | .int _, _ => trivial
  | .float _, h => h
  | .str _, _ => trivial
  | .arr xs, h => wellFormedItems_ofJson xs h
  | .obj fields, h => ⟨pairwise_ofJsonFields h.1, wellFormedFields_ofJson fields h.2⟩

theorem wellFormedItems_ofJson : (xs : List Json) → Json.ReadableItems lib.toJsonLibrary xs →
    WellFormedItems lib (ofJsonItems xs)
  | [], _ => trivial
  | x :: xs, h => ⟨wellFormed_ofJson x h.1, wellFormedItems_ofJson xs h.2⟩

theorem wellFormedFields_ofJson : (fields : List (String × Json)) →
    Json.ReadableFields lib.toJsonLibrary fields → WellFormedFields lib (ofJsonFields fields)
  | [], _ => trivial
  | (_, v) :: fields, h => ⟨trivial, wellFormed_ofJson v h.1, wellFormedFields_ofJson fields h.2⟩

end

mutual

/-- What is read is written in canonical order. -/
theorem dumps_ofJson : (j : Json) → (ofJson j).dumps lib = some j.sorted
  | .null => rfl
  | .bool _ => rfl
  | .int _ => rfl
  | .float _ => rfl
  | .str _ => rfl
  | .arr xs => by simp only [ofJson, dumps, dumpsItems_ofJson xs, Option.map_some, Json.sorted]
  | .obj fields => by
    have hsort : PyKey.Sortable lib ((ofJsonFields fields).map Prod.fst) = true := by
      simp [ofJsonFields_eq_map, PyKey.Sortable, PyKey.isStr]
    have hall : ((Json.sortedFields fields).map fun f => (PyKey.str f.1, f.2)).all
        (fun m => m.1.isStr) = true := by
      simp [PyKey.isStr]
    have hmerge : (((Json.sortedFields fields).map fun f => (PyKey.str f.1, f.2)).mergeSort
        fun a b => decide (a.1.text ≤ b.1.text)).map (fun m => (m.1.text, m.2)) =
        (Json.sortedFields fields).mergeSort fun a b => decide (a.1 ≤ b.1) := by
      rw [List.map_mergeSort (s := fun a b : String × Json => decide (a.1 ≤ b.1)), List.map_map]
      · congr 1
        exact (List.map_congr_left fun f _ => rfl).trans (List.map_id _)
      · intro a _ b _
        rfl
    rw [ofJson, dumps, if_pos hsort, dumpsFields_ofJson fields, Option.map_some, sortMembers,
      if_pos hall, hmerge, Json.sorted]

theorem dumpsItems_ofJson : (xs : List Json) →
    dumpsItems lib (ofJsonItems xs) = some (Json.sortedItems xs)
  | [] => rfl
  | x :: xs => by
    simp only [ofJsonItems, dumpsItems, dumps_ofJson x, dumpsItems_ofJson xs, Option.bind_some,
      Option.map_some, Json.sortedItems]

theorem dumpsFields_ofJson : (fields : List (String × Json)) →
    dumpsFields lib (ofJsonFields fields) =
      some ((Json.sortedFields fields).map fun f => (PyKey.str f.1, f.2))
  | [] => rfl
  | (k, v) :: fields => by
    simp only [ofJsonFields, dumpsFields, dumps_ofJson v, dumpsFields_ofJson fields,
      Option.bind_some, Option.map_some, Json.sortedFields, List.map_cons]

end

theorem eq_ofJson_self {j : Json} (h : j.Readable lib.toJsonLibrary) :
    (ofJson j).eq lib (ofJson j) = true :=
  eq_of_dumps _ _ (plain_ofJson j) (plain_ofJson j) (wellFormed_ofJson j h) j.sorted
    (dumps_ofJson j) (dumps_ofJson j)

mutual

/-- A value that equals one from a text has the shape of one. -/
theorem plain_of_eq_ofJson : (v : PyData) → (j : Json) → v.eq lib (ofJson j) = true → v.Plain
  | .none, _, _ => trivial
  | .bool _, _, _ => trivial
  | .int _, _, _ => trivial
  | .float _, _, _ => trivial
  | .str _, _, _ => trivial
  | .list xs, j, h => by
    cases j with
    | arr js => exact plainItems_of_eq_ofJson xs js h
    | _ => exact absurd h Bool.false_ne_true
  | .tuple xs, j, h => by
    cases j <;> exact absurd h Bool.false_ne_true
  | .dict fs, j, h => by
    cases j with
    | obj members =>
      simp only [ofJson, eq, Bool.and_eq_true] at h
      exact plainFields_of_eq_ofJson fs members h.2
    | _ => exact absurd h Bool.false_ne_true
  | .other, _, h => absurd h Bool.false_ne_true

theorem plainItems_of_eq_ofJson : (xs : List PyData) → (js : List Json) →
    eqItems lib xs (ofJsonItems js) = true → PlainItems xs
  | [], _, _ => trivial
  | x :: xs, js, h => by
    cases js with
    | nil => exact absurd h Bool.false_ne_true
    | cons j js =>
      simp only [ofJsonItems, eqItems, Bool.and_eq_true] at h
      exact ⟨plain_of_eq_ofJson x j h.1, plainItems_of_eq_ofJson xs js h.2⟩

theorem plainFields_of_eq_ofJson : (fs : List (PyKey × PyData)) →
    (members : List (String × Json)) → eqFields lib fs (ofJsonFields members) = true →
    PlainFields fs
  | [], _, _ => trivial
  | (k, v) :: fs, members, h => by
    simp only [eqFields, Bool.and_eq_true] at h
    have hrest := plainFields_of_eq_ofJson fs members h.2
    cases hfind : (ofJsonFields members).find? fun g => k.eq lib g.1 with
    | none =>
      rw [hfind] at h
      exact absurd h.1 Bool.false_ne_true
    | some g =>
      rw [hfind] at h
      have hmem := List.mem_of_find?_eq_some hfind
      have hkey := List.find?_some hfind
      rw [ofJsonFields_eq_map] at hmem
      obtain ⟨f, -, rfl⟩ := List.mem_map.mp hmem
      refine ⟨?_, plain_of_eq_ofJson v f.2 h.1, hrest⟩
      cases k <;> simp_all [PyKey.eq, PyKey.number, PyKey.isStr]

end

mutual

theorem keysInOrder_of_plain : (v : PyData) → v.Plain → v.KeysInOrder lib
  | .none, _ => trivial
  | .bool _, _ => trivial
  | .int _, _ => trivial
  | .float _, _ => trivial
  | .str _, _ => trivial
  | .list xs, h => keysInOrderItems_of_plain xs h
  | .tuple _, h => h.elim
  | .dict fields, h => by
    refine ⟨fun k hk l hl hle => ?_, keysInOrderFields_of_plain fields h⟩
    obtain ⟨f, hf, rfl⟩ := List.mem_map.mp hk
    obtain ⟨g, hg, rfl⟩ := List.mem_map.mp hl
    rw [PyKey.le_of_isStr (plainFields_mem h hf).1 (plainFields_mem h hg).1] at hle
    exact of_decide_eq_true hle
  | .other, h => h.elim

theorem keysInOrderItems_of_plain : (xs : List PyData) → PlainItems xs → KeysInOrderItems lib xs
  | [], _ => trivial
  | x :: xs, h => ⟨keysInOrder_of_plain x h.1, keysInOrderItems_of_plain xs h.2⟩

theorem keysInOrderFields_of_plain : (fields : List (PyKey × PyData)) → PlainFields fields →
    KeysInOrderFields lib fields
  | [], _ => trivial
  | (_, v) :: fields, h => ⟨keysInOrder_of_plain v h.2.1, keysInOrderFields_of_plain fields h.2.2⟩

end

/-- A value equals what is read of its text when it is one that could have been read. -/
theorem eq_ofJson_dumps_iff {v : PyData} (hv : v.WellFormed lib) {j : Json}
    (h : v.dumps lib = some j) : v.eq lib (ofJson j) = true ↔ v.Plain := by
  refine ⟨plain_of_eq_ofJson v j, fun hplain => ?_⟩
  have hsorted : j.sorted = j := (sorted_dumps_iff v hv j h).mpr (keysInOrder_of_plain v hplain)
  apply eq_of_dumps v (ofJson j) hplain (plain_ofJson j)
    (wellFormed_ofJson j (readable_of_dumps v hv j h)) j h
  rw [dumps_ofJson, hsorted]

end PyData

end DecisionFirewall
