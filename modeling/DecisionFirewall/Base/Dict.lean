import DecisionFirewall.Base.Runtime

/-!
# Dictionaries

The members of a JSON object under the operations of a Python `dict` with string
keys, and the member names anywhere inside a value, which two checks of the
repository compare with a list of denied names.
-/

namespace DecisionFirewall

/-! ## §1 Lookup and update -/

/-- The members of an object. -/
abbrev Dict := List (String × Json)

namespace Dict

/-- `d.get(name)`; an absent member is `None`. -/
def get (d : Dict) (name : String) : Json := (d.lookup name).getD .null

/-- `{**d, **extra}`. -/
def update (d extra : Dict) : Dict :=
  d.filter (fun f => f.1 ∉ extra.map Prod.fst) ++ extra

theorem lookup_eq_none_iff {d : Dict} {name : String} :
    d.lookup name = none ↔ name ∉ d.map Prod.fst := by
  rw [List.lookup_eq_none_iff]
  simp only [bne_iff_ne, ne_eq, List.mem_map, not_exists, not_and]
  exact ⟨fun h f hf he => h f hf he.symm, fun h f hf he => h f hf he.symm⟩

/-- Dropping other members does not change a lookup. -/
theorem lookup_filter_of_notMem {d extra : Dict} {name : String}
    (h : name ∉ extra.map Prod.fst) :
    (d.filter fun f => f.1 ∉ extra.map Prod.fst).lookup name = d.lookup name := by
  induction d with
  | nil => simp
  | cons f d ih =>
    obtain ⟨k, v⟩ := f
    by_cases hk : name = k
    · subst hk
      simp only [List.filter_cons, h, not_false_eq_true, decide_true, if_true, List.lookup_cons,
        beq_self_eq_true]
    · have hne : (name == k) = false := beq_eq_false_iff_ne.mpr hk
      by_cases hin : k ∈ extra.map Prod.fst
      · simp only [List.filter_cons, hin, not_true_eq_false, decide_false, Bool.false_eq_true,
          if_false, List.lookup_cons, hne, ih]
      · simp only [List.filter_cons, hin, not_false_eq_true, decide_true, if_true,
          List.lookup_cons, hne, ih]

/-- The later members win. -/
theorem get_update (d extra : Dict) (name : String) :
    (d.update extra).get name = ((extra.lookup name).or (d.lookup name)).getD .null := by
  unfold update get
  rw [List.lookup_append]
  by_cases h : name ∈ extra.map Prod.fst
  · have hfilter : (d.filter fun f => f.1 ∉ extra.map Prod.fst).lookup name = none := by
      rw [lookup_eq_none_iff]
      intro hmem
      obtain ⟨f, hf, rfl⟩ := List.mem_map.mp hmem
      exact of_decide_eq_true (List.mem_filter.mp hf).2 h
    have hsome : (extra.lookup name).isSome = true := by
      rw [← Option.ne_none_iff_isSome, ne_eq, lookup_eq_none_iff]
      exact not_not.mpr h
    obtain ⟨v, hv⟩ := Option.isSome_iff_exists.mp hsome
    rw [hfilter, hv]
    rfl
  · rw [lookup_filter_of_notMem h, lookup_eq_none_iff.mpr h]
    simp

end Dict

/-! ## §2 Member names -/

/-- `s.lower()` as far as an ASCII text can result: the Kelvin sign is the one letter
outside ASCII whose lower case is inside. -/
def lower (s : String) : String :=
  s.map fun c => if c.toNat = 8490 then 'k' else if c.isUpper then c.toLower else c

namespace Json

mutual

/-- The names of all members at any depth. -/
def keys : Json → List String
  | .arr xs => keysItems xs
  | .obj fields => keysFields fields
  | .null | .bool _ | .int _ | .float _ | .str _ => []

def keysItems : List Json → List String
  | [] => []
  | x :: xs => keys x ++ keysItems xs

def keysFields : List (String × Json) → List String
  | [] => []
  | (k, v) :: fields => k :: keys v ++ keysFields fields

end

mutual

/-- The depths of all values inside a value at depth `d`. -/
def depths (d : Nat) : Json → List Nat
  | .arr xs => d :: depthsItems d xs
  | .obj fields => d :: depthsFields d fields
  | .null | .bool _ | .int _ | .float _ | .str _ => [d]

def depthsItems (d : Nat) : List Json → List Nat
  | [] => []
  | x :: xs => depths (d + 1) x ++ depthsItems d xs

def depthsFields (d : Nat) : List (String × Json) → List Nat
  | [] => []
  | (_, v) :: fields => depths (d + 1) v ++ depthsFields d fields

end

/-- `_AUTHORITY_BEARING_KEYS`. -/
def AUTHORITY_BEARING_KEYS : List String :=
  ["authorization_token", "nonce", "signature", "signatures", "audit_records", "credential",
    "credentials", "secret", "signing_key"]

/-- `_reject_authority_bearing_keys` raises nothing. -/
def AuthorityFree (value : Json) : Prop :=
  (∀ d ∈ depths 0 value, d ≤ 32) ∧ (depths 0 value).length ≤ 4096 ∧
    ∀ k ∈ keys value, lower k ∉ AUTHORITY_BEARING_KEYS

instance (value : Json) : Decidable value.AuthorityFree :=
  inferInstanceAs (Decidable (_ ∧ _ ∧ _))

@[simp] theorem keysFields_nil : keysFields [] = [] := rfl

@[simp] theorem keysFields_cons (k : String) (v : Json) (fields : List (String × Json)) :
    keysFields ((k, v) :: fields) = k :: (keys v ++ keysFields fields) := rfl

theorem keysFields_append (fields fields' : List (String × Json)) :
    keysFields (fields ++ fields') = keysFields fields ++ keysFields fields' := by
  induction fields with
  | nil => rfl
  | cons f fields ih => simp [keysFields, ih]

end Json

end DecisionFirewall
