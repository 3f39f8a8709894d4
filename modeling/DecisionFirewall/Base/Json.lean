import Mathlib

/-!
# Canonical JSON

`canonical_json` of `adf_poc/utils.py`: `json.dumps` with sorted keys, the compact
separators and `ensure_ascii`. The text matters here for two things: it is what
the digests are taken of, and its length is what the size bounds of the durable
columns are compared with.
-/

namespace DecisionFirewall

/-! ## §1 Values -/

/-- A JSON value. `float` carries the text `json.dumps` writes for the number. -/
inductive Json where
  | null
  | bool (b : Bool)
  | int (n : Int)
  | float (repr : String)
  | str (s : String)
  | arr (xs : List Json)
  | obj (fields : List (String × Json))
  deriving Repr

namespace Json

/-- A nullable text column as JSON. -/
def ofOption : Option String → Json
  | none => .null
  | some s => .str s

/-! ## §2 Text -/

def hexDigit (n : Nat) : Char :=
  if n < 10 then Char.ofNat (n + 48) else Char.ofNat (n + 87)

/-- `\uXXXX` for one UTF-16 code unit. -/
def escapeUnit (n : Nat) : List Char :=
  ['\\', 'u', hexDigit (n / 4096 % 16), hexDigit (n / 256 % 16),
    hexDigit (n / 16 % 16), hexDigit (n % 16)]

/-- The escape of one character under `ensure_ascii`: characters above the basic
plane become a surrogate pair. -/
def escapeChar (c : Char) : List Char :=
  if c = '"' then ['\\', '"']
  else if c = '\\' then ['\\', '\\']
  else if c.toNat = 10 then ['\\', 'n']
  else if c.toNat = 13 then ['\\', 'r']
  else if c.toNat = 9 then ['\\', 't']
  else if c.toNat = 12 then ['\\', 'f']
  else if c.toNat = 8 then ['\\', 'b']
  else if 32 ≤ c.toNat ∧ c.toNat ≤ 126 then [c]
  else if c.toNat < 65536 then escapeUnit c.toNat
  else escapeUnit (55296 + (c.toNat - 65536) / 1024)
    ++ escapeUnit (56320 + (c.toNat - 65536) % 1024)

def renderString (s : String) : List Char :=
  '"' :: s.toList.flatMap escapeChar ++ ['"']

/-- Joins the parts with commas. -/
def joinComma : List (List Char) → List Char
  | [] => []
  | [x] => x
  | x :: y :: rest => x ++ ',' :: joinComma (y :: rest)

/-- The rendered members of an object in key order. -/
def sortMembers (fields : List (String × List Char)) : List (String × List Char) :=
  fields.mergeSort fun a b => decide (a.1 ≤ b.1)

mutual

def render : Json → List Char
  | .null => "null".toList
  | .bool true => "true".toList
  | .bool false => "false".toList
  | .int n => (toString n).toList
  | .float repr => repr.toList
  | .str s => renderString s
  | .arr xs => '[' :: joinComma (renderItems xs) ++ [']']
  | .obj fields =>
    '{' :: joinComma ((sortMembers (renderFields fields)).map
      fun member => renderString member.1 ++ ':' :: member.2) ++ ['}']

def renderItems : List Json → List (List Char)
  | [] => []
  | x :: xs => render x :: renderItems xs

def renderFields : List (String × Json) → List (String × List Char)
  | [] => []
  | (k, v) :: fields => (k, render v) :: renderFields fields

end

end Json

/-- `canonical_json(value)`. -/
def canonicalJson (value : Json) : String :=
  String.ofList value.render

/-! ## §3 Size bounds -/

namespace Json

theorem length_escapeChar_le (c : Char) : (escapeChar c).length ≤ 12 := by
  unfold escapeChar
  split_ifs <;> simp [escapeUnit]

theorem length_renderString_le (s : String) : (renderString s).length ≤ 12 * s.length + 2 := by
  have h : ∀ l : List Char, (l.flatMap escapeChar).length ≤ 12 * l.length := by
    intro l
    induction l with
    | nil => simp
    | cons c l ih =>
      have := length_escapeChar_le c
      simp only [List.flatMap_cons, List.length_append, List.length_cons]
      omega
  have := h s.toList
  simp only [renderString, List.length_append, List.length_cons, List.length_nil]
  rw [← String.length_toList]
  omega

theorem length_joinComma_le (parts : List (List Char)) :
    (joinComma parts).length ≤ (parts.map fun p => p.length + 1).sum := by
  induction parts with
  | nil => simp [joinComma]
  | cons x rest ih =>
    cases rest with
    | nil => simp [joinComma]
    | cons y rest =>
      simp only [joinComma, List.map_cons, List.sum_cons, List.length_append,
        List.length_cons] at ih ⊢
      omega

theorem renderFields_eq_map (fields : List (String × Json)) :
    renderFields fields = fields.map fun f => (f.1, render f.2) := by
  induction fields with
  | nil => rfl
  | cons f fields ih => simp [renderFields, ih]

/-- An object is no longer than its members with their separators. -/
theorem length_render_obj_le (fields : List (String × Json)) :
    (render (.obj fields)).length ≤
      2 + (fields.map fun f => (renderString f.1).length + (render f.2).length + 2).sum := by
  -- the order of the members does not change the sum of their lengths
  have hperm := (List.mergeSort_perm (renderFields fields)
    fun a b => decide (a.1 ≤ b.1)).map
      fun member => (renderString member.1 ++ ':' :: member.2).length + 1
  have hjoin := length_joinComma_le ((sortMembers (renderFields fields)).map
    fun member => renderString member.1 ++ ':' :: member.2)
  rw [List.map_map] at hjoin
  have hsum : ((sortMembers (renderFields fields)).map
      ((fun p => p.length + 1) ∘ fun member => renderString member.1 ++ ':' :: member.2)).sum
      = (fields.map fun f => (renderString f.1).length + (render f.2).length + 2).sum := by
    refine hperm.sum_eq.trans ?_
    rw [renderFields_eq_map, List.map_map]
    congr 1
    apply List.map_congr_left
    intro f _
    simp only [Function.comp_apply, List.length_append, List.length_cons]
    omega
  rw [hsum] at hjoin
  simp only [render, List.length_append, List.length_cons, List.length_nil]
  omega

end Json

@[simp] theorem length_canonicalJson (value : Json) :
    (canonicalJson value).length = value.render.length := by
  simp [canonicalJson]

end DecisionFirewall
