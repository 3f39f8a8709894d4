import DecisionFirewall.Base.JsonRead

/-!
# The Exceptions of the JSON Reader

`strict_json_loads` of `adf_poc/utils.py`, by the exceptions that its callers tell apart.
What `json.loads` makes of a raw text is a parameter: a value, or one of its exceptions.
-/

namespace DecisionFirewall

/-- The types of the exceptions. -/
inductive LoadsError where
  /-- `StrictJSONError`: a duplicate member or a number that is not finite -/
  | strictJson
  /-- `json.JSONDecodeError` -/
  | jsonDecode
  /-- `UnicodeError` -/
  | unicode
  /-- `RecursionError`: the nesting is too deep -/
  | recursion
  /-- `ValueError`: an integer literal has too many digits -/
  | value
  deriving DecidableEq, Repr

/-- `math.isfinite`, by the text of the number. -/
def isFiniteRepr (repr : String) : Bool := repr != "inf" && repr != "-inf" && repr != "nan"

namespace Json

variable (p : String → Bool)

mutual

/-- Every number of the value that is no integer has a text in `p`. -/
def allFloats : Json → Bool
  | .float repr => p repr
  | .arr xs => allFloatsItems xs
  | .obj fields => allFloatsFields fields
  | _ => true

def allFloatsItems : List Json → Bool
  | [] => true
  | x :: xs => allFloats x && allFloatsItems xs

def allFloatsFields : List (String × Json) → Bool
  | [] => true
  | (_, v) :: fields => allFloats v && allFloatsFields fields

end

end Json

/-- `strict_json_loads(value)`, where `loads` is `json.loads` with the two hooks. -/
def strictLoads {ρ : Type} (loads : ρ → Except LoadsError Json) (raw : ρ) :
    Except LoadsError Json :=
  match loads raw with
  | .error e => .error e
  | .ok parsed => if parsed.allFloats isFiniteRepr then .ok parsed else .error .strictJson

/-- The scan for numbers raises no `ValueError`. -/
theorem strictLoads_eq_value {ρ : Type} {loads : ρ → Except LoadsError Json} {raw : ρ} :
    strictLoads loads raw = .error .value ↔ loads raw = .error .value := by
  unfold strictLoads
  cases loads raw with
  | error e => rfl
  | ok parsed =>
    dsimp only
    split <;> simp

end DecisionFirewall
