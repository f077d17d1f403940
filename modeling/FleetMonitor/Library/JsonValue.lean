import Mathlib.Algebra.Order.Ring.Rat

/-!
# JSON values

The values a JSON text is read as by a reader that tells integers from floats, takes `NaN` and
`Infinity` as floats and keeps the last of several fields of one name.
-/

namespace FleetMonitor.Library

/-- A float; a finite one is given by its value. -/
inductive FloatValue where
  | finite (x : ℚ)
  | infinite (negative : Bool)
  | nan
  deriving DecidableEq, Repr

/-- Change a finite float. -/
def FloatValue.map (f : ℚ → ℚ) : FloatValue → FloatValue
  | .finite x => .finite (f x)
  | x         => x

/-- `x < bound`, which no comparison with `nan` is. -/
def FloatValue.lt (x : FloatValue) (bound : ℚ) : Bool :=
  match x with
  | .finite x          => x < bound
  | .infinite negative => negative
  | .nan               => false

def FloatValue.le (x : FloatValue) (bound : ℚ) : Bool :=
  match x with
  | .finite x          => x ≤ bound
  | .infinite negative => negative
  | .nan               => false

/-- `bound < x`. -/
def FloatValue.gt (x : FloatValue) (bound : ℚ) : Bool :=
  match x with
  | .finite x          => bound < x
  | .infinite negative => !negative
  | .nan               => false

/-- Neither infinite nor `nan`. -/
def FloatValue.isFinite : FloatValue → Bool
  | .finite _ => true
  | _         => false

/-- One float is at most another; `nan` is comparable to itself alone. -/
inductive FloatValue.AtMost : FloatValue → FloatValue → Prop
  | refl (x : FloatValue) : AtMost x x
  | finite {x y : ℚ} (h : x ≤ y) : AtMost (.finite x) (.finite y)
  | ofNegative {y : FloatValue} (h : y ≠ .nan) : AtMost (.infinite true) y
  | toPositive {x : FloatValue} (h : x ≠ .nan) : AtMost x (.infinite false)

/-- What is below a bound stays below it when it is reduced. -/
lemma FloatValue.AtMost.lt {x y : FloatValue} {bound : ℚ} (h : x.AtMost y)
    (hy : y.lt bound = true) : x.lt bound = true := by
  cases h with
  | refl => exact hy
  | finite h => exact decide_eq_true (lt_of_le_of_lt h (of_decide_eq_true hy))
  | ofNegative => rfl
  | toPositive => cases hy

lemma FloatValue.AtMost.le {x y : FloatValue} {bound : ℚ} (h : x.AtMost y)
    (hy : y.le bound = true) : x.le bound = true := by
  cases h with
  | refl => exact hy
  | finite h => exact decide_eq_true (le_trans h (of_decide_eq_true hy))
  | ofNegative => rfl
  | toPositive => cases hy

@[simp] lemma FloatValue.isFinite_map (f : ℚ → ℚ) (x : FloatValue) :
    (x.map f).isFinite = x.isFinite := by
  cases x <;> rfl

inductive Json where
  | null
  | bool (b : Bool)
  | int (n : ℤ)
  | float (x : FloatValue)
  | str (s : String)
  | arr (items : List Json)
  | obj (fields : List (String × Json))

/-- The fields of an object, in the order of the text. -/
abbrev JsonObject := List (String × Json)

/-- The value of a field; one that is missing reads as `null`. -/
def JsonObject.get (fields : JsonObject) (key : String) : Json :=
  ((fields.reverse.find? (·.1 = key)).map (·.2)).getD .null

/-- The items that are objects. -/
def Json.objects (items : List Json) : List JsonObject :=
  items.filterMap fun
    | .obj fields => some fields
    | _           => none

/-- A number: a boolean is one too. -/
inductive JsonNumber where
  | int (n : ℤ)
  | float (x : FloatValue)
  deriving DecidableEq, Repr

def Json.number? : Json → Option JsonNumber
  | .bool b  => some (.int (if b then 1 else 0))
  | .int n   => some (.int n)
  | .float x => some (.float x)
  | _        => none

/-- The value of a number, which is not rounded. -/
def JsonNumber.value : JsonNumber → FloatValue
  | .int n   => .finite n
  | .float x => x

/-- `0 < x`. -/
def JsonNumber.isPos : JsonNumber → Bool
  | .int n   => 0 < n
  | .float x => x.gt 0

end FleetMonitor.Library
