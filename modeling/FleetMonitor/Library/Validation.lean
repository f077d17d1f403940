import Mathlib.Data.Rat.Defs
import Mathlib.Algebra.Order.Ring.Rat

/-!
# Model validation

A model is built from values whose fields are checked. All errors of the fields are collected, and
the model is built when there are none.
-/

namespace FleetMonitor.Library

variable {α : Type*}

/-- The error of one field. -/
structure FieldError where
  loc : String
  msg : String
  deriving DecidableEq, Repr

/-- `ValidationError`: the model that is not built, and why. -/
structure ValidationError where
  title : String
  errors : List FieldError
  deriving DecidableEq, Repr

/-- Build a model whose fields have these errors. -/
def buildModel (title : String) (errors : List FieldError) (model : α) :
    Except ValidationError α :=
  if errors = [] then .ok model else .error ⟨title, errors⟩

/-- A field with the bounds `ge` and `le`. -/
def boundErrors (loc : String) (low high : ℤ) (x : ℚ) : List FieldError :=
  if x < low then [⟨loc, "Input should be greater than or equal to " ++ toString low⟩]
  else if high < x then [⟨loc, "Input should be less than or equal to " ++ toString high⟩]
  else []

/-- A field that is required to have one of some values. -/
def literalErrors (loc expected : String) (allowed : Bool) : List FieldError :=
  if allowed then [] else [⟨loc, "Input should be " ++ expected⟩]

variable {title loc expected : String} {errors : List FieldError} {model a : α}

lemma buildModel_eq_ok_iff : buildModel title errors model = .ok a ↔ errors = [] ∧ model = a := by
  rw [buildModel]
  split_ifs with h
  · simp [h]
  · simp [h]

lemma buildModel_eq_ok (h : errors = []) : buildModel title errors model = .ok model :=
  buildModel_eq_ok_iff.mpr ⟨h, rfl⟩

lemma boundErrors_eq_nil_iff {low high : ℤ} {x : ℚ} :
    boundErrors loc low high x = [] ↔ low ≤ x ∧ x ≤ high := by
  rw [boundErrors]
  split_ifs with hlow hhigh
  · simpa using fun hle : (low : ℚ) ≤ x => absurd hlow (not_lt.mpr hle)
  · simpa using fun _ : (low : ℚ) ≤ x => hhigh
  · simpa using ⟨not_lt.mp hlow, not_lt.mp hhigh⟩

lemma literalErrors_eq_nil_iff {allowed : Bool} :
    literalErrors loc expected allowed = [] ↔ allowed = true := by
  cases allowed <;> simp [literalErrors]

/-! ### Steps that may fail -/

section Steps

universe u
variable {ε : Type*} {β γ : Type u} {x : Except ε β} {b : β} {c : γ}

lemma bind_eq_ok_iff {f : β → Except ε γ} : (x >>= f) = .ok c ↔ ∃ b, x = .ok b ∧ f b = .ok c := by
  cases x with
  | error e => simp [bind, Except.bind]
  | ok b => simp [bind, Except.bind]

lemma toOption_eq_some_iff : x.toOption = some b ↔ x = .ok b := by
  cases x with
  | error e => simp [Except.toOption]
  | ok b' => simp [Except.toOption]

lemma mapError_eq_ok_iff {ε' : Type*} {f : ε → ε'} : x.mapError f = .ok b ↔ x = .ok b := by
  cases x with
  | error e => simp [Except.mapError]
  | ok b' => simp [Except.mapError]

lemma mapError_eq_error_iff {ε' : Type*} {f : ε → ε'} {d : ε'} :
    x.mapError f = .error d ↔ ∃ e, x = .error e ∧ f e = d := by
  cases x with
  | error e => simp [Except.mapError]
  | ok b => simp [Except.mapError]

end Steps

/-! ### Many models -/

variable {ε ρ π : Type*} {f : ρ → Except ε π} {row : ρ} {rows : List ρ} {points : List π}

/-- What succeeds on a list is what succeeds on its items. -/
lemma mapM_cons_eq_ok_iff :
    (row :: rows).mapM f = .ok points ↔
      ∃ point more, f row = .ok point ∧ rows.mapM f = .ok more ∧ points = point :: more := by
  rw [List.mapM_cons]
  cases f row with
  | error e => simp [bind, Except.bind]
  | ok point =>
    cases rows.mapM f with
    | error e => simp [bind, Except.bind]
    | ok more => simp [bind, Except.bind, pure, Except.pure, eq_comm]

lemma mapM_ok_eq_nil_iff (h : rows.mapM f = .ok points) : points = [] ↔ rows = [] := by
  cases rows with
  | nil =>
    obtain rfl := Except.ok.inj h
    simp
  | cons row rows =>
    obtain ⟨point, more, -, -, rfl⟩ := mapM_cons_eq_ok_iff.mp h
    simp

lemma mem_of_mapM_ok (h : rows.mapM f = .ok points) {p : π} :
    p ∈ points ↔ ∃ row ∈ rows, f row = .ok p := by
  induction rows generalizing points with
  | nil =>
    obtain rfl := Except.ok.inj h
    simp
  | cons row rows ih =>
    obtain ⟨point, more, hrow, hrows, rfl⟩ := mapM_cons_eq_ok_iff.mp h
    simp [ih hrows, hrow, eq_comm]

/-- The results of a list that succeeds are those of its items, in order. -/
lemma forall₂_of_mapM_ok (h : rows.mapM f = .ok points) :
    List.Forall₂ (fun row point => f row = .ok point) rows points := by
  induction rows generalizing points with
  | nil =>
    obtain rfl := Except.ok.inj h
    exact .nil
  | cons row rows ih =>
    obtain ⟨point, more, hrow, hmore, rfl⟩ := mapM_cons_eq_ok_iff.mp h
    exact .cons hrow (ih hmore)

/-- What fails on a list fails on an item. -/
lemma exists_mem_of_mapM_error {e : ε} (h : rows.mapM f = .error e) :
    ∃ row ∈ rows, f row = .error e := by
  induction rows with
  | nil => cases h
  | cons row rows ih =>
    rw [List.mapM_cons] at h
    cases hrow : f row with
    | error e' =>
      rw [hrow] at h
      obtain rfl := Except.error.inj h
      exact ⟨row, List.mem_cons_self, hrow⟩
    | ok point =>
      cases hrows : rows.mapM f with
      | error e' =>
        rw [hrow, hrows] at h
        obtain rfl := Except.error.inj h
        obtain ⟨r, hr, he⟩ := ih hrows
        exact ⟨r, List.mem_cons_of_mem _ hr, he⟩
      | ok more =>
        rw [hrow, hrows] at h
        cases h

lemma exists_mapM_ok_iff :
    (∃ points, rows.mapM f = .ok points) ↔ ∀ row ∈ rows, ∃ p, f row = .ok p := by
  induction rows with
  | nil => exact iff_of_true ⟨[], rfl⟩ (by simp)
  | cons row rows ih =>
    rw [List.forall_mem_cons, ← ih]
    constructor
    · rintro ⟨points, h⟩
      obtain ⟨point, more, hrow, hrows, -⟩ := mapM_cons_eq_ok_iff.mp h
      exact ⟨⟨point, hrow⟩, more, hrows⟩
    · rintro ⟨⟨point, hrow⟩, more, hrows⟩
      exact ⟨point :: more, mapM_cons_eq_ok_iff.mpr ⟨point, more, hrow, hrows, rfl⟩⟩

/-- What the results keep of their items. -/
lemma map_eq_of_mapM_ok {γ : Type*} {g : ρ → γ} {k : π → γ} (h : rows.mapM f = .ok points)
    (hkeep : ∀ row ∈ rows, ∀ p, f row = .ok p → k p = g row) : points.map k = rows.map g := by
  induction rows generalizing points with
  | nil =>
    obtain rfl := Except.ok.inj h
    rfl
  | cons row rows ih =>
    obtain ⟨point, more, hrow, hrows, rfl⟩ := mapM_cons_eq_ok_iff.mp h
    rw [List.map_cons, List.map_cons, hkeep row List.mem_cons_self point hrow,
      ih hrows fun r hr => hkeep r (List.mem_cons_of_mem _ hr)]

lemma mapM_reverse_ok (h : rows.mapM f = .ok points) :
    rows.reverse.mapM f = .ok points.reverse := by
  induction rows generalizing points with
  | nil =>
    obtain rfl := Except.ok.inj h
    rfl
  | cons row rows ih =>
    obtain ⟨point, more, hrow, hrows, rfl⟩ := mapM_cons_eq_ok_iff.mp h
    rw [List.reverse_cons, List.mapM_append, ih hrows]
    simp [hrow, bind, Except.bind, pure, Except.pure]

/-- The first point with a property is that of the first row with it. -/
lemma find?_of_mapM_ok {p : ρ → Bool} {q : π → Bool} (h : rows.mapM f = .ok points)
    (hpq : ∀ row point, f row = .ok point → q point = p row) :
    points.find? q = (rows.find? p).bind fun row => (f row).toOption := by
  induction rows generalizing points with
  | nil =>
    obtain rfl := Except.ok.inj h
    rfl
  | cons row rows ih =>
    obtain ⟨point, more, hrow, hrows, rfl⟩ := mapM_cons_eq_ok_iff.mp h
    rw [List.find?_cons, List.find?_cons, hpq row point hrow]
    cases p row with
    | true => simp [hrow, Except.toOption]
    | false => exact ih hrows

end FleetMonitor.Library
