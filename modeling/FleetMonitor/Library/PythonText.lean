import FleetMonitor.Library.JsonValue
import Mathlib.Algebra.Group.Nat.Defs
import Mathlib.Data.List.DropRight

/-!
# Python's functions of texts

`str.strip` and `int` of a text, by their characters. The functions that need the whole tables of
Unicode or the grammar of floats are the fields of `TextFunctions`.
-/

namespace FleetMonitor.Library

/-! ### White space -/

/-- A text without the white space at its ends. -/
def trim (space : Char → Bool) (cs : List Char) : List Char := (cs.dropWhile space).rdropWhile space

/-- The characters `str.strip` removes. -/
def isPySpace (c : Char) : Bool :=
  let n := c.toNat
  (9 ≤ n && n ≤ 13) || (28 ≤ n && n ≤ 32) || n == 133 || n == 160 || n == 5760 ||
    (8192 ≤ n && n ≤ 8202) || n == 8232 || n == 8233 || n == 8239 || n == 8287 || n == 12288

/-- `str.strip`, of the characters. -/
def pyStrip (cs : List Char) : List Char := trim isPySpace cs

/-- `str.strip`. -/
def strip (s : String) : String := String.ofList (pyStrip s.toList)

/-- `s.strip() or None`. -/
def stripOrNone (s : String) : Option String := if strip s = "" then none else some (strip s)

lemma stripOrNone_ne_empty {s : String} : stripOrNone s ≠ some "" := by
  rw [stripOrNone]
  split_ifs with hblank
  · simp
  · simpa using hblank

lemma mem_of_mem_trim {space : Char → Bool} {cs : List Char} {c : Char} (h : c ∈ trim space cs) :
    c ∈ cs := by
  have hfront : c ∈ cs.dropWhile space := (List.rdropWhile_prefix _ _).subset h
  exact (List.dropWhile_suffix _).subset hfront

/-- A text without white space is left as it is. -/
lemma trim_eq_self {space : Char → Bool} {cs : List Char} (h : ∀ c ∈ cs, space c = false) :
    trim space cs = cs := by
  have hspace : ∀ c ∈ cs, ¬space c = true := fun c hc => by simp [h c hc]
  have hfront : cs.dropWhile space = cs := by
    cases cs with
    | nil => rfl
    | cons c cs => exact List.dropWhile_cons_of_neg (hspace c List.mem_cons_self)
  rw [trim, hfront, List.rdropWhile_eq_self_iff]
  intro hne
  exact hspace _ (List.getLast_mem hne)

/-! ### Integers -/

/-- The zero of every block of Unicode decimal digits. -/
def digitZeros : List ℕ :=
  [0x30, 0x660, 0x6f0, 0x7c0, 0x966, 0x9e6, 0xa66, 0xae6, 0xb66, 0xbe6, 0xc66, 0xce6, 0xd66, 0xde6,
   0xe50, 0xed0, 0xf20, 0x1040, 0x1090, 0x17e0, 0x1810, 0x1946, 0x19d0, 0x1a80, 0x1a90, 0x1b50,
   0x1bb0, 0x1c40, 0x1c50, 0xa620, 0xa8d0, 0xa900, 0xa9d0, 0xa9f0, 0xaa50, 0xabf0, 0xff10, 0x104a0,
   0x10d30, 0x11066, 0x110f0, 0x11136, 0x111d0, 0x112f0, 0x11450, 0x114d0, 0x11650, 0x116c0,
   0x11730, 0x118e0, 0x11950, 0x11c50, 0x11d50, 0x11da0, 0x11f50, 0x16a60, 0x16ac0, 0x16b50,
   0x1d7ce, 0x1d7d8, 0x1d7e2, 0x1d7ec, 0x1d7f6, 0x1e140, 0x1e2f0, 0x1e4f0, 0x1e950, 0x1fbf0]

/-- The value of a decimal digit. -/
def digitValue (c : Char) : Option ℕ :=
  (digitZeros.find? fun z => z ≤ c.toNat ∧ c.toNat < z + 10).map fun z => c.toNat - z

/-- Digits with single underscores between them; `afterDigit` tells whether an underscore may come.
-/
def readDigits : List Char → Bool → List ℕ → Option (List ℕ)
  | [], afterDigit, ds => if afterDigit then some ds else none
  | '_' :: cs, afterDigit, ds => if afterDigit then readDigits cs false ds else none
  | c :: cs, _, ds =>
    match digitValue c with
    | some d => readDigits cs true (ds ++ [d])
    | none   => none

/-- The longest run of digits `int` converts. -/
def intMaxStrDigits : ℕ := 4300

/-- The characters `int` removes: not the separators of files and records, which `str.strip` does.
-/
def isIntSpace (c : Char) : Bool := isPySpace c && !(28 ≤ c.toNat && c.toNat ≤ 31)

/-- `int` of a text without its sign. -/
def unsignedInt (cs : List Char) : Option ℤ :=
  match readDigits cs false [] with
  | some ds =>
    if ds.length ≤ intMaxStrDigits then some (ds.foldl (fun n d => 10 * n + d) 0 : ℕ) else none
  | none => none

/-- `int(text)`; `none` is a `ValueError`. -/
def pyInt (cs : List Char) : Option ℤ :=
  match trim isIntSpace cs with
  | '-' :: cs => (unsignedInt cs).map fun n => -n
  | '+' :: cs => unsignedInt cs
  | cs        => unsignedInt cs

lemma toNat_of_isDigit {c : Char} (h : c.isDigit) : 48 ≤ c.toNat ∧ c.toNat ≤ 57 := by
  simpa [Char.isDigit, UInt32.le_iff_toNat_le] using h

lemma digitValue_of_isDigit {c : Char} (h : c.isDigit) : digitValue c = some (c.toNat - 48) := by
  obtain ⟨hlow, hhigh⟩ := toNat_of_isDigit h
  have hfirst : (48 ≤ c.toNat ∧ c.toNat < 48 + 10) := by omega
  simp [digitValue, digitZeros, hfirst]

lemma readDigits_cons {c : Char} (hc : c.isDigit) (cs : List Char) (afterDigit : Bool)
    (ds : List ℕ) :
    readDigits (c :: cs) afterDigit ds = readDigits cs true (ds ++ [c.toNat - 48]) := by
  have hne : c ≠ '_' := by
    rintro rfl
    revert hc
    decide
  rw [readDigits, digitValue_of_isDigit hc]
  exact hne

lemma readDigits_of_isDigit {cs : List Char} (h : ∀ c ∈ cs, c.isDigit) (ds : List ℕ) :
    readDigits cs true ds = some (ds ++ cs.map fun c => c.toNat - 48) := by
  induction cs generalizing ds with
  | nil => simp [readDigits]
  | cons c cs ih =>
    rw [readDigits_cons (h c List.mem_cons_self), ih fun c hc => h c (List.mem_cons_of_mem _ hc)]
    simp

/-- A number without its sign. -/
lemma readDigits_digits {cs : List Char} (h : ∀ c ∈ cs, c.isDigit) (hne : cs ≠ []) :
    readDigits cs false [] = some (cs.map fun c => c.toNat - 48) := by
  cases cs with
  | nil => exact absurd rfl hne
  | cons c cs =>
    rw [readDigits_cons (h c List.mem_cons_self),
      readDigits_of_isDigit fun d hd => h d (List.mem_cons_of_mem _ hd)]
    rfl

lemma isIntSpace_of_isDigit {c : Char} (h : c.isDigit) : isIntSpace c = false := by
  obtain ⟨hlow, hhigh⟩ := toNat_of_isDigit h
  have hspace : isPySpace c = false := by
    simp only [isPySpace, Bool.or_eq_false_iff, Bool.and_eq_false_iff, decide_eq_false_iff_not,
      beq_eq_false_iff_ne, Ne]
    omega
  rw [isIntSpace, hspace, Bool.false_and]

/-- Digits have no sign and no white space. -/
lemma pyInt_of_isDigit {cs : List Char} (h : ∀ c ∈ cs, c.isDigit) : pyInt cs = unsignedInt cs := by
  rw [pyInt, trim_eq_self fun c hc => isIntSpace_of_isDigit (h c hc)]
  split
  next cs => exact absurd (h '-' (by simp)) (by decide)
  next cs => exact absurd (h '+' (by simp)) (by decide)
  next => rfl

/-- `int` reads at most 4300 decimal digits. -/
lemma pyInt_digits {cs : List Char} (h : ∀ c ∈ cs, c.isDigit) (hne : cs ≠ [])
    (hlength : cs.length ≤ intMaxStrDigits) : pyInt cs = some (Nat.ofDigitChars 10 cs 0 : ℤ) := by
  have hvalue : (cs.map fun c => c.toNat - 48).foldl (fun n d => 10 * n + d) 0 =
      Nat.ofDigitChars 10 cs 0 := by
    rw [List.foldl_map]
    rfl
  simp [pyInt_of_isDigit h, unsignedInt, readDigits_digits h hne, hlength, hvalue]

lemma isDigit_of_mem_repr {n : ℕ} {c : Char} (h : c ∈ Nat.toDigits 10 n) : c.isDigit :=
  Nat.isDigit_of_mem_toDigits (by decide) (by decide) h

lemma pyInt_toDigits {n : ℕ} (h : n < 10 ^ intMaxStrDigits) :
    pyInt (Nat.toDigits 10 n) = some (n : ℤ) := by
  have hlength : (Nat.toDigits 10 n).length ≤ intMaxStrDigits :=
    (Nat.length_toDigits_le_iff (by decide) (by decide)).mpr h
  rw [pyInt_digits (fun c => isDigit_of_mem_repr) Nat.toDigits_ne_nil hlength,
    Nat.ofDigitChars_ten_toDigits]

/-- A number of more digits than `int` converts is refused. -/
lemma lt_of_pyInt_toDigits {n : ℕ} {m : ℤ} (h : pyInt (Nat.toDigits 10 n) = some m) :
    n < 10 ^ intMaxStrDigits := by
  apply (Nat.length_toDigits_le_iff (by decide) (by decide)).mp
  by_contra hlength
  have hdigits : ∀ c ∈ Nat.toDigits 10 n, c.isDigit := fun c => isDigit_of_mem_repr
  rw [pyInt_of_isDigit hdigits, unsignedInt, readDigits_digits hdigits Nat.toDigits_ne_nil] at h
  simp [hlength] at h

lemma unsignedInt_nonneg {cs : List Char} {n : ℤ} (h : unsignedInt cs = some n) : 0 ≤ n := by
  unfold unsignedInt at h
  split at h
  next =>
    split_ifs at h
    obtain rfl := Option.some.inj h
    exact Int.natCast_nonneg _
  next => cases h

/-- A text without a hyphen is no negative number. -/
lemma pyInt_nonneg {cs : List Char} {n : ℤ} (hcs : '-' ∉ cs) (h : pyInt cs = some n) : 0 ≤ n := by
  unfold pyInt at h
  split at h
  next cs' hcs' => exact absurd (mem_of_mem_trim (by rw [hcs']; exact List.mem_cons_self)) hcs
  next => exact unsignedInt_nonneg h
  next => exact unsignedInt_nonneg h

/-! ### The other functions -/

/-- `str.upper`, `str.lower`, `str.isdigit`, `float`, which raises a `ValueError` for what is no
number, and `str` and `repr` of a JSON value. -/
structure TextFunctions where
  upper : String → String
  lower : String → String
  isDigit : String → Bool
  float : String → Option FloatValue
  str : Json → String
  repr : Json → String
  upper_of_isUpper : ∀ s : String, (∀ c ∈ s.toList, c.isUpper) → upper s = s

lemma toUpper_of_isUpper {c : Char} (h : c.isUpper) : c.toUpper = c := by
  obtain ⟨-, hupper⟩ : c.val ≥ 'A'.val ∧ c.val ≤ 'Z'.val := of_decide_eq_true h
  refine dif_neg fun hlower => ?_
  have hle : c.val.toNat ≤ 90 := UInt32.le_iff_toNat_le.mp hupper
  have hge : 97 ≤ c.val.toNat := UInt32.le_iff_toNat_le.mp hlower.1
  omega

/-- The functions on ASCII text, on decimal numbers without a point, and on JSON texts without
quotes or controls. -/
def asciiText : TextFunctions where
  upper s := String.ofList (s.toList.map Char.toUpper)
  lower s := String.ofList (s.toList.map Char.toLower)
  isDigit s := !s.toList.isEmpty && s.toList.all Char.isDigit
  float s := (pyInt s.toList).map fun n => .finite n
  str
    | .str s => s
    | _      => ""
  repr
    | .str s => "'" ++ s ++ "'"
    | _      => ""
  upper_of_isUpper s h := by
    have hmap : s.toList.map Char.toUpper = s.toList :=
      (List.map_congr_left fun c hc => toUpper_of_isUpper (h c hc)).trans (List.map_id _)
    rw [hmap, String.ofList_toList]

end FleetMonitor.Library
