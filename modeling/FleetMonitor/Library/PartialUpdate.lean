import Mathlib.Data.List.Nodup

/-!
# Partial updates

A record is a list of fields. An update sends some fields, and a field that is not sent keeps its
value. A writer that leaves out the fields without a value can set a field but never clear one, so
what it leaves is the record it sends as long as the old record has none of the fields left out
(`lookup_overlay_eq_iff`).
-/

namespace FleetMonitor.Library.PartialUpdate

variable {κ ν : Type*} [DecidableEq κ]

/-- The fields of a record after an update. -/
def overlay (sent old : List (κ × ν)) : List (κ × ν) :=
  sent ++ old.filter fun field => field.1 ∉ sent.map Prod.fst

/-- What is sent of a record: the fields that have a value. -/
def sentFields (fields : List (κ × Option ν)) : List (κ × ν) :=
  fields.filterMap fun field => field.2.map fun v => (field.1, v)

/-- The value of a field after it has been sent, or not, in every one of some updates. -/
def lastSent (old : Option ν) (sends : List (Option ν)) : Option ν :=
  sends.foldl (fun value sent => sent.or value) old

variable {sent old : List (κ × ν)} {k : κ}

lemma lookup_eq_none_iff_notMem {fields : List (κ × ν)} :
    fields.lookup k = none ↔ k ∉ fields.map Prod.fst := by
  rw [List.lookup_eq_none_iff, List.mem_map]
  constructor
  · rintro h ⟨field, hfield, rfl⟩
    simpa using h field hfield
  · intro h field hfield
    rw [bne_iff_ne]
    rintro rfl
    exact h ⟨field, hfield, rfl⟩

lemma lookup_filter_key {p : κ → Bool} (h : p k = true) (fields : List (κ × ν)) :
    (fields.filter fun field => p field.1).lookup k = fields.lookup k := by
  induction fields with
  | nil => rfl
  | cons field fields ih =>
    obtain ⟨key, v⟩ := field
    by_cases hkey : k = key
    · subst hkey
      simp [h]
    · have hne : (k == key) = false := by simpa using hkey
      cases hp : p key with
      | true => simp [hp, List.lookup_cons, hne, ih]
      | false => simp [hp, List.lookup_cons, hne, ih]

lemma lookup_of_mem {ω : Type*} {fields : List (κ × ω)} (h : (fields.map Prod.fst).Nodup)
    {field : κ × ω} (hmem : field ∈ fields) : fields.lookup field.1 = some field.2 := by
  obtain ⟨before, after, rfl⟩ := List.append_of_mem hmem
  rw [List.map_append, List.map_cons, List.nodup_middle, List.nodup_cons, List.mem_append,
    not_or] at h
  have hbefore : before.lookup field.1 = none := lookup_eq_none_iff_notMem.mpr h.1.1
  rw [List.lookup_append, hbefore, Option.none_or]
  exact List.lookup_cons_self

/-- An update writes the fields it sends, and no others. -/
lemma lookup_overlay : (overlay sent old).lookup k = (sent.lookup k).or (old.lookup k) := by
  rw [overlay, List.lookup_append]
  cases hsent : sent.lookup k with
  | some v => rfl
  | none =>
    have hp : decide (k ∉ sent.map Prod.fst) = true :=
      decide_eq_true (lookup_eq_none_iff_notMem.mp hsent)
    exact congrArg _ (lookup_filter_key (p := fun key => decide (key ∉ sent.map Prod.fst)) hp old)

lemma lookup_sentFields {fields : List (κ × Option ν)} (h : (fields.map Prod.fst).Nodup) :
    (sentFields fields).lookup k = (fields.lookup k).join := by
  induction fields with
  | nil => rfl
  | cons field fields ih =>
    obtain ⟨key, v⟩ := field
    rw [List.map_cons, List.nodup_cons] at h
    have hrest := ih h.2
    by_cases hkey : k = key
    · subst hkey
      have hnone : fields.lookup k = none := lookup_eq_none_iff_notMem.mpr h.1
      rw [hnone] at hrest
      cases v with
      | none => simpa [sentFields] using hrest
      | some v => simp [sentFields]
    · have hne : (k == key) = false := by simpa using hkey
      cases v with
      | none => simpa [sentFields, List.lookup_cons, hne] using hrest
      | some v => simpa [sentFields, List.lookup_cons, hne] using hrest

@[simp] lemma lastSent_nil (value : Option ν) : lastSent value [] = value := rfl

lemma lastSent_concat (value : Option ν) (sends : List (Option ν)) (sent : Option ν) :
    lastSent value (sends ++ [sent]) = sent.or (lastSent value sends) := by
  simp [lastSent]

/-- A field is missing in the end iff it has been all along and no update has sent it. -/
lemma lastSent_eq_none_iff {value : Option ν} {sends : List (Option ν)} :
    lastSent value sends = none ↔ value = none ∧ ∀ sent ∈ sends, sent = none := by
  induction sends generalizing value with
  | nil => simp
  | cons sent sends ih =>
    have hcons : lastSent value (sent :: sends) = lastSent (sent.or value) sends := rfl
    rw [hcons, ih, Option.or_eq_none_iff, List.forall_mem_cons]
    tauto

end FleetMonitor.Library.PartialUpdate
