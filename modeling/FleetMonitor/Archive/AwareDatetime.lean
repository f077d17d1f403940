import FleetMonitor.Archive.ArchiveWrites

/-!
# Datetimes with a time zone

A datetime is what the clock on the wall shows, together with a zone that tells how far it is ahead
of UTC. `date` and the difference with a `timedelta` go by the wall; comparisons go by the instant.
-/

namespace FleetMonitor

open Library

instance : DecidablePred IsDatetime := fun _ => inferInstanceAs (Decidable (_ ∧ _))

/-! ### Datetimes in UTC -/

/-- A `datetime` in UTC. -/
structure UtcDatetime where
  instant : Instant
  isDatetime : IsDatetime instant

namespace UtcDatetime

variable (t u : UtcDatetime)

lemma utcDate_bounds : minDate ≤ utcDate t.instant ∧ utcDate t.instant ≤ maxDate := by
  obtain ⟨hlow, hhigh⟩ := t.isDatetime
  have hbounds : ∀ n : ℤ, -62135596800000000 ≤ n → n < 253402300800000000 →
      -719162 ≤ n / 86400000000 ∧ n / 86400000000 ≤ 2932896 := by
    intro n hlow hhigh
    omega
  exact hbounds t.instant hlow hhigh

/-- The year, month and day. -/
def civilDate : CivilDate :=
  .ofOrdinal (utcDate t.instant + 719163 : ℤ).toNat <| by
    obtain ⟨hlow, hhigh⟩ := t.utcDate_bounds
    have hbounds : ∀ n : ℤ, -719162 ≤ n → n ≤ 2932896 →
        1 ≤ (n + 719163).toNat ∧ (n + 719163).toNat ≤ CivilDate.maxOrdinal := by
      intro n hlow hhigh
      unfold CivilDate.maxOrdinal
      omega
    exact hbounds _ hlow hhigh

lemma dateOf_civilDate : dateOf t.civilDate = utcDate t.instant := by
  obtain ⟨hlow, -⟩ := t.utcDate_bounds
  have hcast : ∀ n : ℤ, -719162 ≤ n → ((n + 719163).toNat : ℤ) - 719163 = n := by
    intro n hlow
    omega
  rw [dateOf, civilDate, CivilDate.ordinal_ofOrdinal]
  exact hcast _ hlow

/-- The hours since the epoch. -/
def hours : ℤ := t.instant / 3600000000

def hour : ℕ := (t.hours % 24).toNat

/-- The datetime with its minutes cut off. -/
def truncateHour : UtcDatetime where
  instant := (t.hours * 3600000000 : ℤ)
  isDatetime := by
    have hbounds : ∀ n : ℤ, -62135596800000000 ≤ n → n < 253402300800000000 →
        -62135596800000000 ≤ n / 3600000000 * 3600000000 ∧
          n / 3600000000 * 3600000000 < 253402300800000000 := by
      intro n hlow hhigh
      omega
    exact hbounds t.instant t.isDatetime.1 t.isDatetime.2

/-- The datetime is a full hour. -/
def IsFullHour : Prop := t.instant = (t.hours * 3600000000 : ℤ)

def minute : ℕ := (t.instant / 60000000 % 60 : ℤ).toNat

def second : ℕ := (t.instant / 1000000 % 60 : ℤ).toNat

def microsecond : ℕ := (t.instant % 1000000 : ℤ).toNat

variable {t u}

lemma utcDate_eq_hours : utcDate t.instant = t.hours / 24 := by
  rw [utcDate, hours, Int.ediv_ediv_of_nonneg (by decide)]
  rfl

lemma hours_truncateHour : t.truncateHour.hours = t.hours := by
  have hdiv : ∀ n : ℤ, n * 3600000000 / 3600000000 = n := by
    intro n
    omega
  exact hdiv t.hours

variable (t) in
lemma isFullHour_truncateHour : t.truncateHour.IsFullHour := by
  rw [IsFullHour, hours_truncateHour]
  rfl

lemma hours_add_hour (h : IsDatetime (t.instant + 3600000000 : ℤ)) :
    UtcDatetime.hours ⟨_, h⟩ = t.hours + 1 := by
  have hdiv : ∀ n : ℤ, (n + 3600000000) / 3600000000 = n / 3600000000 + 1 := by
    intro n
    omega
  exact hdiv t.instant

lemma IsFullHour.add_hour (hfull : t.IsFullHour) (h : IsDatetime (t.instant + 3600000000 : ℤ)) :
    IsFullHour ⟨_, h⟩ := by
  rw [IsFullHour, hours_add_hour, Int.add_mul, ← hfull]
  rfl

/-- A full hour is not after a datetime when it is not after its hour. -/
lemma IsFullHour.le_iff (h : t.IsFullHour) : t.instant ≤ u.instant ↔ t.hours ≤ u.hours := by
  rw [h]
  exact (Int.le_ediv_iff_mul_le (by decide)).symm

lemma isDatetime_add_hour (hle : t.instant ≤ u.instant)
    (h : IsDatetime (u.instant + 3600000000 : ℤ)) : IsDatetime (t.instant + 3600000000 : ℤ) := by
  have hbounds : ∀ low m n high : ℤ, low ≤ m → m ≤ n → n + 3600000000 < high →
      low ≤ m + 3600000000 ∧ m + 3600000000 < high := by
    intro low m n high
    omega
  exact hbounds _ _ _ _ t.isDatetime.1 hle h.2

/-- The hour since the epoch is the date and the hour of the day. -/
lemma hours_eq_iff : t.hours = u.hours ↔ t.civilDate = u.civilDate ∧ t.hour = u.hour := by
  have hdate : t.civilDate = u.civilDate ↔ t.hours / 24 = u.hours / 24 := by
    rw [← dateOf_injective.eq_iff, dateOf_civilDate, dateOf_civilDate, utcDate_eq_hours,
      utcDate_eq_hours]
  rw [hdate, hour, hour]
  omega

end UtcDatetime

/-! ### Zones -/

/-- A time zone: how far a wall time is ahead of UTC, the second time around if `fold` is set. -/
structure TimeZone where
  utcoffset : Instant → Bool → ℤ
  bounds : ∀ wall fold, -86400000000 < utcoffset wall fold ∧ utcoffset wall fold < 86400000000

/-- `timezone(offset)`. -/
def TimeZone.fixed (offset : ℤ) (h : -86400000000 < offset ∧ offset < 86400000000) : TimeZone where
  utcoffset _ _ := offset
  bounds _ _ := h

/-- A timezone-aware `datetime`. -/
structure AwareDatetime where
  wall : Instant
  fold : Bool
  zone : TimeZone
  isDatetime : IsDatetime wall

namespace AwareDatetime

variable (t : AwareDatetime)

def instant : Instant := t.wall - t.zone.utcoffset t.wall t.fold

/-- `t.date()`. -/
def date : Date := utcDate t.wall

/-- `t - delta`; none is an `OverflowError`. -/
def sub (delta : ℤ) : Option AwareDatetime :=
  if h : IsDatetime (t.wall - delta) then some ⟨t.wall - delta, false, t.zone, h⟩ else none

/-- `t.astimezone(UTC)`; none is an `OverflowError`. -/
def astimezoneUtc : Option UtcDatetime :=
  if h : IsDatetime t.instant then some ⟨t.instant, h⟩ else none

variable {t}

lemma instant_of_astimezoneUtc {u : UtcDatetime} (h : t.astimezoneUtc = some u) :
    u.instant = t.instant := by
  unfold astimezoneUtc at h
  split_ifs at h
  obtain rfl := Option.some.inj h
  rfl

end AwareDatetime

end FleetMonitor
