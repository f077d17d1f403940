import FleetMonitor.Foundry.FlightEnrichment
import FleetMonitor.Library.Collapse
import Mathlib.Data.Finset.Card

/-!
# The path of a trail

`_linestring` looks back at the last coordinate it kept. What it makes of a trail is the list of the
trail's coordinates with its runs collapsed, unless fewer than two coordinates are left, which a
tenant takes for no line at all.
-/

namespace FleetMonitor

open Library

/-- The coordinates of a trail, longitude first. -/
def coordinates (points : List TrailPoint) : List (ℚ × ℚ) := points.map fun p => (p.lon, p.lat)

/-- A line that is the path of a trail. -/
structure IsPathOf (points : List TrailPoint) (line : List (ℚ × ℚ)) : Prop where
  two_le : 2 ≤ line.length
  isChain : line.IsChain (· ≠ ·)
  head : line.head? = (coordinates points).head?
  getLast : line.getLast? = (coordinates points).getLast?
  collapsed : line = collapse (coordinates points)
  stable : collapse line = line
  again : ∀ more, coordinates more = line → linestring more = some line

/-- The loop collapses the coordinates. -/
lemma foldl_addCoordinate (points : List TrailPoint) :
    points.foldl addCoordinate [] = collapse (coordinates points) := by
  rw [← foldl_addNew, coordinates, List.foldl_map]
  rfl

lemma linestring_eq_none_iff (points : List TrailPoint) :
    linestring points = none ↔ (collapse (coordinates points)).length < 2 := by
  rw [linestring, foldl_addCoordinate]
  split_ifs with h
  · exact iff_of_true rfl h
  · exact iff_of_false not_false h

lemma linestring_eq_some_iff (points : List TrailPoint) (line : List (ℚ × ℚ)) :
    linestring points = some line ↔ 2 ≤ line.length ∧ line = collapse (coordinates points) := by
  rw [linestring, foldl_addCoordinate]
  split_ifs with h
  · refine iff_of_false not_false fun ⟨hlen, heq⟩ => ?_
    exact absurd (heq ▸ hlen) (not_le.mpr h)
  · constructor
    · rintro ⟨⟩
      exact ⟨not_lt.mp h, rfl⟩
    · rintro ⟨-, rfl⟩
      rfl

/-- The line of a trail is the path of every trail with its coordinates. -/
lemma isPathOf_of_linestring {points : List TrailPoint} {line : List (ℚ × ℚ)}
    (h : linestring points = some line) : IsPathOf points line := by
  obtain ⟨hlen, rfl⟩ := (linestring_eq_some_iff points line).mp h
  refine
    { two_le := hlen
      isChain := collapse_isChain _
      head := head?_collapse _
      getLast := getLast?_collapse _
      collapsed := rfl
      stable := collapse_collapse _
      again := fun more hmore => ?_ }
  apply (linestring_eq_some_iff more _).mpr
  rw [hmore, collapse_collapse]
  exact ⟨hlen, rfl⟩

/-- A trail has no line iff it has fewer than two distinct coordinates, and its line is its path. -/
theorem linestring_collapses (points : List TrailPoint) :
    (linestring points = none ↔ (coordinates points).toFinset.card < 2) ∧
      ∀ line ∈ linestring points, IsPathOf points line := by
  refine ⟨?_, fun line hline => isPathOf_of_linestring hline⟩
  rw [linestring_eq_none_iff, length_collapse_lt_two_iff, List.card_toFinset]

/-- An aircraft that waits, leaves, comes back and waits again. -/
def returningTrail : List TrailPoint :=
  [⟨0, 1, 2, none, none⟩, ⟨60, 1, 2, none, none⟩, ⟨120, 3, 4, none, none⟩, ⟨180, 1, 2, none, none⟩,
   ⟨240, 1, 2, none, none⟩]

theorem returningTrail_path : IsPathOf returningTrail [(2, 1), (4, 3), (2, 1)] :=
  (linestring_collapses returningTrail).2 _ (by decide)

end FleetMonitor
