import FleetMonitor.Library.NewestWins
import FleetMonitor.Library.Runs
import FleetMonitor.Positions.CurrentPositions

/-!
# The order of polls

Polls can come late and more than once. The statement that upserts them decides column by column
which value stays; together the columns are those of the newest row of the aircraft
(`upsertPosition_content`), so `app.current_positions` is a store of newest rows: of those that its
columns can hold, and as they hold them.
-/

namespace FleetMonitor

open Library Library.NewestWins

/-! ### Content -/

/-- What a poll says of an aircraft: the columns but `aircraft_type` and `updated_at`. -/
structure PositionContent where
  icao24 : String
  callsign : Option String
  lat : ℚ
  lon : ℚ
  altitudeFt : Option ℤ
  speedKt : Option ℤ
  headingDeg : Option ℤ
  verticalRateFpm : Option ℤ
  onGround : Bool
  squawk : Option String
  customerRegion : Option CustomerRegion
  lastSeenAt : Instant
  deriving DecidableEq, Repr

def CurrentPosition.content (p : CurrentPosition) : PositionContent where
  icao24 := p.icao24
  callsign := p.callsign
  lat := p.lat
  lon := p.lon
  altitudeFt := p.altitudeFt
  speedKt := p.speedKt
  headingDeg := p.headingDeg
  verticalRateFpm := p.verticalRateFpm
  onGround := p.onGround
  squawk := p.squawk
  customerRegion := p.customerRegion
  lastSeenAt := p.lastSeenAt

/-- The content of a polled row as the columns hold it; without a position time it is as of the
poll. -/
def PositionColumns.content (columns : PositionColumns) (row : PositionSnapshot) :
    PositionContent where
  icao24 := row.icao24
  callsign := row.callsign
  lat := columns.numeric row.lat
  lon := columns.numeric row.lon
  altitudeFt := row.altitudeFt
  speedKt := row.speedKt
  headingDeg := row.headingDeg
  verticalRateFpm := row.verticalRateFpm
  onGround := row.onGround
  squawk := row.squawk
  customerRegion := row.customerRegion
  lastSeenAt := row.tsPosition.getD row.tsPolled

@[simp] lemma CurrentPosition.content_icao24 (p : CurrentPosition) :
    p.content.icao24 = p.icao24 := rfl

@[simp] lemma CurrentPosition.content_lastSeenAt (p : CurrentPosition) :
    p.content.lastSeenAt = p.lastSeenAt := rfl

@[simp] lemma store_excludedRow_content (columns : PositionColumns) (now : Instant)
    (aircraftTypes : Dict String) (row : PositionSnapshot) :
    (columns.store (excludedRow now aircraftTypes row)).content = columns.content row := rfl

/-- What a table says of an aircraft. -/
def contentOf (positions : CurrentPositions) (icao24 : String) : Option PositionContent :=
  (positions.lookup icao24).map CurrentPosition.content

/-! ### Upserts -/

/-- A call of `_upsert_current_positions`: the pages of a poll, with the aircraft types looked up
for the poll. They are the statements of one transaction. -/
structure PositionsUpsert where
  now : Instant
  aircraftTypes : Dict String
  pages : List (List PositionSnapshot)

variable (columns : PositionColumns)

/-- The statement of one page. -/
def PositionsUpsert.statement (u : PositionsUpsert) (positions : CurrentPositions)
    (page : List PositionSnapshot) : Option CurrentPositions :=
  upsertCurrentPositions columns u.now positions (page.map (excludedRow u.now u.aircraftTypes))

def PositionsUpsert.run (u : PositionsUpsert) (positions : CurrentPositions) :
    Option CurrentPositions :=
  runActions (u.statement columns) positions u.pages

/-- The table after some calls; a call with a statement that fails is rolled back. -/
def commitAll (positions : CurrentPositions) (upserts : List PositionsUpsert) : CurrentPositions :=
  upserts.foldl (fun positions u => (u.run columns positions).getD positions) positions

/-- Every statement has one row per aircraft. -/
def PositionsUpsert.OneRowEach (u : PositionsUpsert) : Prop :=
  ∀ page ∈ u.pages, (page.map PositionSnapshot.icao24).Nodup

/-- The columns can hold all that is sent. -/
def PositionsUpsert.Fits (u : PositionsUpsert) : Prop :=
  ∀ page ∈ u.pages, ∀ row ∈ page, columns.fits (excludedRow u.now u.aircraftTypes row) = true

instance : DecidablePred (PositionsUpsert.Fits columns) := fun _ =>
  inferInstanceAs (Decidable (∀ page ∈ _, ∀ row ∈ page, _ = true))

/-- The rows that are stored by a call. -/
def PositionsUpsert.storedRows (u : PositionsUpsert) : List PositionSnapshot :=
  if u.Fits columns then u.pages.flatten else []

/-- The rows that are stored by some calls. -/
def storedBy (upserts : List PositionsUpsert) : Set PositionSnapshot :=
  {row | ∃ u ∈ upserts, row ∈ u.storedRows columns}

/-- The contents that a table and some polled rows have. -/
def knownContents (positions : CurrentPositions) (polled : Set PositionSnapshot) :
    Set PositionContent :=
  {c | (∃ p ∈ positions.rows, p.content = c) ∨ ∃ row ∈ polled, columns.content row = c}

variable {columns} {now : Instant} {positions after : CurrentPositions}
  {polled : Set PositionSnapshot} {upserts : List PositionsUpsert} {u : PositionsUpsert}
  {page : List PositionSnapshot} {pages : List (List PositionSnapshot)}

/-- All columns of a conflict come from one row. -/
lemma onConflict_content (old excluded : CurrentPosition) :
    (onConflict now old excluded).content =
      if old.lastSeenAt < excluded.lastSeenAt then { excluded.content with icao24 := old.icao24 }
      else old.content := by
  by_cases hnewer : old.lastSeenAt < excluded.lastSeenAt
  · have hmax : max excluded.lastSeenAt old.lastSeenAt = excluded.lastSeenAt :=
      max_eq_left hnewer.le
    simp only [onConflict, CurrentPosition.content, if_pos hnewer, hmax]
  · have hmax : max excluded.lastSeenAt old.lastSeenAt = old.lastSeenAt :=
      max_eq_right (not_lt.mp hnewer)
    simp only [onConflict, CurrentPosition.content, if_neg hnewer, hmax]

/-- One row of a statement is merged into the store of newest rows. -/
lemma upsertPosition_content (row : CurrentPosition) :
    contentOf (upsertPosition now positions row) =
      merge PositionContent.icao24 PositionContent.lastSeenAt (contentOf positions)
        row.content := by
  funext icao24
  have hmerge_ne : row.icao24 ≠ icao24 →
      merge PositionContent.icao24 PositionContent.lastSeenAt (contentOf positions) row.content
        icao24 = contentOf positions icao24 := fun h => merge_of_ne h.symm
  unfold contentOf upsertPosition
  cases hold : positions.lookup row.icao24 with
  | none =>
    by_cases hkey : row.icao24 = icao24
    · subst hkey
      simp [merge, hold]
    · rw [Table.lookup_upsert_of_ne _ hkey]
      exact (hmerge_ne hkey).symm
  | some old =>
    have hicao24 : old.icao24 = row.icao24 := Table.key_of_lookup hold
    by_cases hkey : row.icao24 = icao24
    · subst hkey
      have hlookup : (positions.upsert (onConflict now old row)).lookup row.icao24 =
          some (onConflict now old row) := by
        rw [Table.lookup_upsert, if_pos (by exact hicao24)]
      rw [hlookup, Option.map_some, onConflict_content, hicao24]
      simp [merge, hold, newer]
      rfl
    · have hne : (onConflict now old row).icao24 ≠ icao24 := by
        intro heq
        exact hkey (hicao24.symm.trans heq)
      rw [Table.lookup_upsert_of_ne _ hne]
      exact (hmerge_ne hkey).symm

/-- A table has its own rows. -/
lemma holds_contentOf (positions : CurrentPositions) :
    Holds PositionContent.icao24 PositionContent.lastSeenAt (knownContents columns positions ∅)
      (contentOf positions) := by
  intro icao24
  unfold contentOf
  cases hold : positions.lookup icao24 with
  | none =>
    refine Set.eq_empty_of_forall_notMem ?_
    rintro c ⟨⟨p, hp, rfl⟩ | ⟨row, hrow, -⟩, hkey⟩
    · exact Table.lookup_eq_none_iff.mp hold p hp hkey
    · exact hrow
  | some old =>
    obtain ⟨hmem, hicao24⟩ := Table.lookup_eq_some_iff.mp hold
    refine ⟨⟨.inl ⟨old, hmem, rfl⟩, hicao24⟩, ?_⟩
    rintro c ⟨⟨p, hp, rfl⟩ | ⟨row, hrow, -⟩, hkey⟩
    · obtain rfl : p = old := by
        have hlookup := Table.lookup_of_mem hp
        rw [show p.icao24 = icao24 from hkey, hold] at hlookup
        exact (Option.some.inj hlookup).symm
      exact le_rfl
    · exact hrow.elim

/-- A statement merges its rows, or has one that its columns cannot hold. -/
lemma PositionsUpsert.statement_content (heach : (page.map PositionSnapshot.icao24).Nodup)
    (hfits : ∀ row ∈ page, columns.fits (excludedRow u.now u.aircraftTypes row) = true) :
    ∃ after, u.statement columns positions page = some after ∧
      contentOf after = (page.map columns.content).foldl
        (merge PositionContent.icao24 PositionContent.lastSeenAt) (contentOf positions) := by
  have hkeys : (page.map (excludedRow u.now u.aircraftTypes)).map CurrentPosition.icao24 =
      page.map PositionSnapshot.icao24 := by
    rw [List.map_map]
    rfl
  have hstored : (∀ row ∈ page.map (excludedRow u.now u.aircraftTypes), columns.fits row = true) ∧
      ((page.map (excludedRow u.now u.aircraftTypes)).map CurrentPosition.icao24).Nodup :=
    ⟨List.forall_mem_map.mpr hfits, hkeys ▸ heach⟩
  refine ⟨_, by rw [statement, upsertCurrentPositions, if_pos hstored], ?_⟩
  clear hstored hkeys heach hfits
  rw [List.map_map, List.foldl_map, List.foldl_map]
  induction page generalizing positions with
  | nil => rfl
  | cons row rows ih =>
    rw [List.foldl_cons, List.foldl_cons, ih, upsertPosition_content, Function.comp_apply,
      store_excludedRow_content]

lemma PositionsUpsert.statement_eq_none
    (hfits : ¬∀ row ∈ page, columns.fits (excludedRow u.now u.aircraftTypes row) = true) :
    u.statement columns positions page = none := by
  rw [statement, upsertCurrentPositions, if_neg]
  rintro ⟨hall, -⟩
  exact hfits (List.forall_mem_map.mp hall)

variable (positions) in
/-- The statements of a call merge its rows. -/
lemma PositionsUpsert.pages_content
    (heach : ∀ page ∈ pages, (page.map PositionSnapshot.icao24).Nodup)
    (hfits : ∀ page ∈ pages, ∀ row ∈ page,
      columns.fits (excludedRow u.now u.aircraftTypes row) = true) :
    ∃ after, runActions (u.statement columns) positions pages = some after ∧
      contentOf after = (pages.flatten.map columns.content).foldl
        (merge PositionContent.icao24 PositionContent.lastSeenAt) (contentOf positions) := by
  induction pages generalizing positions with
  | nil => exact ⟨positions, rfl, rfl⟩
  | cons page pages ih =>
    obtain ⟨hpage, hpages⟩ := List.forall_mem_cons.mp heach
    obtain ⟨hpageFits, hpagesFit⟩ := List.forall_mem_cons.mp hfits
    obtain ⟨middle, hrun, hmiddle⟩ := u.statement_content hpage hpageFits
    obtain ⟨after, hafter, hcontent⟩ := ih middle hpages hpagesFit
    refine ⟨after, ?_, ?_⟩
    · rw [runActions, hrun]
      exact hafter
    · rw [hcontent, hmiddle, List.flatten_cons, List.map_append, List.foldl_append]

lemma PositionsUpsert.pages_eq_none
    (hfits : ¬∀ page ∈ pages, ∀ row ∈ page,
      columns.fits (excludedRow u.now u.aircraftTypes row) = true) :
    runActions (u.statement columns) positions pages = none := by
  induction pages generalizing positions with
  | nil => exact absurd (by simp) hfits
  | cons page pages ih =>
    rw [runActions]
    by_cases hpage : ∀ row ∈ page, columns.fits (excludedRow u.now u.aircraftTypes row) = true
    · cases u.statement columns positions page with
      | none => rfl
      | some middle =>
        exact ih fun hpages => hfits (List.forall_mem_cons.mpr ⟨hpage, hpages⟩)
    · rw [statement_eq_none hpage]
      rfl

/-- A call succeeds exactly when the columns can hold what it sends. -/
lemma PositionsUpsert.run_isSome_iff (heach : u.OneRowEach) :
    (u.run columns positions).isSome ↔ u.Fits columns := by
  by_cases hfits : u.Fits columns
  · obtain ⟨after, hafter, -⟩ := u.pages_content positions heach hfits
    simp [run, hafter, hfits]
  · simp [run, pages_eq_none hfits, hfits]

/-- A call merges the rows it stores. -/
lemma PositionsUpsert.run_content (heach : u.OneRowEach) :
    contentOf ((u.run columns positions).getD positions) =
      ((u.storedRows columns).map columns.content).foldl
        (merge PositionContent.icao24 PositionContent.lastSeenAt) (contentOf positions) := by
  rw [run, storedRows]
  split_ifs with hfits
  · obtain ⟨after, hafter, hcontent⟩ := u.pages_content positions heach hfits
    rw [hafter, Option.getD_some, hcontent]
  · rw [pages_eq_none hfits]
    rfl

variable (positions) in
/-- Some calls merge the rows they store. -/
lemma commitAll_content (heach : ∀ u ∈ upserts, u.OneRowEach) :
    contentOf (commitAll columns positions upserts) =
      ((upserts.flatMap (·.storedRows columns)).map columns.content).foldl
        (merge PositionContent.icao24 PositionContent.lastSeenAt) (contentOf positions) := by
  induction upserts generalizing positions with
  | nil => rfl
  | cons u upserts ih =>
    obtain ⟨hu, hupserts⟩ := List.forall_mem_cons.mp heach
    have hrest := ih ((u.run columns positions).getD positions) hupserts
    rw [u.run_content hu, ← List.foldl_append, ← List.map_append, ← List.flatMap_cons] at hrest
    exact hrest

variable (columns positions) in
/-- A table after some calls has the newest of what was known of every aircraft. -/
lemma holds_commitAll (heach : ∀ u ∈ upserts, u.OneRowEach) :
    Holds PositionContent.icao24 PositionContent.lastSeenAt
      (knownContents columns positions (storedBy columns upserts))
      (contentOf (commitAll columns positions upserts)) := by
  have hknown : knownContents columns positions (storedBy columns upserts) =
      knownContents columns positions ∅ ∪
        {c | c ∈ (upserts.flatMap (·.storedRows columns)).map columns.content} := by
    ext c
    simp only [knownContents, storedBy, Set.mem_union, Set.mem_ofPred_eq, Set.mem_empty_iff_false,
      false_and, exists_false, or_false, List.mem_map, List.mem_flatMap]
  rw [commitAll_content positions heach, hknown]
  exact (holds_contentOf positions).foldl _

/-- No call takes an aircraft back in time. -/
lemma PositionsUpsert.lastSeenAt_le (heach : u.OneRowEach) {icao24 : String} {old : CurrentPosition}
    (hold : positions.lookup icao24 = some old) :
    ∃ new, ((u.run columns positions).getD positions).lookup icao24 = some new ∧
      old.lastSeenAt ≤ new.lastSeenAt := by
  have hcontentOld : contentOf positions icao24 = some old.content := by rw [contentOf, hold]; rfl
  obtain ⟨c, hc, hle⟩ := exists_le_of_foldl PositionContent.lastSeenAt PositionContent.icao24
    ((u.storedRows columns).map columns.content) hcontentOld
  rw [← u.run_content heach] at hc
  obtain ⟨new, hnew, rfl⟩ := Option.map_eq_some_iff.mp hc
  exact ⟨new, hnew, hle⟩

/-- In whatever order polls come, in whatever statements and however often, the table ends with the
newest of the stored rows of every aircraft, as the columns hold it; a call is rolled back exactly
when it has a value that its column cannot hold. On the way no aircraft goes back in time, and at
the end nothing changes when polls come again. -/
theorem polls_converge (columns : PositionColumns) (positions : CurrentPositions)
    (upserts : List PositionsUpsert) (heach : ∀ u ∈ upserts, u.OneRowEach)
    (hdistinct : StampsDistinct PositionContent.icao24 PositionContent.lastSeenAt
      (knownContents columns positions (storedBy columns upserts))) :
    let after := commitAll columns positions upserts
    (∀ u ∈ upserts, ∀ before, (u.run columns before).isSome ↔ u.Fits columns) ∧
      (∀ icao24, NewestWins.IsNewest PositionContent.lastSeenAt
        {c ∈ knownContents columns positions (storedBy columns upserts) | c.icao24 = icao24}
        (contentOf after icao24)) ∧
      (∀ upserts' : List PositionsUpsert, (∀ u ∈ upserts', u.OneRowEach) →
        storedBy columns upserts' = storedBy columns upserts →
        contentOf (commitAll columns positions upserts') = contentOf after) ∧
      (∀ first u second, upserts = first ++ u :: second →
        ∀ icao24 old, (commitAll columns positions first).lookup icao24 = some old →
          ∃ new, (commitAll columns positions (first ++ [u])).lookup icao24 = some new ∧
            old.lastSeenAt ≤ new.lastSeenAt) ∧
      ∀ again : List PositionsUpsert, (∀ u ∈ again, u.OneRowEach) →
        storedBy columns again ⊆ storedBy columns upserts →
        contentOf (commitAll columns after again) = contentOf after := by
  intro after
  have hholds : Holds PositionContent.icao24 PositionContent.lastSeenAt _ (contentOf after) :=
    holds_commitAll columns positions heach
  refine ⟨fun u hu before => PositionsUpsert.run_isSome_iff (heach u hu), hholds,
    fun upserts' heach' hsame => ?_, fun first u second hsplit icao24 old hold => ?_,
    fun again heachAgain hagain => ?_⟩
  · have hholds' := holds_commitAll columns positions heach'
    rw [hsame] at hholds'
    exact hholds'.unique hdistinct hholds
  · rw [commitAll, List.foldl_append]
    exact PositionsUpsert.lastSeenAt_le (heach u (by simp [hsplit])) hold
  · rw [commitAll_content after heachAgain]
    refine hholds.foldl_eq hdistinct fun c hc => ?_
    obtain ⟨row, hrow, rfl⟩ := List.mem_map.mp hc
    obtain ⟨u, hu, hrow⟩ := List.mem_flatMap.mp hrow
    exact .inr ⟨row, hagain ⟨u, hu, hrow⟩, rfl⟩

/-! ### One aircraft -/

/-- A poll of an aircraft at a time. -/
def polledAt (icao24 : String) (lastSeenAt : Instant) (lat : ℚ) (altitudeFt : ℤ) :
    PositionSnapshot where
  icao24
  callsign := none
  originCountry := none
  lat
  lon := 0
  altitudeFt := some altitudeFt
  speedKt := none
  headingDeg := none
  verticalRateFpm := none
  onGround := false
  squawk := none
  tsPolled := lastSeenAt
  tsPosition := none
  customerRegion := none

def onePage (page : List PositionSnapshot) : PositionsUpsert := ⟨0, fun _ => none, [page]⟩

/-- The late poll of the two comes first; a third one is rolled back. -/
def threePolls : List PositionsUpsert :=
  [onePage [polledAt "a1b2c3" 2 (5 + 4 / 10 ^ 6) 0], onePage [polledAt "a1b2c3" 1 4 0],
    onePage [polledAt "a1b2c3" 3 6 (2 ^ 31)]]

lemma mem_known_threePolls (c : PositionContent) :
    c ∈ knownContents postgresColumns Table.empty (storedBy postgresColumns threePolls) ↔
      c ∈ [postgresColumns.content (polledAt "a1b2c3" 2 5 0),
        postgresColumns.content (polledAt "a1b2c3" 1 4 0)] := by
  have hlist : (threePolls.flatMap (·.storedRows postgresColumns)).map postgresColumns.content =
      [postgresColumns.content (polledAt "a1b2c3" 2 5 0),
        postgresColumns.content (polledAt "a1b2c3" 1 4 0)] := by
    decide +kernel
  rw [← hlist]
  simp [knownContents, storedBy, Table.empty]

theorem two_polls_converge :
    contentOf (commitAll postgresColumns Table.empty threePolls) "a1b2c3" =
      some (postgresColumns.content (polledAt "a1b2c3" 2 5 0)) := by
  obtain ⟨-, hnewest, -⟩ := polls_converge postgresColumns Table.empty threePolls
    (by simp [threePolls, onePage, PositionsUpsert.OneRowEach])
    (by
      intro c hc c' hc'
      rw [mem_known_threePolls] at hc hc'
      revert c c'
      decide +kernel)
  have h := hnewest "a1b2c3"
  have hmem : postgresColumns.content (polledAt "a1b2c3" 2 5 0) ∈
      {c ∈ knownContents postgresColumns Table.empty (storedBy postgresColumns threePolls) |
        c.icao24 = "a1b2c3"} :=
    ⟨(mem_known_threePolls _).mpr List.mem_cons_self, rfl⟩
  cases hcontent : contentOf (commitAll postgresColumns Table.empty threePolls) "a1b2c3" with
  | none =>
    rw [hcontent] at h
    exact absurd (h ▸ hmem) (Set.notMem_empty _)
  | some c =>
    rw [hcontent] at h
    obtain ⟨⟨hc, -⟩, hle⟩ := h
    rcases List.mem_cons.mp ((mem_known_threePolls c).mp hc) with rfl | hc
    · rfl
    · obtain rfl := List.mem_singleton.mp hc
      exact absurd (hle _ hmem) (by decide)

/-- A value that its column cannot hold takes the other rows of its call with it, and a coordinate
is stored with five decimals. -/
theorem polls_do_not_converge :
    contentOf (commitAll postgresColumns Table.empty
        [onePage [polledAt "a1b2c3" 1 5 0], onePage [polledAt "b1b2c3" 1 5 (2 ^ 31)]]) "a1b2c3" ≠
      contentOf (commitAll postgresColumns Table.empty
        [onePage [polledAt "a1b2c3" 1 5 0, polledAt "b1b2c3" 1 5 (2 ^ 31)]]) "a1b2c3" ∧
    (contentOf (commitAll postgresColumns Table.empty
        [onePage [polledAt "a1b2c3" 1 (5 + 4 / 10 ^ 6) 0]]) "a1b2c3").map PositionContent.lat ≠
      some (polledAt "a1b2c3" 1 (5 + 4 / 10 ^ 6) 0).lat := by
  decide +kernel

end FleetMonitor
