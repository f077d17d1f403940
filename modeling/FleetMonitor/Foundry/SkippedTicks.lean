import FleetMonitor.Foundry.Materialization
import Mathlib.Data.List.Basic

/-!
# Skipped ticks

Sequences of ticks of `foundry_positions_sync` and `foundry_cases_sync`. A tick that is skipped
materializes without any state, and the tick after it reads its state from there: the watermark and
the maps of the detector are gone.
-/

namespace FleetMonitor

/-! ### The cases job -/

/-- `AfmApiClient.fetch_cases_for_sync` against the table as it is at each of its requests; `none`
when there are more pages than requests. -/
def drainTables (instanceUrl : Option String) :
    List CaseTable → List CaseForSync → Option Instant → Option (List CaseForSync × Option Instant)
  | [], _, _ => none
  | cases :: later, items, cursor =>
    let page := listForSync instanceUrl cases cursor casesPageSize
    let items := items ++ page.items
    let cursor := page.nextCursor.or cursor
    if page.truncated then drainTables instanceUrl later items cursor else some (items, cursor)

/-- `incremental_sync_cases`. -/
def incrementalSyncCases (instanceUrl : Option String) (since : Option Instant)
    (tables : List CaseTable) (batch : BatchResult) : Option (CaseSyncResult × List CaseForSync) :=
  (drainTables instanceUrl tables [] since).map fun (items, cursor) =>
    (⟨batch.attempted, batch.succeeded, batch.failed, cursor⟩, items)

/-! ### Ticks -/

/-- One tick of either asset. A tick that raises anything but `FoundrySyncSkipped` materializes
nothing. -/
inductive Tick where
  | positionsSkipped (reason : String)
  | positionsRan (response : PositionsLiveResponse) (writes : PositionsWrites)
  | positionsRaised
  | casesSkipped (reason : String)
  /-- The table at each request of the tick, and the answer of the writer. -/
  | casesRan (tables : List CaseTable) (batch : BatchResult)
  | casesRaised

/-- What a tick that completes hands to the writer. -/
inductive TickOutput where
  | edges (edges : DetectedEdges)
  | cases (since : Option Instant) (items : List CaseForSync)
  deriving DecidableEq, Repr

/-- The materializations of the two assets, newest first. The last three fields are for the
specification. -/
structure SyncState where
  positions : List Metadata := []
  cases : List Metadata := []
  /-- The result of the last tick that was not skipped. -/
  lastPositions : Option SyncResult := none
  lastCases : Option CaseSyncResult := none
  outputs : List TickOutput := []

variable (url : Option String)

def tick (s : SyncState) : Tick → SyncState
  | .positionsSkipped reason => { s with positions := skipped reason :: s.positions }
  | .positionsRan response writes =>
    let detector :=
      newDetector (priorDetectorState s.positions) (priorOpenFlightState s.positions)
    match incrementalSyncPositions detector response writes with
    | .error _ => s
    | .ok (result, edges) =>
      { s with
        positions := resultMetadata result :: s.positions
        lastPositions := some result
        outputs := s.outputs ++ [.edges edges] }
  | .positionsRaised => s
  | .casesSkipped reason => { s with cases := skipped reason :: s.cases }
  | .casesRan tables batch =>
    match incrementalSyncCases url (priorCursor s.cases) tables batch with
    | none => s
    | some (result, items) =>
      { s with
        cases := casesMetadata result :: s.cases
        lastCases := some result
        outputs := s.outputs ++ [.cases (priorCursor s.cases) items] }
  | .casesRaised => s

/-- A whole run, from no materialization at all. -/
def runTicks (ticks : List Tick) : SyncState := ticks.foldl (tick url) {}

def Tick.isSkip : Tick → Bool
  | .positionsSkipped _ => true
  | .casesSkipped _     => true
  | _                   => false

/-- The next tick of either asset reads back what the last tick that was not skipped persisted. -/
structure ReadsBack (s : SyncState) : Prop where
  cursor : priorCursor s.positions = s.lastPositions.bind SyncResult.cursor
  detector : priorDetectorState s.positions = s.lastPositions.bind SyncResult.detectorState
  openFlight : priorOpenFlightState s.positions = s.lastPositions.bind SyncResult.openFlightState
  cases : priorCursor s.cases = s.lastCases.bind CaseSyncResult.cursor

/-- Skips leave the state alone: it is read back at every point of the run, and the run detects the
edges and reads the cases that it would without its skips. -/
def SkipsTransparent (ticks : List Tick) : Prop :=
  (∀ done, done <+: ticks → ReadsBack (runTicks url done)) ∧
    (runTicks url ticks).outputs = (runTicks url (ticks.filter (!·.isSkip))).outputs

/-! ### When skips lose nothing -/

/-- A cases tick that, without a cursor, reads a case. -/
def ReadsCases : Tick → Prop
  | .casesRan tables _ => ∃ items t, drainTables url tables [] none = some (items, some t)
  | _                  => False

/-- The first tick gives its asset a state that the second one, a skip, loses. -/
def Loses (earlier : Tick) : Tick → Prop
  | .positionsSkipped _ => ∃ response writes, earlier = .positionsRan response writes
  | .casesSkipped _     => ReadsCases url earlier
  | _                   => False

variable {url} {s s' : SyncState} {ticks : List Tick}

@[simp] lemma runTicks_nil : runTicks url [] = {} := rfl

lemma runTicks_concat (ticks : List Tick) (t : Tick) :
    runTicks url (ticks ++ [t]) = tick url (runTicks url ticks) t := by
  rw [runTicks, List.foldl_append]
  rfl

lemma readsBack_start : ReadsBack {} := ⟨rfl, rfl, rfl, rfl⟩

/-- A tick that is not a skip keeps the state readable. -/
lemma ReadsBack.tick (h : ReadsBack s) {t : Tick} (ht : t.isSkip = false) :
    ReadsBack (tick url s t) := by
  cases t with
  | positionsSkipped reason => simp [Tick.isSkip] at ht
  | casesSkipped reason => simp [Tick.isSkip] at ht
  | positionsRaised => exact h
  | casesRaised => exact h
  | positionsRan response writes =>
    simp only [FleetMonitor.tick]
    split
    · exact h
    · exact ⟨by simp, by simp, by simp, h.cases⟩
  | casesRan tables batch =>
    simp only [FleetMonitor.tick]
    split
    · exact h
    · exact ⟨h.cursor, h.detector, h.openFlight, by simp⟩

/-- A skip of the positions asset loses nothing exactly when there is no state yet. -/
lemma readsBack_positionsSkipped_iff (h : ReadsBack s) (reason : String) :
    ReadsBack (tick url s (.positionsSkipped reason)) ↔
      s.lastPositions.bind SyncResult.cursor = none ∧
      s.lastPositions.bind SyncResult.detectorState = none ∧
      s.lastPositions.bind SyncResult.openFlightState = none := by
  constructor
  · intro hskip
    exact ⟨by simpa [tick] using hskip.cursor.symm, by simpa [tick] using hskip.detector.symm,
      by simpa [tick] using hskip.openFlight.symm⟩
  · rintro ⟨hc, hd, ho⟩
    exact ⟨by simp [tick, hc], by simp [tick, hd], by simp [tick, ho], h.cases⟩

lemma readsBack_casesSkipped_iff (h : ReadsBack s) (reason : String) :
    ReadsBack (tick url s (.casesSkipped reason)) ↔
      s.lastCases.bind CaseSyncResult.cursor = none := by
  constructor
  · intro hskip
    simpa [tick] using hskip.cases.symm
  · intro hc
    exact ⟨h.cursor, h.detector, h.openFlight, by simp [tick, hc]⟩

/-! ### What the last tick persisted -/

lemma drainTables_some (tables : List CaseTable) (items : List CaseForSync) (t : Instant) :
    ∀ r, drainTables url tables items (some t) = some r → r.2.isSome := by
  induction tables generalizing items t with
  | nil => simp [drainTables]
  | cons cases later ih =>
    intro r hr
    simp only [drainTables] at hr
    obtain ⟨c, hc⟩ : ∃ c, (listForSync url cases (some t) casesPageSize).nextCursor.or (some t) =
        some c := Option.isSome_iff_exists.mp (by simp)
    rw [hc] at hr
    split_ifs at hr
    · exact ih _ c r hr
    · obtain rfl := Option.some.inj hr
      rfl

/-- The state the last ticks have persisted, by the ticks so far. -/
structure Persisted (url : Option String) (ticks : List Tick) (s : SyncState) : Prop where
  positions : (∃ response writes, .positionsRan response writes ∈ ticks) →
    (s.lastPositions.bind SyncResult.cursor).isSome
  noPositions : (¬ ∃ response writes, .positionsRan response writes ∈ ticks) →
    s.lastPositions = none
  cases : (s.lastCases.bind CaseSyncResult.cursor).isSome ↔ ∃ t ∈ ticks, ReadsCases url t

lemma persisted_start : Persisted url [] {} :=
  ⟨by simp, fun _ => rfl, by simp⟩

/-- A tick that does not complete, or is of no interest here, persists nothing. -/
lemma Persisted.concat (h : Persisted url ticks s) {t : Tick}
    (hlast : s'.lastPositions = s.lastPositions)
    (hcases : s'.lastCases = s.lastCases)
    (hran : ∀ response writes, t ≠ .positionsRan response writes)
    (hreads : ReadsCases url t → (s.lastCases.bind CaseSyncResult.cursor).isSome) :
    Persisted url (ticks ++ [t]) s' where
  positions := by
    rintro ⟨response, writes, hmem⟩
    have hmem := (List.mem_append.mp hmem).resolve_right (by simpa using (hran _ _).symm)
    exact hlast ▸ h.positions ⟨response, writes, hmem⟩
  noPositions hno := by
    rw [hlast]
    apply h.noPositions
    rintro ⟨response, writes, hmem⟩
    exact hno ⟨response, writes, List.mem_append_left _ hmem⟩
  cases := by
    rw [hcases, h.cases]
    simp only [List.mem_append, List.mem_singleton, or_and_right, exists_or, exists_eq_left]
    constructor
    · exact .inl
    · rintro (hmem | ht)
      · exact hmem
      · exact h.cases.mp (hreads ht)

lemma Persisted.positionsRan (h : Persisted url ticks s) (hback : ReadsBack s)
    (response : PositionsLiveResponse) (writes : PositionsWrites) :
    Persisted url (ticks ++ [.positionsRan response writes])
      (tick url s (.positionsRan response writes)) := by
  have hcases : (∃ t ∈ ticks ++ [.positionsRan response writes], ReadsCases url t) ↔
      ∃ t ∈ ticks, ReadsCases url t := by
    simp [or_and_right, exists_or, ReadsCases]
  have hran : ∃ r w, Tick.positionsRan r w ∈ ticks ++ [.positionsRan response writes] :=
    ⟨response, writes, by simp⟩
  simp only [tick]
  split
  next e herr =>
    refine ⟨fun _ => ?_, fun hno => absurd hran hno, h.cases.trans hcases.symm⟩
    -- only a detector that knows an open flight can fail, so this is not the first tick
    by_cases hseen : ∃ r w, Tick.positionsRan r w ∈ ticks
    · exact h.positions hseen
    · have hnone := h.noPositions hseen
      rw [hback.detector, hback.openFlight, hnone] at herr
      obtain ⟨result, hok, -⟩ := incrementalSyncPositions_unseen response writes
      rw [Option.bind_none, Option.bind_none, hok] at herr
      simp at herr
  next result edges hok =>
    refine ⟨fun _ => ?_, fun hno => absurd hran hno, h.cases.trans hcases.symm⟩
    simp [(incrementalSyncPositions_ok hok).1]

lemma Persisted.casesRan (h : Persisted url ticks s) (hback : ReadsBack s)
    (tables : List CaseTable) (batch : BatchResult) :
    Persisted url (ticks ++ [.casesRan tables batch]) (tick url s (.casesRan tables batch)) := by
  have hpos : (∃ r w, Tick.positionsRan r w ∈ ticks ++ [.casesRan tables batch]) ↔
      ∃ r w, Tick.positionsRan r w ∈ ticks := by
    simp
  have hreads : (∃ t ∈ ticks ++ [.casesRan tables batch], ReadsCases url t) ↔
      (s.lastCases.bind CaseSyncResult.cursor).isSome ∨ ReadsCases url (.casesRan tables batch) := by
    rw [h.cases]
    simp [or_and_right, exists_or]
  have hprior := hback.cases
  simp only [tick, incrementalSyncCases]
  cases hdrain : drainTables url tables [] (priorCursor s.cases) with
  | none =>
    refine ⟨fun hr => h.positions (hpos.mp hr), fun hno => h.noPositions (mt hpos.mpr hno), ?_⟩
    refine ⟨fun hsome => hreads.mpr (.inl hsome), fun hmem => ?_⟩
    rcases hreads.mp hmem with hsome | ⟨items, c, hread⟩
    · exact hsome
    · cases hc : s.lastCases.bind CaseSyncResult.cursor with
      | none =>
        rw [hprior, hc, hread] at hdrain
        simp at hdrain
      | some c => simp [hc]
  | some drained =>
    obtain ⟨items, cursor⟩ := drained
    refine ⟨fun hr => h.positions (hpos.mp hr), fun hno => h.noPositions (mt hpos.mpr hno), ?_⟩
    rw [hreads]
    show cursor.isSome = true ↔ _
    rw [hprior] at hdrain
    cases hc : s.lastCases.bind CaseSyncResult.cursor with
    | none =>
      rw [hc] at hdrain
      cases cursor with
      | none => simp [ReadsCases, hdrain]
      | some c => simpa using ⟨items, c, hdrain⟩
    | some c =>
      rw [hc] at hdrain
      simpa using drainTables_some tables [] c _ hdrain

/-- What a run has persisted, as long as the state is read back at every point of it. -/
lemma persisted_runTicks (h : ∀ done, done <+: ticks → ReadsBack (runTicks url done)) :
    Persisted url ticks (runTicks url ticks) := by
  induction ticks using List.reverseRecOn with
  | nil => exact persisted_start
  | append_singleton ticks t ih =>
    have hprev := ih fun done hdone => h done (hdone.trans (List.prefix_append ticks [t]))
    have hback : ReadsBack (runTicks url ticks) := h ticks (List.prefix_append ticks [t])
    rw [runTicks_concat]
    cases t with
    | positionsSkipped reason => exact hprev.concat rfl rfl (by simp) (by simp [ReadsCases])
    | positionsRan response writes => exact hprev.positionsRan hback response writes
    | positionsRaised => exact hprev.concat rfl rfl (by simp) (by simp [ReadsCases])
    | casesSkipped reason => exact hprev.concat rfl rfl (by simp) (by simp [ReadsCases])
    | casesRan tables batch => exact hprev.casesRan hback tables batch
    | casesRaised => exact hprev.concat rfl rfl (by simp) (by simp [ReadsCases])

/-! ### The exact condition -/

/-- The last tick of a run keeps the state readable exactly when no earlier one gave its asset a
state that it loses. -/
lemma readsBack_concat_iff (h : ∀ done, done <+: ticks → ReadsBack (runTicks url done)) (t : Tick) :
    ReadsBack (runTicks url (ticks ++ [t])) ↔ ∀ u ∈ ticks, ¬ Loses url u t := by
  have hback : ReadsBack (runTicks url ticks) := h ticks List.prefix_rfl
  have hpersisted := persisted_runTicks h
  rw [runTicks_concat]
  cases t with
  | positionsSkipped reason =>
    rw [readsBack_positionsSkipped_iff hback]
    constructor
    · rintro ⟨hcursor, -⟩ u hu ⟨response, writes, rfl⟩
      simpa [hcursor] using hpersisted.positions ⟨response, writes, hu⟩
    · intro hno
      have hnone := hpersisted.noPositions fun ⟨response, writes, hmem⟩ =>
        hno _ hmem ⟨response, writes, rfl⟩
      simp [hnone]
  | casesSkipped reason =>
    rw [readsBack_casesSkipped_iff hback, ← Option.not_isSome_iff_eq_none, hpersisted.cases]
    simp [Loses]
  | positionsRan response writes => simpa [Loses] using hback.tick rfl
  | positionsRaised => simpa [Loses] using hback.tick rfl
  | casesRan tables batch => simpa [Loses] using hback.tick rfl
  | casesRaised => simpa [Loses] using hback.tick rfl

lemma readsBack_iff_pairwise (url : Option String) (ticks : List Tick) :
    (∀ done, done <+: ticks → ReadsBack (runTicks url done)) ↔
      ticks.Pairwise fun u t => ¬ Loses url u t := by
  induction ticks using List.reverseRecOn with
  | nil => simpa using readsBack_start
  | append_singleton ticks t ih =>
    have hsplit : (∀ done, done <+: ticks ++ [t] → ReadsBack (runTicks url done)) ↔
        (∀ done, done <+: ticks → ReadsBack (runTicks url done)) ∧
          ReadsBack (runTicks url (ticks ++ [t])) := by
      simp only [List.prefix_concat_iff, or_imp, forall_and, forall_eq]
      exact and_comm
    rw [hsplit, List.pairwise_append, ← ih]
    constructor
    · rintro ⟨hall, hlast⟩
      have := (readsBack_concat_iff hall t).mp hlast
      exact ⟨hall, List.pairwise_singleton _ _, by simpa using this⟩
    · rintro ⟨hall, -, hlast⟩
      exact ⟨hall, (readsBack_concat_iff hall t).mpr (by simpa using hlast)⟩

/-- Two states with the same last results. -/
structure SameResults (s s' : SyncState) : Prop where
  positions : s'.lastPositions = s.lastPositions
  cases : s'.lastCases = s.lastCases
  outputs : s'.outputs = s.outputs

lemma SameResults.tick (h : SameResults s s') (hs : ReadsBack s) (hs' : ReadsBack s') (t : Tick) :
    SameResults (tick url s t) (tick url s' t) := by
  have hd : priorDetectorState s'.positions = priorDetectorState s.positions := by
    rw [hs.detector, hs'.detector, h.positions]
  have ho : priorOpenFlightState s'.positions = priorOpenFlightState s.positions := by
    rw [hs.openFlight, hs'.openFlight, h.positions]
  have hc : priorCursor s'.cases = priorCursor s.cases := by
    rw [hs.cases, hs'.cases, h.cases]
  cases t with
  | positionsRan response writes =>
    simp only [FleetMonitor.tick, hd, ho]
    split
    · exact h
    · exact ⟨rfl, h.cases, by rw [h.outputs]⟩
  | casesRan tables batch =>
    simp only [FleetMonitor.tick, hc]
    split
    · exact h
    · exact ⟨h.positions, rfl, by rw [h.outputs]⟩
  | positionsSkipped reason => exact ⟨h.positions, h.cases, h.outputs⟩
  | positionsRaised => exact h
  | casesSkipped reason => exact ⟨h.positions, h.cases, h.outputs⟩
  | casesRaised => exact h

/-- A run whose state is read back throughout gives the same results without its skips. -/
lemma sameResults_filter (h : ticks.Pairwise fun u t => ¬ Loses url u t) :
    SameResults (runTicks url ticks) (runTicks url (ticks.filter (!·.isSkip))) := by
  induction ticks using List.reverseRecOn with
  | nil => exact ⟨rfl, rfl, rfl⟩
  | append_singleton ticks t ih =>
    have hprev := (List.pairwise_append.mp h).1
    have hsame := ih hprev
    have hback := (readsBack_iff_pairwise url ticks).mpr hprev ticks List.prefix_rfl
    have hback' := (readsBack_iff_pairwise url _).mpr (hprev.filter (!·.isSkip)) _ List.prefix_rfl
    rw [List.filter_append, runTicks_concat]
    cases hskip : t.isSkip with
    | true =>
      rw [List.filter_cons_of_neg (by simp [hskip]), List.filter_nil, List.append_nil]
      cases t with
      | positionsSkipped reason => exact ⟨hsame.positions, hsame.cases, hsame.outputs⟩
      | casesSkipped reason => exact ⟨hsame.positions, hsame.cases, hsame.outputs⟩
      | positionsRan | positionsRaised | casesRan | casesRaised => simp [Tick.isSkip] at hskip
    | false =>
      rw [List.filter_cons_of_pos (by simp [hskip]), List.filter_nil, runTicks_concat]
      exact hsame.tick hback hback' t

/-- Skips are transparent exactly when no positions tick is skipped after one that ran, and no cases
tick after one that read a case. -/
theorem skipsTransparent_iff (url : Option String) (ticks : List Tick) :
    SkipsTransparent url ticks ↔ ticks.Pairwise fun u t => ¬ Loses url u t := by
  rw [SkipsTransparent, readsBack_iff_pairwise]
  exact ⟨And.left, fun h => ⟨h, (sameResults_filter h).outputs.symm⟩⟩

/-! ### A takeoff across a skip -/

/-- An aircraft on the ground; a skipped tick; the aircraft in the air. -/
def takeoffAcrossSkip : List Tick :=
  [.positionsRan ⟨[⟨"a1b2c3", true, some .east, 0⟩], 0⟩ ⟨⟨1, 1, 0⟩, ⟨0, 0, 0⟩, ⟨0, 0, 0⟩⟩,
   .positionsSkipped "positions: foundry config absent",
   .positionsRan ⟨[⟨"a1b2c3", false, some .east, 60000000⟩], 60000000⟩
     ⟨⟨1, 1, 0⟩, ⟨0, 0, 0⟩, ⟨0, 0, 0⟩⟩]

/-- The takeoff is detected without the skip only. -/
theorem takeoff_lost_across_skip : ¬ SkipsTransparent none takeoffAcrossSkip := by
  intro h
  have hedges : (runTicks none takeoffAcrossSkip).outputs ≠
      (runTicks none (takeoffAcrossSkip.filter (!·.isSkip))).outputs := by decide
  exact hedges h.2

end FleetMonitor
