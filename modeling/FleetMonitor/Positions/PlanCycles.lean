import FleetMonitor.Library.Validation
import FleetMonitor.Positions.FlightPlans

/-!
# Cycles of the flight-plan cache

Whatever the hosts answer and wherever a cycle is cut short, the rows of an aircraft are written
more than the time to live apart, and the detector reads the newest flight of the last answer.
-/

namespace FleetMonitor

open Library

/-- The aircraft a write is for. -/
def PlanWrite.icao24 (write : PlanWrite) : String := write.row.icao24

variable {py : TextFunctions} {world : PlanWorld} {icao24 : String} {run : PlanRun}
  {answer : Except OpenSkyError (List OpenSkyFlight)} {flight : Option OpenSkyFlight}
  {status : FetchStatus} {now : Instant} {row : FlightPlanRow}

/-! ### One aircraft -/

namespace PlanWrite

/-- The row is that of the newest flight of the answer, of an answer without flights, or of an error
that the cycle goes on after. -/
def IsRecorded (write : PlanWrite) : Prop :=
  match write.answer with
  | .ok flights =>
    planRow write.row.refreshedAt write.row.icao24 (pickMostRecent flights)
      (if flights.isEmpty then .notFound else .success) = .ok write.row
  | .error e    =>
    e.isCaught = true ∧ planRow write.row.refreshedAt write.row.icao24 none .error = .ok write.row

end PlanWrite

/-- The counts of a run are those of the rows it has written. -/
structure PlanRun.Counted (run : PlanRun) : Prop where
  attempts : run.attempts = run.written.length
  success : run.success = run.written.countP fun w => w.row.fetchStatus = .success
  notFound : run.notFound = run.written.countP fun w => w.row.fetchStatus = .notFound
  errors : run.errors = run.written.countP fun w => w.row.fetchStatus = .error

lemma planRow_spec (h : planRow now icao24 flight status = .ok row) :
    row.icao24 = icao24 ∧ row.refreshedAt = now ∧ row.fetchStatus = status := by
  cases flight with
  | none =>
    obtain rfl := Except.ok.inj h
    exact ⟨rfl, rfl, rfl⟩
  | some flight =>
    simp only [planRow, bind_eq_ok_iff] at h
    obtain ⟨departure, -, arrival, -, h⟩ := h
    obtain rfl := Except.ok.inj h
    exact ⟨rfl, rfl, rfl⟩

/-- What `_upsert_flight_plan` does: it raises, or it writes the row and counts it. -/
lemma upsertFlightPlan_cases (world : PlanWorld) (icao24 : String)
    (answer : Except OpenSkyError (List OpenSkyFlight)) (flight : Option OpenSkyFlight)
    (status : FetchStatus) (count : PlanRun → PlanRun) (run : PlanRun) :
    (∃ e, upsertFlightPlan world icao24 answer flight status count run = (some (.raised e), run)) ∨
    ∃ row, planRow (world.writtenAt run.attempts) icao24 flight status = .ok row ∧
      upsertFlightPlan world icao24 answer flight status count run = (none, count { run with
        plans := run.plans.upsert row
        written := run.written ++ [⟨row, answer⟩] }) := by
  rw [upsertFlightPlan]
  cases hrow : planRow (world.writtenAt run.attempts) icao24 flight status with
  | error e => exact .inl ⟨e, rfl⟩
  | ok row =>
    cases hrefuses : world.refuses run.attempts with
    | some text => exact .inl ⟨.database text, rfl⟩
    | none => exact .inr ⟨row, rfl, rfl⟩

/-- A row is written for the aircraft. -/
structure PlanRun.Writes (world : PlanWorld) (icao24 : String) (run run' : PlanRun) (write : PlanWrite) :
    Prop where
  icao24_eq : write.row.icao24 = icao24
  refreshed : world.selectedAt ≤ write.row.refreshedAt
  recorded : write.IsRecorded
  plans : run'.plans = run.plans.upsert write.row
  written : run'.written = run.written ++ [write]
  counted : run.Counted → run'.Counted

/-- Nothing is written for the aircraft. -/
structure PlanRun.Skips (ended : PlanEnd) (run run' : PlanRun) : Prop where
  plans : run'.plans = run.plans
  written : run'.written = run.written
  counted : ended = .rateLimited → run.Counted → run'.Counted

/-- A row is written for the aircraft, or the loop ends there. -/
def PlanRun.Steps (world : PlanWorld) (icao24 : String) (run : PlanRun)
    (outcome : Option PlanEnd × PlanRun) : Prop :=
  (∃ ended, outcome.1 = some ended ∧ ended ≠ .completed ∧ PlanRun.Skips ended run outcome.2) ∨
  (outcome.1 = none ∧ ∃ write, PlanRun.Writes world icao24 run outcome.2 write)

/-- One of the writes of the loop, and how it is counted. -/
lemma upsertFlightPlan_steps {count : PlanRun → PlanRun} {asked : PlanRun}
    (hplans : asked.plans = run.plans) (hwritten : asked.written = run.written)
    (hcount : ∀ r, (count r).plans = r.plans ∧ (count r).written = r.written)
    (hcounted : run.Counted → ∀ row : FlightPlanRow, row.fetchStatus = status →
      (count { asked with
        plans := run.plans.upsert row, written := run.written ++ [⟨row, answer⟩] }).Counted)
    (hrecorded : ∀ row, planRow row.refreshedAt icao24 flight status = .ok row →
      row.icao24 = icao24 → PlanWrite.IsRecorded ⟨row, answer⟩) :
    PlanRun.Steps world icao24 run
      (upsertFlightPlan world icao24 answer flight status count asked) := by
  rcases upsertFlightPlan_cases world icao24 answer flight status count asked with
    ⟨e, hupsert⟩ | ⟨row, hrow, hupsert⟩
  · rw [hupsert]
    exact .inl ⟨.raised e, rfl, by simp, hplans, hwritten, fun h => by cases h⟩
  · obtain ⟨hicao24, hrefreshed, hstatus⟩ := planRow_spec hrow
    rw [hupsert, hplans, hwritten]
    refine .inr ⟨rfl, ⟨row, answer⟩, hicao24, ?_, hrecorded row (hrefreshed.symm ▸ hrow) hicao24,
      (hcount _).1, (hcount _).2, fun h => hcounted h row hstatus⟩
    rw [hrefreshed]
    exact world.selectedAt_le asked.attempts

lemma pickMostRecent_eq_none_iff {flights : List OpenSkyFlight} :
    pickMostRecent flights = none ↔ flights = [] := by
  cases flights <;> simp [pickMostRecent]

/-- What the body of the loop does. -/
lemma enrichAircraft_steps (py : TextFunctions) (world : PlanWorld) (icao24 : String)
    (run : PlanRun) :
    PlanRun.Steps world icao24 run (enrichAircraft py world icao24 run) := by
  rw [enrichAircraft]
  obtain ⟨answer, client⟩ := run.client.fetchFlightHistory py world.hosts icao24
    (world.now - fetchWindowSeconds) world.now
  have hcounted : ∀ (row : FlightPlanRow) (run' : PlanRun), run.Counted →
      run'.attempts = run.attempts + 1 → run'.written = run.written ++ [⟨row, answer⟩] →
      run'.success = run.success + (if row.fetchStatus = .success then 1 else 0) →
      run'.notFound = run.notFound + (if row.fetchStatus = .notFound then 1 else 0) →
      run'.errors = run.errors + (if row.fetchStatus = .error then 1 else 0) → run'.Counted := by
    intro row run' h hattempts hwritten hsuccess hnotFound herrors
    constructor
    · rw [hattempts, hwritten, h.attempts, List.length_append, List.length_singleton]
    · simp [hsuccess, hwritten, h.success, List.countP_append, List.countP_cons]
    · simp [hnotFound, hwritten, h.notFound, List.countP_append, List.countP_cons]
    · simp [herrors, hwritten, h.errors, List.countP_append, List.countP_cons]
  cases answer with
  | error e =>
    have hcaught : e.isCaught = true → PlanRun.Steps world icao24 run
        (upsertFlightPlan world icao24 (.error e) none .error (fun r => { r with errors := r.errors + 1 })
          { run with client, attempts := run.attempts + 1 }) := by
      intro hcaught
      refine upsertFlightPlan_steps rfl rfl ?_ ?_ ?_
      · exact fun r => ⟨rfl, rfl⟩
      · intro h row hstatus
        exact hcounted row _ h rfl rfl (by simp [hstatus]) (by simp [hstatus]) (by simp [hstatus])
      · intro row hrow hicao24
        exact ⟨hcaught, by simpa [hicao24] using hrow⟩
    cases e with
    | rateLimited text =>
      exact .inl ⟨.rateLimited, rfl, by simp, rfl, rfl, fun _ h =>
        ⟨h.attempts, h.success, h.notFound, h.errors⟩⟩
    | auth text => exact .inl ⟨_, rfl, by simp, rfl, rfl, fun h => by cases h⟩
    | raised e => exact .inl ⟨_, rfl, by simp, rfl, rfl, fun h => by cases h⟩
    | attributeError => exact .inl ⟨_, rfl, by simp, rfl, rfl, fun h => by cases h⟩
    | server text => exact hcaught rfl
    | parse text => exact hcaught rfl
    | unexpected text => exact hcaught rfl
  | ok flights =>
    simp only
    cases hpick : pickMostRecent flights with
    | none =>
      obtain rfl := pickMostRecent_eq_none_iff.mp hpick
      refine upsertFlightPlan_steps rfl rfl ?_ ?_ ?_
      · exact fun r => ⟨rfl, rfl⟩
      · intro h row hstatus
        exact hcounted row _ h rfl rfl (by simp [hstatus]) (by simp [hstatus]) (by simp [hstatus])
      · rintro row hrow rfl
        exact hrow
    | some flight =>
      have hflights : flights.isEmpty = false := by
        cases flights with
        | nil => cases hpick
        | cons => rfl
      refine upsertFlightPlan_steps rfl rfl ?_ ?_ ?_
      · exact fun r => ⟨rfl, rfl⟩
      · intro h row hstatus
        exact hcounted row _ h rfl rfl (by simp [hstatus]) (by simp [hstatus]) (by simp [hstatus])
      · rintro row hrow rfl
        rw [PlanWrite.IsRecorded]
        simpa [hpick, hflights] using hrow

/-! ### One cycle -/

/-- What the loop over the aircraft leaves: rows for the first of them, and none for the rest. -/
structure LoopWrites (world : PlanWorld) (icao24s : List String) (run : PlanRun)
    (outcome : PlanEnd × PlanRun) (writes : List PlanWrite) (rest : List String) : Prop where
  icao24s_eq : icao24s = writes.map PlanWrite.icao24 ++ rest
  recorded : ∀ w ∈ writes, world.selectedAt ≤ w.row.refreshedAt ∧ w.IsRecorded
  written : outcome.2.written = run.written ++ writes
  plans : outcome.2.plans = run.plans.upsertAll (writes.map PlanWrite.row)
  completed : outcome.1 = .completed ↔ rest = []
  counted : (∀ e, outcome.1 ≠ .raised e) → run.Counted → outcome.2.Counted

lemma enrichAll_writes (py : TextFunctions) (world : PlanWorld) (icao24s : List String)
    (run : PlanRun) :
    ∃ writes rest, LoopWrites world icao24s run (enrichAll py world icao24s run) writes rest := by
  induction icao24s generalizing run with
  | nil => exact ⟨[], [], by simp, by simp, by simp [enrichAll], by simp [enrichAll],
      by simp [enrichAll], fun _ h => h⟩
  | cons icao24 icao24s ih =>
    obtain ⟨stepped, run', hstep⟩ :
        ∃ stepped run', enrichAircraft py world icao24 run = (stepped, run') := ⟨_, _, rfl⟩
    rw [enrichAll, hstep]
    have hcases := enrichAircraft_steps py world icao24 run
    rw [hstep] at hcases
    rcases hcases with ⟨ended, rfl, hended, hskips⟩ | ⟨rfl, write, hwrite⟩
    · refine ⟨[], icao24 :: icao24s, rfl, by simp, by simpa using hskips.written,
        by simpa using hskips.plans, by simpa using hended, fun hraised h => ?_⟩
      -- the loop was ended by the rate limit
      apply hskips.counted _ h
      cases ended with
      | completed => exact absurd rfl hended
      | rateLimited => rfl
      | raised e => exact absurd rfl (hraised e)
    · obtain ⟨writes, rest, h⟩ := ih run'
      refine ⟨write :: writes, rest, ?_, ?_, ?_, ?_, h.completed, fun hraised hcounted =>
        h.counted hraised (hwrite.counted hcounted)⟩
      · rw [h.icao24s_eq, List.map_cons, List.cons_append, PlanWrite.icao24, hwrite.icao24_eq]
      · intro w hw
        rcases List.mem_cons.mp hw with rfl | hw
        · exact ⟨hwrite.refreshed, hwrite.recorded⟩
        · exact h.recorded w hw
      · rw [h.written, hwrite.written, List.append_assoc, List.singleton_append]
      · rw [h.plans, hwrite.plans, List.map_cons, Table.upsertAll_cons]

variable {state : PlanState} {plans : FlightPlanCache} {positions : CurrentPositions}

lemma nodup_selectStale : (selectStaleIcao24s now positions plans).Nodup := by
  rw [selectStaleIcao24s]
  refine List.Nodup.map_on ?_ orderedQuery_nodup
  intro a ha b hb heq
  exact Table.row_eq_of_key_eq (mem_orderedQuery.mp ha).1 (mem_orderedQuery.mp hb).1 heq

lemma isStale_of_mem (h : icao24 ∈ selectStaleIcao24s now positions plans) :
    isStale now plans icao24 = true := by
  obtain ⟨position, hposition, rfl⟩ := List.mem_map.mp h
  have hwhere := (mem_orderedQuery.mp hposition).2
  simp only [staleWhere, decide_eq_true_eq] at hwhere
  exact hwhere.2.2

/-- Those that were refreshed longest ago come first. -/
lemma selectStale_sorted : (selectStaleIcao24s now positions plans).Pairwise fun a b =>
    refreshedAt plans a ≤ refreshedAt plans b := by
  rw [selectStaleIcao24s, List.pairwise_map]
  refine List.Pairwise.imp ?_ orderedQuery_sorted
  intro a b hab
  exact (Prod.Lex.le_iff'.mp hab).1

/-- What a cycle leaves: rows for the first of the aircraft it selects. -/
structure CycleWrites (py : TextFunctions) (world : PlanWorld) (state : PlanState)
    (writes : List PlanWrite) (rest : List String) : Prop where
  selected : (world.stale state).take maxFetchesPerCycle = writes.map PlanWrite.icao24 ++ rest
  recorded : ∀ w ∈ writes, world.selectedAt ≤ w.row.refreshedAt ∧ w.IsRecorded
  history : (world.cycle py state).history = state.history ++ writes
  plans : (world.cycle py state).plans = state.plans.upsertAll (writes.map PlanWrite.row)
  completed : (world.loop py state).1 = .completed ↔ rest = []
  counted : (∀ e, (world.loop py state).1 ≠ .raised e) → (world.loop py state).2.Counted ∧
    (world.loop py state).2.written = writes

lemma exists_cycleWrites (py : TextFunctions) (world : PlanWorld) (state : PlanState) :
    ∃ writes rest, CycleWrites py world state writes rest := by
  obtain ⟨writes, rest, h⟩ := enrichAll_writes py world ((world.stale state).take maxFetchesPerCycle)
    { plans := state.plans, client := state.client }
  have hwritten : (world.loop py state).2.written = writes := by
    rw [PlanWorld.loop, h.written, List.nil_append]
  refine ⟨writes, rest, h.icao24s_eq, h.recorded, ?_, h.plans, h.completed,
    fun hraised => ⟨?_, hwritten⟩⟩
  · rw [PlanWorld.cycle, ← hwritten]
  · exact h.counted hraised ⟨rfl, rfl, rfl, rfl⟩

namespace CycleWrites

variable {writes : List PlanWrite} {rest : List String} {w : PlanWrite}

lemma nodup (h : CycleWrites py world state writes rest) : (writes.map PlanWrite.icao24).Nodup := by
  have htake : (writes.map PlanWrite.icao24 ++ rest).Nodup := by
    rw [← h.selected]
    exact (List.take_sublist _ _).nodup nodup_selectStale
  exact (List.nodup_append.mp htake).1

lemma mem_stale (h : CycleWrites py world state writes rest) (hw : w ∈ writes) :
    w.icao24 ∈ world.stale state := by
  have hmem : w.icao24 ∈ writes.map PlanWrite.icao24 ++ rest :=
    List.mem_append_left rest (List.mem_map_of_mem hw)
  rw [← h.selected] at hmem
  exact List.mem_of_mem_take hmem

/-- The cache has the rows that were written, and the others as before. -/
lemma lookup (h : CycleWrites py world state writes rest) (icao24 : String) :
    (∃ w ∈ writes, w.icao24 = icao24 ∧ (world.cycle py state).plans.lookup icao24 = some w.row) ∨
    ((∀ w ∈ writes, w.icao24 ≠ icao24) ∧
      (world.cycle py state).plans.lookup icao24 = state.plans.lookup icao24) := by
  rw [h.plans, Table.lookup_upsertAll]
  cases hfind : (writes.map PlanWrite.row).reverse.find? (·.icao24 = icao24) with
  | none =>
    refine .inr ⟨fun w hw heq => ?_, rfl⟩
    have hnone := List.find?_eq_none.mp hfind w.row
      (List.mem_reverse.mpr (List.mem_map_of_mem hw))
    exact hnone (decide_eq_true heq)
  | some row =>
    obtain ⟨w, hw, rfl⟩ := List.mem_map.mp (List.mem_reverse.mp (List.mem_of_find?_eq_some hfind))
    exact .inl ⟨w, hw, by simpa [PlanWrite.icao24] using List.find?_some hfind, rfl⟩

/-- One row at most is written for an aircraft. -/
lemma row_eq (h : CycleWrites py world state writes rest) {w' : PlanWrite} (hw : w ∈ writes)
    (hw' : w' ∈ writes) (heq : w.icao24 = w'.icao24) : w = w' :=
  List.inj_on_of_nodup_map h.nodup hw hw' heq

end CycleWrites

/-! ### The time to live -/

/-- Two writes of one aircraft are more than the time to live apart. -/
def Spaced (w w' : PlanWrite) : Prop :=
  w.icao24 = w'.icao24 → w.row.refreshedAt + cacheTtl < w'.row.refreshedAt

/-- The writes are spaced, and the cache has a row for each that is at least as new. -/
structure PlanState.Inv (state : PlanState) : Prop where
  spaced : state.history.Pairwise Spaced
  cached : ∀ w ∈ state.history,
    ∃ row, state.plans.lookup w.icao24 = some row ∧ w.row.refreshedAt ≤ row.refreshedAt

/-- What is written has passed the time to live. -/
lemma PlanState.Inv.spaced_of_write (h : state.Inv) {writes : List PlanWrite} {rest : List String}
    (hcycle : CycleWrites py world state writes rest) {w w' : PlanWrite} (hw : w ∈ state.history)
    (hw' : w' ∈ writes) : Spaced w w' := by
  intro heq
  obtain ⟨row, hrow, hle⟩ := h.cached w hw
  have hstale : isStale world.selectedAt state.plans w'.icao24 = true :=
    isStale_of_mem (hcycle.mem_stale hw')
  simp only [isStale, ← heq, hrow, decide_eq_true_eq] at hstale
  calc w.row.refreshedAt + cacheTtl
      ≤ row.refreshedAt + cacheTtl := by simpa using hle
    _ < world.selectedAt := lt_sub_iff_add_lt.mp hstale
    _ ≤ w'.row.refreshedAt := (hcycle.recorded w' hw').1

lemma PlanState.Inv.cycle (h : state.Inv) (py : TextFunctions) (world : PlanWorld) :
    (world.cycle py state).Inv := by
  obtain ⟨writes, rest, hcycle⟩ := exists_cycleWrites py world state
  constructor
  · rw [hcycle.history, List.pairwise_append]
    refine ⟨h.spaced, ?_, fun w hw w' hw' => h.spaced_of_write hcycle hw hw'⟩
    -- a cycle writes one row for an aircraft
    refine List.Pairwise.imp ?_ (List.pairwise_map.mp hcycle.nodup)
    intro w w' hne heq
    exact absurd heq hne
  · intro w hw
    rw [hcycle.history, List.mem_append] at hw
    rcases hcycle.lookup w.icao24 with ⟨w', hw', heq, hlookup⟩ | ⟨hnone, hlookup⟩
    · refine ⟨w'.row, hlookup, ?_⟩
      rcases hw with hw | hw
      · have hpos : (0 : ℤ) ≤ cacheTtl := by decide
        exact (le_add_of_nonneg_right hpos).trans (h.spaced_of_write hcycle hw hw' heq.symm).le
      · rw [hcycle.row_eq hw hw' heq.symm]
    · rcases hw with hw | hw
      · obtain ⟨row, hrow, hle⟩ := h.cached w hw
        exact ⟨row, hlookup.trans hrow, hle⟩
      · exact absurd rfl (hnone w hw)

/-- What every cycle keeps holds after all of them. -/
lemma runCycles_invariant {I : PlanState → Prop}
    (hstep : ∀ (world : PlanWorld) state, I state → I (world.cycle py state))
    (worlds : List PlanWorld)
    {state : PlanState} (h : I state) : I (runCycles py worlds state) := by
  induction worlds generalizing state with
  | nil => exact h
  | cons world worlds ih => exact ih (hstep world state h)

/-- Of three writes of one aircraft the first and the last are more than a day apart. -/
lemma countP_le_two_of_spaced {writes : List PlanWrite} (h : writes.Pairwise Spaced)
    (icao24 : String)
    (first : Instant) : (writes.countP fun w => w.icao24 = icao24 ∧ first ≤ w.row.refreshedAt ∧
      w.row.refreshedAt ≤ first + 2 * cacheTtl) ≤ 2 := by
  rw [List.countP_eq_length_filter]
  have hspaced := h.filter fun w : PlanWrite => w.icao24 = icao24 ∧ first ≤ w.row.refreshedAt ∧
    w.row.refreshedAt ≤ first + 2 * cacheTtl
  have hmem : ∀ w ∈ writes.filter (fun w : PlanWrite => w.icao24 = icao24 ∧ first ≤ w.row.refreshedAt ∧
      w.row.refreshedAt ≤ first + 2 * cacheTtl),
      w.icao24 = icao24 ∧ first ≤ w.row.refreshedAt ∧ w.row.refreshedAt ≤ first + 2 * cacheTtl := by
    intro w hw
    simpa using (List.mem_filter.mp hw).2
  generalize writes.filter (fun w : PlanWrite => w.icao24 = icao24 ∧ first ≤ w.row.refreshedAt ∧
    w.row.refreshedAt ≤ first + 2 * cacheTtl) = kept at hspaced hmem
  match kept with
  | [] => simp
  | [_] => simp
  | [_, _] => simp
  | a :: b :: c :: _ =>
    exfalso
    obtain ⟨ha, hfirst, -⟩ := hmem a (by simp)
    obtain ⟨hb, -, -⟩ := hmem b (by simp)
    obtain ⟨hc, -, hlast⟩ := hmem c (by simp)
    simp only [List.pairwise_cons, List.mem_cons] at hspaced
    have hab : a.row.refreshedAt + cacheTtl < b.row.refreshedAt :=
      hspaced.1 b (.inl rfl) (ha.trans hb.symm)
    have hbc : b.row.refreshedAt + cacheTtl < c.row.refreshedAt :=
      hspaced.2.1 c (.inl rfl) (hb.trans hc.symm)
    have harith : ∀ f a b c t : ℤ, f ≤ a → a + t < b → b + t < c → ¬c ≤ f + 2 * t := by
      intro f a b c t
      omega
    exact harith _ _ _ _ _ hfirst hab hbc hlast

/-- Over any cycles, the rows of an aircraft are written more than the time to live apart, and at
most two of them within a day. -/
theorem plan_writes_spaced (py : TextFunctions) (worlds : List PlanWorld) (plans : FlightPlanCache)
    (client : OpenSkyClient) :
    (runCycles py worlds { plans, client }).history.Pairwise Spaced ∧
      ∀ (icao24 : String) (first : Instant),
        ((runCycles py worlds { plans, client }).history.countP fun w => w.icao24 = icao24 ∧
          first ≤ w.row.refreshedAt ∧ w.row.refreshedAt ≤ first + 24 * 3600000000) ≤ 2 := by
  have hinv : (runCycles py worlds { plans, client }).Inv := by
    apply runCycles_invariant
    · exact fun world state h => h.cycle py world
    · exact ⟨List.Pairwise.nil, by simp⟩
  exact ⟨hinv.spaced, fun icao24 first => countP_le_two_of_spaced hinv.spaced icao24 first⟩

/-! ### What the detector reads -/

/-- The first of the flights that were seen last. -/
def IsNewestFlight (flights : List OpenSkyFlight) (flight : OpenSkyFlight) : Prop :=
  ∃ before after, flights = before ++ flight :: after ∧ (∀ f ∈ before,
    f.lastSeen < flight.lastSeen) ∧
    ∀ f ∈ after, f.lastSeen ≤ flight.lastSeen

lemma exists_newestFlight (first : OpenSkyFlight) (others : List OpenSkyFlight) :
    ∃ flight, pickMostRecent (first :: others) = some flight ∧ IsNewestFlight (first :: others) flight := by
  induction others using List.reverseRecOn with
  | nil => exact ⟨first, rfl, [], [], by simp⟩
  | append_singleton others last ih =>
    obtain ⟨best, hbest, before, after, hflights, hbefore, hafter⟩ := ih
    simp only [pickMostRecent, Option.some.injEq] at hbest
    simp only [pickMostRecent, List.foldl_append, List.foldl_cons, List.foldl_nil, hbest]
    by_cases hlater : best.lastSeen < last.lastSeen
    · refine ⟨last, by rw [if_pos hlater], first :: others, [], by simp, ?_, by simp⟩
      rw [hflights]
      intro f hf
      rcases List.mem_append.mp hf with hf | hf
      · exact (hbefore f hf).trans hlater
      · rcases List.mem_cons.mp hf with rfl | hf
        · exact hlater
        · exact (hafter f hf).trans_lt hlater
    · refine ⟨best, by rw [if_neg hlater], before, after ++ [last], ?_, hbefore, ?_⟩
      · rw [← List.cons_append, hflights, List.append_assoc, List.cons_append]
      · intro f hf
        rcases List.mem_append.mp hf with hf | hf
        · exact hafter f hf
        · obtain rfl := List.mem_singleton.mp hf
          exact not_lt.mp hlater

lemma IsNewestFlight.unique {flights : List OpenSkyFlight} {a b : OpenSkyFlight}
    (ha : IsNewestFlight flights a) (hb : IsNewestFlight flights b) : a = b := by
  obtain ⟨before, after, rfl, hbefore, hafter⟩ := ha
  obtain ⟨before', after', heq, hbefore', hafter'⟩ := hb
  rcases List.append_eq_append_iff.mp heq with ⟨between, rfl, hrest⟩ | ⟨between, rfl, hrest⟩
  · cases between with
    | nil => exact (List.cons.inj hrest).1
    | cons f between =>
      obtain ⟨rfl, rfl⟩ := List.cons.inj hrest
      exact absurd (hbefore' a (by simp)) (not_lt.mpr (hafter b (by simp)))
  · cases between with
    | nil => exact (List.cons.inj hrest).1.symm
    | cons f between =>
      obtain ⟨rfl, rfl⟩ := List.cons.inj hrest
      exact absurd (hbefore b (by simp)) (not_lt.mpr (hafter' a (by simp)))

lemma pickMostRecent_eq_some_iff {flights : List OpenSkyFlight} {flight : OpenSkyFlight} :
    pickMostRecent flights = some flight ↔ IsNewestFlight flights flight := by
  cases flights with
  | nil =>
    constructor
    · intro h
      cases h
    · rintro ⟨before, after, h, -⟩
      simp at h
  | cons first others =>
    obtain ⟨best, hbest, hnewest⟩ := exists_newestFlight first others
    rw [hbest]
    constructor
    · rintro h
      exact Option.some.inj h ▸ hnewest
    · intro h
      rw [hnewest.unique h]

/-- The last write of an aircraft. -/
def lastWrite (history : List PlanWrite) (icao24 : String) : Option PlanWrite :=
  history.reverse.find? (·.icao24 = icao24)

/-- The cache has the last row of every aircraft, and every row is that of its answer. -/
structure PlanState.Recorded (state : PlanState) : Prop where
  lookup : ∀ icao24, state.plans.lookup icao24 = (lastWrite state.history icao24).map PlanWrite.row
  recorded : ∀ w ∈ state.history, w.IsRecorded

lemma PlanState.Recorded.cycle (h : state.Recorded) (py : TextFunctions) (world : PlanWorld) :
    (world.cycle py state).Recorded := by
  obtain ⟨writes, rest, hcycle⟩ := exists_cycleWrites py world state
  constructor
  · intro icao24
    rw [hcycle.plans, Table.lookup_upsertAll, hcycle.history, lastWrite, List.reverse_append,
      List.find?_append, h.lookup, lastWrite, Option.map_or, ← List.map_reverse, List.find?_map]
    rfl
  · intro w hw
    rw [hcycle.history, List.mem_append] at hw
    rcases hw with hw | hw
    · exact h.recorded w hw
    · exact (hcycle.recorded w hw).2

lemma lookup_loadFlightPlans {plan : FlightPlan} :
    (loadFlightPlans plans).lookup icao24 = some plan ↔
    ∃ row, plans.lookup icao24 = some row ∧ row.fetchStatus = .success ∧ plan = {
      icao24 := row.icao24
      originIcao := row.originIcao
      destinationIcao := row.destinationIcao
      departureTime := row.departureTime } := by
  simp only [Table.lookup_eq_some_iff, loadFlightPlans, List.mem_map, List.mem_filter,
    decide_eq_true_eq]
  constructor
  · rintro ⟨⟨row, ⟨hrow, hstatus⟩, rfl⟩, hicao24⟩
    exact ⟨row, ⟨hrow, hicao24⟩, hstatus, rfl⟩
  · rintro ⟨row, ⟨hrow, hicao24⟩, hstatus, rfl⟩
    exact ⟨⟨row, ⟨hrow, hstatus⟩, rfl⟩, hicao24⟩

/-- The flight plan of a row that is written for a flight. -/
lemma planRow_flight {flight : OpenSkyFlight}
    (h : planRow now icao24 (some flight) status = .ok row) :
    ∃ departure, fromTimestamp flight.firstSeen = .ok departure ∧
      row.originIcao = flight.estDepartureAirport ∧ row.destinationIcao = flight.estArrivalAirport ∧
      row.departureTime = some departure := by
  simp only [planRow, bind_eq_ok_iff, mapError_eq_ok_iff] at h
  obtain ⟨departure, hdeparture, arrival, -, h⟩ := h
  obtain rfl := Except.ok.inj h
  exact ⟨departure, hdeparture, rfl, rfl, rfl⟩

/-- A row that is written successfully has the plan of the newest flight of its answer. -/
lemma PlanWrite.IsRecorded.exists_flight {w : PlanWrite} (h : w.IsRecorded)
    (hsuccess : w.row.fetchStatus = .success) : ∃ flights flight departure,
      w.answer = .ok flights ∧ IsNewestFlight flights flight ∧
      fromTimestamp flight.firstSeen = .ok departure ∧
      w.row.originIcao = flight.estDepartureAirport ∧
      w.row.destinationIcao = flight.estArrivalAirport ∧ w.row.departureTime = some departure := by
  rw [PlanWrite.IsRecorded] at h
  cases hanswer : w.answer with
  | error e =>
    rw [hanswer] at h
    have hstatus := (planRow_spec h.2).2.2
    rw [hsuccess] at hstatus
    cases hstatus
  | ok flights =>
    simp only [hanswer] at h
    cases hpick : pickMostRecent flights with
    | none =>
      have hstatus := (planRow_spec h).2.2
      rw [hsuccess, pickMostRecent_eq_none_iff.mp hpick] at hstatus
      cases hstatus
    | some flight =>
      rw [hpick] at h
      obtain ⟨departure, hdeparture, hfields⟩ := planRow_flight h
      exact ⟨flights, flight, departure, rfl, pickMostRecent_eq_some_iff.mp hpick, hdeparture,
        hfields⟩

lemma PlanWrite.IsRecorded.success {w : PlanWrite} (h : w.IsRecorded) {flights : List OpenSkyFlight}
    {flight : OpenSkyFlight} (hanswer : w.answer = .ok flights)
    (hnewest : IsNewestFlight flights flight) :
    w.row.fetchStatus = .success := by
  rw [PlanWrite.IsRecorded, hanswer] at h
  have hflights : flights.isEmpty = false := by
    obtain ⟨before, after, rfl, -⟩ := hnewest
    simp
  rw [(planRow_spec h).2.2, hflights, if_neg Bool.false_ne_true]

/-- After any cycles from an empty cache the detector reads the flight plan of an aircraft if and
only if the last answer for it has flights, and then it is that of the newest of them. -/
theorem detector_reads_newest_flight (py : TextFunctions) (worlds : List PlanWorld)
    (client : OpenSkyClient) (icao24 : String) (plan : FlightPlan) :
    (loadFlightPlans (runCycles py worlds { client }).plans).lookup icao24 = some plan ↔
      ∃ w flights flight departure,
        lastWrite (runCycles py worlds { client }).history icao24 = some w ∧ w.answer = .ok flights ∧
        IsNewestFlight flights flight ∧ fromTimestamp flight.firstSeen = .ok departure ∧ plan = {
          icao24
          originIcao := flight.estDepartureAirport
          destinationIcao := flight.estArrivalAirport
          departureTime := some departure } := by
  have hrecorded : (runCycles py worlds { client }).Recorded := by
    apply runCycles_invariant
    · exact fun world state h => h.cycle py world
    · exact ⟨fun icao24 => rfl, by simp⟩
  have hlast : ∀ w, lastWrite (runCycles py worlds { client }).history icao24 = some w →
      w.icao24 = icao24 ∧ w.IsRecorded := by
    intro w hw
    exact ⟨by simpa using List.find?_some hw,
      hrecorded.recorded w (List.mem_reverse.mp (List.mem_of_find?_eq_some hw))⟩
  rw [lookup_loadFlightPlans, hrecorded.lookup]
  constructor
  · rintro ⟨row, hrow, hsuccess, rfl⟩
    obtain ⟨w, hw, rfl⟩ := Option.map_eq_some_iff.mp hrow
    obtain ⟨hicao24, hrecord⟩ := hlast w hw
    obtain ⟨flights, flight, departure, hanswer, hnewest, hdeparture, horigin, hdestination,
        htime⟩ :=
      hrecord.exists_flight hsuccess
    refine ⟨w, flights, flight, departure, hw, hanswer, hnewest, hdeparture, ?_⟩
    rw [horigin, hdestination, htime, ← hicao24, PlanWrite.icao24]
  · rintro ⟨w, flights, flight, departure, hw, hanswer, hnewest, hdeparture, rfl⟩
    obtain ⟨hicao24, hrecord⟩ := hlast w hw
    have hsuccess := hrecord.success hanswer hnewest
    obtain ⟨flights', flight', departure', hanswer', hnewest', hdeparture', horigin, hdestination,
      htime⟩ := hrecord.exists_flight hsuccess
    -- the answer has one newest flight
    obtain rfl := Except.ok.inj (hanswer.symm.trans hanswer')
    obtain rfl := hnewest.unique hnewest'
    obtain rfl := Except.ok.inj (hdeparture.symm.trans hdeparture')
    refine ⟨w.row, by rw [hw, Option.map_some], hsuccess, ?_⟩
    rw [horigin, hdestination, htime, ← hicao24, PlanWrite.icao24]

end FleetMonitor
