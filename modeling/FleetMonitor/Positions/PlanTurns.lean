import FleetMonitor.Library.OldestFirst
import FleetMonitor.Library.Runs
import FleetMonitor.Positions.PlanCycles
import FleetMonitor.Positions.RepeatedAircraft

/-!
# Turns of the flight-plan cache

A cycle serves the aircraft that wait longest. An aircraft that waits is overtaken by every other at
most once, so that it is served after a bounded number of cycles, and the result of a cycle accounts
for every row it has written.
-/

namespace FleetMonitor

open Library

variable {py : TextFunctions} {world : PlanWorld} {icao24 : String} {state : PlanState}

/-! ### Waiting -/

/-- One cycle as an action. -/
def cycleAction (py : TextFunctions) (state : PlanState) (world : PlanWorld) : Option PlanState :=
  some (world.cycle py state)

/-- The aircraft whose rows a cycle writes. -/
def writtenIn (py : TextFunctions) (state : PlanState) (world : PlanWorld) : List String :=
  (world.loop py state).2.written.map PlanWrite.icao24

lemma writtenIn_eq {writes : List PlanWrite} {rest : List String}
    (h : CycleWrites py world state writes rest) :
    writtenIn py state world = writes.map PlanWrite.icao24 := by
  have hhistory := h.history
  rw [PlanWorld.cycle] at hhistory
  rw [writtenIn, List.append_cancel_left hhistory]

/-- The aircraft is selected, and no row is written for it. -/
def WaitsIn (py : TextFunctions) (icao24 : String) (state : PlanState) (world : PlanWorld) : Prop :=
  icao24 ∈ world.stale state ∧ icao24 ∉ writtenIn py state world

/-- In a cycle in which an aircraft waits, those that are served are ahead of it and move behind it.
-/
lemma overtakes_of_waitsIn (h : WaitsIn py icao24 state world) :
    Overtakes icao24 (refreshedAt state.plans) (refreshedAt (world.cycle py state).plans)
      (writtenIn py state world) := by
  obtain ⟨writes, rest, hcycle⟩ := exists_cycleWrites py world state
  obtain ⟨hstale, hwaits⟩ := h
  rw [writtenIn_eq hcycle] at hwaits ⊢
  constructor
  · exact hcycle.nodup
  · intro k hk
    -- the rows are written from the front of the selection, and the aircraft is not among them
    obtain ⟨tail, htail⟩ : ∃ tail, world.stale state = writes.map PlanWrite.icao24 ++ tail := by
      refine ⟨rest ++ (world.stale state).drop maxFetchesPerCycle, ?_⟩
      rw [← List.append_assoc, ← hcycle.selected, List.take_append_drop]
    have hsorted : (world.stale state).Pairwise fun a b =>
        refreshedAt state.plans a ≤ refreshedAt state.plans b := selectStale_sorted
    rw [htail] at hsorted hstale
    exact (List.pairwise_append.mp hsorted).2.2 k hk icao24
      ((List.mem_append.mp hstale).resolve_left hwaits)
  · intro k hk
    obtain ⟨w, hw, rfl⟩ := List.mem_map.mp hk
    rcases hcycle.lookup w.icao24 with ⟨w', hw', heq, hlookup⟩ | ⟨hnone, -⟩
    · have hnew :
          refreshedAt (world.cycle py state).plans w.icao24 = (w'.row.refreshedAt : Instant) := by
        simp [refreshedAt, hlookup]
      rw [hnew, refreshedAt]
      have hpassed := isStale_of_mem hstale
      cases hlookup' : state.plans.lookup icao24 with
      | none => exact WithBot.bot_lt_coe _
      | some row =>
        simp only [isStale, hlookup', decide_eq_true_eq] at hpassed
        have hpos : (0 : ℤ) ≤ cacheTtl := by decide
        refine WithBot.coe_lt_coe.mpr (lt_of_lt_of_le ?_ (hcycle.recorded w' hw').1)
        exact hpassed.trans_le (sub_le_self _ hpos)
    · exact absurd rfl (hnone w hw)
  · intro k hk
    rcases hcycle.lookup k with ⟨w, hw, rfl, -⟩ | ⟨-, hlookup⟩
    · exact absurd (List.mem_map_of_mem hw) hk
    · rw [refreshedAt, refreshedAt, hlookup]
  · exact hwaits

/-- The aircraft written in each of the cycles. -/
def writtenRounds (py : TextFunctions) : PlanState → List PlanWorld → List (List String)
  | _, []                => []
  | state, world :: rest => writtenIn py state world :: writtenRounds py (world.cycle py state) rest

lemma waits_of_guards {worlds : List PlanWorld}
    (h : GuardsHold (cycleAction py) (WaitsIn py icao24) state worlds) :
    Waits icao24 (refreshedAt state.plans) (writtenRounds py state worlds)
      (refreshedAt (runCycles py worlds state).plans) := by
  induction worlds generalizing state with
  | nil => exact .refl _
  | cons world worlds ih =>
    obtain ⟨hwaits, hrest⟩ := h
    exact .round (overtakes_of_waitsIn hwaits) (ih (hrest _ rfl))

/-- As long as an aircraft is selected and waits, no aircraft is written twice, and those that have
been written are behind it, also when cycles are cut short by the rate limit or by an error. -/
theorem no_second_write_while_waiting (py : TextFunctions) (icao24 : String) (state : PlanState)
    (worlds : List PlanWorld)
    (hwaits : GuardsHold (cycleAction py) (WaitsIn py icao24) state worlds) :
    (writtenRounds py state worlds).flatten.Nodup ∧
      ∀ other ∈ (writtenRounds py state worlds).flatten,
        refreshedAt (runCycles py worlds state).plans icao24 <
          refreshedAt (runCycles py worlds state).plans other := by
  have hrounds := waits_of_guards hwaits
  exact ⟨hrounds.nodup_flatten, hrounds.stamp_lt⟩

instance : Decidable (WaitsIn py icao24 state world) := inferInstanceAs (Decidable (_ ∧ _))

/-- Hosts that grant a token for half an hour and answer the requests with a status. -/
def grantingHosts (status : ApiRequest → ℕ) : OpenSkyHosts where
  time _ := 1000
  token _ := .response {
    status := 200
    text := ""
    json := .ok (.obj [("access_token", .str "token"), ("expires_in", .int 1800)])
    rateLimitRemaining := none }
  api _ request _ := .response {
    status := status request
    text := ""
    json := .ok (.arr [])
    rateLimitRemaining := none }

def activePosition (icao24 : String) (lastSeenAt : Instant) : CurrentPosition where
  icao24
  callsign := none
  lat := 40
  lon := -100
  altitudeFt := none
  speedKt := none
  headingDeg := none
  verticalRateFpm := none
  onGround := false
  squawk := none
  customerRegion := some .west
  lastSeenAt
  aircraftType := none
  updatedAt := lastSeenAt

/-- The cycle of an hour, with these active aircraft. -/
def hourlyWorld (icao24s : List String) (hnodup : icao24s.Nodup) (status : ApiRequest → ℕ)
    (hour : ℤ) : PlanWorld where
  positions := {
    rows := icao24s.map fun icao24 => activePosition icao24 (hour * 3600000000 : ℤ)
    nodup := by simpa [activePosition, Function.comp_def] using hnodup }
  selectedAt := (hour * 3600000000 : ℤ)
  writtenAt _ := (hour * 3600000000 : ℤ)
  selectedAt_le _ := le_rfl
  now := hour * 3600
  hosts := grantingHosts status
  refuses _ := none

/-- The rate limit is hit for one aircraft; the others have no flights. -/
def limitedAt (icao24 : String) : ApiRequest → ℕ
  | .flightsAircraft other _ _ => if other = icao24 then 429 else 404
  | _                          => 404

def threeAircraft : List String := ["ccc333", "bbb222", "aaa111"]

/-- The last aircraft waits through two cycles; the rate limit ends each after one row. -/
theorem no_second_write_two_cycles :
    let worlds := [hourlyWorld threeAircraft (by decide) (limitedAt "bbb222") 0,
      hourlyWorld threeAircraft (by decide) (limitedAt "ccc333") 1]
    writtenRounds asciiText {} worlds = [["aaa111"], ["bbb222"]] ∧
      (writtenRounds asciiText {} worlds).flatten.Nodup ∧
      ∀ other ∈ (writtenRounds asciiText {} worlds).flatten,
        refreshedAt (runCycles asciiText worlds {}).plans "ccc333" <
          refreshedAt (runCycles asciiText worlds {}).plans other := by
  intro worlds
  refine ⟨by decide +kernel, ?_⟩
  exact no_second_write_while_waiting asciiText "ccc333" {} worlds (by decide +kernel)

/-- The cycle goes through all aircraft it has selected up to the cap. -/
def Completes (py : TextFunctions) (state : PlanState) (world : PlanWorld) : Prop :=
  ∃ result, runFlightPlanEnrichment py world state = .ok result ∧ result.rateLimited = false

lemma completes_iff : Completes py state world ↔ (world.loop py state).1 = .completed := by
  rw [Completes, runFlightPlanEnrichment]
  obtain ⟨ended, run⟩ := world.loop py state
  cases ended <;> simp

/-- A cycle in which an aircraft waits although it goes through all it may is full. -/
lemma length_writtenIn (hwaits : WaitsIn py icao24 state world)
    (hcompletes : Completes py state world) :
    (writtenIn py state world).length = maxFetchesPerCycle := by
  obtain ⟨writes, rest, hcycle⟩ := exists_cycleWrites py world state
  obtain ⟨hstale, hnot⟩ := hwaits
  have hrest : rest = [] := hcycle.completed.mp (completes_iff.mp hcompletes)
  have htake : (world.stale state).take maxFetchesPerCycle = writtenIn py state world := by
    rw [hcycle.selected, hrest, List.append_nil, writtenIn_eq hcycle]
  rw [← htake] at hnot ⊢
  rw [List.length_take, min_eq_left_iff]
  by_contra hshort
  rw [List.take_of_length_le (not_le.mp hshort).le] at hnot
  exact hnot hstale

/-- An aircraft that stays selected is served after at most as many cycles that go through as it
takes to serve all aircraft that are selected meanwhile. -/
theorem served_within_turns (py : TextFunctions) (icao24 : String) (state : PlanState)
    (worlds : List PlanWorld) (aircraft : Finset String) (hmem : icao24 ∈ aircraft)
    (hselected : GuardsHold (cycleAction py) (fun state world => icao24 ∈ world.stale state ∧
      (∀ k ∈ world.stale state, k ∈ aircraft) ∧ Completes py state world) state worlds)
    (hlong : aircraft.card ≤ worlds.length * maxFetchesPerCycle) :
    ∃ served ∈ writtenRounds py state worlds, icao24 ∈ served := by
  by_contra hnone
  have hnone' : ∀ served ∈ writtenRounds py state worlds, icao24 ∉ served := by
    intro served hserved hin
    exact hnone ⟨served, hserved, hin⟩
  -- the aircraft waits through all cycles, and all of them are full
  have hrounds : ∀ (worlds : List PlanWorld) (state : PlanState),
      GuardsHold (cycleAction py) (fun state world => icao24 ∈ world.stale state ∧
        (∀ k ∈ world.stale state, k ∈ aircraft) ∧ Completes py state world) state worlds →
      (∀ served ∈ writtenRounds py state worlds, icao24 ∉ served) →
      GuardsHold (cycleAction py) (WaitsIn py icao24) state worlds ∧
        (∀ served ∈ writtenRounds py state worlds,
          served.length = maxFetchesPerCycle ∧ ∀ k ∈ served, k ∈ aircraft) ∧
        (writtenRounds py state worlds).length = worlds.length := by
    intro worlds
    induction worlds with
    | nil => exact fun _ _ _ => ⟨trivial, by simp [writtenRounds], rfl⟩
    | cons world worlds ih =>
      intro state hguards hnot
      obtain ⟨⟨hstale, hall, hcompletes⟩, hrest⟩ := hguards
      have hwaits : WaitsIn py icao24 state world := ⟨hstale, hnot _ (by simp [writtenRounds])⟩
      obtain ⟨hwaits', hfull, hlength⟩ := ih (world.cycle py state) (hrest _ rfl)
        (fun served hserved => hnot served (by simp [writtenRounds, hserved]))
      refine ⟨⟨hwaits, ?_⟩, ?_, by simp [writtenRounds, hlength]⟩
      · intro next hnext
        obtain rfl := Option.some.inj hnext
        exact hwaits'
      · intro served hserved
        rcases List.mem_cons.mp hserved with rfl | hserved
        · refine ⟨length_writtenIn hwaits hcompletes, fun k hk => hall k ?_⟩
          obtain ⟨writes, rest, hcycle⟩ := exists_cycleWrites py world state
          rw [writtenIn_eq hcycle] at hk
          obtain ⟨w, hw, rfl⟩ := List.mem_map.mp hk
          exact hcycle.mem_stale hw
        · exact hfull served hserved
  obtain ⟨hwaits, hfull, hlength⟩ := hrounds worlds state hselected hnone'
  have hlt := (waits_of_guards hwaits).length_mul_lt hmem (fun served h => (hfull served h).2)
    (fun served h => (hfull served h).1)
  rw [hlength] at hlt
  exact absurd hlong (not_le.mpr hlt)

/-- One aircraft more than a cycle serves. -/
def manyAircraft : List String := (List.range 31).map fun n => "a" ++ toString (n + 100)

def crowdedWorld : ℤ → PlanWorld :=
  hourlyWorld manyAircraft (by decide +kernel) fun _ => 404

/-- The last of them waits through the first cycle and is served in the second. -/
theorem served_within_two_turns : "a130" ∉ writtenIn asciiText {} (crowdedWorld 0) ∧
    ∃ served ∈ writtenRounds asciiText {} [crowdedWorld 0, crowdedWorld 1], "a130" ∈ served := by
  refine ⟨by decide +kernel, ?_⟩
  apply served_within_turns asciiText "a130" {} _ manyAircraft.toFinset (by decide +kernel)
  · refine ⟨⟨by decide +kernel, by decide +kernel, completes_iff.mpr (by decide +kernel)⟩, ?_⟩
    intro next hnext
    obtain rfl := Option.some.inj hnext
    refine ⟨⟨by decide +kernel, by decide +kernel, completes_iff.mpr (by decide +kernel)⟩, ?_⟩
    intro _ _
    trivial
  · decide +kernel

/-! ### The result -/

/-- A result accounts for every row: the aircraft it has attempted are the first of those it has
selected, each of them counted by its status. The others are deferred, unless the rate limit cut the
cycle short. -/
structure Accounts (py : TextFunctions) (world : PlanWorld) (state : PlanState)
    (result : PlanResult) : Prop where
  candidates : result.candidates = (world.stale state).length
  written : writtenIn py state world = (world.stale state).take result.fetchAttempts
  attempts : result.fetchAttempts =
    result.fetchedSuccess + result.fetchedNotFound + result.fetchedError
  success : result.fetchedSuccess =
    (world.loop py state).2.written.countP fun w => w.row.fetchStatus = .success
  notFound : result.fetchedNotFound =
    (world.loop py state).2.written.countP fun w => w.row.fetchStatus = .notFound
  errors : result.fetchedError =
    (world.loop py state).2.written.countP fun w => w.row.fetchStatus = .error
  deferred : result.deferred = result.candidates - maxFetchesPerCycle
  completed : result.rateLimited = false → result.candidates = result.fetchAttempts + result.deferred
  rateLimited : result.rateLimited = true →
    result.fetchAttempts < maxFetchesPerCycle ∧ result.fetchAttempts + result.deferred < result.candidates

lemma countP_statuses (writes : List PlanWrite) : writes.length =
    (writes.countP fun w => w.row.fetchStatus = .success) +
      (writes.countP fun w => w.row.fetchStatus = .notFound) +
      (writes.countP fun w => w.row.fetchStatus = .error) := by
  induction writes with
  | nil => rfl
  | cons w writes ih =>
    rw [List.length_cons, ih, List.countP_cons, List.countP_cons, List.countP_cons]
    cases w.row.fetchStatus <;> simp <;> omega

/-- What a cycle returns when it does not raise. -/
lemma result_of_ok {result : PlanResult} (h : runFlightPlanEnrichment py world state = .ok result) :
    (∀ e, (world.loop py state).1 ≠ .raised e) ∧ result = {
      candidates := (world.stale state).length
      fetchAttempts := (world.loop py state).2.attempts
      fetchedSuccess := (world.loop py state).2.success
      fetchedNotFound := (world.loop py state).2.notFound
      fetchedError := (world.loop py state).2.errors
      rateLimited := (world.loop py state).1 = .rateLimited
      deferred := (world.stale state).length -
        ((world.stale state).take maxFetchesPerCycle).length } := by
  rw [runFlightPlanEnrichment] at h
  generalize world.loop py state = outcome at h ⊢
  obtain ⟨ended, run⟩ := outcome
  cases ended with
  | completed => exact ⟨by simp, (Except.ok.inj h).symm⟩
  | rateLimited => exact ⟨by simp, (Except.ok.inj h).symm⟩
  | raised e => cases h

/-- Every result that a cycle returns accounts for the rows it has written. -/
theorem result_accounts (py : TextFunctions) (world : PlanWorld) (state : PlanState)
    (result : PlanResult) (hresult : runFlightPlanEnrichment py world state = .ok result) :
    Accounts py world state result := by
  obtain ⟨writes, rest, hcycle⟩ := exists_cycleWrites py world state
  obtain ⟨hraised, rfl⟩ := result_of_ok hresult
  obtain ⟨hcounted, hwritten⟩ := hcycle.counted hraised
  have hattempts : (world.loop py state).2.attempts = writes.length := by
    rw [hcounted.attempts, hwritten]
  have hlength :
      ((world.stale state).take maxFetchesPerCycle).length = writes.length + rest.length := by
    rw [hcycle.selected, List.length_append, List.length_map]
  have hmin := List.length_take (i := maxFetchesPerCycle) (l := world.stale state)
  constructor
  · rfl
  · have hle : writes.length ≤ maxFetchesPerCycle := by omega
    rw [writtenIn_eq hcycle, hattempts, ← min_eq_left hle, ← List.take_take, hcycle.selected]
    simp
  · rw [hcounted.attempts, hcounted.success, hcounted.notFound, hcounted.errors]
    exact countP_statuses _
  · exact hcounted.success
  · exact hcounted.notFound
  · exact hcounted.errors
  · simp only [hmin]
    omega
  · intro hlimited
    have hrest : rest = [] := by
      rw [← hcycle.completed]
      cases hended : (world.loop py state).1 with
      | completed => rfl
      | rateLimited => simp [hended] at hlimited
      | raised e => exact absurd hended (hraised e)
    simp only [hattempts]
    rw [hrest] at hlength
    simp only [List.length_nil] at hlength
    omega
  · intro hlimited
    have hrest : rest ≠ [] := by
      rw [Ne, ← hcycle.completed]
      simp only [decide_eq_true_eq] at hlimited
      simp [hlimited]
    have hpos := List.length_pos_iff.mpr hrest
    simp only [hattempts]
    omega

theorem limited_result_accounts :
    Accounts asciiText (hourlyWorld threeAircraft (by decide) (limitedAt "bbb222") 0) {} {
      candidates := 3
      fetchAttempts := 1
      fetchedSuccess := 0
      fetchedNotFound := 1
      fetchedError := 0
      rateLimited := true
      deferred := 0 } :=
  result_accounts asciiText (hourlyWorld threeAircraft (by decide) (limitedAt "bbb222") 0) {} _
    (by decide +kernel)

end FleetMonitor
