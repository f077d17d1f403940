import FleetMonitor.Foundry.FlightReconcile
import FleetMonitor.Library.Runs

/-!
# The writers of a Flight

Four writers send different subsets of a Flight's properties through the same Action: the takeoff
creates it, the enrichment sends all that the API knows, the landing and the liveness sweep stamp
it. A property without a value is not sent, and so it keeps the value another writer gave it.
-/

namespace FleetMonitor

open Library

/-! ### The writers -/

/-- `takeoff_to_flight`. -/
def takeoffToFlight (flightId icao24 : String) (takeoffTs : Instant) : Flight where
  flightId
  icao24
  takeoffTs
  landedAt := none
  callsign := none
  registration := none
  aircraftType := none
  operatorIcao := none
  customerRegion := none
  originIcao := none
  destinationIcao := none
  etaMinutes := none
  status := some .departed
  currentStage := some .departed
  isLive := some true
  lat := none
  lon := none
  openCaseCount := 0
  openCaseIds := []
  statusTimeline := [⟨.departed, takeoffTs⟩]
  trail2h := []

/-- The parameters `stamp_flight_landed_batch` sends. -/
def landedStampParams (isliveEnabled : Bool) (s : FlightLandedStamp) : UpsertRequest where
  locator := s.flightId
  params :=
    [("icao24", .text s.icao24), ("takeoffTs", .instant s.takeoffTs),
     ("landedAt", .instant s.landedAt), ("status", .text FlightStatus.landed.text),
     ("currentStage", .text FlightStage.landed.text)] ++
    (if isliveEnabled then [("isLive", .flag false)] else [])

/-- One write of a Flight. -/
inductive FlightWrite where
  | takeoff (t : Takeoff)
  | enrich (flightId : String) (takeoffTs : Instant) (detail : FlightDetail)
      (trail : Option TrailResponse)
  | landed (stamp : FlightLandedStamp)
  | live (stamp : FlightLiveStamp)
  deriving DecidableEq, Repr

variable (isliveEnabled : Bool) {tenant : ObjectSet} {id key : String}

def FlightWrite.request : FlightWrite → UpsertRequest
  | .takeoff t => flightParams isliveEnabled (takeoffToFlight t.flightId t.icao24 t.takeoffTs)
  | .enrich flightId takeoffTs detail trail =>
    flightParams isliveEnabled (flightDetailToFlight flightId takeoffTs detail trail)
  | .landed stamp => landedStampParams isliveEnabled stamp
  | .live stamp   => liveStampParams stamp

/-- The Flight a write is for. -/
def FlightWrite.flightId : FlightWrite → String
  | .takeoff t          => t.flightId
  | .enrich flightId .. => flightId
  | .landed stamp       => stamp.flightId
  | .live stamp         => stamp.flightId

@[simp] lemma request_locator (w : FlightWrite) :
    (w.request isliveEnabled).locator = w.flightId := by
  cases w <;> rfl

lemma lookup_positionParams (lat lon : Option ℚ)
    (h : key ≠ "lat" ∧ key ≠ "lon" ∧ key ≠ "position") :
    (positionParams lat lon).lookup key = none := by
  obtain ⟨hlat, hlon, hposition⟩ := h
  unfold positionParams
  split
  · simp [hlat, hlon, hposition]
  · rfl

section FlightParams

variable (f : Flight)

lemma lookup_flightParams_status : (flightParams isliveEnabled f).params.lookup "status" =
    f.status.map fun s => .text s.text := by
  cases isliveEnabled <;>
    simp [flightParams, List.lookup_append, lookup_putOptional, lookup_positionParams,
      List.lookup_cons]

lemma lookup_flightParams_currentStage :
    (flightParams isliveEnabled f).params.lookup "currentStage" =
      f.currentStage.map fun s => .text s.text := by
  cases isliveEnabled <;>
    simp [flightParams, List.lookup_append, lookup_putOptional, lookup_positionParams,
      List.lookup_cons]

lemma lookup_flightParams_landedAt : (flightParams isliveEnabled f).params.lookup "landedAt" =
    f.landedAt.map .instant := by
  cases isliveEnabled <;>
    simp [flightParams, List.lookup_append, lookup_putOptional, lookup_positionParams,
      List.lookup_cons]

lemma lookup_flightParams_trail2h : (flightParams isliveEnabled f).params.lookup "trail2h" =
    some (.trail f.trail2h) := by
  simp [flightParams, List.lookup_cons]

lemma lookup_flightParams_trailPath : (flightParams isliveEnabled f).params.lookup "trailPath" =
    (linestring f.trail2h).map .linestring := by
  cases isliveEnabled <;>
    simp [flightParams, List.lookup_append, lookup_putOptional, lookup_positionParams,
      List.lookup_cons]

end FlightParams

/-! ### Sequences of writes -/

/-- The flights, and those `stamp_flight_landed_batch` has stamped; all of these have their landing
and a stage, since no write clears a property. -/
structure FlightLog where
  tenant : ObjectSet
  stamped : List String
  landed : ∀ id ∈ stamped,
    tenant.prop id "landedAt" ≠ none ∧ tenant.prop id "currentStage" ≠ none

/-- The flights a write stamps. -/
def FlightWrite.stamps : FlightWrite → List String
  | .landed stamp => [stamp.flightId]
  | _             => []

variable {isliveEnabled} {w : FlightWrite}

lemma prop_of_mem_stamps (hid : id ∈ w.stamps) :
    ObjectSet.prop (applyUpsert tenant (w.request isliveEnabled)) id "landedAt" ≠ none ∧
      ObjectSet.prop (applyUpsert tenant (w.request isliveEnabled)) id "currentStage" ≠ none := by
  cases w with
  | landed stamp =>
    obtain rfl := List.mem_singleton.mp hid
    rw [prop_applyUpsert, prop_applyUpsert]
    simp [FlightWrite.request, landedStampParams, List.lookup_cons]
  | takeoff | enrich | live => simp [FlightWrite.stamps] at hid

variable (isliveEnabled)

/-- The flights after a write. -/
def FlightLog.write (s : FlightLog) (w : FlightWrite) : FlightLog where
  tenant := applyUpsert s.tenant (w.request isliveEnabled)
  stamped := w.stamps ++ s.stamped
  landed id hid := by
    rcases List.mem_append.mp hid with hid | hid
    · exact prop_of_mem_stamps hid
    · exact (s.landed id hid).imp prop_applyUpsert_ne_none prop_applyUpsert_ne_none

def writeFlight (s : FlightLog) (w : FlightWrite) : Option FlightLog :=
  some (s.write isliveEnabled w)

/-! ### The lifecycle scalars -/

/-- The lifecycle scalars of every Flight agree. -/
structure ScalarsAgree (s : FlightLog) : Prop where
  status : ∀ id, ∀ v ∈ s.tenant.prop id "currentStage", ∃ stage : FlightStage,
    v = .text stage.text ∧ s.tenant.prop id "status" = some (.text (stageToStatus stage).text)
  landed : ∀ id ∈ s.stamped, s.tenant.prop id "landedAt" ≠ none →
    s.tenant.prop id "status" = some (.text FlightStatus.landed.text)

/-- A write that keeps the scalars in agreement: no takeoff of a leg that has been stamped; an
enrichment without a timeline only of a Flight without a stage, and one of a stamped leg only with a
timeline that ends with the landing. -/
def KeepsScalars (s : FlightLog) : FlightWrite → Prop
  | .takeoff t => t.flightId ∉ s.stamped
  | .enrich flightId _ detail _ =>
    match detail.statusTimeline.getLast? with
    | none       => s.tenant.prop flightId "currentStage" = none
    | some event => flightId ∈ s.stamped → event.stage = .landed
  | _ => True

instance (s : FlightLog) : DecidablePred (KeepsScalars s) := fun w => by
  unfold KeepsScalars; split <;> try split
  all_goals infer_instance

/-- The scalars of one Flight agree. -/
structure ScalarsMatch (status currentStage : Option PropValue) (stamped : Prop) : Prop where
  ofStage : ∀ v ∈ currentStage, ∃ stage : FlightStage,
    v = .text stage.text ∧ status = some (.text (stageToStatus stage).text)
  ofStamp : stamped → status = some (.text FlightStatus.landed.text)

variable {isliveEnabled} {s : FlightLog}

lemma scalarsAgree_iff : ScalarsAgree s ↔ ∀ id,
    ScalarsMatch (s.tenant.prop id "status") (s.tenant.prop id "currentStage")
      (id ∈ s.stamped) := by
  constructor
  · intro h id
    exact ⟨h.status id, fun hid => h.landed id hid (s.landed id hid).1⟩
  · intro h
    exact ⟨fun id => (h id).ofStage, fun id hid _ => (h id).ofStamp hid⟩

lemma stageToStatus_text_ne_unknown (stage : FlightStage) :
    (stageToStatus stage).text ≠ FlightStatus.unknown.text := by
  cases stage <;> decide

lemma stageToStatus_text_eq_landed {stage : FlightStage} :
    (stageToStatus stage).text = FlightStatus.landed.text ↔ stage = .landed := by
  cases stage <;> decide

/-- A stage with its status agrees with a stamp iff it is the landing. -/
lemma scalarsMatch_stage (stage : FlightStage) {stamped : Prop} :
    ScalarsMatch (some (.text (stageToStatus stage).text)) (some (.text stage.text)) stamped ↔
      (stamped → stage = .landed) := by
  constructor
  · intro h hstamped
    have heq := h.ofStamp hstamped
    rw [Option.some.injEq, PropValue.text.injEq] at heq
    exact stageToStatus_text_eq_landed.mp heq
  · intro h
    refine ⟨fun v hv => ⟨stage, (Option.mem_some.mp hv).symm, rfl⟩, fun hstamped => ?_⟩
    rw [h hstamped]
    rfl

/-- The status of an empty timeline agrees only with no stage at all. -/
lemma scalarsMatch_unknown {currentStage : Option PropValue} {stamped : Prop}
    (h : stamped → currentStage ≠ none) :
    ScalarsMatch (some (.text FlightStatus.unknown.text)) currentStage stamped ↔
      currentStage = none := by
  constructor
  · intro hmatch
    by_contra hne
    obtain ⟨v, hv⟩ := Option.ne_none_iff_exists'.mp hne
    obtain ⟨stage, -, heq⟩ := hmatch.ofStage v hv
    rw [Option.some.injEq, PropValue.text.injEq] at heq
    exact stageToStatus_text_ne_unknown stage heq.symm
  · intro hnone
    refine ⟨fun v hv => ?_, fun hstamped => absurd hnone (h hstamped)⟩
    rw [hnone] at hv
    simp at hv

/-- The scalars the Flight of a write is left with. -/
lemma scalarsMatch_write (h : ScalarsAgree s) (w : FlightWrite) :
    ScalarsMatch ((s.write isliveEnabled w).tenant.prop w.flightId "status")
        ((s.write isliveEnabled w).tenant.prop w.flightId "currentStage")
        (w.flightId ∈ (s.write isliveEnabled w).stamped) ↔ KeepsScalars s w := by
  simp only [FlightLog.write, prop_applyUpsert, request_locator, if_true]
  cases w with
  | takeoff t =>
    simp only [FlightWrite.request, lookup_flightParams_status, lookup_flightParams_currentStage,
      FlightWrite.stamps, List.nil_append, KeepsScalars]
    refine (scalarsMatch_stage .departed).trans ?_
    simp [FlightWrite.flightId]
  | enrich flightId takeoffTs detail trail =>
    simp only [FlightWrite.request, lookup_flightParams_status, lookup_flightParams_currentStage,
      FlightWrite.stamps, List.nil_append, KeepsScalars, FlightWrite.flightId,
      flightDetailToFlight]
    cases detail.statusTimeline.getLast? with
    | none => exact scalarsMatch_unknown fun hid => (s.landed flightId hid).2
    | some event => exact scalarsMatch_stage _
  | landed stamp =>
    refine iff_of_true ?_ trivial
    exact (scalarsMatch_stage .landed).mpr fun _ => rfl
  | live stamp =>
    refine iff_of_true ?_ trivial
    exact scalarsAgree_iff.mp h stamp.flightId

/-- A write leaves the scalars of the other Flights as they are. -/
lemma scalarsAgree_write (h : ScalarsAgree s) (w : FlightWrite) :
    ScalarsAgree (s.write isliveEnabled w) ↔ KeepsScalars s w := by
  rw [← scalarsMatch_write h w, scalarsAgree_iff]
  constructor
  · intro hall
    exact hall w.flightId
  · intro hown id
    by_cases hid : w.flightId = id
    · exact hid ▸ hown
    · have hstamps : id ∉ w.stamps := by
        intro hmem
        cases w with
        | landed stamp => exact hid (List.mem_singleton.mp hmem).symm
        | takeoff | enrich | live => simp [FlightWrite.stamps] at hmem
      simp only [FlightLog.write, prop_applyUpsert, request_locator, if_neg hid, List.mem_append,
        hstamps, false_or]
      exact scalarsAgree_iff.mp h id

/-- The lifecycle scalars agree throughout a sequence of writes iff every write keeps them so. -/
theorem scalars_agree_iff (isliveEnabled : Bool) (s : FlightLog) (ws : List FlightWrite)
    (h : ScalarsAgree s) :
    StatesHold (writeFlight isliveEnabled) ScalarsAgree s ws ↔
      GuardsHold (writeFlight isliveEnabled) KeepsScalars s ws := by
  refine statesHold_iff_guardsHold (fun s w t hs hw => ?_) (fun _ _ => rfl) h
  obtain rfl := Option.some.inj hw
  exact scalarsAgree_write hs w

/-- The flights of an empty tenant. -/
def emptyLog : FlightLog := ⟨Table.empty, [], by simp⟩

lemma scalarsAgree_emptyLog : ScalarsAgree emptyLog :=
  ⟨fun _ v hv => by simp [emptyLog, ObjectSet.prop] at hv, fun _ hid => by simp [emptyLog] at hid⟩

/-- What `get_flight` answers; its timeline is always empty. -/
def apiDetail : FlightDetail where
  icao24 := "a0b1c2"
  callsign := some "UAL12"
  registration := none
  aircraftType := none
  operatorIcao := none
  originIcao := none
  destinationIcao := none
  customerRegion := none
  lat := 40
  lon := -73
  etaMinutes := none
  statusTimeline := []
  openCaseIds := []

/-- A leg takes off and lands; an enrichment is between the two, or after them. -/
def takeoffWrite : FlightWrite := .takeoff ⟨"a0b1c2", 100000000, "a0b1c2-100"⟩

def landingWrite : FlightWrite := .landed ⟨"a0b1c2-100", "a0b1c2", 100000000, 3600000000⟩

def enrichWrite : FlightWrite := .enrich "a0b1c2-100" 100000000 apiDetail none

/-- An enrichment of a leg that has landed takes the status away and leaves the stage. -/
theorem scalars_disagree : ¬ ∀ (isliveEnabled : Bool) (s : FlightLog) (ws : List FlightWrite),
    ScalarsAgree s → StatesHold (writeFlight isliveEnabled) ScalarsAgree s ws := by
  intro h
  have hlast := (h true emptyLog [takeoffWrite, landingWrite,
    enrichWrite] scalarsAgree_emptyLog).run
    rfl
  have hstatus := hlast.landed "a0b1c2-100" (by decide) (by decide)
  revert hstatus
  decide

/-- The takeoff, the landing and the sweep keep the scalars in agreement. -/
theorem scalars_agree_landing : StatesHold (writeFlight true) ScalarsAgree emptyLog
    [takeoffWrite, landingWrite, .live ⟨"a0b1c2-100", "a0b1c2", 100000000, false⟩] := by
  refine (scalars_agree_iff true emptyLog _ scalarsAgree_emptyLog).mpr ?_
  decide

/-! ### The trail and its path -/

/-- The path of every Flight is the projection of its trail. -/
def TrailPathsMatch (s : FlightLog) : Prop :=
  ∀ id points, s.tenant.prop id "trail2h" = some (.trail points) →
    s.tenant.prop id "trailPath" = (linestring points).map .linestring

/-- The trail a write sends. -/
def FlightWrite.trail2h : FlightWrite → Option (List TrailPoint)
  | .takeoff _          => some []
  | .enrich _ _ _ trail => some ((trail.map (·.points)).getD [])
  | _                   => none

/-- A write that keeps the path with the trail: a trail that makes no line is sent only to a Flight
without a path. -/
def KeepsTrailPath (s : FlightLog) (w : FlightWrite) : Prop :=
  ∀ points ∈ w.trail2h, linestring points = none → s.tenant.prop w.flightId "trailPath" = none

instance (s : FlightLog) : DecidablePred (KeepsTrailPath s) := fun w =>
  match h : w.trail2h with
  | none        => .isTrue fun points hpoints => by simp [h] at hpoints
  | some points =>
    decidable_of_iff (linestring points = none → s.tenant.prop w.flightId "trailPath" = none)
      (by simp [KeepsTrailPath, h])

/-- What a write sends of the trail and of its path. -/
lemma lookup_request_trail (isliveEnabled : Bool) (w : FlightWrite) :
    (w.request isliveEnabled).params.lookup "trail2h" = w.trail2h.map .trail ∧
      (w.request isliveEnabled).params.lookup "trailPath" =
        (w.trail2h.bind linestring).map .linestring := by
  cases w with
  | takeoff t => exact ⟨lookup_flightParams_trail2h _ _, lookup_flightParams_trailPath _ _⟩
  | enrich flightId takeoffTs detail trail =>
    exact ⟨lookup_flightParams_trail2h _ _, lookup_flightParams_trailPath _ _⟩
  | landed stamp =>
    cases isliveEnabled <;> simp [FlightWrite.request, landedStampParams, FlightWrite.trail2h,
      List.lookup_cons]
  | live stamp => simp [FlightWrite.request, liveStampParams, FlightWrite.trail2h, List.lookup_cons]

lemma trailPathsMatch_write (h : TrailPathsMatch s) (w : FlightWrite) :
    TrailPathsMatch (s.write isliveEnabled w) ↔ KeepsTrailPath s w := by
  obtain ⟨htrail, hpath⟩ := lookup_request_trail isliveEnabled w
  constructor
  · intro hall points hpoints hnone
    have hown := hall w.flightId points
    simp only [FlightLog.write, prop_applyUpsert, request_locator, if_true, htrail, hpath,
      Option.mem_def.mp hpoints] at hown
    simpa [hnone] using hown
  · intro hkeeps id points hpoints
    by_cases hid : w.flightId = id
    · subst hid
      simp only [FlightLog.write, prop_applyUpsert, request_locator, if_true, htrail, hpath]
        at hpoints ⊢
      cases hsent : w.trail2h with
      | none =>
        rw [hsent] at hpoints
        exact h w.flightId points (by simpa using hpoints)
      | some sent =>
        rw [hsent] at hpoints
        obtain rfl : sent = points := by simpa using hpoints
        cases hline : linestring sent with
        | none => simpa [hline] using hkeeps sent hsent hline
        | some line => simp [hline]
    · simp only [FlightLog.write, prop_applyUpsert, request_locator, if_neg hid] at hpoints ⊢
      exact h id points hpoints

/-- The path is the projection of the trail throughout a sequence of writes iff no trail without a
line is written to a Flight with a path. -/
theorem trail_paths_match_iff (isliveEnabled : Bool) (s : FlightLog) (ws : List FlightWrite)
    (h : TrailPathsMatch s) :
    StatesHold (writeFlight isliveEnabled) TrailPathsMatch s ws ↔
      GuardsHold (writeFlight isliveEnabled) KeepsTrailPath s ws := by
  refine statesHold_iff_guardsHold (fun s w t hs hw => ?_) (fun _ _ => rfl) h
  obtain rfl := Option.some.inj hw
  exact trailPathsMatch_write hs w

lemma trailPathsMatch_emptyLog : TrailPathsMatch emptyLog := by
  intro id points hpoints
  simp [emptyLog, ObjectSet.prop] at hpoints

def trailAt (lat lon : ℚ) (ts : Instant) : TrailPoint := ⟨ts, lat, lon, none, none⟩

/-- An enrichment with a line. -/
def lineWrite : FlightWrite :=
  .enrich "a0b1c2-100" 100000000 apiDetail
    (some ⟨"a0b1c2", [trailAt 40 (-73) 1, trailAt 41 (-74) 2]⟩)

/-- An enrichment whose trail stream has failed leaves the path of the trail before. -/
theorem trail_paths_drift : ¬ ∀ (isliveEnabled : Bool) (s : FlightLog) (ws : List FlightWrite),
    TrailPathsMatch s → StatesHold (writeFlight isliveEnabled) TrailPathsMatch s ws := by
  intro h
  have hlast := (h true emptyLog [lineWrite, enrichWrite] trailPathsMatch_emptyLog).run rfl
  have hpath := hlast "a0b1c2-100" [] (by decide)
  revert hpath
  decide

/-- A trail that grows into a line. -/
theorem trail_paths_match_growing : StatesHold (writeFlight true) TrailPathsMatch emptyLog
    [takeoffWrite, enrichWrite, lineWrite, lineWrite] := by
  refine (trail_paths_match_iff true emptyLog _ trailPathsMatch_emptyLog).mpr ?_
  decide

end FleetMonitor
