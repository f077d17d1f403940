import FleetMonitor.Cases.ExactlyOnce
import FleetMonitor.Detection.LostSignal
import FleetMonitor.Salesforce.Triage

/-!
# Escalation of lost signals

What a rule has put into a case stays with it: the marks of the push and the pulls leave the case
type and the facts alone, so every payload sent to Salesforce has those of an anomaly. The facts of
`LostSignalRule` never meet the thresholds of the critical escalation.
-/

namespace FleetMonitor.Escalation

open Library ExactlyOnce

/-! ### The facts of a case -/

/-- The rows a pass has fetched and not finished. -/
def passRows : PushPass → List CaseRow
  | .idle                => []
  | .locked              => []
  | .pushing rest        => rest
  | .answered row _ rest => row :: rest

variable (Detected : CaseType → DetectionFacts → Prop)

/-- The detector inserts what has been detected. -/
def insertsDetected (_ : State) : Action → Prop
  | .insert _ anomaly _ _ => Detected anomaly.rule anomaly.detectionFacts
  | _                     => True

/-- The start of the application: nothing has been sent. -/
structure start (s : State) : Prop where
  init : init s
  sent : s.sent = []

/-- Every row, in the table or fetched, and every payload has detected facts. -/
structure Carries (s : State) : Prop where
  rows : ∀ r ∈ s.db.cases.rows, Detected r.caseType r.detectionFacts
  fetched : ∀ p, ∀ r ∈ passRows (s.passes p), Detected r.caseType r.detectionFacts
  sent : ∀ payload ∈ s.sent, ∃ caseType,
    payload.caseType = some caseType ∧ Detected caseType payload.detectionFacts

variable {Detected} {recordType : String} {s t : State} {p : ℕ}

lemma Carries.of_start (h : start s) : Carries Detected s where
  rows r hr := by simp [h.init.cases] at hr
  fetched p r hr := by simp [h.init.passes p, passRows] at hr
  sent payload hpayload := by simp [h.sent] at hpayload

lemma rows_upsert {cases : CaseTable} {row : CaseRow}
    (h : ∀ r ∈ cases.rows, Detected r.caseType r.detectionFacts)
    (hrow : Detected row.caseType row.detectionFacts) :
    ∀ r ∈ (cases.upsert row).rows, Detected r.caseType r.detectionFacts := by
  intro r hr
  rcases Table.mem_rows_upsert.mp hr with rfl | ⟨hr, -⟩
  · exact hrow
  · exact h r hr

/-- A mark leaves type and facts alone. -/
lemma rows_markCase {now : Instant} {caseId : String} {mark : Mark} {db db' : CaseDb}
    (h : ∀ r ∈ db.cases.rows, Detected r.caseType r.detectionFacts)
    (hmark : markCase now caseId mark db = some db') :
    ∀ r ∈ db'.cases.rows, Detected r.caseType r.detectionFacts := by
  obtain ⟨row, hrow, -, hcases⟩ := markCase_eq_some hmark
  have hdetected := h row (Table.mem_rows_of_lookup hrow)
  rw [hcases]
  apply rows_upsert h
  cases mark <;> exact hdetected

/-- So does a pull. -/
lemma rows_applyRecord {now : Instant} {rec : CaseSyncRecord} {db db' : CaseDb} {matched : Bool}
    (h : ∀ r ∈ db.cases.rows, Detected r.caseType r.detectionFacts)
    (happly : applyRecord now rec db = some (db', matched)) :
    ∀ r ∈ db'.cases.rows, Detected r.caseType r.detectionFacts := by
  cases ApplyRule.of_applyRecord happly with
  | unmatched => exact h
  | matched row hrow => exact rows_upsert h (h row hrow)

lemma toPayload_facts {row : CaseRow} {payload : CaseCreateInput}
    (h : toPayload row = .ok payload) :
    payload.caseType = some row.caseType ∧ payload.detectionFacts = row.detectionFacts := by
  rw [toPayload] at h
  split at h
  next => simp at h
  next =>
    obtain rfl := Except.ok.inj h
    exact ⟨rfl, rfl⟩

lemma Carries.setDb (h : Carries Detected s) {db : CaseDb}
    (hrows : ∀ r ∈ db.cases.rows, Detected r.caseType r.detectionFacts) :
    Carries Detected { s with db } :=
  ⟨hrows, h.fetched, h.sent⟩

lemma Carries.setPass (h : Carries Detected s) (p : ℕ) (ps : PushPass)
    (hps : ∀ r ∈ passRows ps, Detected r.caseType r.detectionFacts) :
    Carries Detected (s.setPass p ps) where
  rows := h.rows
  fetched q r hr := by
    by_cases hq : q = p
    · subst hq
      exact hps r (by simpa [State.setPass] using hr)
    · exact h.fetched q r (by simpa [State.setPass, hq] using hr)
  sent := h.sent

lemma Carries.send (h : Carries Detected s) {row : CaseRow} {payload : CaseCreateInput}
    (hrow : Detected row.caseType row.detectionFacts) (hpayload : toPayload row = .ok payload) :
    Carries Detected { s with sent := payload :: s.sent } where
  rows := h.rows
  fetched := h.fetched
  sent q hq := by
    rcases List.mem_cons.mp hq with rfl | hq
    · obtain ⟨htype, hfacts⟩ := toPayload_facts hpayload
      exact ⟨row.caseType, htype, hfacts ▸ hrow⟩
    · exact h.sent q hq

/-- The rows of a pass that has none left are no concern. -/
lemma Carries.release (h : Carries Detected s) :
    Carries Detected { s.setPass p .idle with lock := none } := by
  have hidle := h.setPass p .idle (by simp [passRows])
  exact ⟨hidle.rows, hidle.fetched, hidle.sent⟩

lemma Carries.create {row : CaseRow} {rest : List CaseRow} {payload : CaseCreateInput}
    {outcome : Except PyException SalesforceCaseRef} {org : SfOrg} (h : Carries Detected s)
    (hp : s.passes p = .pushing (row :: rest)) (hpayload : toPayload row = .ok payload) :
    Carries Detected
      { s.setPass p (.answered row outcome rest) with org, sent := payload :: s.sent } := by
  have hfetched : ∀ r ∈ row :: rest, Detected r.caseType r.detectionFacts := by
    have hpass := h.fetched p
    rwa [hp] at hpass
  have hsend := h.send (hfetched row List.mem_cons_self) hpayload
  have hpass := hsend.setPass p (.answered row outcome rest) hfetched
  exact ⟨hpass.rows, hpass.fetched, hpass.sent⟩

lemma Carries.step {a : Action} (h : Carries Detected s) (hg : insertsDetected Detected s a)
    (hact : act recordType s a = some t) : Carries Detected t := by
  cases StepRule.of_act hact with
  | insert => exact h.setDb (rows_upsert h.rows hg)
  | lock p =>
    have hlocked := h.setPass p .locked (by simp [passRows])
    exact ⟨hlocked.rows, hlocked.fetched, hlocked.sent⟩
  | lockTaken => exact h
  | fetch p limit =>
    refine h.setPass p _ fun r hr => h.rows r ?_
    exact Table.mem_rows_of_lookup ((pendingBatch_fetchPending _ _).lookup r hr)
  | create p sf service created row rest payload org hp hpayload => exact h.create hp hpayload
  | mark p now row outcome rest mark db hp hmark hdb =>
    have hpass := h.setPass p (.pushing rest) fun r hr =>
      h.fetched p r (by rw [hp]; exact List.mem_cons_of_mem _ hr)
    exact hpass.setDb (rows_markCase h.rows hdb)
  | finish => exact h.release
  | crashSending p row rest payload hp hpayload =>
    exact (h.send (h.fetched p row (by simp [hp, passRows])) hpayload).release
  | crash => exact h.release
  | land => exact ⟨h.rows, h.fetched, h.sent⟩
  | edit => exact ⟨h.rows, h.fetched, h.sent⟩
  | query => exact ⟨h.rows, h.fetched, h.sent⟩
  | apply p now rec records db matched hp happly =>
    exact ⟨rows_applyRecord h.rows happly, h.fetched, h.sent⟩
  | dropPull => exact ⟨h.rows, h.fetched, h.sent⟩

lemma carries_of_reached
    (h : Reached (act recordType) (insertsDetected Detected) start s) : Carries Detected s :=
  h.invariant (fun _ => Carries.of_start) fun _ _ _ hI hg hact => hI.step hg hact

/-! ### Lost signals -/

variable (libs : Libraries) (sparseCells : List (ℤ × ℤ)) (apex : Apex)

/-- A rule has reported the facts; those of a lost signal are from an anomaly of its rule. -/
def ReportedByRule (caseType : CaseType) (facts : DetectionFacts) : Prop :=
  ∃ rule ∈ allRules, caseType = rule.caseType ∧
    (rule = .lostSignal → ∃ positions, ∃ a ∈ lostSignalDetect libs sparseCells positions,
      a.detectionFacts = facts)

/-- The Case of a payload sent for the case has got the Task of a critical escalation. -/
def Escalated (s : State) (caseId : String) : Prop :=
  ∃ payload ∈ s.sent, payload.externalId = caseId ∧ ∃ id recordTypeId engQueueId,
    (criticalEscalation apex (caseOfFields apex id (sfFields payload recordTypeId))
      engQueueId).isSome

variable {libs sparseCells apex}

lemma lostSignal_of_apexEq {rule : Rule} (h : apexEq "lost_signal" rule.caseType.text) :
    rule = .lostSignal := by
  cases rule <;> first | rfl | exact absurd h (by decide)

/-- The gap a rule reports is at most the one beyond which the Case escalates. -/
lemma gap_le_of_reported {a : Anomaly} {positions : List EnrichedPosition}
    (h : a ∈ lostSignalDetect libs sparseCells positions) :
    ∃ gap : ℚ, factValue a.detectionFacts "gap_minutes" = .number gap ∧ gap ≤ critGapMinutes := by
  obtain ⟨-, alt, gap, hlost⟩ := lostInCruise_of_mem h
  refine ⟨roundedMinutes gap, hlost.gapFact, ?_⟩
  exact_mod_cast (roundedMinutes_mem (by decide) (by decide) hlost.silent.1 hlost.silent.2).2

/-- A payload with the facts of a rule gets no Task. -/
lemma Carries.not_escalated (h : Carries (ReportedByRule libs sparseCells) s) (caseId : String) :
    ¬Escalated apex s caseId := by
  rintro ⟨payload, hpayload, -, id, recordTypeId, engQueueId, hsome⟩
  obtain ⟨caseType, htype, rule, -, rfl, hreported⟩ := h.sent payload hpayload
  obtain ⟨hlost, -, facts, gap, alt, hfacts, hgap, -, hlong, -⟩ :=
    criticalEscalation_isSome_iff.mp hsome
  rw [caseOfFields_afmCaseType, htype] at hlost
  obtain ⟨positions, a, ha, hsame⟩ := hreported (lostSignal_of_apexEq hlost)
  obtain ⟨reported, hfact, hle⟩ := gap_le_of_reported ha
  rw [caseOfFields_afmDetectionFacts] at hfacts
  split_ifs at hfacts with hempty
  · simp [deserializeFacts] at hfacts
  · obtain rfl := Option.some.inj hfacts
    rw [← hsame, hfact] at hgap
    obtain rfl := Option.some.inj hgap
    exact absurd hlong (not_lt.mpr hle)

/-- No case escalates, in any run of detector, push and pull, however long its aircraft stays
silent. -/
theorem never_escalated (recordType : String) (s : State)
    (hs : Reached (act recordType) (insertsDetected (ReportedByRule libs sparseCells)) start s)
    (caseId : String) : ¬Escalated apex s caseId :=
  (carries_of_reached hs).not_escalated caseId

/-! ### A silence of more than half an hour -/

/-- The snapshot is the last of its aircraft, in level cruise and in scope, and the feed goes on for
more than thirty minutes. -/
structure SilentInCruise (lake : List PositionSnapshot) (last : PositionSnapshot) : Prop where
  mem : last ∈ lake
  newest : ∀ row ∈ lake, row.icao24 = last.icao24 → row.tsPolled ≤ last.tsPolled
  inScope : last.customerRegion.isSome
  airborne : last.onGround = false
  cruise : last.altitudeFt.any (cruiseFloorFt ≤ ·)
  level : last.verticalRateFpm.all fun vrate => |vrate| ≤ levelVrateFpm
  silent : ∃ row ∈ lake, last.tsPolled + minutes 30 < row.tsPolled

/-- The case a tick has raised for the silent aircraft escalates once it is pushed. -/
def SilenceEscalates (libs : Libraries) (sparseCells : List (ℤ × ℤ)) (apex : Apex)
    (recordType : String) : Prop :=
  ∀ (lake : List PositionSnapshot) (ref : Reference) (last : PositionSnapshot) (tick : Instant),
    SilentInCruise lake last →
      ∀ a ∈ lostSignalDetect libs sparseCells
        (tickFrame libs ref (lake.filter fun row => row.tsPolled ≤ tick) tick),
      a.icao24 = some last.icao24 → a.severityHint = some .high →
        ∀ s, Reached (act recordType) (insertsDetected (ReportedByRule libs sparseCells)) start s →
          ∀ r ∈ s.db.cases.rows, r.caseType = a.rule → r.flightId = last.icao24 →
            r.detectionFacts = a.detectionFacts → r.sfSyncStatus = .synced →
              Escalated apex s r.caseId

def lostSnapshot : PositionSnapshot := sampleSnapshot "a00001" "DAL123" 28000 90 0

/-- The other aircraft is in every poll. -/
def silentLake : List PositionSnapshot :=
  lostSnapshot :: (List.range 8).map fun k : ℕ =>
    sampleSnapshot "b00001" "DAL456" 36000 90 (k * 300000000)

lemma silentLake_silent : SilentInCruise silentLake lostSnapshot where
  mem := List.mem_cons_self
  newest := by decide
  inScope := rfl
  airborne := rfl
  cruise := rfl
  level := rfl
  silent := by decide

def lostAnomaly : Anomaly where
  rule := .lostSignal
  icao24 := some "a00001"
  siteIcao := some "KJFK"
  customerRegion := .east
  severityHint := some .high
  detectionFacts :=
    [("callsign", .text "DAL123"), ("last_lat", .number kjfk.lat), ("last_lon", .number kjfk.lon),
     ("last_altitude_ft", .number 28000), ("last_seen", .text "1970-01-01T00:00:00+00:00"),
     ("gap_minutes", .number 20)]

/-- The tick after twenty minutes. -/
def silentFrame : List EnrichedPosition :=
  tickFrame planarLibs kjfkReference (silentLake.filter fun row => row.tsPolled ≤ 1200000000)
    1200000000

lemma lostAnomaly_mem : lostAnomaly ∈ lostSignalDetect planarLibs [] silentFrame := by
  decide +kernel

/-- A platform whose texts are all facts of other origin. -/
def plainApex : Apex where
  deserializeUntyped _ := none
  decimalValueOf _ := none
  decimalText x := toString x
  jsonText _ := "\x7b\x7d"
  today := 0

/-- Salesforce creates the Case. -/
def creatingClient : SfClient where
  token _ := .ok ()
  query _ := .ok ["0120"]
  create _ := .ok ⟨true, "5001"⟩

/-- The anomaly becomes a case, and a push pass creates its Case. -/
def pushingRun : List Action :=
  [.insert 1200000000 lostAnomaly "CASE-1" [],
   .lock 0, .fetch 0 20, .create 0 creatingClient {} (some ("5001", 1201000000)),
   .mark 0 1202000000, .finish 0]

lemma start_emptyState : start emptyState := ⟨init_emptyState, rfl⟩

/-- The run inserts nothing but the anomaly. -/
lemma pushingRun_guards : GuardsHold (act "Fleet_Operations")
    (insertsDetected (ReportedByRule planarLibs [])) emptyState pushingRun := by
  have hreported : ReportedByRule planarLibs [] lostAnomaly.rule lostAnomaly.detectionFacts :=
    ⟨.lostSignal, Rule.mem_allRules _, rfl,
      fun _ => ⟨silentFrame, lostAnomaly, lostAnomaly_mem, rfl⟩⟩
  refine ⟨hreported, fun _ _ => ⟨trivial, fun _ _ => ⟨trivial,
    fun _ _ => ⟨trivial, fun _ _ => ?_⟩⟩⟩⟩
  exact ⟨trivial, fun _ _ => ⟨trivial, fun _ _ => trivial⟩⟩

/-- The case is pushed. -/
lemma exists_pushingRun : ∃ s, runActions (act "Fleet_Operations") emptyState pushingRun = some s ∧
    Reached (act "Fleet_Operations") (insertsDetected (ReportedByRule planarLibs [])) start s ∧
    ∃ r ∈ s.db.cases.rows, r.caseType = .lostSignal ∧ r.flightId = "a00001" ∧
      r.detectionFacts = lostAnomaly.detectionFacts ∧ r.sfSyncStatus = .synced := by
  have hsome : (runActions (act "Fleet_Operations") emptyState pushingRun).isSome := by decide
  obtain ⟨s, hs, hreached⟩ := (Reached.start start_emptyState).exists_run pushingRun_guards hsome
  have hrows : ∀ s ∈ runActions (act "Fleet_Operations") emptyState pushingRun,
      ∃ r ∈ s.db.cases.rows, r.caseType = .lostSignal ∧ r.flightId = "a00001" ∧
        r.detectionFacts = lostAnomaly.detectionFacts ∧ r.sfSyncStatus = .synced := by
    decide +kernel
  exact ⟨s, hs, hreached, hrows s hs⟩

/-- It does not escalate. -/
theorem pushingRun_not_escalated : ∃ s,
    runActions (act "Fleet_Operations") emptyState pushingRun = some s ∧
    s.sent ≠ [] ∧ ¬Escalated plainApex s "CASE-1" := by
  obtain ⟨s, hs, hreached, -⟩ := exists_pushingRun
  have hsent : ∀ s ∈ runActions (act "Fleet_Operations") emptyState pushingRun, s.sent ≠ [] := by
    decide
  exact ⟨s, hs, hsent s hs, never_escalated "Fleet_Operations" s hreached "CASE-1"⟩

/-- Not every silence escalates. -/
theorem silence_without_escalation :
    ¬∀ (libs : Libraries) (sparseCells : List (ℤ × ℤ)) (apex : Apex) (recordType : String),
      SilenceEscalates libs sparseCells apex recordType := by
  intro h
  obtain ⟨s, -, hreached, r, hr, htype, hflight, hfacts, hsynced⟩ := exists_pushingRun
  have hescalated := h planarLibs [] plainApex "Fleet_Operations" silentLake kjfkReference lostSnapshot
    1200000000 silentLake_silent lostAnomaly lostAnomaly_mem rfl rfl s hreached r hr htype hflight
    hfacts hsynced
  exact (carries_of_reached hreached).not_escalated r.caseId hescalated

end FleetMonitor.Escalation
