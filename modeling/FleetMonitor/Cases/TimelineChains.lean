import FleetMonitor.Cases.Resolutions

/-!
# The timeline of a case

`app.case_timeline` is written in the transactions that write the case, one after the other here.
Read from its start, the timeline of a case begins with its creation and goes over, change by
change, to the status and the severity that its row has.
-/

namespace FleetMonitor.TimelineChains

open Library ExactlyOnce

/-! ### Reading a timeline -/

/-- Status and severity after an event; `none` when it does not go on from what was there. -/
def replayEvent : CaseStatus × Severity → TimelineEvent → Option (CaseStatus × Severity)
  | (status, severity), .statusChanged prev next =>
    if status = prev ∧ prev ≠ next then some (next, severity) else none
  | (status, severity), .severityChanged prev next =>
    if severity = prev ∧ prev ≠ next then some (status, next) else none
  | _, .created _ => none
  | current, .sfSynced _ => some current
  | current, .sfSyncRetry _ _ => some current
  | current, .sfSyncFailed _ _ => some current
  | current, .resolved _ => some current

def replay (start : CaseStatus × Severity) (events : List TimelineEvent) :
    Option (CaseStatus × Severity) :=
  events.foldlM replayEvent start

lemma replay_append (start : CaseStatus × Severity) (events more : List TimelineEvent) :
    replay start (events ++ more) = (replay start events).bind (replay · more) :=
  List.foldlM_append

/-- The events of a case, in order. -/
def eventsOf (caseId : String) (timeline : List (String × TimelineEvent)) : List TimelineEvent :=
  (timeline.filter (·.1 = caseId)).map Prod.snd

/-- The timeline of a row leads to it. -/
def LeadsTo (timeline : List (String × TimelineEvent)) (row : CaseRow) : Prop :=
  ∃ severity events, eventsOf row.caseId timeline = .created row.caseType :: events ∧
    replay (.open, severity) events = some (row.status, row.severity)

/-- Every row has its timeline, and every event its row. -/
structure TimelineInv (db : CaseDb) : Prop where
  leads : ∀ r ∈ db.cases.rows, LeadsTo db.timeline r
  known : ∀ entry ∈ db.timeline, db.cases.lookup entry.1 ≠ none

/-- The start: no case and no event. -/
structure start (s : State) : Prop where
  init : init s
  timeline : s.db.timeline = []

variable {db db' : CaseDb} {row : CaseRow} {caseId : String} {s t : State}
  {timeline : List (String × TimelineEvent)}

@[simp] lemma eventsOf_append (more : List (String × TimelineEvent)) :
    eventsOf caseId (timeline ++ more) = eventsOf caseId timeline ++ eventsOf caseId more := by
  simp [eventsOf]

@[simp] lemma eventsOf_map_self (events : List TimelineEvent) :
    eventsOf caseId (events.map fun e => (caseId, e)) = events := by
  simp [eventsOf, List.filter_map, Function.comp_def]

lemma eventsOf_map_of_ne {other : String} (h : other ≠ caseId) (events : List TimelineEvent) :
    eventsOf caseId (events.map fun e => (other, e)) = [] := by
  simp [eventsOf, List.filter_map, Function.comp_def, h]

/-- A case without a row has no events. -/
lemma TimelineInv.eventsOf_eq_nil (h : TimelineInv db) (hnone : db.cases.lookup caseId = none) :
    eventsOf caseId db.timeline = [] := by
  rw [eventsOf, List.map_eq_nil_iff, List.filter_eq_nil_iff]
  intro entry hentry heq
  exact h.known entry hentry (of_decide_eq_true heq ▸ hnone)

/-! ### Writing a row with its events -/

/-- The events of a case that is written go on from its row to the one that is written. -/
lemma TimelineInv.write (h : TimelineInv db) {row row' : CaseRow} {events : List TimelineEvent}
    (hrow : row ∈ db.cases.rows) (hid : row'.caseId = row.caseId)
    (htype : row'.caseType = row.caseType)
    (hreplay : replay (row.status, row.severity) events = some (row'.status, row'.severity)) :
    TimelineInv
      { cases := db.cases.upsert row'
        timeline := db.timeline ++ events.map fun e => (row.caseId, e) } where
  leads r hr := by
    rcases Table.mem_rows_upsert.mp hr with rfl | ⟨hr, hne⟩
    · obtain ⟨severity, before, hbefore, hlead⟩ := h.leads row hrow
      refine ⟨severity, before ++ events, ?_, ?_⟩
      · rw [hid, eventsOf_append, eventsOf_map_self, hbefore, htype]
        rfl
      · rw [replay_append, hlead]
        exact hreplay
    · obtain ⟨severity, before, hbefore, hlead⟩ := h.leads r hr
      refine ⟨severity, before, ?_, hlead⟩
      rw [eventsOf_append, eventsOf_map_of_ne fun heq => hne (heq.symm.trans hid.symm),
        List.append_nil, hbefore]
  known entry hentry := by
    rw [Table.lookup_upsert]
    split_ifs with heq
    · exact Option.some_ne_none _
    · rcases List.mem_append.mp hentry with hold | hnew
      · exact h.known entry hold
      · obtain ⟨e, -, rfl⟩ := List.mem_map.mp hnew
        exact absurd hid heq

/-- A case that is inserted begins its timeline. -/
lemma TimelineInv.insert (h : TimelineInv db) {now : Instant} {anomaly : Anomaly}
    {refs : List String}
    (hfresh : db.cases.lookup caseId = none) : TimelineInv
      { cases := db.cases.upsert (insertedRow now anomaly caseId refs)
        timeline := db.timeline ++ [(caseId, .created anomaly.rule)] } where
  leads r hr := by
    rcases Table.mem_rows_upsert.mp hr with rfl | ⟨hr, hne⟩
    · refine ⟨_, [], ?_, rfl⟩
      show eventsOf caseId (_ ++ _) = _
      rw [eventsOf_append, h.eventsOf_eq_nil hfresh]
      simp [eventsOf, insertedRow]
    · obtain ⟨severity, before, hbefore, hlead⟩ := h.leads r hr
      have hother : caseId ≠ r.caseId := fun heq => hne heq.symm
      refine ⟨severity, before, ?_, hlead⟩
      rw [eventsOf_append, hbefore]
      simp [eventsOf, hother]
  known entry hentry := by
    rw [Table.lookup_upsert]
    split_ifs with heq
    · exact Option.some_ne_none _
    · rcases List.mem_append.mp hentry with hold | hnew
      · exact h.known entry hold
      · obtain rfl := List.mem_singleton.mp hnew
        exact absurd rfl heq

/-! ### The transactions -/

lemma TimelineInv.markCase (h : TimelineInv db) {now : Instant} {mark : Mark}
    (hmark : markCase now caseId mark db = some db') : TimelineInv db' := by
  rw [FleetMonitor.markCase] at hmark
  split at hmark
  next => cases hmark
  next row hrow =>
    split_ifs at hmark
    obtain rfl := Option.some.inj hmark
    have hid := Table.key_of_lookup hrow
    have hwrite : TimelineInv
        { cases := db.cases.upsert (markRow now mark row)
          timeline := db.timeline ++ [markEvent mark].map fun e => (row.caseId, e) } :=
      h.write (Table.mem_rows_of_lookup hrow) markRow_caseId (by cases mark <;> rfl)
        (by cases mark <;> rfl)
    rw [hid] at hwrite
    exact hwrite

/-- The events of an apply lead from the row to the one it leaves. -/
lemma replay_materialChanges (now : Instant) (rec : CaseSyncRecord) (row : CaseRow) :
    replay (row.status, row.severity) (materialChanges rec row) =
      some ((appliedRow now rec row).status, (appliedRow now rec row).severity) := by
  have hstatus : ∀ severity, replay (row.status, severity)
      (if rec.status ≠ row.status then [.statusChanged row.status rec.status] else []) =
        some (rec.status, severity) := by
    intro severity
    split_ifs with hne
    · simp [replay, replayEvent, Ne.symm hne]
    · simp [replay, not_not.mp hne]
  rw [materialChanges, replay_append, replay_append, hstatus, Option.bind_some, appliedRow]
  cases hseverity : rec.severity with
  | none => cases rec.resolvedAt <;> cases row.resolvedAt <;> simp [replay, replayEvent]
  | some severity =>
    by_cases heq : severity = row.severity
    · cases rec.resolvedAt <;> cases row.resolvedAt <;> simp [replay, replayEvent, heq]
    · have hne : row.severity ≠ severity := Ne.symm heq
      cases rec.resolvedAt <;> cases row.resolvedAt <;> simp [replay, replayEvent, heq, hne]

lemma TimelineInv.applyRecord (h : TimelineInv db) {now : Instant} {rec : CaseSyncRecord}
    {matched : Bool} (happly : applyRecord now rec db = some (db', matched)) : TimelineInv db' := by
  cases ApplyRule.of_applyRecord happly with
  | unmatched => exact h
  | matched row hrow => exact h.write hrow rfl rfl (replay_materialChanges now rec row)

/-! ### Runs -/

lemma TimelineInv.step {recordType : String} {a : Action} (h : TimelineInv s.db)
    (hact : act recordType s a = some t) : TimelineInv t.db := by
  cases StepRule.of_act hact with
  | insert now anomaly caseId refs hname hfresh =>
    rw [Table.mem_keys_iff, not_not] at hfresh
    exact h.insert hfresh
  | lock => exact h
  | lockTaken => exact h
  | fetch => exact h
  | create => exact h
  | mark p now row outcome rest mark db hp hmark hdb => exact h.markCase hdb
  | finish => exact h
  | crashSending => exact h
  | crash => exact h
  | land => exact h
  | edit => exact h
  | query => exact h
  | apply p now rec records db matched hp happly => exact h.applyRecord happly
  | dropPull => exact h

/-- In every run of detector, push and pulls the timeline of a case starts with its creation and
leads, each change from what the one before has left, to the status and severity of its row. -/
theorem timeline_leads_to_row (recordType : String) (s : State)
    (hs : Reached (act recordType) unguarded start s) :
    ∀ r ∈ s.db.cases.rows, LeadsTo s.db.timeline r := by
  have hinv : TimelineInv s.db := by
    apply hs.invariant (I := fun s => TimelineInv s.db)
    · intro s hstart
      exact ⟨by simp [hstart.init.cases], by simp [hstart.timeline]⟩
    · intro s a t hI _ hact
      exact hI.step hact
  exact hinv.leads

/-- The run that closes its case has a change of the status. -/
theorem closingRun_leads_to_row : ∃ t,
    runActions (act "Fleet_Operations") emptyState Resolutions.closingRun = some t ∧
    (∃ entry ∈ t.db.timeline, entry.2 = .statusChanged .open .resolved) ∧
    ∀ r ∈ t.db.cases.rows, LeadsTo t.db.timeline r := by
  have hstart : start emptyState := ⟨init_emptyState, rfl⟩
  have hsome : (runActions (act "Fleet_Operations") emptyState Resolutions.closingRun).isSome := by
    decide +kernel
  obtain ⟨t, ht, hreached⟩ := (Reached.start hstart).exists_run (guardsHold_unguarded _ _) hsome
  have hclosed : ∀ t ∈ runActions (act "Fleet_Operations") emptyState Resolutions.closingRun,
      ∃ entry ∈ t.db.timeline, entry.2 = .statusChanged .open .resolved := by decide +kernel
  exact ⟨t, ht, hclosed t ht, timeline_leads_to_row "Fleet_Operations" t hreached⟩

end FleetMonitor.TimelineChains
