import FleetMonitor.Cases.Push
import FleetMonitor.Foundry.CaseMirror
import FleetMonitor.Foundry.MalformedIds
import FleetMonitor.Library.Runs
import Mathlib.Logic.Function.Basic

/-!
# The flight of a case

A case is to name the Flight of its aircraft: its `flight_id` is documented as the key that
`synthesize_flight_id` mints, and only a site-level case has a `WX-` sentinel in its place. The
detector writes the bare transponder address. The pipeline is followed from the insert through the
writes of the push and the pull to the tenant, with what each case was inserted for.
-/

namespace FleetMonitor.CaseLinks

open Library

/-! ### The system -/

/-- `app.cases` with its timeline, the tenant with the ticks of the case sync, and the anomaly each
case was inserted for. -/
structure State where
  mirror : MirrorState
  timeline : List (String × TimelineEvent)
  detected : String → Option Anomaly

inductive Action where
  | insert (now : Instant) (anomaly : Anomaly) (caseId : String) (runbookRefs : List String)
  /-- A mark of the push. -/
  | mark (now : Instant) (caseId : String) (mark : Mark)
  /-- A record of the pull. -/
  | pull (now : Instant) (rec : CaseSyncRecord)
  | tick (a : TickAction)
  /-- `reconcile_cases`, with the keep-set it has read. -/
  | reconcile (keep : List String)

def State.db (s : State) : CaseDb := ⟨s.mirror.cases, s.timeline⟩

/-- The state after a transaction; one that is rejected changes nothing. -/
def State.commit (s : State) : Option CaseDb → State
  | none    => s
  | some db => { s with mirror := { s.mirror with cases := db.cases }, timeline := db.timeline }

/-- The state with another tenant. -/
def State.withTenant (s : State) (tenant : ObjectSet) : State :=
  { s with mirror := { s.mirror with tenant } }

variable (url : Option String)

/-- One step; what cannot be done, such as an insert under an id that is taken, does nothing. -/
def step (s : State) : Action → State
  | .insert now anomaly caseId runbookRefs =>
    if caseId ∈ s.mirror.cases.keys then s
    else
      { mirror := { s.mirror with
          cases := s.mirror.cases.upsert (insertedRow now anomaly caseId runbookRefs) }
        timeline := s.timeline ++ [(caseId, .created anomaly.rule)]
        detected := Function.update s.detected caseId (some anomaly) }
  | .mark now caseId mark => s.commit (markCase now caseId mark s.db)
  | .pull now rec         => s.commit ((applyRecord now rec s.db).map Prod.fst)
  | .tick a               => { s with mirror := (tickStep url s.mirror a).getD s.mirror }
  | .reconcile keep       =>
    s.withTenant (s.mirror.tenant.delete (reconcileDeletes keep s.mirror.tenant.keys))

def act (s : State) (a : Action) : Option State := some (step url s a)

/-- Nothing has been detected yet. -/
def emptyState : State where
  mirror :=
    { cases := Table.empty
      tenant := Table.empty
      ticks := Table.empty }
  timeline := []
  detected _ := none

/-! ### What a case owes -/

/-- `weather_impact`, the type of the site-level cases. -/
def siteLevel : PropValue := .text "weather_impact"

/-- The Case of the tenant links to a Flight of its aircraft, unless it is site-level; only a
site-level one has a sentinel. -/
structure Resolves (s : State) (id : String) : Prop where
  flight : s.mirror.tenant.prop id "caseType" ≠ some siteLevel → ∃ anomaly icao24 flightId takeoffTs,
    s.detected id = some anomaly ∧ anomaly.icao24 = some icao24 ∧
      s.mirror.tenant.prop id "flightId" = some (.text flightId) ∧
      parseFlightId flightId = .ok (icao24, takeoffTs)
  sentinel : ∀ flightId, s.mirror.tenant.prop id "flightId" = some (.text flightId) →
    "WX-".toList <+: flightId.toList → s.mirror.tenant.prop id "caseType" = some siteLevel

/-- Every Case of the tenant does. -/
def LinksResolve (s : State) : Prop := ∀ id ∈ s.mirror.tenant.keys, Resolves s id

/-- The chunk a tick posts next. -/
def nextChunk (m : MirrorState) (p : ℕ) : List FoundryCase :=
  match m.ticks.lookup p with
  | some ⟨_, .posting rest _⟩ => rest.take maxBatch
  | _                         => []

/-- A step that posts no aircraft-level case. -/
def PostsSiteCases (s : State) : Action → Prop
  | .tick (.post p) => ∀ c ∈ nextChunk s.mirror p, c.caseType.text = "weather_impact"
  | _               => True

/-! ### What a case was inserted for -/

/-- The flight id of the row that is inserted for an anomaly. -/
def caseFlightId (anomaly : Anomaly) : String :=
  orText anomaly.icao24 ("WX-" ++ orText anomaly.siteIcao "UNKN")

/-- The case has the type and the flight id it was inserted with. -/
def InsertedAs (detected : String → Option Anomaly) (caseId : String) (caseType : CaseType)
    (flightId : String) : Prop :=
  ∃ anomaly, detected caseId = some anomaly ∧ caseType = anomaly.rule ∧
    flightId = caseFlightId anomaly

/-- Rows, ticks and objects show the cases as they were inserted. -/
structure Attributed (s : State) : Prop where
  known : ∀ id anomaly, s.detected id = some anomaly → id ∈ s.mirror.cases.keys
  rows : ∀ r ∈ s.mirror.cases.rows, InsertedAs s.detected r.caseId r.caseType r.flightId
  ticks : ∀ run ∈ s.mirror.ticks.rows, ∀ c ∈ run.phase.cases,
    InsertedAs s.detected c.caseId c.caseType c.flightId
  objects : ∀ id ∈ s.mirror.tenant.keys, ∃ caseType flightId,
    s.mirror.tenant.prop id "caseType" = some (.text caseType.text) ∧
      s.mirror.tenant.prop id "flightId" = some (.text flightId) ∧
      InsertedAs s.detected id caseType flightId

variable {url} {s : State} {id : String} {tenant : ObjectSet} {chunk : List FoundryCase}

/-- What an id is parsed into is shorter than the id. -/
lemma parseFlightId_ne_self {flightId icao24 : String} {t : Instant}
    (h : parseFlightId flightId = .ok (icao24, t)) : icao24 ≠ flightId ∧ icao24 ≠ "" := by
  by_cases hhyphen : '-' ∈ flightId.toList
  · obtain ⟨front, ts, hid, hts⟩ := exists_last_hyphen hhyphen
    rw [parseFlightId_append hid hts] at h
    split_ifs at h with hempty
    cases hint : pyInt ts with
    | none =>
      rw [hint] at h
      cases h
    | some seconds =>
      rw [hint, Option.elim_some] at h
      cases hts' : fromTimestamp seconds with
      | error e =>
        rw [hts'] at h
        cases h
      | ok takeoff =>
        rw [hts'] at h
        obtain ⟨rfl, -⟩ := Prod.mk.inj (Except.ok.inj h)
        constructor
        · intro heq
          have hlength := congrArg List.length (congrArg String.toList heq)
          rw [hid, String.toList_ofList, List.length_append, List.length_cons] at hlength
          omega
        · intro heq
          have hnil := congrArg String.toList heq
          rw [String.toList_ofList] at hnil
          exact hempty (.inl hnil)
  · rw [parseFlightId_of_no_hyphen hhyphen] at h
    cases h

/-- The flight id of no anomaly is parsed into its address. -/
lemma not_parsed_caseFlightId {anomaly : Anomaly} {icao24 : String} {t : Instant}
    (hicao24 : anomaly.icao24 = some icao24) :
    parseFlightId (caseFlightId anomaly) ≠ .ok (icao24, t) := by
  intro h
  obtain ⟨hself, hempty⟩ := parseFlightId_ne_self h
  rw [caseFlightId, hicao24, orText, if_neg hempty] at hself
  exact hself rfl

/-- Exactly the site-level cases resolve. -/
lemma resolves_iff (h : Attributed s) (hid : id ∈ s.mirror.tenant.keys) :
    Resolves s id ↔ s.mirror.tenant.prop id "caseType" = some siteLevel := by
  constructor
  · intro hresolves
    by_contra hlevel
    obtain ⟨anomaly, icao24, flightId, t, hdetected, hicao24, hflight, hparse⟩ :=
      hresolves.flight hlevel
    obtain ⟨caseType, flightId', -, hflight', anomaly', hdetected', -, rfl⟩ := h.objects id hid
    obtain rfl : anomaly = anomaly' := Option.some.inj (hdetected.symm.trans hdetected')
    obtain rfl : flightId = caseFlightId anomaly :=
      PropValue.text.inj (Option.some.inj (hflight.symm.trans hflight'))
    exact not_parsed_caseFlightId hicao24 hparse
  · intro hlevel
    exact ⟨fun hne => absurd hlevel hne, fun _ _ _ => hlevel⟩

/-! ### Posts -/

/-- An upsert writes the type and the flight id of its case. -/
lemma prop_applyUpsert_caseParams (c : FoundryCase) :
    ObjectSet.prop (applyUpsert tenant (caseParams c)) c.caseId "caseType" =
        some (.text c.caseType.text) ∧
      ObjectSet.prop (applyUpsert tenant (caseParams c)) c.caseId "flightId" =
        some (.text c.flightId) := by
  rw [prop_applyUpsert, prop_applyUpsert, if_pos (caseParams_locator c),
    if_pos (caseParams_locator c)]
  exact ⟨rfl, rfl⟩

/-- After a chunk an id has the properties of a case of the chunk, or those it had. -/
lemma prop_upsertCases (tenant : ObjectSet) (chunk : List FoundryCase) (id : String) :
    (∃ c ∈ chunk, c.caseId = id ∧
        (upsertCases tenant chunk).prop id "caseType" = some (.text c.caseType.text) ∧
        (upsertCases tenant chunk).prop id "flightId" = some (.text c.flightId)) ∨
      id ∉ chunk.map FoundryCase.caseId ∧
        ∀ key, (upsertCases tenant chunk).prop id key = tenant.prop id key := by
  induction chunk generalizing tenant with
  | nil => exact .inr ⟨List.not_mem_nil, fun _ => rfl⟩
  | cons c chunk ih =>
    rw [upsertCases_cons]
    rcases ih (applyUpsert tenant (caseParams c)) with ⟨c', hc', hlater⟩ | ⟨hnot, hkept⟩
    · exact .inl ⟨c', List.mem_cons_of_mem _ hc', hlater⟩
    · by_cases hid : c.caseId = id
      · subst hid
        refine .inl ⟨c, List.mem_cons_self, rfl, ?_⟩
        rw [hkept, hkept]
        exact prop_applyUpsert_caseParams c
      · refine .inr ⟨?_, fun key => ?_⟩
        · rw [List.map_cons, List.mem_cons]
          exact not_or.mpr ⟨Ne.symm hid, hnot⟩
        · have hlocator : (caseParams c).locator ≠ id := hid
          rw [hkept, prop_applyUpsert, if_neg hlocator]

/-- All Cases of the tenant are site-level. -/
def AllSiteLevel (tenant : ObjectSet) : Prop :=
  ∀ id ∈ tenant.keys, tenant.prop id "caseType" = some siteLevel

lemma linksResolve_iff (h : Attributed s) : LinksResolve s ↔ AllSiteLevel s.mirror.tenant :=
  forall₂_congr fun _ hid => resolves_iff h hid

/-- Site-level Cases stay so exactly when the chunk has no other, as long as its cases and the Cases
of the tenant are those that were inserted. -/
lemma allSiteLevel_upsertCases_iff {detected : String → Option Anomaly}
    (hchunk : ∀ c ∈ chunk, InsertedAs detected c.caseId c.caseType c.flightId)
    (hall : AllSiteLevel tenant) :
    AllSiteLevel (upsertCases tenant chunk) ↔ ∀ c ∈ chunk, c.caseType.text = "weather_impact" := by
  constructor
  · intro hpost c hc
    have hkey : c.caseId ∈ (upsertCases tenant chunk).keys :=
      mem_keys_upsertCases.mpr (.inl (List.mem_map_of_mem hc))
    rcases prop_upsertCases tenant chunk c.caseId with ⟨c', hc', hid, htype, -⟩ | ⟨hnot, -⟩
    · -- a case of one id has one type, whatever version of it is in the chunk
      obtain ⟨anomaly, hdetected, hrule, -⟩ := hchunk c hc
      obtain ⟨anomaly', hdetected', hrule', -⟩ := hchunk c' hc'
      rw [hid] at hdetected'
      obtain rfl : anomaly = anomaly' := Option.some.inj (hdetected.symm.trans hdetected')
      rw [hrule, ← hrule']
      exact PropValue.text.inj (Option.some.inj (htype.symm.trans (hpost c.caseId hkey)))
    · exact absurd (List.mem_map_of_mem hc) hnot
  · intro hsite id hid
    rcases prop_upsertCases tenant chunk id with ⟨c, hc, -, htype, -⟩ | ⟨hnot, hkept⟩
    · rw [htype, hsite c hc]
      rfl
    · rw [hkept]
      exact hall id ((mem_keys_upsertCases.mp hid).resolve_left hnot)

/-! ### Steps -/

lemma InsertedAs.update {detected : String → Option Anomaly} {caseId fresh : String}
    {caseType : CaseType} {flightId : String} {anomaly : Anomaly}
    (h : InsertedAs detected caseId caseType flightId) (hfresh : detected fresh = none) :
    InsertedAs (Function.update detected fresh (some anomaly)) caseId caseType flightId := by
  obtain ⟨a, hdetected, hrule, hflight⟩ := h
  have hne : caseId ≠ fresh := by
    rintro rfl
    rw [hfresh] at hdetected
    cases hdetected
  exact ⟨a, by rw [Function.update_of_ne hne, hdetected], hrule, hflight⟩

/-- A transaction that writes a row of a case again keeps the attribution. -/
lemma Attributed.commit (h : Attributed s) {row : CaseRow} (row' : CaseRow)
    (hrow : row ∈ s.mirror.cases.rows) (hid : row'.caseId = row.caseId)
    (htype : row'.caseType = row.caseType)
    (hflight : row'.flightId = row.flightId) {timeline : List (String × TimelineEvent)} :
    Attributed (s.commit (some ⟨s.mirror.cases.upsert row', timeline⟩)) where
  known := fun id anomaly hdetected => Table.mem_keys_upsert.mpr (.inr (h.known id anomaly hdetected))
  rows := fun r hr => by
    rcases Table.mem_rows_upsert.mp hr with rfl | ⟨hr, -⟩
    · rw [hid, htype, hflight]
      exact h.rows row hrow
    · exact h.rows r hr
  ticks := h.ticks
  objects := h.objects

lemma attributed_insert (h : Attributed s) {now : Instant} {anomaly : Anomaly} {caseId : String}
    {runbookRefs : List String} :
    Attributed (step url s (.insert now anomaly caseId runbookRefs)) := by
  rw [step]
  split_ifs with htaken
  · exact h
  · have hfresh : s.detected caseId = none := by
      by_contra hne
      obtain ⟨old, hold⟩ := Option.ne_none_iff_exists'.mp hne
      exact htaken (h.known caseId old hold)
    refine ⟨fun id a hdetected => ?_, fun r hr => ?_, fun run hrun c hc => ?_, fun id hid => ?_⟩
    · apply Table.mem_keys_upsert.mpr
      by_cases heq : id = caseId
      · exact .inl heq
      · have hold : s.detected id = some a := by
          rw [← Function.update_of_ne heq (some anomaly) s.detected]
          exact hdetected
        exact .inr (h.known id a hold)
    · rcases Table.mem_rows_upsert.mp hr with rfl | ⟨hr, -⟩
      · exact ⟨anomaly, Function.update_self .., rfl, rfl⟩
      · exact (h.rows r hr).update hfresh
    · exact (h.ticks run hrun c hc).update hfresh
    · obtain ⟨caseType, flightId, htype, hflight, hinserted⟩ := h.objects id hid
      exact ⟨caseType, flightId, htype, hflight, hinserted.update hfresh⟩

lemma attributed_mark (h : Attributed s) {now : Instant} {caseId : String} {mark : Mark} :
    Attributed (step url s (.mark now caseId mark)) := by
  rw [step, markCase]
  cases hrow : s.db.cases.lookup caseId with
  | none => exact h
  | some row =>
    have hmem : row ∈ s.mirror.cases.rows := Table.mem_rows_of_lookup hrow
    simp only
    split_ifs
    · exact h
    · exact h.commit (markRow now mark row) hmem (by cases mark <;> rfl) (by cases mark <;> rfl)
        (by cases mark <;> rfl)

lemma attributed_pull (h : Attributed s) {now : Instant} {rec : CaseSyncRecord} :
    Attributed (step url s (.pull now rec)) := by
  rw [step]
  cases happly : applyRecord now rec s.db with
  | none => exact h
  | some out =>
    obtain ⟨db, matched⟩ := out
    cases ApplyRule.of_applyRecord happly with
    | unmatched hno => exact h
    | matched row hrow hmatch hunique => exact h.commit (appliedRow now rec row) hrow rfl rfl rfl

/-- The attribution survives a step of a tick that leaves no other cases in the ticks and in the
tenant than those that are inserted. -/
lemma Attributed.withMirror (h : Attributed s) {m : MirrorState} (hcases : m.cases = s.mirror.cases)
    (hticks : ∀ run ∈ m.ticks.rows, run ∈ s.mirror.ticks.rows ∨
      ∀ c ∈ run.phase.cases, InsertedAs s.detected c.caseId c.caseType c.flightId)
    (htenant : ∀ id ∈ m.tenant.keys, (id ∈ s.mirror.tenant.keys ∧
        ∀ key, m.tenant.prop id key = s.mirror.tenant.prop id key) ∨
      ∃ caseType flightId, m.tenant.prop id "caseType" = some (.text caseType.text) ∧
        m.tenant.prop id "flightId" = some (.text flightId) ∧
        InsertedAs s.detected id caseType flightId) :
    Attributed { s with mirror := m } where
  known := by
    rw [hcases]
    exact h.known
  rows := by
    rw [hcases]
    exact h.rows
  ticks := fun run hrun => by
    rcases hticks run hrun with hold | hnew
    · exact h.ticks run hold
    · exact hnew
  objects := fun id hid => by
    rcases htenant id hid with ⟨hold, hkept⟩ | hnew
    · rw [hkept, hkept]
      exact h.objects id hold
    · exact hnew

lemma attributed_tick (h : Attributed s) {a : TickAction} : Attributed (step url s (.tick a)) := by
  rw [step]
  cases hstep : tickStep url s.mirror a with
  | none => exact h
  | some m =>
    have hkept : ∀ id ∈ s.mirror.tenant.keys, (id ∈ s.mirror.tenant.keys ∧
        ∀ key, s.mirror.tenant.prop id key = s.mirror.tenant.prop id key) ∨
          ∃ caseType flightId, s.mirror.tenant.prop id "caseType" = some (.text caseType.text) ∧
            s.mirror.tenant.prop id "flightId" = some (.text flightId) ∧
            InsertedAs s.detected id caseType flightId :=
      fun id hid => .inl ⟨hid, fun _ => rfl⟩
    refine h.withMirror (tickStep_cases hstep) (fun run hrun => ?_) (fun id hid => ?_)
    · cases TickRule.of_tickStep hstep with
      | start p =>
        refine (mem_ticks_setTick hrun).symm.imp_right ?_
        rintro rfl c hc
        exact absurd hc List.not_mem_nil
      | page p items cursor hp =>
        refine (mem_ticks_setTick hrun).symm.imp_right ?_
        rintro rfl c hc
        rw [afterPage_cases, List.mem_append] at hc
        rcases hc with hc | hc
        · exact h.ticks _ hp c hc
        · obtain ⟨r, hr, rfl⟩ := List.mem_map.mp hc
          exact h.rows r (mem_of_mem_pageRows hr).1
      | post p rest cursor hp =>
        refine (mem_ticks_setTick hrun).symm.imp_right ?_
        rintro rfl c hc
        exact h.ticks _ hp c (List.mem_of_mem_drop hc)
      | persist p cursor hp => exact .inl (mem_ticks_endTick hrun)
      | skip p => exact .inl (mem_ticks_endTick hrun)
    · cases TickRule.of_tickStep hstep with
      | start p => exact hkept id hid
      | page p items cursor hp => exact hkept id hid
      | post p rest cursor hp =>
        rcases prop_upsertCases s.mirror.tenant (rest.take maxBatch) id with
          ⟨c, hc, rfl, htype, hflight⟩ | ⟨hnot, hsame⟩
        · exact .inr ⟨c.caseType, c.flightId, htype, hflight,
            h.ticks _ hp c (List.mem_of_mem_take hc)⟩
        · exact .inl ⟨(mem_keys_upsertCases.mp hid).resolve_left hnot, hsame⟩
      | persist p cursor hp => exact hkept id hid
      | skip p => exact hkept id hid

/-- Deleting leaves the other Cases as they are. -/
lemma prop_delete {ids : List String} (hid : id ∈ (tenant.delete ids).keys) :
    id ∈ tenant.keys ∧ ∀ key, ObjectSet.prop (tenant.delete ids) id key = tenant.prop id key := by
  rw [Table.mem_keys_iff, Table.lookup_delete] at hid
  split_ifs at hid with hdeleted
  · exact absurd rfl hid
  · refine ⟨Table.mem_keys_iff.mpr hid, fun key => ?_⟩
    rw [ObjectSet.prop, ObjectSet.prop, Table.lookup_delete, if_neg hdeleted]

/-- Every step keeps the attribution. -/
lemma attributed_step (h : Attributed s) (a : Action) : Attributed (step url s a) := by
  cases a with
  | insert now anomaly caseId runbookRefs => exact attributed_insert h
  | mark now caseId mark => exact attributed_mark h
  | pull now rec => exact attributed_pull h
  | tick a => exact attributed_tick h
  | reconcile keep =>
    exact h.withMirror rfl (fun run hrun => .inl hrun) fun id hid => .inl (prop_delete hid)

lemma attributed_emptyState : Attributed emptyState where
  known := fun _ _ h => nomatch h
  rows := fun _ hr => nomatch hr
  ticks := fun _ hrun => nomatch hrun
  objects := fun _ hid => nomatch hid

lemma nextChunk_of_mem {p : ℕ} {rest : List FoundryCase} {cursor : Option Instant}
    (h : ⟨p, .posting rest cursor⟩ ∈ s.mirror.ticks.rows) :
    nextChunk s.mirror p = rest.take maxBatch := by
  have hlookup : s.mirror.ticks.lookup p = some ⟨p, .posting rest cursor⟩ := Table.lookup_of_mem h
  rw [nextChunk, hlookup]

/-- A post that cannot be made has nothing to post. -/
lemma nextChunk_of_none {p : ℕ} (h : tickStep url s.mirror (.post p) = none) :
    nextChunk s.mirror p = [] := by
  rw [nextChunk]
  split
  next q rest cursor hlookup =>
    cases rest with
    | nil => rfl
    | cons c rest => simp [tickStep, hlookup] at h
  next => rfl

/-- A step of a tick leaves the Cases site-level exactly when it posts no other. -/
lemma allSiteLevel_tick (h : Attributed s) (hall : AllSiteLevel s.mirror.tenant) (a : TickAction) :
    AllSiteLevel (step url s (.tick a)).mirror.tenant ↔ PostsSiteCases s (.tick a) := by
  rw [step]
  cases hstep : tickStep url s.mirror a with
  | none =>
    refine iff_of_true hall ?_
    cases a with
    | post p =>
      intro c hc
      rw [nextChunk_of_none hstep] at hc
      exact absurd hc List.not_mem_nil
    | start p => trivial
    | page p => trivial
    | persist p => trivial
    | skip p => trivial
  | some m =>
    cases TickRule.of_tickStep hstep with
    | start p => exact iff_of_true hall trivial
    | page p items cursor hp => exact iff_of_true hall trivial
    | post p rest cursor hp =>
      have hchunk :
          ∀ c ∈ rest.take maxBatch, InsertedAs s.detected c.caseId c.caseType c.flightId :=
        fun c hc => h.ticks _ hp c (List.mem_of_mem_take hc)
      show AllSiteLevel (upsertCases s.mirror.tenant (rest.take maxBatch)) ↔
        ∀ c ∈ nextChunk s.mirror p, _
      rw [nextChunk_of_mem hp]
      exact allSiteLevel_upsertCases_iff hchunk hall
    | persist p cursor hp => exact iff_of_true hall trivial
    | skip p => exact iff_of_true hall trivial

lemma commit_tenant (db : Option CaseDb) : (s.commit db).mirror.tenant = s.mirror.tenant := by
  cases db <;> rfl

/-- A step keeps the links exactly when it posts no aircraft-level case. -/
lemma linksResolve_step (h : Attributed s) (hall : LinksResolve s) (a : Action) :
    LinksResolve (step url s a) ↔ PostsSiteCases s a := by
  rw [linksResolve_iff h] at hall
  rw [linksResolve_iff (attributed_step h a)]
  cases a with
  | insert now anomaly caseId runbookRefs =>
    refine iff_of_true ?_ trivial
    rw [step]
    split_ifs
    · exact hall
    · exact hall
  | mark now caseId mark =>
    refine iff_of_true ?_ trivial
    rw [step, commit_tenant]
    exact hall
  | pull now rec =>
    refine iff_of_true ?_ trivial
    rw [step, commit_tenant]
    exact hall
  | tick a => exact allSiteLevel_tick h hall a
  | reconcile keep =>
    refine iff_of_true (fun id hid => ?_) trivial
    obtain ⟨hold, hkept⟩ := prop_delete hid
    exact (hkept "caseType").trans (hall id hold)

/-- The links of a run resolve throughout exactly when no step posts an aircraft-level case: none of
these has a link that resolves. -/
theorem links_resolve_iff (url : Option String) (actions : List Action) :
    StatesHold (act url) LinksResolve emptyState actions ↔
      GuardsHold (act url) PostsSiteCases emptyState actions := by
  refine statesHold_iff_guardsHold_of_invariant (fun s a t h ht => ?_) (fun s a t h hall ht => ?_)
    (fun _ _ => rfl) attributed_emptyState fun _ hid => nomatch hid
  · obtain rfl := Option.some.inj ht
    exact attributed_step h a
  · obtain rfl := Option.some.inj ht
    exact linksResolve_step h hall a

/-- A lost signal of one aircraft. -/
def silentAircraft : Anomaly where
  rule := .lostSignal
  icao24 := some "a1b2c3"
  siteIcao := some "KJFK"
  customerRegion := .east
  severityHint := some .low
  detectionFacts := []

/-- It becomes a case, and a tick mirrors the case. -/
def mirroredRun : List Action :=
  [.insert (100000000 : ℤ) silentAircraft "CASE-2026-000001" [], .tick (.start 0), .tick (.page 0),
   .tick (.post 0)]

/-- The Case is posted with the bare address, which is no flight id. -/
theorem bare_address_posted :
    ¬∀ (url : Option String) (actions : List Action),
      StatesHold (act url) LinksResolve emptyState actions := by
  intro h
  have hstates := h none mirroredRun
  obtain ⟨t, hrun⟩ : ∃ t, runActions (act none) emptyState mirroredRun = some t := ⟨_, rfl⟩
  have hresolves := hstates.run hrun "CASE-2026-000001"
  obtain rfl := Option.some.inj hrun
  obtain ⟨anomaly, icao24, flightId, takeoffTs, -, -, hflight, hparse⟩ :=
    (hresolves (by decide)).flight (by decide)
  obtain rfl : "a1b2c3" = flightId := PropValue.text.inj (Option.some.inj hflight)
  have hmalformed : parseFlightId "a1b2c3" = .error .valueError := by decide
  rw [hmalformed] at hparse
  cases hparse

end FleetMonitor.CaseLinks
