import FleetMonitor.Cases.ExactlyOnce

/-!
# Resolutions

A validation rule of the org keeps a Case of the record type from being closed without a
Description. The pull takes status and Description of a Case over together, so a case that the
application shows as resolved has a summary that says why.
-/

namespace FleetMonitor.Resolutions

open Library ExactlyOnce

/-- `ISBLANK` of a text field. -/
def fieldBlank (value : Option String) : Bool := value.getD "" = ""

/-- The error condition of `AFM_Resolve_Requires_Description`. -/
def resolveRequiresDescription (c : SfCase) : Bool :=
  c.status = .closed && c.recordType = "Fleet_Operations" && fieldBlank c.description

/-- The org rejects an edit that meets the error condition, and the pull asks for Cases of the
record type alone. -/
def acceptedByRules (_ : State) : Action → Prop
  | .edit c       => resolveRequiresDescription c = false
  | .query _ page => ∀ c ∈ page, c.recordType = "Fleet_Operations"
  | _             => True

instance (s : State) (a : Action) : Decidable (acceptedByRules s a) := by
  cases a <;> unfold acceptedByRules <;> infer_instance

/-- The start of the application in an org whose Cases have passed the rule. -/
structure start (s : State) : Prop where
  init : init s
  sent : s.sent = []
  org : ∀ c ∈ s.org.rows, resolveRequiresDescription c = false

/-- What is resolved has a summary. -/
def Documented (status : CaseStatus) (summary : Option String) : Prop :=
  status = .resolved → fieldBlank summary = false

/-- Cases have passed the rule, and what has been read from them or written is documented. -/
structure DocumentedInv (s : State) : Prop where
  org : ∀ c ∈ s.org.rows, resolveRequiresDescription c = false
  sent : ∀ payload ∈ s.sent, payload.status = .new
  pulls : ∀ p, ∀ rec ∈ s.pulls p, Documented rec.status rec.summary
  rows : ∀ r ∈ s.db.cases.rows, Documented r.status r.summary

variable {s t : State} {p : ℕ}

lemma DocumentedInv.of_start (h : start s) : DocumentedInv s where
  org := h.org
  sent payload hpayload := by simp [h.sent] at hpayload
  pulls p rec hrec := by simp [h.init.pulls p] at hrec
  rows r hr := by simp [h.init.cases] at hr

/-! ### Cases -/

lemma org_upsert {org : SfOrg} {c : SfCase}
    (h : ∀ c ∈ org.rows, resolveRequiresDescription c = false)
    (hc : resolveRequiresDescription c = false) :
    ∀ d ∈ (org.upsert c).rows, resolveRequiresDescription d = false := by
  intro d hd
  rcases Table.mem_rows_upsert.mp hd with rfl | ⟨hd, -⟩
  · exact hc
  · exact h d hd

lemma org_insertSf {org org' : SfOrg} {payload : CaseCreateInput} {id : String} {stamp : Instant}
    (h : ∀ c ∈ org.rows, resolveRequiresDescription c = false) (hnew : payload.status = .new)
    (hinsert : insertSf "Fleet_Operations" org payload id stamp = some org') :
    ∀ c ∈ org'.rows, resolveRequiresDescription c = false := by
  rw [insertSf] at hinsert
  split_ifs at hinsert
  obtain rfl := Option.some.inj hinsert
  apply org_upsert h
  simp [resolveRequiresDescription, createdCase, hnew]

lemma toPayload_status {row : CaseRow} {payload : CaseCreateInput}
    (h : toPayload row = .ok payload) :
    payload.status = .new := by
  rw [toPayload] at h
  split at h
  next => cases h
  next =>
    obtain rfl := Except.ok.inj h
    rfl

/-- A closed Case of the record type is read with its Description. -/
lemma documented_toSyncRecord {c : SfCase} (hrule : resolveRequiresDescription c = false)
    (htype : c.recordType = "Fleet_Operations") :
    Documented (toSyncRecord c).status (toSyncRecord c).summary := by
  intro hresolved
  have hclosed : c.status = .closed := by
    have hstatus : statusFromSf c.status = .resolved := hresolved
    cases hcase : c.status <;> simp [hcase, statusFromSf] at hstatus ⊢
  simpa [resolveRequiresDescription, hclosed, htype, toSyncRecord] using hrule

/-! ### Rows -/

lemma rows_upsert {cases : CaseTable} {row : CaseRow}
    (h : ∀ r ∈ cases.rows, Documented r.status r.summary)
    (hrow : Documented row.status row.summary) :
    ∀ r ∈ (cases.upsert row).rows, Documented r.status r.summary := by
  intro r hr
  rcases Table.mem_rows_upsert.mp hr with rfl | ⟨hr, -⟩
  · exact hrow
  · exact h r hr

lemma rows_markCase {now : Instant} {caseId : String} {mark : Mark} {db db' : CaseDb}
    (h : ∀ r ∈ db.cases.rows, Documented r.status r.summary)
    (hmark : markCase now caseId mark db = some db') :
    ∀ r ∈ db'.cases.rows, Documented r.status r.summary := by
  obtain ⟨row, hrow, -, hcases⟩ := markCase_eq_some hmark
  have hdocumented := h row (Table.mem_rows_of_lookup hrow)
  rw [hcases]
  apply rows_upsert h
  cases mark <;> exact hdocumented

/-- A null summary of a record leaves the row its own, but a resolved record has one. -/
lemma documented_appliedRow {now : Instant} {rec : CaseSyncRecord} (row : CaseRow)
    (h : Documented rec.status rec.summary) :
    Documented (appliedRow now rec row).status (appliedRow now rec row).summary := by
  intro hresolved
  have hsummary := h hresolved
  cases hrec : rec.summary with
  | none => simp [hrec, fieldBlank] at hsummary
  | some text => simpa [appliedRow, hrec] using hsummary

lemma rows_applyRecord {now : Instant} {rec : CaseSyncRecord} {db db' : CaseDb} {matched : Bool}
    (h : ∀ r ∈ db.cases.rows, Documented r.status r.summary)
    (hrec : Documented rec.status rec.summary)
    (happly : applyRecord now rec db = some (db', matched)) :
    ∀ r ∈ db'.cases.rows, Documented r.status r.summary := by
  cases ApplyRule.of_applyRecord happly with
  | unmatched => exact h
  | matched row hrow => exact rows_upsert h (documented_appliedRow row hrec)

/-! ### Steps and runs -/

lemma DocumentedInv.setPull (h : DocumentedInv s) (p : ℕ) {records : List CaseSyncRecord}
    (hrecords : ∀ rec ∈ records, Documented rec.status rec.summary) :
    DocumentedInv (s.setPull p records) where
  org := h.org
  sent := h.sent
  rows := h.rows
  pulls q rec hrec := by
    by_cases hq : q = p
    · subst hq
      exact hrecords rec (by simpa [State.setPull] using hrec)
    · exact h.pulls q rec (by simpa [State.setPull, hq] using hrec)

lemma DocumentedInv.send (h : DocumentedInv s) {row : CaseRow} {payload : CaseCreateInput}
    (hpayload : toPayload row = .ok payload) : ∀ q ∈ payload :: s.sent, q.status = .new := by
  intro q hq
  rcases List.mem_cons.mp hq with rfl | hq
  · exact toPayload_status hpayload
  · exact h.sent q hq

lemma DocumentedInv.step {a : Action} (h : DocumentedInv s) (hg : acceptedByRules s a)
    (hact : act "Fleet_Operations" s a = some t) : DocumentedInv t := by
  cases StepRule.of_act hact with
  | insert => exact ⟨h.org, h.sent, h.pulls, rows_upsert h.rows fun hresolved => by cases hresolved⟩
  | lock => exact ⟨h.org, h.sent, h.pulls, h.rows⟩
  | lockTaken => exact h
  | fetch => exact ⟨h.org, h.sent, h.pulls, h.rows⟩
  | create p sf service created row rest payload org hp hpayload horg =>
    refine ⟨?_, h.send hpayload, h.pulls, h.rows⟩
    cases created with
    | none =>
      obtain rfl := Option.some.inj horg
      exact h.org
    | some new => exact org_insertSf h.org (toPayload_status hpayload) horg
  | mark p now row outcome rest mark db hp hmark hdb =>
    exact ⟨h.org, h.sent, h.pulls, rows_markCase h.rows hdb⟩
  | finish => exact ⟨h.org, h.sent, h.pulls, h.rows⟩
  | crashSending p row rest payload hp hpayload => exact ⟨h.org, h.send hpayload, h.pulls, h.rows⟩
  | crash => exact ⟨h.org, h.sent, h.pulls, h.rows⟩
  | land payload id stamp org hsent horg =>
    exact ⟨org_insertSf h.org (h.sent payload hsent) horg, h.sent, h.pulls, h.rows⟩
  | edit => exact ⟨org_upsert h.org hg, h.sent, h.pulls, h.rows⟩
  | query p page hpage =>
    apply h.setPull
    intro rec hrec
    obtain ⟨c, hc, rfl⟩ := List.mem_map.mp hrec
    exact documented_toSyncRecord (h.org c (hpage c hc)) (hg c hc)
  | apply p now rec records db matched hp happly =>
    have hrecords : ∀ r ∈ rec :: records, Documented r.status r.summary := hp ▸ h.pulls p
    have hpull := h.setPull p fun r hr => hrecords r (List.mem_cons_of_mem rec hr)
    exact ⟨hpull.org, hpull.sent, hpull.pulls,
      rows_applyRecord h.rows (hrecords rec List.mem_cons_self) happly⟩
  | dropPull => exact h.setPull _ (by simp)

/-- Whatever detector, push, pulls and the people who edit Cases do, a resolved case has a summary.
-/
theorem resolved_has_summary (s : State)
    (hs : Reached (act "Fleet_Operations") acceptedByRules start s) :
    ∀ r ∈ s.db.cases.rows, r.status = .resolved → ∃ summary, r.summary = some summary ∧ summary ≠ "" := by
  intro r hr hresolved
  have hinv : DocumentedInv s :=
    hs.invariant (fun _ => DocumentedInv.of_start) fun _ _ _ hI hg hact => hI.step hg hact
  have hdocumented := hinv.rows r hr hresolved
  cases hsummary : r.summary with
  | none => simp [hsummary, fieldBlank] at hdocumented
  | some summary => exact ⟨summary, rfl, by simpa [hsummary, fieldBlank] using hdocumented⟩

/-! ### A case that is closed -/

/-- The Case of the run when it is closed. -/
def closedCase : SfCase :=
  { sampleSfCase "5001" "CASE-1" 3000000 with
    status := .closed, description := some "Radar contact regained.", closedDate := some 3000000 }

/-- The Case is pushed, closed and pulled. -/
def closingRun : List Action :=
  [.insert 0 ⟨.lostSignal, some "a1b2c3", some "KJFK", .east, some .high, []⟩ "CASE-1" [],
   .lock 0, .fetch 0 20, .create 0 steadyClient {} (some ("5001", 1000000)), .mark 0 2000000,
   .finish 0, .edit closedCase, .query 1 [closedCase], .apply 1 4000000]

theorem closingRun_has_summary :
    ∃ s, runActions (act "Fleet_Operations") emptyState closingRun = some s ∧
    (∃ r ∈ s.db.cases.rows, r.status = .resolved) ∧
    ∀ r ∈ s.db.cases.rows, r.status = .resolved →
      ∃ summary, r.summary = some summary ∧ summary ≠ "" := by
  have hstart : start emptyState := ⟨init_emptyState, rfl, by simp [emptyState, Table.empty]⟩
  have hsome : (runActions (act "Fleet_Operations") emptyState closingRun).isSome := by decide +kernel
  have hguards : GuardsHold (act "Fleet_Operations") acceptedByRules emptyState closingRun := by
    decide +kernel
  obtain ⟨s, hs, hreached⟩ := (Reached.start hstart).exists_run hguards hsome
  have hrows : ∀ s ∈ runActions (act "Fleet_Operations") emptyState closingRun,
      ∃ r ∈ s.db.cases.rows, r.status = .resolved := by decide +kernel
  exact ⟨s, hs, hrows s hs, resolved_has_summary s hreached⟩

end FleetMonitor.Resolutions
