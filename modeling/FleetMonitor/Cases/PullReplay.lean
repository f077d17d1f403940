import FleetMonitor.Cases.Pull
import FleetMonitor.Library.Replay
import Mathlib.Data.List.Pairwise

/-!
# Replays of a pull

The watermark moves at the end of a pull, so a pull that fails midway reads its page again and
applies the first records a second time. A record that has been applied changes nothing but
`updated_at` when it comes again, as long as no other record of the page is of the same row.
-/

namespace FleetMonitor

open Library

/-! ### What an application does -/

/-- The row without its `updated_at`. -/
def CaseRow.content (row : CaseRow) : CaseRow := { row with updatedAt := (0 : ℤ) }

/-- The databases differ in `updated_at` at most. -/
structure SameContent (db db' : CaseDb) : Prop where
  timeline : db.timeline = db'.timeline
  lookup : ∀ id, (db.cases.lookup id).map CaseRow.content = (db'.cases.lookup id).map CaseRow.content

/-- The UNIQUE constraint on `salesforce_id`. -/
def UniqueSalesforceIds (cases : CaseTable) : Prop :=
  ∀ r ∈ cases.rows, ∀ r' ∈ cases.rows, r.salesforceId ≠ none → r.salesforceId = r'.salesforceId → r = r'

/-- The record matches at most one row. -/
def MatchesAtMostOne (cases : CaseTable) (rec : CaseSyncRecord) : Prop :=
  ∀ r ∈ cases.rows, ∀ r' ∈ cases.rows, recordMatches rec r → recordMatches rec r' → r = r'

instance (cases : CaseTable) : Decidable (UniqueSalesforceIds cases) :=
  inferInstanceAs (Decidable (∀ r ∈ cases.rows, ∀ r' ∈ cases.rows, _ → _ → _))

instance (cases : CaseTable) (rec : CaseSyncRecord) : Decidable (MatchesAtMostOne cases rec) :=
  inferInstanceAs (Decidable (∀ r ∈ cases.rows, ∀ r' ∈ cases.rows, _ → _ → _))

/-- The records are of different Cases and match different rows. -/
def Apart (cases : CaseTable) (rec rec' : CaseSyncRecord) : Prop :=
  rec.salesforceId ≠ rec'.salesforceId ∧
    ∀ row ∈ cases.rows, ¬(recordMatches rec row ∧ recordMatches rec' row)

instance (cases : CaseTable) : DecidableRel (Apart cases) := fun rec rec' =>
  inferInstanceAs (Decidable (rec.salesforceId ≠ rec'.salesforceId ∧
    ∀ row ∈ cases.rows, ¬(recordMatches rec row ∧ recordMatches rec' row)))

/-- A real change of the row, as the event that tells of it. -/
inductive IsRealChange (rec : CaseSyncRecord) (row : CaseRow) : TimelineEvent → Prop where
  | status (h : rec.status ≠ row.status) :
      IsRealChange rec row (.statusChanged row.status rec.status)
  | severity (severity : Severity) (h : rec.severity = some severity) (hne : severity ≠ row.severity) :
      IsRealChange rec row (.severityChanged row.severity severity)
  | resolved (resolvedAt : Instant) (h : rec.resolvedAt = some resolvedAt) (hnone : row.resolvedAt = none) :
      IsRealChange rec row (.resolved resolvedAt)

/-- What Salesforce leaves out blanks nothing, and the row keeps the Case it has. -/
structure KeepsStored (rec : CaseSyncRecord) (row row' : CaseRow) : Prop where
  severity : rec.severity = none → row'.severity = row.severity
  summary : rec.summary = none → row'.summary = row.summary
  severityJustification : rec.severityJustification = none →
    row'.severityJustification = row.severityJustification
  runbookRefs : rec.runbookRefs = [] → row'.runbookRefs = row.runbookRefs
  salesforceId : row.salesforceId ≠ none → row'.salesforceId = row.salesforceId

/-- What the first application of a record does. -/
structure Applied (rec : CaseSyncRecord) (db db' : CaseDb) : Prop where
  unmatched : ¬HasRow db.cases rec → db' = db
  others : ∀ row ∈ db.cases.rows, ¬recordMatches rec row → row ∈ db'.cases.rows
  matched : ∀ row ∈ db.cases.rows, recordMatches rec row → ∃ row' ∈ db'.cases.rows,
    row'.caseId = row.caseId ∧ KeepsStored rec row row' ∧
      ∃ events : List TimelineEvent, db'.timeline = db.timeline ++ events.map (row.caseId, ·) ∧
        events.Nodup ∧ ∀ e, e ∈ events ↔ IsRealChange rec row e

/-- The record is applied, at some time. -/
def Applies (rec : CaseSyncRecord) (db db' : CaseDb) : Prop :=
  ∃ now matched, applyRecord now rec db = some (db', matched)

variable {now now' : Instant} {rec rec' : CaseSyncRecord} {row row' : CaseRow}
  {db db' s s' t t' : CaseDb}
  {matched : Bool}  {page : List CaseSyncRecord}

/-! ### Rows -/

@[simp] lemma CaseRow.content_caseId (row : CaseRow) : row.content.caseId = row.caseId := rfl

@[simp] lemma CaseRow.content_salesforceId (row : CaseRow) :
    row.content.salesforceId = row.salesforceId := rfl

/-- The content a record leaves depends on the content it finds. -/
lemma content_appliedRow (now : Instant) (rec : CaseSyncRecord) (row : CaseRow) :
    (appliedRow now rec row).content = appliedRow (0 : ℤ) rec row.content := rfl

/-- A record applied again changes nothing. -/
lemma content_appliedRow_twice (now now' : Instant) (rec : CaseSyncRecord) (row : CaseRow) :
    (appliedRow now' rec (appliedRow now rec row)).content = (appliedRow now rec row).content := by
  have hseverity : rec.severity.getD (rec.severity.getD row.severity) =
      rec.severity.getD row.severity := by
    cases rec.severity <;> rfl
  have htext : ∀ x y : Option String, x.or (x.or y) = x.or y := by
    intro x y
    cases x <;> rfl
  have hrefs : (if rec.runbookRefs = [] then
      if rec.runbookRefs = [] then row.runbookRefs else rec.runbookRefs else rec.runbookRefs) =
      if rec.runbookRefs = [] then row.runbookRefs else rec.runbookRefs := by
    split_ifs <;> rfl
  have hid : (row.salesforceId.or (some rec.salesforceId)).or (some rec.salesforceId) =
      row.salesforceId.or (some rec.salesforceId) := by
    cases row.salesforceId <;> rfl
  simp only [appliedRow, CaseRow.content, hseverity, htext, hrefs, hid]

lemma recordMatches_of_content (h : row.content = row'.content) :
    recordMatches rec row ↔ recordMatches rec row' := by
  have hid : row.caseId = row'.caseId := by simpa using congrArg CaseRow.caseId h
  have hsf : row.salesforceId = row'.salesforceId := by simpa using congrArg CaseRow.salesforceId h
  rw [recordMatches, recordMatches, hid, hsf]

lemma materialChanges_of_content_eq (h : row.content = row'.content) :
    materialChanges rec row = materialChanges rec row' := by
  have hcontent : ∀ r : CaseRow, materialChanges rec r = materialChanges rec r.content := fun _ => rfl
  rw [hcontent row, h, ← hcontent]

lemma mem_materialChanges {e : TimelineEvent} :
    e ∈ materialChanges rec row ↔ IsRealChange rec row e := by
  constructor
  · intro h
    simp only [materialChanges, List.mem_append] at h
    rcases h with (h | h) | h
    · split_ifs at h with hstatus
      · obtain rfl := List.mem_singleton.mp h
        exact .status hstatus
      · cases h
    · split at h
      next severity hsome =>
        split_ifs at h with hne
        · obtain rfl := List.mem_singleton.mp h
          exact .severity severity hsome hne
        · cases h
      next => cases h
    · split at h
      next resolvedAt hsome hnone =>
        obtain rfl := List.mem_singleton.mp h
        exact .resolved resolvedAt hsome hnone
      next => cases h
  · intro h
    cases h with
    | status h => simp [materialChanges, h]
    | severity severity h hne => simp [materialChanges, h, hne]
    | resolved resolvedAt h hnone => simp [materialChanges, h, hnone]

/-- Every kind of event is written once at most. -/
lemma nodup_materialChanges (rec : CaseSyncRecord) (row : CaseRow) :
    (materialChanges rec row).Nodup := by
  have hsublist : (materialChanges rec row).Sublist
      ([.statusChanged row.status rec.status] ++
        [.severityChanged row.severity (rec.severity.getD row.severity)] ++
        [.resolved (rec.resolvedAt.getD (0 : ℤ))]) := by
    refine .append (.append ?_ ?_) ?_
    · split_ifs
      · exact List.Sublist.refl _
      · exact List.nil_sublist _
    · cases rec.severity with
      | none => exact List.nil_sublist _
      | some severity =>
        simp only [Option.getD_some]
        split_ifs
        · exact List.Sublist.refl _
        · exact List.nil_sublist _
    · cases rec.resolvedAt with
      | none => exact List.nil_sublist _
      | some resolvedAt =>
        cases row.resolvedAt with
        | none => exact List.Sublist.refl _
        | some prev => exact List.nil_sublist _
  exact List.Nodup.sublist hsublist (by simp)

/-- A row that an application leaves as it is has no change to tell of. -/
lemma materialChanges_of_settled (h : (appliedRow now rec row).content = row.content) :
    materialChanges rec row = [] := by
  refine List.eq_nil_iff_forall_not_mem.mpr fun e he => ?_
  cases mem_materialChanges.mp he with
  | status hne => exact hne (congrArg CaseRow.status h)
  | severity severity hsome hne =>
    have hsame : rec.severity.getD row.severity = row.severity := congrArg CaseRow.severity h
    rw [hsome] at hsame
    exact hne hsame
  | resolved resolvedAt hsome hnone =>
    have hsame : rec.resolvedAt = row.resolvedAt := congrArg CaseRow.resolvedAt h
    rw [hsome, hnone] at hsame
    cases hsame

lemma keepsStored_appliedRow (now : Instant) (rec : CaseSyncRecord) (row : CaseRow) :
    KeepsStored rec row (appliedRow now rec row) where
  severity h := by rw [appliedRow, h, Option.getD_none]
  summary h := by rw [appliedRow, h, Option.none_or]
  severityJustification h := by rw [appliedRow, h, Option.none_or]
  runbookRefs h := by rw [appliedRow, if_pos h]
  salesforceId h := by
    obtain ⟨id, hid⟩ := Option.ne_none_iff_exists'.mp h
    rw [appliedRow_salesforceId, hid, Option.some_or]

/-! ### Databases -/

lemma sameContent_equivalence : Equivalence SameContent where
  refl _ := ⟨rfl, fun _ => rfl⟩
  symm h := ⟨h.timeline.symm, fun id => (h.lookup id).symm⟩
  trans h h' := ⟨h.timeline.trans h'.timeline, fun id => (h.lookup id).trans (h'.lookup id)⟩

/-- A row has its like in a database of the same content. -/
lemma SameContent.exists_row (h : SameContent s t) (hrow : row ∈ s.cases.rows) :
    ∃ row' ∈ t.cases.rows, row.content = row'.content := by
  have hlookup := h.lookup row.caseId
  rw [Table.lookup_of_mem hrow] at hlookup
  obtain ⟨row', hrow', hcontent⟩ := Option.map_eq_some_iff.mp hlookup.symm
  exact ⟨row', Table.mem_rows_of_lookup hrow', hcontent.symm⟩

lemma SameContent.hasRow (h : SameContent s t) : HasRow s.cases rec ↔ HasRow t.cases rec := by
  constructor
  · rintro ⟨row, hrow, hmatch⟩
    obtain ⟨row', hrow', hcontent⟩ := h.exists_row hrow
    exact ⟨row', hrow', (recordMatches_of_content hcontent).mp hmatch⟩
  · rintro ⟨row, hrow, hmatch⟩
    obtain ⟨row', hrow', hcontent⟩ := (sameContent_equivalence.symm h).exists_row hrow
    exact ⟨row', hrow', (recordMatches_of_content hcontent).mp hmatch⟩

/-- A page that can be replayed: no record matches two rows, and no row is matched twice. -/
structure Replayable (page : List CaseSyncRecord) (db : CaseDb) : Prop where
  unique : UniqueSalesforceIds db.cases
  single : ∀ rec ∈ page, MatchesAtMostOne db.cases rec
  apart : page.Pairwise (Apart db.cases)

lemma Replayable.apart_of_ne (h : Replayable page db) (hrec : rec ∈ page) (hrec' : rec' ∈ page)
    (hne : rec ≠ rec') : Apart db.cases rec rec' := by
  have : Std.Symm (Apart db.cases) :=
    ⟨fun rec rec' ⟨hid, hrows⟩ => ⟨hid.symm, fun row hrow hboth => hrows row hrow hboth.symm⟩⟩
  exact h.apart.forall hrec hrec' hne

/-- A record of the page that is of the same Case is the same record. -/
lemma Replayable.externalId_eq (h : Replayable page db) (hrec : rec ∈ page) (hrec' : rec' ∈ page)
    (hid : rec'.salesforceId = rec.salesforceId) : rec'.externalId = rec.externalId := by
  by_cases hne : rec' = rec
  · rw [hne]
  · exact absurd hid (h.apart_of_ne hrec' hrec hne).1

/-- No other row has the `salesforce_id` that the record gives its row. -/
lemma Replayable.not_violatesUnique (h : Replayable page db) (hrec : rec ∈ page)
    (hrow : row ∈ db.cases.rows) (hmatch : recordMatches rec row) :
    ¬violatesUnique db.cases (appliedRow now rec row) := by
  rintro ⟨-, r, hr, hne, hid⟩
  rw [appliedRow_caseId] at hne
  rw [appliedRow_salesforceId] at hid
  suffices hsame : r = row from hne (congrArg CaseRow.caseId hsame)
  cases hold : row.salesforceId with
  | none =>
    rw [hold, Option.none_or] at hid
    exact h.single rec hrec r hr row hrow (.inl hid) hmatch
  | some id =>
    rw [hold, Option.some_or] at hid
    exact h.unique r hr row hrow (by simp [hid]) (hid.trans hold.symm)

lemma Replayable.total (h : Replayable page db) (hrec : rec ∈ page) (now : Instant) :
    ∃ db' matched, applyRecord now rec db = some (db', matched) := by
  unfold applyRecord
  split
  next => exact ⟨_, _, rfl⟩
  next row hfind =>
    have hmatch : recordMatches rec row := by simpa using List.find?_some hfind
    rw [if_neg (h.not_violatesUnique hrec (List.mem_of_find?_eq_some hfind) hmatch)]
    exact ⟨_, _, rfl⟩

/-- An application keeps the constraint on `salesforce_id`. -/
lemma UniqueSalesforceIds.apply (h : UniqueSalesforceIds db.cases)
    (happly : ApplyRule now rec db db' matched) : UniqueSalesforceIds db'.cases := by
  cases happly with
  | unmatched => exact h
  | matched row hrow hmatch hunique =>
    have hnew : ∀ r ∈ db.cases.rows, r.caseId ≠ row.caseId → r.salesforceId ≠ none →
        r.salesforceId ≠ (appliedRow now rec row).salesforceId :=
      fun r hr hne hsome hid => hunique ⟨hid ▸ hsome, r, hr, hne, hid⟩
    intro r hr r' hr' hsome hid
    rcases Table.mem_rows_upsert.mp hr with rfl | ⟨hr, hne⟩
    · rcases Table.mem_rows_upsert.mp hr' with rfl | ⟨hr', hne'⟩
      · rfl
      · exact absurd hid.symm (hnew r' hr' hne' (hid ▸ hsome))
    · rcases Table.mem_rows_upsert.mp hr' with rfl | ⟨hr', -⟩
      · exact absurd hid (hnew r hr hne hsome)
      · exact h r hr r' hr' hsome hid

/-- A page stays replayable. -/
lemma Replayable.keeps (h : Replayable page db) (hrec : rec ∈ page) (happly : Applies rec db db') :
    Replayable page db' := by
  obtain ⟨now, matched, happly⟩ := happly
  have hback : ∀ r ∈ db'.cases.rows, ∃ r₀ ∈ db.cases.rows, r₀.caseId = r.caseId ∧
      ∀ rec' ∈ page, (recordMatches rec' r ↔ recordMatches rec' r₀) := by
    intro r hr
    obtain ⟨r₀, hr₀, hid, hmatches⟩ := exists_row_of_applyRecord happly hr
    exact ⟨r₀, hr₀, hid, fun rec' hrec' => hmatches rec' (h.externalId_eq hrec hrec')⟩
  refine ⟨h.unique.apply (ApplyRule.of_applyRecord happly),
    fun rec' hrec' r hr r' hr' hmatch hmatch' => ?_, ?_⟩
  · obtain ⟨r₀, hr₀, hid, hmatches⟩ := hback r hr
    obtain ⟨r₁, hr₁, hid', hmatches'⟩ := hback r' hr'
    have heq := h.single rec' hrec' r₀ hr₀ r₁ hr₁ ((hmatches rec' hrec').mp hmatch)
      ((hmatches' rec' hrec').mp hmatch')
    exact Table.row_eq_of_key_eq hr hr' (by rw [← hid, heq, hid'])
  · refine h.apart.imp_of_mem fun {rec₁ rec₂} h₁ h₂ ⟨hne, hrows⟩ => ⟨hne, fun r hr ⟨hm₁, hm₂⟩ => ?_⟩
    obtain ⟨r₀, hr₀, -, hmatches⟩ := hback r hr
    exact hrows r₀ hr₀ ⟨(hmatches rec₁ h₁).mp hm₁, (hmatches rec₂ h₂).mp hm₂⟩

/-! ### Replays -/

/-- The rows of the record show it already. -/
def RecordSettled (rec : CaseSyncRecord) (db : CaseDb) : Prop :=
  ∀ row ∈ db.cases.rows, recordMatches rec row → (appliedRow (0 : ℤ) rec row).content = row.content

/-- The row that is written matches what the row before it matched. -/
lemma Replayable.recordMatches_iff (h : Replayable page db) (hrec : rec ∈ page)
    (hrec' : rec' ∈ page)
    (hmatch : recordMatches rec row) :
    recordMatches rec' (appliedRow now rec row) ↔ recordMatches rec' row :=
  recordMatches_appliedRow_iff now hmatch (h.externalId_eq hrec hrec')

lemma Replayable.settles (h : Replayable page db) (hrec : rec ∈ page)
    (happly : Applies rec db db') :
    RecordSettled rec db' := by
  obtain ⟨now, matched, happly⟩ := happly
  intro r hr hr'
  cases ApplyRule.of_applyRecord happly with
  | unmatched hno => exact absurd ⟨r, hr, hr'⟩ hno
  | matched row hrow hmatch =>
    rcases Table.mem_rows_upsert.mp hr with rfl | ⟨hr, hne⟩
    · exact content_appliedRow_twice now (0 : ℤ) rec row
    · exact absurd (congrArg CaseRow.caseId (h.single rec hrec r hr row hrow hr' hmatch)) hne

lemma Replayable.stays (h : Replayable page db) (hrec : rec ∈ page) (hrec' : rec' ∈ page)
    (hsettled : RecordSettled rec db) (happly : Applies rec' db db') : RecordSettled rec db' := by
  by_cases hsame : rec = rec'
  · subst hsame
    exact h.settles hrec happly
  obtain ⟨now, matched, happly⟩ := happly
  intro r hr hr'
  cases ApplyRule.of_applyRecord happly with
  | unmatched => exact hsettled r hr hr'
  | matched row hrow hmatch =>
    rcases Table.mem_rows_upsert.mp hr with rfl | ⟨hr, -⟩
    · -- No row is matched by both records.
      have hboth := (h.recordMatches_iff hrec' hrec hmatch).mp hr'
      exact absurd ⟨hboth, hmatch⟩ ((h.apart_of_ne hrec hrec' hsame).2 row hrow)
    · exact hsettled r hr hr'

/-- A settled record changes nothing but `updated_at`. -/
lemma RecordSettled.absorbs (h : RecordSettled rec db) (happly : Applies rec db db') :
    SameContent db' db := by
  obtain ⟨now, matched, happly⟩ := happly
  cases ApplyRule.of_applyRecord happly with
  | unmatched => exact sameContent_equivalence.refl db
  | matched row hrow hmatch =>
    have hcontent : (appliedRow now rec row).content = row.content := h row hrow hmatch
    refine ⟨by simp [materialChanges_of_settled hcontent], fun id => ?_⟩
    rw [Table.lookup_upsert]
    split_ifs with hid
    · rw [← hid, appliedRow_caseId, Table.lookup_of_mem hrow, Option.map_some, Option.map_some,
        hcontent]
    · rfl

/-- Applications to databases of one content leave one content. -/
lemma Replayable.congr (h : Replayable page t) (hrec : rec ∈ page) (hsame : SameContent s t)
    (happly : Applies rec s s') (happly' : Applies rec t t') : SameContent s' t' := by
  obtain ⟨now, matched, happly⟩ := happly
  obtain ⟨now', matched', happly'⟩ := happly'
  cases ApplyRule.of_applyRecord happly with
  | unmatched hno =>
    cases ApplyRule.of_applyRecord happly' with
    | unmatched => exact hsame
    | matched row hrow hmatch => exact absurd (hsame.hasRow.mpr ⟨row, hrow, hmatch⟩) hno
  | matched row hrow hmatch =>
    cases ApplyRule.of_applyRecord happly' with
    | unmatched hno => exact absurd (hsame.hasRow.mp ⟨row, hrow, hmatch⟩) hno
    | matched row' hrow' hmatch' =>
      obtain ⟨r, hr, hcontent⟩ := hsame.exists_row hrow
      obtain rfl := h.single rec hrec r hr row' hrow' ((recordMatches_of_content hcontent).mp hmatch) hmatch'
      have hid : row.caseId = r.caseId := by simpa using congrArg CaseRow.caseId hcontent
      refine ⟨?_, fun id => ?_⟩
      · rw [hsame.timeline, materialChanges_of_content_eq hcontent, hid]
      · rw [Table.lookup_upsert, Table.lookup_upsert, appliedRow_caseId, appliedRow_caseId, hid]
        split_ifs
        · rw [Option.map_some, Option.map_some, content_appliedRow, hcontent,
            ← content_appliedRow now']
        · exact hsame.lookup id

lemma replayRules (page : List CaseSyncRecord) :
    ReplayRules Applies page (Replayable page) SameContent RecordSettled where
  equivalence := sameContent_equivalence
  total hrec h := by
    obtain ⟨db', matched, happly⟩ := h.total hrec (0 : ℤ)
    exact ⟨db', (0 : ℤ), matched, happly⟩
  keeps hrec h happly := h.keeps hrec happly
  settles hrec h happly := h.settles hrec happly
  stays hrec hrec' h hsettled happly := h.stays hrec hrec' hsettled happly
  absorbs _ _ hsettled happly := hsettled.absorbs happly
  congr hrec _ h' hsame happly happly' := h'.congr hrec hsame happly happly'

/-! ### One application -/

lemma applied_of_applyRecord (hsingle : MatchesAtMostOne db.cases rec)
    (happly : applyRecord now rec db = some (db', matched)) : Applied rec db db' := by
  cases ApplyRule.of_applyRecord happly with
  | unmatched hno =>
    exact ⟨fun _ => rfl, fun row hrow _ => hrow,
      fun row hrow hmatch => absurd ⟨row, hrow, hmatch⟩ hno⟩
  | matched row hrow hmatch =>
    refine ⟨fun hno => absurd ⟨row, hrow, hmatch⟩ hno, fun r hr hr' => ?_, fun r hr hr' => ?_⟩
    · refine Table.mem_rows_upsert.mpr (.inr ⟨hr, fun hid => hr' ?_⟩)
      obtain rfl : r = row := Table.row_eq_of_key_eq hr hrow hid
      exact hmatch
    · obtain rfl := hsingle r hr row hrow hr' hmatch
      exact ⟨_, Table.mem_rows_upsert.mpr (.inl rfl), rfl, keepsStored_appliedRow now rec r,
        materialChanges rec r, rfl, nodup_materialChanges rec r, fun e => mem_materialChanges⟩

/-- The loop over a page. -/
def applyRecords (now : Instant) : List CaseSyncRecord → CaseDb → Option CaseDb
  | [], db        => some db
  | rec :: recs, db => (applyRecord now rec db).bind fun out => applyRecords now recs out.1

lemma steps_of_applyRecords (h : applyRecords now page db = some db') :
    Steps Applies page db db' := by
  induction page generalizing db with
  | nil =>
    obtain rfl := Option.some.inj h
    exact .nil db
  | cons rec page ih =>
    obtain ⟨⟨next, matched⟩, hnext, hrest⟩ := Option.bind_eq_some_iff.mp h
    exact .cons ⟨now, matched, hnext⟩ (ih hrest)

/-- A record that matches one row at most changes it once, with one event for every real change, and
blanks nothing. A page of such records, no two of which are of one Case or match the same row, can
fail as often as it likes: read again to its end, it leaves what one pass leaves. -/
theorem applyRecord_replay (db : CaseDb) (hunique : UniqueSalesforceIds db.cases) :
    (∀ rec, MatchesAtMostOne db.cases rec → ∀ now now', ∃ first second matched matched',
      applyRecord now rec db = some (first, matched) ∧ Applied rec db first ∧
        applyRecord now' rec first = some (second, matched') ∧ SameContent second first) ∧
    ∀ page : List CaseSyncRecord, (∀ rec ∈ page, MatchesAtMostOne db.cases rec) →
      page.Pairwise (Apart db.cases) → ∀ failed mid, Passes Applies page failed db mid →
        (∃ replayed, Steps Applies page mid replayed) ∧ ∀ replayed once,
          Steps Applies page mid replayed → Steps Applies page db once → SameContent replayed once := by
  constructor
  · intro rec hsingle now now'
    have hrec : rec ∈ [rec] := List.mem_singleton_self rec
    have hpage : Replayable [rec] db := ⟨hunique,
      by simpa using hsingle, List.pairwise_singleton _ _⟩
    obtain ⟨first, matched, hfirst⟩ := hpage.total hrec now
    have hpage' := hpage.keeps hrec ⟨now, matched, hfirst⟩
    obtain ⟨second, matched', hsecond⟩ := hpage'.total hrec now'
    have hsettled := hpage.settles hrec ⟨now, matched, hfirst⟩
    exact ⟨first, second, matched, matched', hfirst, applied_of_applyRecord hsingle hfirst, hsecond,
      hsettled.absorbs ⟨now', matched', hsecond⟩⟩
  · intro page hsingle hapart failed mid hfailed
    have hpage : Replayable page db := ⟨hunique, hsingle, hapart⟩
    have hrules := replayRules page
    refine ⟨hrules.exists_steps (fun _ => id) (hrules.keeps_passes hpage hfailed), ?_⟩
    exact fun replayed once hlast honce => hrules.replay hpage hfailed hlast honce

def twoCaseRecord (salesforceId externalId : String) (status : CaseStatus) : CaseSyncRecord where
  salesforceId
  externalId
  status
  severity := none
  summary := none
  severityJustification := none
  runbookRefs := []
  resolvedAt := none
  systemModstamp := (0 : ℤ)

def twoRowDb : CaseDb where
  cases := ⟨[{ sampleCase "CASE-2026-000001" (0 : ℤ) with salesforceId := some "500A" },
    { sampleCase "CASE-2026-000002" (0 : ℤ) with salesforceId := some "500B" }], by decide⟩

def twoRowPage : List CaseSyncRecord :=
  [twoCaseRecord "500A" "" .inProgress, twoCaseRecord "500B" "" .resolved]

/-- A pass fails between the two records, the next one applies both. -/
theorem first_record_replayed : ∃ mid replayed once,
    Passes Applies twoRowPage [1] twoRowDb mid ∧ Steps Applies twoRowPage mid replayed ∧
      Steps Applies twoRowPage twoRowDb once ∧ SameContent replayed once := by
  obtain ⟨-, hpage⟩ := applyRecord_replay twoRowDb (by decide)
  obtain ⟨mid, hmid⟩ := Option.isSome_iff_exists.mp
    (show (applyRecords (1 : ℤ) (twoRowPage.take 1) twoRowDb).isSome by decide)
  obtain ⟨once, honce⟩ := Option.isSome_iff_exists.mp
    (show (applyRecords (2 : ℤ) twoRowPage twoRowDb).isSome by decide)
  have honce := steps_of_applyRecords honce
  have hfailed : Passes Applies twoRowPage [1] twoRowDb mid :=
    .cons (steps_of_applyRecords hmid) (.nil mid)
  obtain ⟨⟨replayed, hreplayed⟩, hsame⟩ := hpage twoRowPage (by decide) (by decide) [1] mid hfailed
  exact ⟨mid, replayed, once, hfailed, hreplayed, honce, hsame replayed once hreplayed honce⟩

/-- Two Cases of one row: the one by its id, the other by the external id. -/
def twoCaseDb : CaseDb where
  cases := ⟨[{ sampleCase "CASE-2026-000001" (0 : ℤ) with salesforceId := some "500A" }], by decide⟩

def twoCasePage : List CaseSyncRecord :=
  [twoCaseRecord "500A" "" .inProgress, twoCaseRecord "500B" "CASE-2026-000001" .resolved]

/-- Two records of one row undo each other when they are replayed, and say so each time. -/
theorem two_records_of_one_row : ¬∀ (db : CaseDb) (page : List CaseSyncRecord),
    UniqueSalesforceIds db.cases → (∀ rec ∈ page, MatchesAtMostOne db.cases rec) →
      ∀ failed mid, Passes Applies page failed db mid → ∀ replayed once,
        Steps Applies page mid replayed → Steps Applies page db once → SameContent replayed once := by
  intro h
  have honce : ((applyRecords (1 : ℤ) twoCasePage twoCaseDb).map (·.timeline.length)) = some 2 := by
    decide
  have hreplayed : (((applyRecords (1 : ℤ) twoCasePage twoCaseDb).bind
      (applyRecords (2 : ℤ) twoCasePage)).map (·.timeline.length)) = some 4 := by decide
  obtain ⟨once, honce, htwo⟩ := Option.map_eq_some_iff.mp honce
  rw [honce, Option.bind_some] at hreplayed
  obtain ⟨replayed, hreplayed, hfour⟩ := Option.map_eq_some_iff.mp hreplayed
  have honce := steps_of_applyRecords honce
  have hfailed : Passes Applies twoCasePage [2] twoCaseDb once := .cons honce (.nil once)
  have hsame := h twoCaseDb twoCasePage (by decide) (by decide) [2] once hfailed replayed once
    (steps_of_applyRecords hreplayed) honce
  rw [hsame.timeline, htwo] at hfour
  cases hfour

end FleetMonitor
