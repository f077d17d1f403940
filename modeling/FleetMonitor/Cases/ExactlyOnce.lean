import FleetMonitor.Cases.Push
import FleetMonitor.Library.Runs
import Mathlib.Logic.Function.Basic

/-!
# Exactly-once creation

Detector inserts, push passes and pulls in any order. A push pass can end at any point; Salesforce
may have created a Case whose answer was lost, and a request of a pass that is gone can still land.
Three mechanisms together keep one Case for each case id: the advisory lock, the uniqueness of the
external id, and the adoption of the Case a duplicate answer reports.
-/

namespace FleetMonitor.ExactlyOnce

open Library

/-! ### The system -/

/-- Where a push pass stands. -/
inductive PushPass where
  | idle
  /-- The lock is held. -/
  | locked
  /-- The rows are fetched; these are still ahead. -/
  | pushing (rest : List CaseRow)
  /-- `create_case` has ended for the row; its mark is due. -/
  | answered (row : CaseRow) (outcome : Except PyException SalesforceCaseRef) (rest : List CaseRow)

structure State where
  db : CaseDb
  org : SfOrg
  lock : Option ℕ
  passes : ℕ → PushPass
  /-- The records each pull has still to apply. -/
  pulls : ℕ → List CaseSyncRecord
  /-- The create requests that have been sent, answered or not. -/
  sent : List CaseCreateInput

inductive Action where
  | insert (now : Instant) (anomaly : Anomaly) (caseId : String) (runbookRefs : List String)
  | lock (p : ℕ)
  | fetch (p : ℕ) (limit : ℕ)
  /-- `create_case` for the next row, with what Salesforce answers; the Id and stamp of the Case
  that is created, if one is. -/
  | create (p : ℕ) (sf : SfClient) (service : SfService) (created : Option (String × Instant))
  | mark (p : ℕ) (now : Instant)
  | finish (p : ℕ)
  /-- The pass dies or an exception leaves it; its session and with it the lock is gone. -/
  | crash (p : ℕ)
  /-- A request whose sender no longer waits reaches Salesforce. -/
  | land (payload : CaseCreateInput) (id : String) (stamp : Instant)
  | edit (c : SfCase)
  | query (p : ℕ) (page : List SfCase)
  | apply (p : ℕ) (now : Instant)
  | dropPull (p : ℕ)

/-- The Case `Case.create` makes of a payload. -/
def createdCase (recordType id : String) (stamp : Instant) (payload : CaseCreateInput) :
    SfCase where
  id := id
  recordType := recordType
  afmExternalId := some payload.externalId
  status := payload.status
  priority := payload.priority
  description := none
  afmSeverityJustification := payload.severityJustification
  afmRunbookRefs :=
    if payload.runbookRefs = [] then none else some (",".intercalate payload.runbookRefs)
  closedDate := none
  systemModstamp := stamp
  revision := 0

/-- The Case with an external id. -/
def findByExternalId (org : SfOrg) (externalId : String) : Option SfCase :=
  org.rows.find? fun c => c.afmExternalId = some externalId

/-- Salesforce creates the Case, unless its external id or its Id is taken. -/
def insertSf (recordType : String) (org : SfOrg) (payload : CaseCreateInput) (id : String)
    (stamp : Instant) : Option SfOrg :=
  if findByExternalId org payload.externalId = none ∧ org.lookup id = none then
    some (org.upsert (createdCase recordType id stamp payload))
  else none

/-- The org after a create. -/
def orgAfter (recordType : String) (org : SfOrg) (payload : CaseCreateInput) :
    Option (String × Instant) → Option SfOrg
  | none             => some org
  | some (id, stamp) => insertSf recordType org payload id stamp

/-- The Case with this Id exists and its external id is the case id. -/
def CaseOf (org : SfOrg) (id caseId : String) : Prop :=
  ∃ c ∈ org.rows, c.id = id ∧ c.afmExternalId = some caseId

instance (org : SfOrg) (id caseId : String) : Decidable (CaseOf org id caseId) :=
  inferInstanceAs (Decidable (∃ c ∈ org.rows, c.id = id ∧ c.afmExternalId = some caseId))

/-- A successful answer to `Case.create` names the Case that was created. -/
def CreateAnswer (created : Option (String × Instant)) : Except PyException CreateResult → Prop
  | .ok result => result.success → created.map Prod.fst = some result.id
  | .error _   => True

instance (created : Option (String × Instant)) :
    ∀ r, Decidable (CreateAnswer created r)
  | .ok _    => inferInstanceAs (Decidable (_ → _ = _))
  | .error _ => inferInstanceAs (Decidable True)

/-- Whether `create_case` looks the external id up. -/
def lookedUp : Except PyException CreateResult → Bool
  | .error (.salesforceError _ errorCodes) => isDuplicateExternalId errorCodes
  | _                                      => false

/-- The lookup by external id finds Cases of that external id. -/
def LookupAnswer (org : SfOrg) (externalId : String) : Except PyException (List String) → Prop
  | .ok records => ∀ id ∈ records, CaseOf org id externalId
  | .error _    => True

instance (org : SfOrg) (externalId : String) : ∀ r, Decidable (LookupAnswer org externalId r)
  | .ok records => inferInstanceAs (Decidable (∀ id ∈ records, _))
  | .error _    => inferInstanceAs (Decidable True)

/-- Salesforce answers the calls of `create_case` truly; `org` is what it holds after the create. -/
def AnswersTrue (sf : SfClient) (service : SfService) (org : SfOrg) (externalId : String)
    (created : Option (String × Instant)) : Prop :=
  let submitted := withSessionRetry sf (createCall sf) (caseRecordType sf service).2
  CreateAnswer created submitted.1 ∧ (lookedUp submitted.1 →
    LookupAnswer org externalId (withSessionRetry sf (queryCall sf) submitted.2).1)

instance (sf : SfClient) (service : SfService) (org : SfOrg) (externalId : String)
    (created : Option (String × Instant)) :
    Decidable (AnswersTrue sf service org externalId created) :=
  inferInstanceAs (Decidable (CreateAnswer _ _ ∧ (_ → LookupAnswer _ _ _)))

def State.setPass (s : State) (p : ℕ) (ps : PushPass) : State :=
  { s with passes := Function.update s.passes p ps }

def State.setPull (s : State) (p : ℕ) (records : List CaseSyncRecord) : State :=
  { s with pulls := Function.update s.pulls p records }

variable (recordType : String)

def act (s : State) : Action → Option State
  | .insert now anomaly caseId runbookRefs =>
    if caseId ≠ "" ∧ caseId ∉ s.db.cases.keys then
      some { s with db :=
        { cases := s.db.cases.upsert (insertedRow now anomaly caseId runbookRefs)
          timeline := s.db.timeline ++ [(caseId, .created anomaly.rule)] } }
    else none
  | .lock p =>
    match s.passes p with
    | .idle => some (if s.lock = none then { s.setPass p .locked with lock := some p } else s)
    | _     => none
  | .fetch p limit =>
    match s.passes p with
    | .locked => some (s.setPass p (.pushing (fetchPending s.db.cases limit)))
    | _       => none
  | .create p sf service created =>
    match s.passes p with
    | .pushing (row :: rest) =>
      match toPayload row with
      | .error _ => none
      | .ok payload =>
        (orgAfter recordType s.org payload created).bind fun org =>
          if AnswersTrue sf service org payload.externalId created then
            let outcome := (createCase sf payload service).1
            some { s.setPass p (.answered row outcome rest) with org, sent := payload :: s.sent }
          else none
    | _ => none
  | .mark p now =>
    match s.passes p with
    | .answered row outcome rest =>
      match markFor (row.sfSyncAttempts + 1) outcome with
      | .error _ => none
      | .ok mark => (markCase now row.caseId mark s.db).map fun db =>
          { s.setPass p (.pushing rest) with db }
    | _ => none
  | .finish p =>
    match s.passes p with
    | .pushing [] => some { s.setPass p .idle with lock := none }
    | _           => none
  | .crash p =>
    match s.passes p with
    | .idle => none
    | .pushing (row :: _) =>
      -- the request of the next row may be on its way
      match toPayload row with
      | .ok payload => some { s.setPass p .idle with lock := none, sent := payload :: s.sent }
      | .error _    => some { s.setPass p .idle with lock := none }
    | _ => some { s.setPass p .idle with lock := none }
  | .land payload id stamp =>
    if payload ∈ s.sent then
      (insertSf recordType s.org payload id stamp).map fun org => { s with org }
    else none
  | .edit c =>
    -- nobody edits the external id
    match s.org.lookup c.id with
    | some old => if c.afmExternalId = old.afmExternalId then some { s with org := s.org.upsert c }
      else none
    | none => none
  | .query p page =>
    if ∀ c ∈ page, c ∈ s.org.rows then some (s.setPull p (page.map toSyncRecord)) else none
  | .apply p now =>
    match s.pulls p with
    | rec :: records => (applyRecord now rec s.db).map fun (db, _) =>
        { s.setPull p records with db }
    | [] => none
  | .dropPull p => some (s.setPull p [])

/-- No case has been detected yet, and the Cases of the org are not of the application. -/
structure init (s : State) : Prop where
  cases : s.db.cases.rows = []
  org : ∀ c ∈ s.org.rows, c.afmExternalId = none
  lock : s.lock = none
  passes : ∀ p, s.passes p = .idle
  pulls : ∀ p, s.pulls p = []

/-- The case a pass has come to. -/
def nextCase (s : State) (p : ℕ) : Option String :=
  match s.passes p with
  | .pushing (row :: _) => some row.caseId
  | _                   => none

/-- The case id a step submits to Salesforce. -/
def submits (s : State) : Action → Option String
  | .create p _ _ _ => nextCase s p
  | .crash p        => nextCase s p
  | _               => none

/-! ### The invariant -/

/-- The row of a fetched case still waits for the push as it did when it was fetched. -/
def Waiting (db : CaseDb) (row : CaseRow) : Prop :=
  ∃ r, db.cases.lookup row.caseId = some r ∧ r.sfSyncStatus = .pending ∧
    r.sfSyncAttempts = row.sfSyncAttempts

/-- What a pass may rely on. -/
def PassInv (s : State) (p : ℕ) : PushPass → Prop
  | .idle => True
  | .locked => s.lock = some p
  | .pushing rest =>
    s.lock = some p ∧ (rest.map CaseRow.caseId).Nodup ∧ ∀ r ∈ rest, Waiting s.db r
  | .answered row outcome rest =>
    s.lock = some p ∧ ((row :: rest).map CaseRow.caseId).Nodup ∧
    (∀ r ∈ row :: rest, Waiting s.db r) ∧
    ∀ ref, outcome = .ok ref → CaseOf s.org ref.salesforceId row.caseId

/-- External ids are unique in the org. -/
def UniqueExternalIds (org : SfOrg) : Prop :=
  ∀ c ∈ org.rows, ∀ d ∈ org.rows, ∀ x, c.afmExternalId = some x → d.afmExternalId = some x → c = d

structure Inv (s : State) : Prop where
  unique : UniqueExternalIds s.org
  named : ∀ r ∈ s.db.cases.rows, r.caseId ≠ ""
  linked : ∀ r ∈ s.db.cases.rows, ∀ id ∈ r.salesforceId, CaseOf s.org id r.caseId
  attempts : ∀ r ∈ s.db.cases.rows, r.sfSyncStatus = .pending → r.sfSyncAttempts < maxAttempts
  pulls : ∀ p, ∀ rec ∈ s.pulls p, ∃ c ∈ s.org.rows,
    c.id = rec.salesforceId ∧ c.afmExternalId.getD "" = rec.externalId
  passes : ∀ p, PassInv s p (s.passes p)

variable {recordType} {s t : State} {p q : ℕ}

lemma Inv.of_init (h : init s) : Inv s where
  unique c hc d _ x hx := by simp [h.org c hc] at hx
  named r hr := by simp [h.cases] at hr
  linked r hr := by simp [h.cases] at hr
  attempts r hr := by simp [h.cases] at hr
  pulls p rec hrec := by simp [h.pulls p] at hrec
  passes p := by
    rw [h.passes p]
    trivial

/-- Every Case stays, with its external id. -/
def Keeps (org org' : SfOrg) : Prop :=
  ∀ c ∈ org.rows, ∃ c' ∈ org'.rows, c'.id = c.id ∧ c'.afmExternalId = c.afmExternalId

lemma CaseOf.keeps {org org' : SfOrg} (hk : Keeps org org') {id caseId : String}
    (h : CaseOf org id caseId) : CaseOf org' id caseId := by
  obtain ⟨c, hc, hid, hext⟩ := h
  obtain ⟨c', hc', hid', hext'⟩ := hk c hc
  exact ⟨c', hc', hid'.trans hid, hext'.trans hext⟩

/-! ### Changes of one system -/

lemma Inv.setOrg (hI : Inv s) {org : SfOrg} (hk : Keeps s.org org) (hu : UniqueExternalIds org) :
    Inv { s with org } where
  unique := hu
  named := hI.named
  linked r hr id hid := (hI.linked r hr id hid).keeps hk
  attempts := hI.attempts
  pulls p rec hrec := by
    obtain ⟨c, hc, hid, hext⟩ := hI.pulls p rec hrec
    obtain ⟨c', hc', hid', hext'⟩ := hk c hc
    exact ⟨c', hc', hid'.trans hid, hext' ▸ hext⟩
  passes p := by
    have hp := hI.passes p
    show PassInv _ p (s.passes p)
    cases hps : s.passes p with
    | idle => trivial
    | locked => rwa [hps] at hp
    | pushing rest => rwa [hps] at hp
    | answered row outcome rest =>
      rw [hps] at hp
      exact ⟨hp.1, hp.2.1, hp.2.2.1, fun ref href => (hp.2.2.2 ref href).keeps hk⟩

lemma PassInv.mono {ps : PushPass} (hlock : t.lock = s.lock) (horg : t.org = s.org)
    (hdb : ∀ row, Waiting s.db row → Waiting t.db row) (h : PassInv s p ps) : PassInv t p ps := by
  cases ps with
  | idle => trivial
  | locked => exact hlock.trans h
  | pushing rest => exact ⟨hlock.trans h.1, h.2.1, fun r hr => hdb r (h.2.2 r hr)⟩
  | answered row outcome rest =>
    exact ⟨hlock.trans h.1, h.2.1, fun r hr => hdb r (h.2.2.1 r hr),
      fun ref href => horg ▸ h.2.2.2 ref href⟩

/-- The passes after one of them has moved on. -/
lemma PassInv.setPass {ps : PushPass} (h : PassInv t p ps)
    (hothers : ∀ q, q ≠ p → PassInv t q (s.passes q)) (q : ℕ) :
    PassInv t q ((s.setPass p ps).passes q) := by
  show PassInv t q (Function.update s.passes p ps q)
  by_cases hq : q = p
  · subst hq
    rwa [Function.update_self]
  · rw [Function.update_of_ne hq]
    exact hothers q hq

lemma Inv.setDb (hI : Inv s) {db : CaseDb} (hnamed : ∀ r ∈ db.cases.rows, r.caseId ≠ "")
    (hlinked : ∀ r ∈ db.cases.rows, ∀ id ∈ r.salesforceId, CaseOf s.org id r.caseId)
    (hattempts : ∀ r ∈ db.cases.rows, r.sfSyncStatus = .pending → r.sfSyncAttempts < maxAttempts)
    (hpasses : ∀ p, PassInv { s with db } p (s.passes p)) : Inv { s with db } where
  unique := hI.unique
  named := hnamed
  linked := hlinked
  attempts := hattempts
  pulls := hI.pulls
  passes := hpasses

lemma Inv.passes_of_waiting (hI : Inv s) {db : CaseDb}
    (hwait : ∀ row, Waiting s.db row → Waiting db row) (p : ℕ) :
    PassInv { s with db } p (s.passes p) :=
  PassInv.mono (s := s) rfl rfl hwait (hI.passes p)

lemma Inv.setPass (hI : Inv s) {ps : PushPass} (h : PassInv s p ps) : Inv (s.setPass p ps) where
  unique := hI.unique
  named := hI.named
  linked := hI.linked
  attempts := hI.attempts
  pulls := hI.pulls
  passes := (h.mono rfl rfl fun _ => id).setPass fun q _ => (hI.passes q).mono rfl rfl fun _ => id

/-- The pass that holds the lock is the only one that is not idle. -/
lemma Inv.idle_of_lock (hI : Inv s) (hlock : ∀ q', s.lock = some q' → q' = p) (hq : q ≠ p) :
    s.passes q = .idle := by
  have hp := hI.passes q
  cases hps : s.passes q with
  | idle => rfl
  | locked =>
    rw [hps] at hp
    exact absurd (hlock q hp) hq
  | pushing rest =>
    rw [hps] at hp
    exact absurd (hlock q hp.1) hq
  | answered row outcome rest =>
    rw [hps] at hp
    exact absurd (hlock q hp.1) hq

/-- Taking or giving back the lock. -/
lemma Inv.setLock (hI : Inv s) (hothers : ∀ q, q ≠ p → s.passes q = .idle) {ps : PushPass}
    {lock : Option ℕ} (h : PassInv { s with lock } p ps) :
    Inv { s.setPass p ps with lock } where
  unique := hI.unique
  named := hI.named
  linked := hI.linked
  attempts := hI.attempts
  pulls := hI.pulls
  passes := (h.mono rfl rfl fun _ => id).setPass fun q hq => by
    rw [hothers q hq]
    trivial

lemma Inv.setPull (hI : Inv s) {records : List CaseSyncRecord}
    (h : ∀ rec ∈ records, ∃ c ∈ s.org.rows,
      c.id = rec.salesforceId ∧ c.afmExternalId.getD "" = rec.externalId) :
    Inv (s.setPull p records) where
  unique := hI.unique
  named := hI.named
  linked := hI.linked
  attempts := hI.attempts
  pulls q rec hrec := by
    by_cases hq : q = p
    · subst hq
      exact h rec (by simpa [State.setPull] using hrec)
    · exact hI.pulls q rec (by simpa [State.setPull, hq] using hrec)
  passes q := PassInv.mono (s := s) rfl rfl (fun _ => id) (hI.passes q)

/-! ### The org -/

lemma insertSf_keeps {org org' : SfOrg} {payload : CaseCreateInput} {id : String} {stamp : Instant}
    (h : insertSf recordType org payload id stamp = some org') (hu : UniqueExternalIds org) :
    Keeps org org' ∧ UniqueExternalIds org' := by
  rw [insertSf] at h
  split_ifs at h with hfree
  obtain rfl := Option.some.inj h
  obtain ⟨hext, hid⟩ := hfree
  have hnone : ∀ c ∈ org.rows, c.afmExternalId ≠ some payload.externalId := by
    intro c hc he
    simpa [he] using List.find?_eq_none.mp hext c hc
  have hkey : ∀ c ∈ org.rows, c.id ≠ id := Table.lookup_eq_none_iff.mp hid
  constructor
  · intro c hc
    exact ⟨c, Table.mem_rows_upsert.mpr (.inr ⟨hc, hkey c hc⟩), rfl, rfl⟩
  · intro c hc d hd x hcx hdx
    rcases Table.mem_rows_upsert.mp hc with rfl | ⟨hc', -⟩ <;>
      rcases Table.mem_rows_upsert.mp hd with rfl | ⟨hd', -⟩
    · rfl
    · exact absurd (hdx.trans hcx.symm) (hnone d hd')
    · exact absurd (hcx.trans hdx.symm) (hnone c hc')
    · exact hu c hc' d hd' x hcx hdx

lemma orgAfter_keeps {org org' : SfOrg} {payload : CaseCreateInput}
    {created : Option (String × Instant)} (h : orgAfter recordType org payload created = some org')
    (hu : UniqueExternalIds org) : Keeps org org' ∧ UniqueExternalIds org' := by
  cases created with
  | none =>
    obtain rfl := Option.some.inj h
    exact ⟨fun c hc => ⟨c, hc, rfl, rfl⟩, hu⟩
  | some c => exact insertSf_keeps h hu

lemma edit_keeps {org : SfOrg} {c old : SfCase} (hold : org.lookup c.id = some old)
    (hext : c.afmExternalId = old.afmExternalId) (hu : UniqueExternalIds org) :
    Keeps org (org.upsert c) ∧ UniqueExternalIds (org.upsert c) := by
  have hmem := Table.mem_rows_of_lookup hold
  have hid : old.id = c.id := Table.key_of_lookup hold
  constructor
  · intro d hd
    by_cases hdc : d.id = c.id
    · obtain rfl := Table.row_eq_of_key_eq hd hmem (hdc.trans hid.symm)
      exact ⟨c, Table.mem_rows_upsert.mpr (.inl rfl), hdc.symm, hext⟩
    · exact ⟨d, Table.mem_rows_upsert.mpr (.inr ⟨hd, hdc⟩), rfl, rfl⟩
  · intro d hd e he x hdx hex
    rcases Table.mem_rows_upsert.mp hd with rfl | ⟨hd', hdne⟩ <;>
      rcases Table.mem_rows_upsert.mp he with rfl | ⟨he', hene⟩
    · rfl
    · exact absurd (hu old hmem e he' x (hext ▸ hdx) hex ▸ hid) hene
    · exact absurd (hu d hd' old hmem x hdx (hext ▸ hex) ▸ hid) hdne
    · exact hu d hd' e he' x hdx hex

/-! ### The database -/

lemma insertedRow_fresh (now : Instant) (anomaly : Anomaly) (caseId : String) (refs : List String) :
    (insertedRow now anomaly caseId refs).salesforceId = none ∧
      (insertedRow now anomaly caseId refs).sfSyncAttempts = 0 := ⟨rfl, rfl⟩

lemma Inv.insert (hI : Inv s) {row : CaseRow} {timeline : List (String × TimelineEvent)}
    (hname : row.caseId ≠ "") (hfresh : row.caseId ∉ s.db.cases.keys)
    (hrow : row.salesforceId = none ∧ row.sfSyncAttempts = 0) :
    Inv { s with db := { cases := s.db.cases.upsert row, timeline } } := by
  apply hI.setDb
  · intro r hr
    rcases Table.mem_rows_upsert.mp hr with rfl | ⟨hr, -⟩
    · exact hname
    · exact hI.named r hr
  · intro r hr id hid
    rcases Table.mem_rows_upsert.mp hr with rfl | ⟨hr, -⟩
    · simp [hrow.1] at hid
    · exact hI.linked r hr id hid
  · intro r hr hpending
    rcases Table.mem_rows_upsert.mp hr with rfl | ⟨hr, -⟩
    · rw [hrow.2]
      decide
    · exact hI.attempts r hr hpending
  · refine hI.passes_of_waiting ?_
    rintro w ⟨r, hr, hrest⟩
    have hne : row.caseId ≠ w.caseId := by
      intro he
      exact hfresh (Table.mem_keys_iff.mpr (by rw [he, hr]; simp))
    exact ⟨r, by rw [Table.lookup_upsert_of_ne _ hne, hr], hrest⟩

/-- An apply changes neither the push columns of a row nor whose row it is. -/
lemma Inv.applyRecord (hI : Inv s) {now : Instant} {rec : CaseSyncRecord} {db : CaseDb}
    {matched : Bool} (hrec : ∃ c ∈ s.org.rows,
      c.id = rec.salesforceId ∧ c.afmExternalId.getD "" = rec.externalId)
    (h : applyRecord now rec s.db = some (db, matched)) : Inv { s with db } := by
  cases ApplyRule.of_applyRecord h with
  | unmatched => exact hI
  | matched row hrow hmatch =>
    refine hI.setDb ?_ ?_ ?_ ?_
    · intro r hr
      rcases Table.mem_rows_upsert.mp hr with rfl | ⟨hr, -⟩
      · exact hI.named row hrow
      · exact hI.named r hr
    · intro r hr id hid
      rcases Table.mem_rows_upsert.mp hr with rfl | ⟨hr, -⟩
      · cases hold : row.salesforceId with
        | some old =>
          rw [appliedRow_salesforceId, hold, Option.some_or, Option.mem_some] at hid
          exact hI.linked row hrow id (hid ▸ hold)
        | none =>
          -- the row is matched by its case id, and the record's Case has it as external id
          rw [appliedRow_salesforceId, hold, Option.none_or, Option.mem_some] at hid
          obtain ⟨c, hc, hcid, hcext⟩ := hrec
          have hcase : row.caseId = rec.externalId :=
            hmatch.resolve_left (by simp [hold])
          refine ⟨c, hc, hcid.trans hid, ?_⟩
          cases hext : c.afmExternalId with
          | none =>
            rw [hext, Option.getD_none] at hcext
            exact absurd (hcase.trans hcext.symm) (hI.named row hrow)
          | some x =>
            rw [hext, Option.getD_some] at hcext
            rw [appliedRow_caseId, hcase, hcext]
      · exact hI.linked r hr id hid
    · intro r hr hpending
      rcases Table.mem_rows_upsert.mp hr with rfl | ⟨hr, -⟩
      · exact hI.attempts row hrow hpending
      · exact hI.attempts r hr hpending
    · refine hI.passes_of_waiting ?_
      rintro w ⟨r, hr, hstatus, hatt⟩
      by_cases hkey : row.caseId = w.caseId
      · obtain rfl : r = row := by
          rw [← hkey, Table.lookup_of_mem hrow, Option.some.injEq] at hr
          exact hr.symm
        refine ⟨appliedRow now rec r, ?_, hstatus, hatt⟩
        rw [Table.lookup_upsert, if_pos (by simpa using hkey)]
      · exact ⟨r, by rw [Table.lookup_upsert_of_ne _ (by simpa using hkey), hr], hstatus, hatt⟩

/-- What a mark may leave in a row: an Id it was told, and fewer attempts than the maximum unless
the row is parked. -/
lemma markRow_of_markFor {row : CaseRow} {mark : Mark}
    {outcome : Except PyException SalesforceCaseRef} (now : Instant) (r : CaseRow)
    (h : markFor (row.sfSyncAttempts + 1) outcome = .ok mark) :
    ((markRow now mark r).salesforceId = r.salesforceId ∨
      ∃ ref, outcome = .ok ref ∧ (markRow now mark r).salesforceId = some ref.salesforceId) ∧
    ((markRow now mark r).sfSyncStatus = .pending → r.sfSyncStatus = .pending →
      (markRow now mark r).sfSyncAttempts < maxAttempts) := by
  cases Classified.of_markFor h with
  | synced ref hout hmark =>
    simp only at hmark hout
    subst hmark
    exact ⟨.inr ⟨ref, hout, rfl⟩, fun hs => by simp [markRow] at hs⟩
  | retry message hout hlt hmark =>
    simp only at hmark
    subst hmark
    exact ⟨.inl rfl, fun _ _ => hlt⟩
  | exhausted message hout hge hmark =>
    simp only at hmark
    subst hmark
    exact ⟨.inl rfl, fun hs => by simp [markRow] at hs⟩
  | permanent message hout hmark =>
    simp only at hmark
    subst hmark
    exact ⟨.inl rfl, fun hs => by simp [markRow] at hs⟩

lemma Inv.mark (hI : Inv s) {now : Instant} {row : CaseRow} {rest : List CaseRow} {mark : Mark}
    {outcome : Except PyException SalesforceCaseRef} {db : CaseDb}
    (hp : s.passes p = .answered row outcome rest)
    (hmark : markFor (row.sfSyncAttempts + 1) outcome = .ok mark)
    (hdb : markCase now row.caseId mark s.db = some db) :
    Inv { s.setPass p (.pushing rest) with db } := by
  have hpass := hI.passes p
  rw [hp] at hpass
  obtain ⟨hlock, hnodup, hwait, hcaseOf⟩ := hpass
  obtain ⟨hnotin, hnodup'⟩ := List.nodup_cons.mp hnodup
  obtain ⟨r, hr, -, hcases⟩ := markCase_eq_some hdb
  have hkey : r.caseId = row.caseId := Table.key_of_lookup hr
  have hrow : r ∈ s.db.cases.rows := Table.mem_rows_of_lookup hr
  obtain ⟨w, hw, hpending, -⟩ := hwait row List.mem_cons_self
  obtain rfl : r = w := Option.some.inj (hr.symm.trans hw)
  obtain ⟨hsf, hatt⟩ := markRow_of_markFor now r hmark
  have hmem : ∀ x ∈ db.cases.rows, x = markRow now mark r ∨ x ∈ s.db.cases.rows := by
    intro x hx
    rw [hcases] at hx
    exact (Table.mem_rows_upsert.mp hx).imp_right And.left
  have hpushing : PassInv s p (.pushing rest) :=
    ⟨hlock, hnodup', fun x hx => hwait x (List.mem_cons_of_mem _ hx)⟩
  refine (hI.setPass hpushing).setDb ?_ ?_ ?_ ?_
  · intro x hx
    rcases hmem x hx with rfl | hx
    · rw [markRow_caseId]
      exact hI.named r hrow
    · exact hI.named x hx
  · intro x hx id hid
    rcases hmem x hx with rfl | hx
    · rw [markRow_caseId]
      rcases hsf with hsf | ⟨ref, hout, hsf⟩
      · exact hI.linked r hrow id (hsf ▸ hid)
      · rw [hsf, Option.mem_some] at hid
        exact hid ▸ hkey ▸ hcaseOf ref hout
    · exact hI.linked x hx id hid
  · intro x hx hs
    rcases hmem x hx with rfl | hx
    · exact hatt hs hpending
    · exact hI.attempts x hx hs
  · intro q
    show PassInv _ q (Function.update s.passes p (.pushing rest) q)
    by_cases hq : q = p
    · subst hq
      rw [Function.update_self]
      refine ⟨hlock, hnodup', fun x hx => ?_⟩
      obtain ⟨y, hy, hrest⟩ := hwait x (List.mem_cons_of_mem _ hx)
      have hne : row.caseId ≠ x.caseId := fun he => hnotin (he ▸ List.mem_map_of_mem hx)
      exact ⟨y, by rw [lookup_markCase hdb, if_neg hne, hy], hrest⟩
    · have hidle := hI.idle_of_lock (p := p)
        (fun q' hq' => Option.some.inj (hq'.symm.trans hlock)) hq
      rw [Function.update_of_ne hq, hidle]
      trivial

/-! ### Steps -/

lemma toPayload_externalId {row : CaseRow} {payload : CaseCreateInput}
    (h : toPayload row = .ok payload) : payload.externalId = row.caseId := by
  rw [toPayload] at h
  split at h
  next => simp at h
  next => rw [← Except.ok.inj h]

/-- The Case that is created is in the org, under its external id. -/
lemma caseOf_created {org org' : SfOrg} {payload : CaseCreateInput} {id : String}
    {created : Option (String × Instant)} (h : orgAfter recordType org payload created = some org')
    (hid : created.map Prod.fst = some id) : CaseOf org' id payload.externalId := by
  obtain ⟨⟨id', stamp⟩, rfl, rfl⟩ := Option.map_eq_some_iff.mp hid
  simp only [orgAfter, insertSf] at h
  split_ifs at h
  obtain rfl := Option.some.inj h
  exact ⟨_, Table.mem_rows_upsert.mpr (.inl rfl), rfl, rfl⟩

/-- `create_case` returns the Id of the Case it created, or of the one the lookup found. -/
lemma createCase_ok {sf : SfClient} {service service' : SfService} {payload : CaseCreateInput}
    {ref : SalesforceCaseRef} (h : createCase sf payload service = (.ok ref, service')) :
    let submitted := withSessionRetry sf (createCall sf) (caseRecordType sf service).2
    (∃ result, submitted.1 = .ok result ∧ result.success ∧ ref.salesforceId = result.id) ∨
      lookedUp submitted.1 ∧
        ∃ records, (withSessionRetry sf (queryCall sf) submitted.2).1 = .ok records ∧
          ref.salesforceId ∈ records := by
  revert h
  unfold createCase toSfFields SfM.andThen
  rcases caseRecordType sf service with ⟨e | id, s₁⟩
  · simp
  · simp only
    rcases withSessionRetry sf (createCall sf) s₁ with ⟨e | result, s₂⟩
    · cases e with
      | salesforceError status codes =>
        simp only [findCaseIdByExternalId, SfM.andThen]
        rcases withSessionRetry sf (queryCall sf) s₂ with ⟨e | records, s₃⟩
        · simp only
          split_ifs <;> simp
        · simp only
          split_ifs with hdup
          · cases records with
            | nil => simp
            | cons id records =>
              intro h
              simp only [List.head?_cons, Prod.mk.injEq, Except.ok.injEq] at h
              exact .inr ⟨hdup, id :: records, rfl, h.1 ▸ List.mem_cons_self⟩
          · simp
      | upstreamUnavailable message => simp
      | badRequest message => simp
      | transport => simp
      | validationError => simp
      | integrityError => simp
    · intro h
      left
      simp only at h ⊢
      split_ifs at h with hs
      · simp only [Prod.mk.injEq, Except.ok.injEq] at h
        exact ⟨result, rfl, hs, h.1 ▸ rfl⟩
      · simp at h

lemma caseOf_createCase {sf : SfClient} {service : SfService} {org org' : SfOrg}
    {payload : CaseCreateInput} {created : Option (String × Instant)}
    (horg : orgAfter recordType org payload created = some org')
    (htrue : AnswersTrue sf service org' payload.externalId created) (ref : SalesforceCaseRef)
    (href : (createCase sf payload service).1 = .ok ref) :
    CaseOf org' ref.salesforceId payload.externalId := by
  rcases createCase_ok (Prod.ext href rfl) with ⟨result, hres, hs, hid⟩ | ⟨hdup, records, hrec, hid⟩
  · have hcreate := htrue.1
    rw [hres] at hcreate
    exact hid ▸ caseOf_created horg (hcreate hs)
  · have hlookup := htrue.2 hdup
    rw [hrec] at hlookup
    exact hlookup _ hid

lemma Inv.fetch (hI : Inv s) {limit : ℕ} (hp : s.passes p = .locked) :
    Inv (s.setPass p (.pushing (fetchPending s.db.cases limit))) := by
  have hpass := hI.passes p
  rw [hp] at hpass
  have hbatch := pendingBatch_fetchPending s.db.cases limit
  exact hI.setPass ⟨hpass, hbatch.nodup, fun r hr =>
    ⟨r, hbatch.lookup r hr, hbatch.pending r hr, rfl⟩⟩

lemma Inv.create (hI : Inv s) {row : CaseRow} {rest : List CaseRow} {payload : CaseCreateInput}
    {created : Option (String × Instant)} {org : SfOrg}
    {outcome : Except PyException SalesforceCaseRef} (hp : s.passes p = .pushing (row :: rest))
    (horg : orgAfter recordType s.org payload created = some org)
    (hout : ∀ ref, outcome = .ok ref → CaseOf org ref.salesforceId row.caseId) :
    Inv { s.setPass p (.answered row outcome rest) with org, sent := payload :: s.sent } := by
  have hpass := hI.passes p
  rw [hp] at hpass
  obtain ⟨hk, hu⟩ := orgAfter_keeps horg hI.unique
  have hInew : Inv { s with org } := hI.setOrg hk hu
  have hset : Inv (State.setPass { s with org } p (.answered row outcome rest)) :=
    hInew.setPass ⟨hpass.1, hpass.2.1, hpass.2.2, hout⟩
  exact { hset with passes := fun q => (hset.passes q).mono rfl rfl fun _ => id }

/-- A pass that is over gives the lock back. -/
lemma Inv.release (hI : Inv s) (hlock : s.lock = some p) {sent : List CaseCreateInput} :
    Inv { s.setPass p .idle with lock := none, sent } := by
  have hothers : ∀ q, q ≠ p → s.passes q = .idle := fun q hq =>
    hI.idle_of_lock (fun q' hq' => Option.some.inj (hq'.symm.trans hlock)) hq
  have h : Inv { s.setPass p .idle with lock := none } := hI.setLock hothers trivial
  exact { h with passes := fun q => (h.passes q).mono rfl rfl fun _ => id }

/-- A pass that is not idle holds the lock. -/
lemma Inv.lock_of_ne_idle (hI : Inv s) (h : s.passes p ≠ .idle) : s.lock = some p := by
  have hp := hI.passes p
  cases hps : s.passes p with
  | idle => exact absurd hps h
  | locked =>
    rw [hps] at hp
    exact hp
  | pushing rest =>
    rw [hps] at hp
    exact hp.1
  | answered row outcome rest =>
    rw [hps] at hp
    exact hp.1

/-! ### The steps -/

/-- What a step does to the system, with what it has checked. -/
inductive StepRule (recordType : String) (s : State) : Action → State → Prop where
  | insert (now : Instant) (anomaly : Anomaly) (caseId : String) (refs : List String)
      (hname : caseId ≠ "") (hfresh : caseId ∉ s.db.cases.keys) :
      StepRule recordType s (.insert now anomaly caseId refs)
        { s with db :=
          { cases := s.db.cases.upsert (insertedRow now anomaly caseId refs)
            timeline := s.db.timeline ++ [(caseId, .created anomaly.rule)] } }
  | lock (p : ℕ) (hp : s.passes p = .idle) (hlock : s.lock = none) :
      StepRule recordType s (.lock p) { s.setPass p .locked with lock := some p }
  | lockTaken (p : ℕ) : StepRule recordType s (.lock p) s
  | fetch (p limit : ℕ) (hp : s.passes p = .locked) :
      StepRule recordType s (.fetch p limit)
        (s.setPass p (.pushing (fetchPending s.db.cases limit)))
  | create (p : ℕ) (sf : SfClient) (service : SfService) (created : Option (String × Instant))
      (row : CaseRow) (rest : List CaseRow) (payload : CaseCreateInput) (org : SfOrg)
      (hp : s.passes p = .pushing (row :: rest)) (hpayload : toPayload row = .ok payload)
      (horg : orgAfter recordType s.org payload created = some org)
      (htrue : AnswersTrue sf service org payload.externalId created) :
      StepRule recordType s (.create p sf service created)
        { s.setPass p (.answered row (createCase sf payload service).1 rest) with
          org, sent := payload :: s.sent }
  | mark (p : ℕ) (now : Instant) (row : CaseRow)
      (outcome : Except PyException SalesforceCaseRef) (rest : List CaseRow) (mark : Mark)
      (db : CaseDb) (hp : s.passes p = .answered row outcome rest)
      (hmark : markFor (row.sfSyncAttempts + 1) outcome = .ok mark)
      (hdb : markCase now row.caseId mark s.db = some db) :
      StepRule recordType s (.mark p now) { s.setPass p (.pushing rest) with db }
  | finish (p : ℕ) (hp : s.passes p = .pushing []) :
      StepRule recordType s (.finish p) { s.setPass p .idle with lock := none }
  | crashSending (p : ℕ) (row : CaseRow) (rest : List CaseRow) (payload : CaseCreateInput)
      (hp : s.passes p = .pushing (row :: rest)) (hpayload : toPayload row = .ok payload) :
      StepRule recordType s (.crash p)
        { s.setPass p .idle with lock := none, sent := payload :: s.sent }
  | crash (p : ℕ) (hp : s.passes p ≠ .idle) :
      StepRule recordType s (.crash p) { s.setPass p .idle with lock := none }
  | land (payload : CaseCreateInput) (id : String) (stamp : Instant) (org : SfOrg)
      (hsent : payload ∈ s.sent) (horg : insertSf recordType s.org payload id stamp = some org) :
      StepRule recordType s (.land payload id stamp) { s with org }
  | edit (c old : SfCase) (hold : s.org.lookup c.id = some old)
      (hext : c.afmExternalId = old.afmExternalId) :
      StepRule recordType s (.edit c) { s with org := s.org.upsert c }
  | query (p : ℕ) (page : List SfCase) (hpage : ∀ c ∈ page, c ∈ s.org.rows) :
      StepRule recordType s (.query p page) (s.setPull p (page.map toSyncRecord))
  | apply (p : ℕ) (now : Instant) (rec : CaseSyncRecord) (records : List CaseSyncRecord)
      (db : CaseDb) (matched : Bool) (hp : s.pulls p = rec :: records)
      (happly : applyRecord now rec s.db = some (db, matched)) :
      StepRule recordType s (.apply p now) { s.setPull p records with db }
  | dropPull (p : ℕ) : StepRule recordType s (.dropPull p) (s.setPull p [])

lemma StepRule.of_act {a : Action} (h : act recordType s a = some t) :
    StepRule recordType s a t := by
  cases a with
  | insert now anomaly caseId refs =>
    simp only [act] at h
    split_ifs at h with hfresh
    exact Option.some.inj h ▸ .insert now anomaly caseId refs hfresh.1 hfresh.2
  | lock p =>
    simp only [act] at h
    split at h
    next hp =>
      obtain rfl := Option.some.inj h
      split_ifs with hlock
      · exact .lock p hp hlock
      · exact .lockTaken p
    next => simp at h
  | fetch p limit =>
    simp only [act] at h
    split at h
    next hp => exact Option.some.inj h ▸ .fetch p limit hp
    next => simp at h
  | create p sf service created =>
    simp only [act] at h
    split at h
    next row rest hp =>
      split at h
      next => simp at h
      next payload hpayload =>
        obtain ⟨org, horg, h⟩ := Option.bind_eq_some_iff.mp h
        split_ifs at h with htrue
        exact Option.some.inj h ▸
          .create p sf service created row rest payload org hp hpayload horg htrue
    next => simp at h
  | mark p now =>
    simp only [act] at h
    split at h
    next row outcome rest hp =>
      split at h
      next => simp at h
      next mark hmark =>
        obtain ⟨db, hdb, rfl⟩ := Option.map_eq_some_iff.mp h
        exact .mark p now row outcome rest mark db hp hmark hdb
    next => simp at h
  | finish p =>
    simp only [act] at h
    split at h
    next hp => exact Option.some.inj h ▸ .finish p hp
    next => simp at h
  | crash p =>
    simp only [act] at h
    split at h
    next => simp at h
    next row rest hp =>
      split at h
      next payload hpayload =>
        exact Option.some.inj h ▸ .crashSending p row rest payload hp hpayload
      next => exact Option.some.inj h ▸ .crash p (by simp [hp])
    next hidle _ => exact Option.some.inj h ▸ .crash p hidle
  | land payload id stamp =>
    simp only [act] at h
    split_ifs at h with hsent
    obtain ⟨org, horg, rfl⟩ := Option.map_eq_some_iff.mp h
    exact .land payload id stamp org hsent horg
  | edit c =>
    simp only [act] at h
    split at h
    next old hold =>
      split_ifs at h with hext
      exact Option.some.inj h ▸ .edit c old hold hext
    next => simp at h
  | query p page =>
    simp only [act] at h
    split_ifs at h with hpage
    exact Option.some.inj h ▸ .query p page hpage
  | apply p now =>
    simp only [act] at h
    split at h
    next rec records hp =>
      obtain ⟨⟨db, matched⟩, happly, rfl⟩ := Option.map_eq_some_iff.mp h
      exact .apply p now rec records db matched hp happly
    next => simp at h
  | dropPull p => exact Option.some.inj h ▸ .dropPull p

lemma Inv.step {a : Action} (hI : Inv s) (h : act recordType s a = some t) : Inv t := by
  cases StepRule.of_act h with
  | insert now anomaly caseId refs hname hfresh =>
    exact hI.insert hname hfresh (insertedRow_fresh now anomaly caseId refs)
  | lock p hp hlock =>
    refine hI.setLock (fun q hq => ?_) rfl
    exact hI.idle_of_lock (p := p) (fun q' hq' => by simp [hlock] at hq') hq
  | lockTaken => exact hI
  | fetch p limit hp => exact hI.fetch hp
  | create p sf service created row rest payload org hp hpayload horg htrue =>
    refine hI.create hp horg fun ref href => ?_
    exact toPayload_externalId hpayload ▸ caseOf_createCase horg htrue ref href
  | mark p now row outcome rest mark db hp hmark hdb => exact hI.mark hp hmark hdb
  | finish p hp => exact hI.release (hI.lock_of_ne_idle (by simp [hp]))
  | crashSending p row rest payload hp => exact hI.release (hI.lock_of_ne_idle (by simp [hp]))
  | crash p hp => exact hI.release (hI.lock_of_ne_idle hp)
  | land payload id stamp org hsent horg =>
    obtain ⟨hk, hu⟩ := insertSf_keeps horg hI.unique
    exact hI.setOrg hk hu
  | edit c old hold hext =>
    obtain ⟨hk, hu⟩ := edit_keeps hold hext hI.unique
    exact hI.setOrg hk hu
  | query p page hpage =>
    refine hI.setPull fun rec hrec => ?_
    obtain ⟨c, hc, rfl⟩ := List.mem_map.mp hrec
    exact ⟨c, hpage c hc, rfl, rfl⟩
  | apply p now rec records db matched hp happly =>
    have hpull : Inv (s.setPull p records) :=
      hI.setPull fun r hr => hI.pulls p r (by simp [hp, hr])
    exact hpull.applyRecord (hI.pulls p rec (by simp [hp])) happly
  | dropPull p => exact hI.setPull (by simp)

lemma inv_of_reached (h : Reached (act recordType) unguarded init s) : Inv s :=
  h.invariant (fun _ => Inv.of_init) fun _ _ _ hI _ ha => hI.step ha

/-! ### The results -/

/-- A record whose Id and external id are those of a Case of the org matches one row at most. -/
lemma Inv.match_unique (hI : Inv s) {rec : CaseSyncRecord} (hrec : ∃ c ∈ s.org.rows,
      c.id = rec.salesforceId ∧ c.afmExternalId.getD "" = rec.externalId) {r r' : CaseRow}
    (hr : r ∈ s.db.cases.rows) (hr' : r' ∈ s.db.cases.rows) (hm : recordMatches rec r)
    (hm' : recordMatches rec r') : r = r' := by
  obtain ⟨c, hc, hid, hext⟩ := hrec
  have hkey : ∀ x ∈ s.db.cases.rows, recordMatches rec x → x.caseId = rec.externalId := by
    intro x hx hmx
    rcases hmx with hsf | hcase
    · obtain ⟨d, hd, hdid, hdext⟩ := hI.linked x hx rec.salesforceId hsf
      obtain rfl := Table.row_eq_of_key_eq hc hd (hid.trans hdid.symm)
      rw [← hext, hdext, Option.getD_some]
    · exact hcase
  exact Table.row_eq_of_key_eq hr hr'
    ((hkey r hr hm).trans (hkey r' hr' hm').symm)

lemma Inv.nextCase_pending (hI : Inv s) {caseId : String} (h : nextCase s p = some caseId) :
    ∃ r, s.db.cases.lookup caseId = some r ∧ r.sfSyncStatus = .pending := by
  rw [nextCase] at h
  split at h
  next row rest hp =>
    have hpass := hI.passes p
    rw [hp] at hpass
    obtain ⟨r, hr, hpending, -⟩ := hpass.2.2 row List.mem_cons_self
    exact ⟨r, Option.some.inj h ▸ hr, hpending⟩
  next => simp at h

/-- A row that is submitted waits for its push. -/
lemma Inv.submits_pending (hI : Inv s) {a : Action} {caseId : String}
    (h : submits s a = some caseId) :
    ∃ r, s.db.cases.lookup caseId = some r ∧ r.sfSyncStatus = .pending := by
  unfold submits at h
  split at h
  next => exact hI.nextCase_pending h
  next => exact hI.nextCase_pending h
  next => simp at h

/-- The push is over for the case: it is synced, failed or skipped. -/
def Settled (s : State) (caseId : String) : Prop :=
  ∃ r, s.db.cases.lookup caseId = some r ∧ r.sfSyncStatus ≠ .pending

lemma Settled.of_db (h : Settled s caseId) (hdb : t.db.cases = s.db.cases) : Settled t caseId := by
  obtain ⟨r, hr, hne⟩ := h
  exact ⟨r, hdb ▸ hr, hne⟩

/-- A mark goes to a row that waits, so it leaves a settled one alone. -/
lemma Settled.mark (hI : Inv s) {now : Instant} {row : CaseRow} {rest : List CaseRow} {mark : Mark}
    {outcome : Except PyException SalesforceCaseRef} {db : CaseDb} {caseId : String}
    (h : Settled s caseId) (hp : s.passes p = .answered row outcome rest)
    (hdb : markCase now row.caseId mark s.db = some db) :
    ∃ r, db.cases.lookup caseId = some r ∧ r.sfSyncStatus ≠ .pending := by
  obtain ⟨r, hr, hne⟩ := h
  have hpass := hI.passes p
  rw [hp] at hpass
  obtain ⟨w, hw, hpending, -⟩ := hpass.2.2.1 row List.mem_cons_self
  have hother : row.caseId ≠ caseId := by
    intro he
    rw [← he, hw] at hr
    exact hne (Option.some.inj hr ▸ hpending)
  exact ⟨r, by rw [lookup_markCase hdb, if_neg hother, hr], hne⟩

/-- A pull does not touch the push's status. -/
lemma Settled.apply {now : Instant} {rec : CaseSyncRecord} {db : CaseDb} {matched : Bool}
    {caseId : String} (h : Settled s caseId) (hdb : applyRecord now rec s.db = some (db, matched)) :
    ∃ r, db.cases.lookup caseId = some r ∧ r.sfSyncStatus ≠ .pending := by
  obtain ⟨r, hr, hne⟩ := h
  cases ApplyRule.of_applyRecord hdb with
  | unmatched => exact ⟨r, hr, hne⟩
  | matched row hrow hmatch =>
    by_cases hkey : row.caseId = caseId
    · obtain rfl : row = r := by
        rw [← hkey, Table.lookup_of_mem hrow, Option.some.injEq] at hr
        exact hr
      refine ⟨appliedRow now rec row, ?_, hne⟩
      rw [Table.lookup_upsert, if_pos (by simpa using hkey)]
    · exact ⟨r, by rw [Table.lookup_upsert_of_ne _ (by simpa using hkey), hr], hne⟩

lemma Settled.step {a : Action} {caseId : String} (hI : Inv s) (hset : Settled s caseId)
    (h : act recordType s a = some t) : Settled t caseId := by
  cases StepRule.of_act h with
  | insert now anomaly id refs hname hfresh =>
    obtain ⟨r, hr, hne⟩ := hset
    refine ⟨r, ?_, hne⟩
    have hother : id ≠ caseId := by
      rintro rfl
      exact hfresh (Table.mem_keys_iff.mpr (by simp [hr]))
    show (Table.upsert _ _).lookup caseId = some r
    rw [Table.lookup_upsert_of_ne _ (by simpa [insertedRow] using hother), hr]
  | mark p now row outcome rest mark db hp hmark hdb => exact hset.mark hI hp hdb
  | apply p now rec records db matched hp happly => exact hset.apply happly
  | lock => exact hset.of_db rfl
  | lockTaken => exact hset
  | fetch => exact hset.of_db rfl
  | create => exact hset.of_db rfl
  | finish => exact hset.of_db rfl
  | crashSending => exact hset.of_db rfl
  | crash => exact hset.of_db rfl
  | land => exact hset.of_db rfl
  | edit => exact hset.of_db rfl
  | query => exact hset.of_db rfl
  | dropPull => exact hset.of_db rfl

lemma Settled.run {as : List Action} {caseId : String} (hI : Inv s) (hset : Settled s caseId)
    (h : runActions (act recordType) s as = some t) : Inv t ∧ Settled t caseId := by
  induction as generalizing s with
  | nil => exact Option.some.inj h ▸ ⟨hI, hset⟩
  | cons a as ih =>
    obtain ⟨u, hu, hrun⟩ := Option.bind_eq_some_iff.mp h
    exact ih (hI.step hu) (hset.step hI hu) hrun

/-- In every reachable state one Case at most has a given external id; a Salesforce id in a row is
that of the Case made for it, and a record matches one row at most; a pending row has attempts left,
and a case that is not pending is not submitted in any continuation of the run. -/
theorem exactly_once (recordType : String) (s : State)
    (hs : Reached (act recordType) unguarded init s) :
    (∀ c ∈ s.org.rows, ∀ d ∈ s.org.rows, ∀ caseId, c.afmExternalId = some caseId →
      d.afmExternalId = some caseId → c = d) ∧
    (∀ r ∈ s.db.cases.rows, ∀ id ∈ r.salesforceId,
      ∃ c ∈ s.org.rows, c.id = id ∧ c.afmExternalId = some r.caseId) ∧
    (∀ rec, (∃ p, rec ∈ s.pulls p) ∨ (∃ c ∈ s.org.rows, rec = toSyncRecord c) →
      ∀ r ∈ s.db.cases.rows, ∀ r' ∈ s.db.cases.rows,
        recordMatches rec r → recordMatches rec r' → r = r') ∧
    (∀ r ∈ s.db.cases.rows, r.sfSyncStatus = .pending → r.sfSyncAttempts < maxAttempts) ∧
    ∀ r ∈ s.db.cases.rows, r.sfSyncStatus ≠ .pending → ∀ as t a,
      runActions (act recordType) s as = some t → submits t a ≠ some r.caseId := by
  have hI := inv_of_reached hs
  refine ⟨hI.unique, hI.linked, fun rec hrec r hr r' hr' hm hm' => ?_, hI.attempts, ?_⟩
  · have hcase : ∃ c ∈ s.org.rows, c.id = rec.salesforceId ∧
        c.afmExternalId.getD "" = rec.externalId := by
      rcases hrec with ⟨p, hp⟩ | ⟨c, hc, rfl⟩
      · exact hI.pulls p rec hp
      · exact ⟨c, hc, rfl, rfl⟩
    exact hI.match_unique hcase hr hr' hm hm'
  · intro r hr hne as t a hrun hsubmits
    have hset : Settled s r.caseId := ⟨r, Table.lookup_of_mem hr, hne⟩
    obtain ⟨hI', r', hr', hne'⟩ := hset.run hI hrun
    obtain ⟨w, hw, hpending⟩ := hI'.submits_pending hsubmits
    exact hne' (Option.some.inj (hr'.symm.trans hw) ▸ hpending)

/-! ### A lost answer -/

/-- Salesforce creates the Case and the answer is lost. -/
def lostClient : SfClient where
  token _ := .ok ()
  query _ := .ok ["0120"]
  create _ := .error .transport

/-- Salesforce answers that the Case exists; the second query is the lookup. -/
def duplicateClient : SfClient where
  token _ := .ok ()
  query n := .ok [if n = 0 then "0120" else "5001"]
  create _ := .error (.salesforceError (some 400) ["DUPLICATE_VALUE"])

def emptyState : State where
  db := { cases := Table.empty }
  org := Table.empty
  lock := none
  passes _ := .idle
  pulls _ := []
  sent := []

lemma init_emptyState : init emptyState :=
  ⟨rfl, by simp [emptyState, Table.empty], rfl, fun _ => rfl, fun _ => rfl⟩

/-- The first pass dies before it marks the case; the second one adopts the Case. -/
def adoptingRun : List Action :=
  [.insert 0 ⟨.lostSignal, some "a1b2c3", some "KJFK", .east, some .high, []⟩ "CASE-1" [],
   .lock 0, .fetch 0 20, .create 0 lostClient {} (some ("5001", 1000000)), .crash 0,
   .lock 1, .fetch 1 20, .create 1 duplicateClient {} none, .mark 1 2000000, .finish 1]

theorem adoptingRun_exactly_once : ∃ t,
    runActions (act "Fleet_Operations") emptyState adoptingRun = some t ∧
    UniqueExternalIds t.org ∧
    ∀ r ∈ t.db.cases.rows, ∀ id ∈ r.salesforceId, CaseOf t.org id r.caseId := by
  have hsome : (runActions (act "Fleet_Operations") emptyState adoptingRun).isSome := by decide
  obtain ⟨t, ht, hreached⟩ :=
    (Reached.start init_emptyState).exists_run (guardsHold_unguarded _ _) hsome
  obtain ⟨hunique, hlinked, -⟩ := exactly_once "Fleet_Operations" t hreached
  exact ⟨t, ht, hunique, hlinked⟩

end FleetMonitor.ExactlyOnce
