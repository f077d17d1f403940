import FleetMonitor.Detection.CaseIdentity
import FleetMonitor.Library.Runs
import Mathlib.Tactic.Linarith

/-!
# The case detector

Ticks of `case_detector`, one after the other: a tick loads the open cases, drops the repeats among
the anomalies it has detected and inserts the others. Salesforce pulls, which close cases, come at
any point. A case that is closed is not loaded any more, so it suppresses nothing; an open one
suppresses what it is equivalent to for the whole window.
-/

namespace FleetMonitor.CaseDetector

open Library

/-! ### The system -/

/-- An anomaly that is about to be inserted. -/
structure Pending where
  anomaly : Anomaly
  rule : Rule
  insertedAt : Instant
  /-- History: the cases that were resolved or closed when its tick loaded the open ones. -/
  closed : List String
  deriving DecidableEq, Repr

structure State where
  db : CaseDb
  now : Instant
  /-- What the tick under way has still to insert. -/
  pending : List Pending
  /-- History: for each case inserted, those that were resolved or closed at the load of its
  tick. -/
  closedAtLoad : List (String × List String) := []

inductive Action where
  /-- The reads of a tick; `insertedAt` is when each anomaly will be inserted, if it is. -/
  | load (feedTime : Instant) (detected : List (Anomaly × Rule)) (insertedAt : Anomaly → Instant)
  /-- One `_insert_case`. -/
  | insert (caseId : String) (runbookRefs : List String)
  /-- The tick fails. -/
  | fail
  /-- A pull applies a record. -/
  | pull (now : Instant) (rec : CaseSyncRecord)

/-- `_insert_case`. -/
def insertCase (now : Instant) (anomaly : Anomaly) (caseId : String) (runbookRefs : List String)
    (db : CaseDb) : CaseDb where
  cases := db.cases.upsert (insertedRow now anomaly caseId runbookRefs)
  timeline := db.timeline ++ [(caseId, .created anomaly.rule)]

/-- The cases `_load_open_cases` leaves out. -/
def closedIds (cases : CaseTable) : List String :=
  (cases.rows.filter fun row => row.status ∈ [CaseStatus.resolved, .closed]).map CaseRow.caseId

def act (s : State) : Action → Option State
  | .load feedTime detected insertedAt =>
    if s.pending = [] ∧ ∀ d ∈ detected, d.1.rule = d.2.caseType ∧ feedTime ≤ insertedAt d.1 then
      let kept := survivors (loadOpenCases s.db.cases) feedTime detected []
      let closed := closedIds s.db.cases
      some { s with pending := kept.map fun d => ⟨d.1, d.2, insertedAt d.1, closed⟩ }
    else none
  | .insert caseId runbookRefs =>
    match s.pending with
    | p :: pending =>
      if s.now ≤ p.insertedAt ∧ caseId ∉ s.db.cases.keys then
        some
          { db := insertCase p.insertedAt p.anomaly caseId runbookRefs s.db
            now := p.insertedAt
            pending
            closedAtLoad := (caseId, p.closed) :: s.closedAtLoad }
      else none
    | [] => none
  | .fail => some { s with pending := [] }
  | .pull now rec =>
    if s.now ≤ now then (applyRecord now rec s.db).map fun (db, _) => { s with db, now } else none

/-! ### The properties -/

/-- Two cases of a rule with one identity. -/
def Equivalent (rule : Rule) (r r' : CaseRow) : Prop :=
  r.caseType = rule.caseType ∧ r'.caseType = rule.caseType ∧ caseKey rule r = caseKey rule r'

instance (rule : Rule) (r r' : CaseRow) : Decidable (Equivalent rule r r') :=
  inferInstanceAs (Decidable (_ ∧ _))

/-- No two cases of one identity have been created closer together than the window of their
rule. -/
def WindowsKept (cases : CaseTable) : Prop :=
  ∀ rule ∈ allRules, ∀ r ∈ cases.rows, ∀ r' ∈ cases.rows, r.caseId ≠ r'.caseId →
    Equivalent rule r r' → rule.dedupWindow ≤ |r.createdAt - r'.createdAt|

instance : DecidablePred WindowsKept := fun _ => inferInstanceAs (Decidable (∀ rule ∈ _, _))

/-- What the rule keys on is in the columns, and no stand-in for it: the site is none for an empty
text, the aircraft none for a `WX-` sentinel. -/
def PlainIdentity (row : CaseRow) : Rule → Prop
  | .weatherImpact      => row.siteIcao ≠ ""
  | .diversion | .delay => row.flightId.startsWith "WX-" = false
  | _                   => row.flightId.startsWith "WX-" = false ∧ row.siteIcao ≠ ""

/-- The case `old` was resolved or closed when the tick that inserted `new` loaded the open
cases. -/
def ClosedBefore (s : State) (new old : String) : Prop :=
  ∃ entry ∈ s.closedAtLoad, entry.1 = new ∧ old ∈ entry.2

/-- Of two cases of one plain identity that have been created closer together than the window of
their rule, one was resolved or closed when the tick of the other loaded the open cases. -/
def KeptUnlessClosed (s : State) : Prop :=
  ∀ rule, ∀ r ∈ s.db.cases.rows, ∀ r' ∈ s.db.cases.rows, r.caseId ≠ r'.caseId →
    Equivalent rule r r' → PlainIdentity r rule → |r.createdAt - r'.createdAt| < rule.dedupWindow →
      ClosedBefore s r.caseId r'.caseId ∨ ClosedBefore s r'.caseId r.caseId

/-- No tick is under way, and the windows are kept so far. -/
structure init (s : State) : Prop where
  pending : s.pending = []
  windows : WindowsKept s.db.cases

/-! ### Identities -/

variable {s t : State} {rule : Rule} {r r' : CaseRow} {a : Anomaly}

/-- The row of an anomaly, for the identity it is stored under. -/
def storedRow (anomaly : Anomaly) : CaseRow := insertedRow 0 anomaly "" []

lemma caseKey_insertedRow (rule : Rule) (now : Instant) (anomaly : Anomaly) (caseId : String)
    (runbookRefs : List String) :
    caseKey rule (insertedRow now anomaly caseId runbookRefs) = caseKey rule (storedRow anomaly) :=
  rfl

/-- Whether an identity is plain the key says. -/
lemma PlainIdentity.of_key (h : PlainIdentity r rule) (hkey : caseKey rule r = caseKey rule r') :
    PlainIdentity r' rule := by
  cases rule <;> simp [caseKey, Rule.dedupKey, optText] at hkey <;>
    simpa [PlainIdentity, hkey] using h

/-- A plain identity is stored as it is. -/
lemma PlainIdentity.storable (h : PlainIdentity (storedRow a) rule) : StorableIdentity a rule := by
  have haircraft : (storedRow a).flightId.startsWith "WX-" = false → HasAircraft a := by
    intro hflight hnone
    have hsentinel : (storedRow a).flightId = "WX-" ++ orText a.siteIcao "UNKN" := by
      unfold storedRow insertedRow
      cases hicao : a.icao24 with
      | none => simp [orText]
      | some v =>
        rw [hicao] at hnone
        obtain rfl : v = "" := hnone
        simp [orText]
    rw [hsentinel] at hflight
    simp at hflight
  have hsite : (storedRow a).siteIcao ≠ "" → a.siteIcao ≠ none := by
    intro hsite hnone
    exact hsite (by simp [storedRow, insertedRow, hnone, orText])
  cases rule with
  | weatherImpact => exact hsite h
  | diversion => exact haircraft h
  | delay => exact haircraft h
  | lostSignal => exact ⟨haircraft h.1, hsite h.2⟩
  | excessiveHold => exact ⟨haircraft h.1, hsite h.2⟩
  | goAround => exact ⟨haircraft h.1, hsite h.2⟩

/-- So its key is that of the anomaly. -/
lemma PlainIdentity.caseKey_eq (h : PlainIdentity (storedRow a) rule) :
    caseKey rule (storedRow a) = anomalyKey rule a :=
  caseKey_insertedRow_iff.mpr h.storable

/-! ### The invariant -/

structure Inv (s : State) : Prop where
  kept : KeptUnlessClosed s
  types : ∀ p ∈ s.pending, p.anomaly.rule = p.rule.caseType
  /-- What is more recent than the window allows was closed at the load. -/
  clear : ∀ p ∈ s.pending, ∀ r ∈ s.db.cases.rows, r.caseType = p.rule.caseType →
    caseKey p.rule r = caseKey p.rule (storedRow p.anomaly) → PlainIdentity r p.rule →
    p.insertedAt - p.rule.dedupWindow < r.createdAt → r.caseId ∈ p.closed
  distinct : s.pending.Pairwise fun p q => p.rule = q.rule →
    caseKey p.rule (storedRow p.anomaly) = caseKey q.rule (storedRow q.anomaly) →
    ¬PlainIdentity (storedRow p.anomaly) p.rule

lemma Inv.of_init (h : init s) : Inv s where
  kept rule r hr r' hr' hne heq _ hlt :=
    absurd (h.windows rule rule.mem_allRules r hr r' hr' hne heq) (not_le.mpr hlt)
  types := by simp [h.pending]
  clear := by simp [h.pending]
  distinct := by simp [h.pending]

/-- The rows of `cases'` have the identities and the creation times of rows of `cases`. -/
def SameIdentities (cases cases' : CaseTable) : Prop :=
  ∀ r' ∈ cases'.rows, ∃ r ∈ cases.rows, r.caseId = r'.caseId ∧ r.caseType = r'.caseType ∧
    r.createdAt = r'.createdAt ∧ ∀ rule, caseKey rule r = caseKey rule r'

lemma sameIdentities_applyRecord {now : Instant} {rec : CaseSyncRecord} {db db' : CaseDb}
    {matched : Bool} (h : applyRecord now rec db = some (db', matched)) :
    SameIdentities db.cases db'.cases := by
  cases ApplyRule.of_applyRecord h with
  | unmatched => exact fun r hr => ⟨r, hr, rfl, rfl, rfl, fun _ => rfl⟩
  | matched row hrow =>
    intro r' hr'
    rcases Table.mem_rows_upsert.mp hr' with rfl | ⟨hr', -⟩
    · exact ⟨row, hrow, rfl, rfl, rfl, fun _ => rfl⟩
    · exact ⟨r', hr', rfl, rfl, rfl, fun _ => rfl⟩

/-- A pull changes no identity. -/
lemma Inv.pull (h : Inv s) {now : Instant} {db : CaseDb}
    (hsame : SameIdentities s.db.cases db.cases) : Inv { s with db, now } where
  kept rule r₁ h₁ r₂ h₂ hne heq hplain hlt := by
    obtain ⟨q₁, hq₁, hid₁, htype₁, hat₁, hkey₁⟩ := hsame r₁ h₁
    obtain ⟨q₂, hq₂, hid₂, htype₂, hat₂, hkey₂⟩ := hsame r₂ h₂
    have hequiv : Equivalent rule q₁ q₂ :=
      ⟨htype₁.trans heq.1, htype₂.trans heq.2.1, by rw [hkey₁, hkey₂, heq.2.2]⟩
    rw [← hat₁, ← hat₂] at hlt
    have hclosed := h.kept rule q₁ hq₁ q₂ hq₂ (by rwa [hid₁, hid₂]) hequiv
      (hplain.of_key (hkey₁ rule).symm) hlt
    rwa [hid₁, hid₂] at hclosed
  types := h.types
  clear p hp r' hr' htype hkey hplain hlt := by
    obtain ⟨r, hr, hid, htype', hat, hkey'⟩ := hsame r' hr'
    rw [← hid]
    refine h.clear p hp r hr (htype'.trans htype) ((hkey' _).trans hkey)
      (hplain.of_key (hkey' _).symm) ?_
    rwa [hat]
  distinct := h.distinct

/-- An anomaly that is kept has no open case of its identity in the window. -/
lemma mem_closedIds_of_survivors {feedTime insertedAt : Instant}
    {detected : List (Anomaly × Rule)} {d : Anomaly × Rule}
    (hd : d ∈ survivors (loadOpenCases s.db.cases) feedTime detected [])
    (hfeed : feedTime ≤ insertedAt) (hr : r ∈ s.db.cases.rows) (htype : r.caseType = d.2.caseType)
    (hkey : caseKey d.2 r = caseKey d.2 (storedRow d.1)) (hplain : PlainIdentity r d.2)
    (hrecent : insertedAt - d.2.dedupWindow < r.createdAt) : r.caseId ∈ closedIds s.db.cases := by
  by_contra hopen
  have hload : r ∈ loadOpenCases s.db.cases := by
    refine List.mem_filter.mpr ⟨hr, decide_eq_true fun hclosed => hopen ?_⟩
    exact List.mem_map_of_mem (List.mem_filter.mpr ⟨hr, decide_eq_true hclosed⟩)
  have hown : caseKey d.2 r = anomalyKey d.2 d.1 := hkey.trans (hplain.of_key hkey).caseKey_eq
  have hwindow : feedTime - d.2.dedupWindow ≤ r.createdAt :=
    (sub_le_sub_right (α := ℤ) hfeed _).trans hrecent.le
  have hmatch : matchesExisting (anomalyKey d.2 d.1) d.2 (loadOpenCases s.db.cases) feedTime =
      true :=
    List.any_eq_true.mpr ⟨r, hload, decide_eq_true ⟨htype, hwindow, hown⟩⟩
  rw [(mem_survivors hd).2.1] at hmatch
  cases hmatch

lemma Inv.load (h : Inv s) {feedTime : Instant} {detected : List (Anomaly × Rule)}
    {insertedAt : Anomaly → Instant}
    (hdetected : ∀ d ∈ detected, d.1.rule = d.2.caseType ∧ feedTime ≤ insertedAt d.1) :
    Inv
      { s with
        pending := (survivors (loadOpenCases s.db.cases) feedTime detected []).map
          fun d => ⟨d.1, d.2, insertedAt d.1, closedIds s.db.cases⟩ } where
  kept := h.kept
  types p hp := by
    obtain ⟨d, hd, rfl⟩ := List.mem_map.mp hp
    exact (hdetected d (mem_survivors hd).1).1
  clear p hp r hr htype hkey hplain hrecent := by
    obtain ⟨d, hd, rfl⟩ := List.mem_map.mp hp
    exact mem_closedIds_of_survivors hd (hdetected d (mem_survivors hd).1).2 hr htype hkey hplain
      hrecent
  distinct := by
    rw [List.pairwise_map]
    refine survivors_pairwise.imp fun {d e} hne hrule hkey hplain => hne ?_
    -- Two anomalies of one plain identity have one key of their own.
    change d.2 = e.2 at hrule
    change caseKey d.2 (storedRow d.1) = caseKey e.2 (storedRow e.1) at hkey
    have hsame : PlainIdentity (storedRow e.1) e.2 := by
      rw [← hrule] at hkey ⊢
      exact hplain.of_key hkey
    calc anomalyKey d.2 d.1
        = caseKey d.2 (storedRow d.1) := hplain.caseKey_eq.symm
      _ = caseKey e.2 (storedRow e.1) := hkey
      _ = anomalyKey e.2 e.1 := hsame.caseKey_eq

lemma ClosedBefore.mono {new old : String} (h : ClosedBefore s new old)
    (hsub : s.closedAtLoad ⊆ t.closedAtLoad) : ClosedBefore t new old := by
  obtain ⟨entry, hentry, hold⟩ := h
  exact ⟨entry, hsub hentry, hold⟩

/-- The row that is inserted is far enough from every case of its identity that was open at the
load. -/
lemma Inv.insert (h : Inv s) {p : Pending} {pending : List Pending} {caseId : String}
    {runbookRefs : List String} (hpending : s.pending = p :: pending) :
    Inv
      { db := insertCase p.insertedAt p.anomaly caseId runbookRefs s.db
        now := p.insertedAt
        pending
        closedAtLoad := (caseId, p.closed) :: s.closedAtLoad } := by
  have hp : p ∈ s.pending := hpending ▸ List.mem_cons_self
  have hrest : ∀ q ∈ pending, q ∈ s.pending := fun q hq => hpending ▸ List.mem_cons_of_mem _ hq
  have hdistinct := List.pairwise_cons.mp (hpending ▸ h.distinct)
  have hnew : ∀ rule, ∀ r ∈ s.db.cases.rows,
      Equivalent rule (insertedRow p.insertedAt p.anomaly caseId runbookRefs) r →
      PlainIdentity r rule → |p.insertedAt - r.createdAt| < rule.dedupWindow →
        r.caseId ∈ p.closed := by
    rintro rule r hr ⟨hrow, hr', hkey⟩ hplain hlt
    obtain rfl : rule = p.rule := Rule.caseType_injective (hrow.symm.trans (h.types p hp))
    refine h.clear p hp r hr hr' (hkey.symm.trans (caseKey_insertedRow ..)) hplain ?_
    have hbound := lt_of_le_of_lt (le_abs_self (p.insertedAt - r.createdAt : ℤ)) hlt
    linarith
  refine ⟨?_, fun q hq => h.types q (hrest q hq), fun q hq r hr htype hkey hplain hat => ?_,
    hdistinct.2⟩
  · intro rule r₁ h₁ r₂ h₂ hne heq hplain hlt
    rcases Table.mem_rows_upsert.mp h₁ with rfl | ⟨h₁, -⟩
    · rcases Table.mem_rows_upsert.mp h₂ with rfl | ⟨h₂, -⟩
      · exact absurd rfl hne
      · exact .inl ⟨_, List.mem_cons_self, rfl, hnew rule r₂ h₂ heq (hplain.of_key heq.2.2) hlt⟩
    · rcases Table.mem_rows_upsert.mp h₂ with rfl | ⟨h₂, -⟩
      · rw [abs_sub_comm (α := ℤ)] at hlt
        have hsymm := hnew rule r₁ h₁ ⟨heq.2.1, heq.1, heq.2.2.symm⟩ hplain hlt
        exact .inr ⟨_, List.mem_cons_self, rfl, hsymm⟩
      · exact (h.kept rule r₁ h₁ r₂ h₂ hne heq hplain hlt).imp
          (·.mono (List.subset_cons_self ..)) (·.mono (List.subset_cons_self ..))
  · rcases Table.mem_rows_upsert.mp hr with rfl | ⟨hr, -⟩
    · have hrule : p.rule = q.rule := Rule.caseType_injective ((h.types p hp).symm.trans htype)
      rw [caseKey_insertedRow] at hkey
      refine absurd ?_ (hdistinct.1 q hq hrule (hrule ▸ hkey))
      exact hrule ▸ hplain.of_key (caseKey_insertedRow ..)
    · exact h.clear q (hrest q hq) r hr htype hkey hplain hat

lemma Inv.step {a : Action} (h : Inv s) (hact : act s a = some t) : Inv t := by
  cases a with
  | load feedTime detected insertedAt =>
    simp only [act] at hact
    split_ifs at hact with hload
    obtain rfl := Option.some.inj hact
    exact h.load hload.2
  | insert caseId runbookRefs =>
    simp only [act] at hact
    split at hact
    next p pending hpending =>
      split_ifs at hact with hinsert
      obtain rfl := Option.some.inj hact
      exact h.insert hpending
    next => simp at hact
  | fail =>
    obtain rfl := Option.some.inj hact
    exact ⟨h.kept, by simp, by simp, by simp⟩
  | pull now rec =>
    simp only [act] at hact
    split_ifs at hact with hnow
    obtain ⟨⟨db, matched⟩, happly, rfl⟩ := Option.map_eq_some_iff.mp hact
    exact h.pull (sameIdentities_applyRecord happly)

/-! ### The result -/

/-- In every run of ticks and pulls two cases of one plain identity are created closer together than
the window of their rule only when the one was resolved or closed at the load of the other's
tick. -/
theorem dedup_windows_kept (s : State) (hs : Reached act unguarded init s) :
    KeptUnlessClosed s := by
  have hinv : Inv s := hs.invariant (fun _ h => Inv.of_init h) fun _ _ _ hI _ hact => hI.step hact
  exact hinv.kept

/-! ### A case that is closed -/

def emptyState : State where
  db := { cases := ⟨[], by decide⟩ }
  now := 0
  pending := []

lemma init_emptyState : init emptyState where
  pending := rfl
  windows := by decide

/-- A tick that finds low visibility at one airport; an anomaly is inserted a second later. -/
def weatherTick (feedTime : Instant) : Action :=
  .load feedTime
    ((weatherImpactDetect [{ siteIcao := "KJFK", flightCategory := some .lifr }]).map
      fun anomaly => (anomaly, .weatherImpact))
    fun _ => feedTime + 1000000

/-- Salesforce has closed the first case. -/
def closure : CaseSyncRecord where
  salesforceId := "500000000000001"
  externalId := "CASE-1"
  status := .closed
  severity := none
  summary := none
  severityJustification := none
  runbookRefs := []
  resolvedAt := some 60000000
  systemModstamp := 60000000

/-- The first tick, and the close after it. -/
def closedCase : List Action := [weatherTick 0, .insert "CASE-1" [], .pull 120000000 closure]

/-- The next tick is five minutes after the first. -/
def refiringRun : List Action := closedCase ++ [weatherTick 300000000, .insert "CASE-2" []]

lemma refiringRun_windows : ∀ s ∈ runActions act emptyState refiringRun,
    ¬WindowsKept s.db.cases := by
  decide

/-- Not every run keeps the windows. -/
theorem closed_case_refired : ¬∀ s, Reached act unguarded init s → WindowsKept s.db.cases := by
  intro h
  have hsome : (runActions act emptyState refiringRun).isSome := by decide
  obtain ⟨s, hs, hreached⟩ :=
    (Reached.start init_emptyState).exists_run (guardsHold_unguarded _ _) hsome
  exact refiringRun_windows s hs (h s hreached)

/-- A tick finds the case open, and the one after the close inserts another. -/
def reopeningRun : List Action :=
  [weatherTick 0, .insert "CASE-1" [], weatherTick 300000000, .pull 360000000 closure,
    weatherTick 600000000, .insert "CASE-2" []]

theorem reopeningRun_windows_kept : ∃ s, runActions act emptyState reopeningRun = some s ∧
    s.db.cases.keys = ["CASE-2", "CASE-1"] ∧ KeptUnlessClosed s := by
  have hsome : (runActions act emptyState reopeningRun).isSome := by decide
  obtain ⟨s, hs, hreached⟩ :=
    (Reached.start init_emptyState).exists_run (guardsHold_unguarded _ _) hsome
  have hkeys : ∀ s ∈ runActions act emptyState reopeningRun,
      s.db.cases.keys = ["CASE-2", "CASE-1"] := by decide
  exact ⟨s, hs, hkeys s hs, dedup_windows_kept s hreached⟩

end FleetMonitor.CaseDetector
