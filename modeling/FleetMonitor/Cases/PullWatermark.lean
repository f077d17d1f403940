import FleetMonitor.Cases.Pull
import FleetMonitor.Library.Runs
import Mathlib.Order.MinMax

/-!
# The watermark of the pull

Serial passes of `CaseSyncService.pull_from_sf` against an org whose Cases are modified between
them. The specification remembers every version a Case has had and which versions reached their
local row; the pass itself sees the current versions only.
-/

namespace FleetMonitor

open Library

/-! ### One pass -/

/-- `SalesforceService.default_pull_watermark`: an hour before now (`_FIRST_PULL_LOOKBACK`). -/
def defaultPullWatermark (now : Instant) : Instant := now - 3600000000

/-- `CasePullSummary`. -/
structure CasePullSummary where
  fetched : ℕ
  updated : ℕ
  unmatched : ℕ
  watermark : Option Instant
  deriving DecidableEq, Repr

/-- The variables of the loop of `pull_from_sf`, with the versions that reached a row. -/
structure PullLoop where
  db : CaseDb
  updated : ℕ
  unmatched : ℕ
  maxModstamp : Option Instant
  applied : List SfCase

/-- One turn of the loop. -/
def PullLoop.step (now : Instant) (l : PullLoop) (c : SfCase) : Option PullLoop :=
  (applyRecord now (toSyncRecord c) l.db).map fun (db, matched) =>
    { db
      updated := if matched then l.updated + 1 else l.updated
      unmatched := if matched then l.unmatched else l.unmatched + 1
      maxModstamp := bumpModstamp l.maxModstamp (toSyncRecord c).systemModstamp
      applied := if matched then c :: l.applied else l.applied }

/-- The loop over the fetched records; `none` when the transaction of one of them is rejected. -/
def PullLoop.run (now : Instant) (l : PullLoop) (page : List SfCase) : Option PullLoop :=
  page.foldlM (PullLoop.step now) l

/-- What `pull_from_sf` returns. -/
def PullLoop.summary (l : PullLoop) (page : List SfCase) : CasePullSummary where
  fetched := page.length
  updated := l.updated
  unmatched := l.unmatched
  watermark := l.maxModstamp

variable {now : Instant} {l l' : PullLoop} {page : List SfCase} {c v : SfCase}

/-- The records of two versions name one row if the versions agree on the Case's identity. -/
def SameIdentity (c v : SfCase) : Prop := v.id = c.id → v.afmExternalId = c.afmExternalId

lemma SameIdentity.externalId (h : SameIdentity c v) :
    (toSyncRecord v).salesforceId = (toSyncRecord c).salesforceId →
      (toSyncRecord v).externalId = (toSyncRecord c).externalId :=
  fun hid => congrArg (·.getD "") (h hid)

lemma PullLoop.run_cons : PullLoop.run now l (c :: page) =
    (l.step now c).bind fun l' => PullLoop.run now l' page := by
  simp [PullLoop.run, List.foldlM_cons]

/-- One turn keeps who has a row, and its version is applied if it has one. -/
lemma PullLoop.step_spec (h : l.step now c = some l') :
    (∀ v, SameIdentity c v →
      (HasRow l'.db.cases (toSyncRecord v) ↔ HasRow l.db.cases (toSyncRecord v))) ∧
    (∀ v, v ∈ l'.applied ↔ v ∈ l.applied ∨ v = c ∧ HasRow l.db.cases (toSyncRecord c)) ∧
    (∀ m ∈ l'.maxModstamp, m ∈ l.maxModstamp ∨ m = c.systemModstamp) ∧
    l'.maxModstamp ≠ none := by
  obtain ⟨⟨db, matched⟩, happly, rfl⟩ := Option.map_eq_some_iff.mp h
  refine ⟨fun v hv => hasRow_applyRecord happly hv.externalId, fun v => ?_, ?_, ?_⟩
  · have hmatched := applyRecord_matched happly
    cases matched with
    | true => simpa [hmatched.mp rfl] using or_comm
    | false => simpa using fun _ hrow => absurd (hmatched.mpr hrow) (by simp)
  · intro m hm
    cases hl : l.maxModstamp with
    | none =>
      simp only [bumpModstamp, hl, Option.mem_some] at hm
      exact .inr hm.symm
    | some m' =>
      simp only [bumpModstamp, hl, Option.mem_some] at hm
      rcases max_choice m' (toSyncRecord c).systemModstamp with hmax | hmax
      · exact .inl (by rw [← hm, hmax]; rfl)
      · exact .inr (by rw [← hm, hmax]; rfl)
  · cases l.maxModstamp <;> simp [bumpModstamp]

/-- The loop applies the versions of the page that have a row, and keeps who has one. -/
lemma PullLoop.run_spec (hpage : ∀ c ∈ page, ∀ d ∈ page, SameIdentity c d)
    (h : l.run now page = some l') :
    (∀ v, (∀ c ∈ page, SameIdentity c v) →
      (HasRow l'.db.cases (toSyncRecord v) ↔ HasRow l.db.cases (toSyncRecord v))) ∧
    (∀ v, v ∈ l'.applied ↔ v ∈ l.applied ∨ v ∈ page ∧ HasRow l.db.cases (toSyncRecord v)) ∧
    (∀ m ∈ l'.maxModstamp, m ∈ l.maxModstamp ∨ ∃ c ∈ page, m = c.systemModstamp) ∧
    (l'.maxModstamp = none → page = []) := by
  induction page generalizing l with
  | nil =>
    have : l = l' := by simpa [PullLoop.run] using h
    subst this
    simp
  | cons c page ih =>
    rw [PullLoop.run_cons, Option.bind_eq_some_iff] at h
    obtain ⟨l₁, hstep, hrun⟩ := h
    obtain ⟨hrow, happ, hmax, hne⟩ := PullLoop.step_spec hstep
    obtain ⟨hrow', happ', hmax', hnone⟩ := ih
      (fun x hx y hy => hpage x (List.mem_cons_of_mem _ hx) y (List.mem_cons_of_mem _ hy)) hrun
    refine ⟨fun v hv => ?_, fun v => ?_, fun m hm => ?_, fun hn => ?_⟩
    · exact (hrow' v fun x hx => hv x (List.mem_cons_of_mem _ hx)).trans
        (hrow v (hv c List.mem_cons_self))
    · rw [happ', happ, List.mem_cons]
      constructor
      · rintro ((hv | ⟨rfl, hv⟩) | ⟨hv, hv'⟩)
        · exact .inl hv
        · exact .inr ⟨.inl rfl, hv⟩
        · have := hrow v (hpage c List.mem_cons_self v (List.mem_cons_of_mem _ hv))
          exact .inr ⟨.inr hv, this.mp hv'⟩
      · rintro (hv | ⟨rfl | hv, hv'⟩)
        · exact .inl (.inl hv)
        · exact .inl (.inr ⟨rfl, hv'⟩)
        · have := hrow v (hpage c List.mem_cons_self v (List.mem_cons_of_mem _ hv))
          exact .inr ⟨hv, this.mpr hv'⟩
    · rcases hmax' m hm with hm' | ⟨x, hx, rfl⟩
      · rcases hmax m hm' with hm'' | rfl
        · exact .inl hm''
        · exact .inr ⟨c, List.mem_cons_self, rfl⟩
      · exact .inr ⟨x, List.mem_cons_of_mem _ hx, rfl⟩
    · obtain rfl := hnone hn
      simp only [PullLoop.run, List.foldlM_nil, Option.pure_def, Option.some.injEq] at hrun
      exact absurd (hrun ▸ hn) hne

/-! ### Runs -/

namespace SerialPull

/-- The two systems, with the history the specification speaks about. -/
structure State where
  db : CaseDb
  watermark : Option Instant
  org : SfOrg
  past : List SfCase
  applied : List SfCase

inductive Action where
  /-- A Case is created or modified; `c` is its new version. -/
  | modify (c : SfCase)
  /-- A pass at `now` whose query answers `page`; with `stop = some k` it fails after `k` records. -/
  | pull (now : Instant) (limit : ℕ) (page : List SfCase) (stop : Option ℕ)
  deriving DecidableEq, Repr

/-- The watermark a pass starts from: `CaseSyncService._read_watermark`. -/
def State.since (s : State) (now : Instant) : Instant := s.watermark.getD (defaultPullWatermark now)

/-- The revision a new version of a Case gets. -/
def nextRevision (org : SfOrg) (id : String) : ℕ :=
  match org.lookup id with
  | some c => c.revision + 1
  | none   => 0

/-- The loop of a pass, before its first turn. -/
def State.loop (s : State) : PullLoop := ⟨s.db, 0, 0, none, s.applied⟩

/-- The state a loop leaves behind. -/
def State.after (s : State) (l : PullLoop) (watermark : Option Instant) : State :=
  { s with db := l.db, applied := l.applied, watermark }

variable (recordType : String)

def act (s : State) : Action → Option State
  | .modify c =>
    if c.revision = nextRevision s.org c.id then
      some { s with org := s.org.upsert c, past := c :: s.past }
    else none
  | .pull now limit page stop =>
    if 1 ≤ limit ∧ IsPullPage recordType s.org (s.since now) limit page then
      match stop with
      | none => (s.loop.run now page).map fun l => s.after l (l.maxModstamp.or s.watermark)
      | some k => (s.loop.run now (page.take k)).map fun l => s.after l s.watermark
    else none

/-- No pass has run and no Case has been modified yet. -/
def init (s : State) : Prop :=
  s.watermark = none ∧ s.applied = [] ∧ s.past = s.org.rows

/-- The version, or a later one of its Case, reached its local row. -/
def Applied (s : State) (v : SfCase) : Prop :=
  ∃ a ∈ s.applied, a.id = v.id ∧ v.revision ≤ a.revision

/-- The version has a local row that it has not reached. -/
def Missing (s : State) (v : SfCase) : Prop :=
  v.recordType = recordType ∧ HasRow s.db.cases (toSyncRecord v) ∧ ¬ Applied s v

instance (s : State) (v : SfCase) : Decidable (Applied s v) :=
  inferInstanceAs (Decidable (∃ a ∈ s.applied, a.id = v.id ∧ v.revision ≤ a.revision))

instance (s : State) (v : SfCase) : Decidable (Missing recordType s v) :=
  inferInstanceAs (Decidable (_ ∧ _ ∧ ¬ _))

/-- Nothing stamped up to the watermark is missing. -/
def Caught (s : State) : Prop :=
  ∀ v ∈ s.past, ∀ w ∈ s.watermark, v.systemModstamp ≤ w → ¬ Missing recordType s v

/-- The pass brings a version that was not applied before, or there is none left. -/
def Progress (s : State) (now : Instant) (page : List SfCase) : Prop :=
  (∃ c ∈ page, ¬ Applied s c) ∨ ∀ c ∈ pullWindow recordType s.org (s.since now), Applied s c

/-! ### The condition on a step -/

/-- A modification leaves the Case's identity alone and is not stamped at or before the whole second
of the watermark. -/
def ModifyOk (s : State) (c : SfCase) : Prop :=
  (∀ old ∈ s.org.lookup c.id, c.afmExternalId = old.afmExternalId ∧ c.recordType = old.recordType) ∧
  (c.recordType = recordType → HasRow s.db.cases (toSyncRecord c) →
    ∀ w ∈ s.watermark, floorSecond w < c.systemModstamp)

/-- The first pass looks back far enough: no Case with something missing was last modified before
the look-back. -/
def LookbackOk (s : State) (now : Instant) : Prop :=
  s.watermark = none → ∀ v ∈ s.past, Missing recordType s v → ∀ c ∈ s.org.lookup v.id,
    floorSecond (defaultPullWatermark now) < c.systemModstamp

/-- No Case left off the page has something missing that is stamped at or before a row of the
page. -/
def BoundaryOk (s : State) (now : Instant) (page : List SfCase) : Prop :=
  ∀ c ∈ pullWindow recordType s.org (s.since now), c ∉ page → ∀ v ∈ s.past, v.id = c.id →
    Missing recordType s v → ∀ p ∈ page, p.systemModstamp < v.systemModstamp

/-- While something is left to apply, fewer than `limit` applied Cases come before it. -/
def RoomOk (s : State) (now : Instant) (limit : ℕ) : Prop :=
  (∃ c ∈ pullWindow recordType s.org (s.since now), ¬ Applied s c) →
    ∃ c ∈ pullWindow recordType s.org (s.since now), ¬ Applied s c ∧
      ((pullWindow recordType s.org (s.since now)).filter
        (fun a => Applied s a ∧ a.systemModstamp ≤ c.systemModstamp)).length < limit

/-- The condition under which a step keeps the pull's promise. -/
def guard (s : State) : Action → Prop
  | .modify c => ModifyOk recordType s c
  | .pull _ _ _ (some _) => True
  | .pull now limit page none =>
    LookbackOk recordType s now ∧ BoundaryOk recordType s now page ∧ RoomOk recordType s now limit

/-! ### The invariant -/

variable {recordType : String} {s t : State} {limit : ℕ} {stop : Option ℕ}

/-- What holds between the passes: the versions known to the specification are those of the org's
Cases, and a Case with something missing was last modified after the second of the watermark. -/
structure Inv (recordType : String) (s : State) : Prop where
  current : ∀ v ∈ s.past, ∃ c, s.org.lookup v.id = some c ∧ v.revision ≤ c.revision ∧
    c.afmExternalId = v.afmExternalId ∧ c.recordType = v.recordType
  recorded : ∀ c ∈ s.org.rows, c ∈ s.past
  ahead : ∀ v ∈ s.past, Missing recordType s v → ∀ c ∈ s.org.lookup v.id, ∀ w ∈ s.watermark,
    floorSecond w < c.systemModstamp

lemma Inv.of_init (h : init s) : Inv recordType s where
  current v hv := by
    rw [h.2.2] at hv
    exact ⟨v, Table.lookup_of_mem hv, le_rfl, rfl, rfl⟩
  recorded c hc := h.2.2 ▸ hc
  ahead v _ _ c _ w hw := by simp [h.1] at hw

/-- The Cases of the org agree with every version on the Case's identity. -/
lemma Inv.sameIdentity (hI : Inv recordType s) (hc : c ∈ s.org.rows) (hv : v ∈ s.past) :
    SameIdentity c v := by
  intro hid
  obtain ⟨c', hc', -, hext, -⟩ := hI.current v hv
  rw [hid, Table.lookup_of_mem hc, Option.some.injEq] at hc'
  exact hc' ▸ hext.symm

lemma hasRow_congr {cases : CaseTable} (hid : v.id = c.id)
    (hext : v.afmExternalId = c.afmExternalId) (h : HasRow cases (toSyncRecord v)) :
    HasRow cases (toSyncRecord c) := by
  obtain ⟨row, hrow, hmatch⟩ := h
  exact ⟨row, hrow, (recordMatches_congr hid hext).mp hmatch⟩

/-- The current version of a Case with something missing is missing too. -/
lemma Inv.missing_current (hI : Inv recordType s) (hv : v ∈ s.past) (hm : Missing recordType s v) :
    ∃ c ∈ s.org.rows, c.id = v.id ∧ v.revision ≤ c.revision ∧ Missing recordType s c := by
  obtain ⟨c, hc, hrev, hext, hrt⟩ := hI.current v hv
  have hid : c.id = v.id := Table.key_of_lookup hc
  refine ⟨c, Table.mem_rows_of_lookup hc, hid, hrev, hrt.trans hm.1,
    hasRow_congr hid.symm hext.symm hm.2.1, ?_⟩
  rintro ⟨a, ha, haid, harev⟩
  exact hm.2.2 ⟨a, ha, haid.trans hid, hrev.trans harev⟩

/-- What is missing after a loop was missing before it, and its Case was not among the records. -/
lemma Inv.missing_after (hI : Inv recordType s) (hpage : ∀ c ∈ page, c ∈ s.org.rows) {l : PullLoop}
    (hrun : s.loop.run now page = some l) {w : Option Instant} (hv : v ∈ s.past)
    (hm : Missing recordType (s.after l w) v) :
    Missing recordType s v ∧ ∀ c ∈ page, c.id ≠ v.id := by
  obtain ⟨hrow, happ, -⟩ := PullLoop.run_spec
    (fun c hc d hd => hI.sameIdentity (hpage c hc) (hI.recorded d (hpage d hd))) hrun
  have hms : Missing recordType s v := by
    refine ⟨hm.1, (hrow v fun c hc => hI.sameIdentity (hpage c hc) hv).mp hm.2.1, ?_⟩
    rintro ⟨a, ha, haid, harev⟩
    exact hm.2.2 ⟨a, (happ a).mpr (.inl ha), haid, harev⟩
  refine ⟨hms, fun c hc hid => ?_⟩
  obtain ⟨c', hc', hid', hrev, hmc⟩ := hI.missing_current hv hms
  have hcc : c' = c :=
    Table.row_eq_of_key_eq hc' (hpage c hc) (hid'.trans hid.symm)
  subst hcc
  exact hm.2.2 ⟨c', (happ c').mpr (.inr ⟨hc, hmc.2.1⟩), hid, hrev⟩

/-! ### Steps -/

lemma Inv.modify (hI : Inv recordType s) (hok : ModifyOk recordType s c)
    (hrev : c.revision = nextRevision s.org c.id) :
    Inv recordType { s with org := s.org.upsert c, past := c :: s.past } where
  current v hv := by
    by_cases hid : c.id = v.id
    · refine ⟨c, by rw [Table.lookup_upsert, if_pos hid], ?_⟩
      rcases List.mem_cons.mp hv with rfl | hv
      · exact ⟨le_rfl, rfl, rfl⟩
      · obtain ⟨old, hold, hle, hext, hrt⟩ := hI.current v hv
        rw [← hid] at hold
        obtain ⟨hext', hrt'⟩ := hok.1 old hold
        refine ⟨?_, hext'.trans hext, hrt'.trans hrt⟩
        rw [hrev, nextRevision, hold]
        exact hle.trans (Nat.le_succ _)
    · rcases List.mem_cons.mp hv with rfl | hv
      · exact absurd rfl hid
      · obtain ⟨old, hold, hrest⟩ := hI.current v hv
        exact ⟨old, by rw [Table.lookup_upsert, if_neg hid, hold], hrest⟩
  recorded x hx := by
    rcases Table.mem_rows_upsert.mp hx with rfl | ⟨hx, -⟩
    · exact List.mem_cons_self
    · exact List.mem_cons_of_mem _ (hI.recorded x hx)
  ahead v hv hm x hx w hw := by
    rw [Option.mem_def, Table.lookup_upsert] at hx
    split_ifs at hx with hid
    · obtain rfl := Option.some.inj hx
      rcases List.mem_cons.mp hv with rfl | hv
      · exact hok.2 hm.1 hm.2.1 w hw
      · obtain ⟨old, hold, -, hext, hrt⟩ := hI.current v hv
        obtain ⟨hext', hrt'⟩ := hok.1 old (hid ▸ hold)
        exact hok.2 (hrt'.trans (hrt.trans hm.1))
          (hasRow_congr hid.symm (hext'.trans hext).symm hm.2.1) w hw
    · rcases List.mem_cons.mp hv with rfl | hv
      · exact absurd rfl hid
      · exact hI.ahead v hv hm x hx w hw

/-- A pass that fails half-way leaves the watermark where it was. -/
lemma Inv.failed (hI : Inv recordType s) (hpage : ∀ c ∈ page, c ∈ s.org.rows) {l : PullLoop}
    (hrun : s.loop.run now page = some l) : Inv recordType (s.after l s.watermark) where
  current := hI.current
  recorded := hI.recorded
  ahead v hv hm := hI.ahead v hv (hI.missing_after hpage hrun hv hm).1

/-- A Case with something missing is in the window of the next pass. -/
lemma Inv.mem_window (hI : Inv recordType s) (hlook : LookbackOk recordType s now)
    (hc : c ∈ s.org.rows) (hm : Missing recordType s c) :
    c ∈ pullWindow recordType s.org (s.since now) := by
  refine mem_pullWindow.mpr ⟨hc, hm.1, ?_⟩
  have hpast := hI.recorded c hc
  cases hw : s.watermark with
  | none =>
    rw [State.since, hw, Option.getD_none]
    exact hlook hw c hpast hm c (Table.lookup_of_mem hc)
  | some w =>
    rw [State.since, hw, Option.getD_some]
    exact hI.ahead c hpast hm c (Table.lookup_of_mem hc) w hw

/-- While something is missing after a pass, the new watermark is the stamp of a row of its page and
what is missing is stamped later. -/
lemma Inv.missing_beyond (hI : Inv recordType s) (hlook : LookbackOk recordType s now)
    (hbound : BoundaryOk recordType s now page) (hlimit : 1 ≤ limit)
    (hpage : IsPullPage recordType s.org (s.since now) limit page) {l : PullLoop}
    (hrun : s.loop.run now page = some l) (hv : v ∈ s.past)
    (hm : Missing recordType (s.after l (l.maxModstamp.or s.watermark)) v) :
    ∀ w ∈ l.maxModstamp.or s.watermark,
      w < v.systemModstamp ∧ ∀ c ∈ s.org.lookup v.id, w < c.systemModstamp := by
  have hrows : ∀ c ∈ page, c ∈ s.org.rows := fun c hc => (mem_pullWindow.mp (hpage.mem c hc)).1
  obtain ⟨hms, hnot⟩ := hI.missing_after hrows hrun hv hm
  obtain ⟨c, hc, hid, -, hmc⟩ := hI.missing_current hv hms
  have hwin := hI.mem_window hlook hc hmc
  have hoff : c ∉ page := fun h => hnot c h hid
  obtain ⟨-, -, hmax, hnone⟩ := PullLoop.run_spec
    (fun c hc d hd => hI.sameIdentity (hrows c hc) (hI.recorded d (hrows d hd))) hrun
  intro w hw
  have hstamp : ∃ p ∈ page, w = p.systemModstamp := by
    cases hl : l.maxModstamp with
    | some m =>
      rw [hl, Option.some_or, Option.mem_some] at hw
      rcases hmax m hl with hm' | hm'
      · simp [State.loop] at hm'
      · exact hw ▸ hm'
    | none =>
      -- an empty page of a query with a positive limit answers an empty window
      have hlen := hpage.length
      rw [hnone hl, List.length_nil] at hlen
      have hpos := List.length_pos_of_mem hwin
      omega
  obtain ⟨p, hp, rfl⟩ := hstamp
  refine ⟨hbound c hwin hoff v hv hid.symm hms p hp, fun c' hc' => ?_⟩
  rw [← hid, Table.lookup_of_mem hc, Option.mem_some] at hc'
  subst hc'
  exact hbound c hwin hoff c (hI.recorded c hc) rfl hmc p hp

/-- A full page with too few applied Cases before the missing ones brings one of these. -/
lemma progress_of_roomOk (hroom : RoomOk recordType s now limit)
    (hpage : IsPullPage recordType s.org (s.since now) limit page) (hfull : page.length = limit) :
    Progress recordType s now page := by
  by_cases hleft : ∃ c ∈ pullWindow recordType s.org (s.since now), ¬ Applied s c
  · obtain ⟨c, hc, hnot, hfew⟩ := hroom hleft
    by_contra hno
    simp only [Progress, not_or, not_exists, not_and, not_not] at hno
    have hoff : c ∉ page := fun h => hnot (hno.1 c h)
    have hsub : ∀ a ∈ page, a ∈ (pullWindow recordType s.org (s.since now)).filter
        (fun a => Applied s a ∧ a.systemModstamp ≤ c.systemModstamp) := by
      intro a ha
      rw [List.mem_filter, decide_eq_true_eq]
      exact ⟨hpage.mem a ha, hno.1 a ha, hpage.first a ha c hc hoff⟩
    have hle := (List.subperm_of_subset hpage.nodup hsub).length_le
    omega
  · right
    intro c hc
    by_contra hnot
    exact hleft ⟨c, hc, hnot⟩

/-- What the steps of the system do. -/
inductive StepRule (recordType : String) (s : State) : Action → State → Prop where
  | modify (c : SfCase) (hrev : c.revision = nextRevision s.org c.id) :
      StepRule recordType s (.modify c) { s with org := s.org.upsert c, past := c :: s.past }
  | completed (now : Instant) (limit : ℕ) (page : List SfCase) (l : PullLoop) (hlimit : 1 ≤ limit)
      (hpage : IsPullPage recordType s.org (s.since now) limit page)
      (hrun : s.loop.run now page = some l) :
      StepRule recordType s (.pull now limit page none) (s.after l (l.maxModstamp.or s.watermark))
  | failed (now : Instant) (limit : ℕ) (page : List SfCase) (k : ℕ) (l : PullLoop)
      (hpage : IsPullPage recordType s.org (s.since now) limit page)
      (hrun : s.loop.run now (page.take k) = some l) :
      StepRule recordType s (.pull now limit page (some k)) (s.after l s.watermark)

lemma StepRule.of_act {a : Action} (h : act recordType s a = some t) :
    StepRule recordType s a t := by
  cases a with
  | modify c =>
    simp only [act] at h
    split_ifs at h with hrev
    exact Option.some.inj h ▸ .modify c hrev
  | pull now limit page stop =>
    simp only [act] at h
    split_ifs at h with hpage
    cases stop with
    | none =>
      obtain ⟨l, hrun, rfl⟩ := Option.map_eq_some_iff.mp h
      exact .completed now limit page l hpage.1 hpage.2 hrun
    | some k =>
      obtain ⟨l, hrun, rfl⟩ := Option.map_eq_some_iff.mp h
      exact .failed now limit page k l hpage.2 hrun

lemma Inv.step {a : Action} (hI : Inv recordType s) (hg : guard recordType s a)
    (h : act recordType s a = some t) : Inv recordType t := by
  cases StepRule.of_act h with
  | modify c hrev => exact hI.modify hg hrev
  | failed now limit page k l hpage hrun =>
    exact hI.failed (fun c hc => (mem_pullWindow.mp
      (hpage.mem c (List.mem_of_mem_take hc))).1) hrun
  | completed now limit page l hlimit hpage hrun =>
    exact {
      current := hI.current
      recorded := hI.recorded
      ahead := fun v hv hm c hc w hw => (floorSecond_le w).trans_lt
        ((hI.missing_beyond hg.1 hg.2.1 hlimit hpage hrun hv hm w hw).2 c hc) }

lemma inv_of_reached (h : Reached (act recordType) (guard recordType) init s) :
    Inv recordType s :=
  h.invariant (fun _ => Inv.of_init) fun _ _ _ hI hg ha => hI.step hg ha

/-- In a run whose steps meet the condition, a pass that completes leaves nothing stamped up to the
watermark missing, and a full page makes progress. -/
theorem pull_skips_nothing (recordType : String) (s t : State) (now : Instant) (limit : ℕ)
    (page : List SfCase) (hs : Reached (act recordType) (guard recordType) init s)
    (hg : guard recordType s (.pull now limit page none))
    (ht : act recordType s (.pull now limit page none) = some t) :
    Caught recordType t ∧ (page.length = limit → Progress recordType s now page) := by
  have hI := inv_of_reached hs
  cases StepRule.of_act ht with
  | completed _ _ _ l hlimit hpage hrun =>
    refine ⟨fun v hv w hw hle hm => ?_, progress_of_roomOk hg.2.2 hpage⟩
    have := (hI.missing_beyond hg.1 hg.2.1 hlimit hpage hrun hv hm w hw).1
    exact absurd hle (not_le.mpr this)

/-! ### Where the condition fails -/

instance (recordType : String) (s : State) : Decidable (Caught recordType s) :=
  inferInstanceAs (Decidable (∀ v ∈ s.past, ∀ w ∈ s.watermark, _ ≤ w → ¬ _))

instance (recordType : String) (s : State) (now : Instant) (page : List SfCase) :
    Decidable (Progress recordType s now page) :=
  inferInstanceAs (Decidable (_ ∨ _))

/-- Three local cases whose Salesforce Cases have the given stamps; nothing was pulled yet. -/
def startOf (a b c : Instant) : State where
  db := { cases := ⟨[sampleCase "CASE-1" 0, sampleCase "CASE-2" 0, sampleCase "CASE-3" 0],
    by decide⟩ }
  watermark := none
  org := ⟨[sampleSfCase "5001" "CASE-1" a, sampleSfCase "5002" "CASE-2" b,
    sampleSfCase "5003" "CASE-3" c], by simp [sampleSfCase]⟩
  past := [sampleSfCase "5001" "CASE-1" a, sampleSfCase "5002" "CASE-2" b,
    sampleSfCase "5003" "CASE-3" c]
  applied := []

/-- Three Cases share one second and a page holds two: the third is left behind the watermark. -/
theorem pull_loses_tied_case : ¬ ∀ (recordType : String) (s t : State) (now : Instant) (limit : ℕ)
    (page : List SfCase), Reached (act recordType) unguarded init s →
    act recordType s (.pull now limit page none) = some t →
    Caught recordType t ∧ (page.length = limit → Progress recordType s now page) := by
  intro h
  let s := startOf 10000000 10000000 10000000
  have hs : Reached (act "Fleet_Operations") unguarded init s := .start ⟨rfl, rfl, rfl⟩
  have hrun := h "Fleet_Operations" s _ 20000000 2
    [sampleSfCase "5001" "CASE-1" 10000000, sampleSfCase "5002" "CASE-2" 10000000] hs rfl
  revert hrun
  decide

/-- The third Case stays lost: no later query selects it. -/
example : ∃ t, runActions (act "Fleet_Operations")
      (startOf 10000000 10000000 10000000)
      [.pull 20000000 2
        [sampleSfCase "5001" "CASE-1" 10000000, sampleSfCase "5002" "CASE-2" 10000000] none,
       .pull 30000000 2 [] none] = some t ∧
    ¬ Caught "Fleet_Operations" t ∧ pullWindow "Fleet_Operations" t.org (t.since 40000000) = [] :=
  ⟨_, rfl, by decide, by decide⟩

/-- Two Cases of one second fill a page of two, so the literal of that second reads them again and
again while the third Case waits. -/
example : ∃ s, runActions (act "Fleet_Operations")
      (startOf 10200000 10300000 30000000)
      [.pull 40000000 2
        [sampleSfCase "5001" "CASE-1" 10200000, sampleSfCase "5002" "CASE-2" 10300000] none] =
      some s ∧
    (act "Fleet_Operations" s (.pull 50000000 2
      [sampleSfCase "5001" "CASE-1" 10200000, sampleSfCase "5002" "CASE-2" 10300000] none)).isSome ∧
    ¬ Progress "Fleet_Operations" s 50000000
      [sampleSfCase "5001" "CASE-1" 10200000, sampleSfCase "5002" "CASE-2" 10300000] :=
  ⟨_, rfl, by decide, by decide⟩

instance (recordType : String) (s : State) (a : Action) : Decidable (guard recordType s a) :=
  match a with
  | .modify c => inferInstanceAs (Decidable (
      (∀ old ∈ s.org.lookup c.id, _ ∧ _) ∧ (_ → _ → ∀ w ∈ s.watermark, _)))
  | .pull _ _ _ (some _) => inferInstanceAs (Decidable True)
  | .pull now limit page none => inferInstanceAs (Decidable (
      (s.watermark = none → ∀ v ∈ s.past, _ → ∀ c ∈ s.org.lookup v.id, _ < c.systemModstamp) ∧
      (∀ c ∈ pullWindow recordType s.org (s.since now), c ∉ page → ∀ v ∈ s.past, v.id = c.id →
        _ → ∀ p ∈ page, p.systemModstamp < v.systemModstamp) ∧
      ((∃ c ∈ pullWindow recordType s.org (s.since now), ¬ Applied s c) →
        ∃ c ∈ pullWindow recordType s.org (s.since now), ¬ Applied s c ∧ _ < limit)))

/-- The second version of the first Case. -/
def modifiedCase : SfCase := { sampleSfCase "5001" "CASE-1" 50000000 with revision := 1 }

/-- A pass over the first two of three Cases with stamps of their own, then a modification. -/
def distinctRun : List Action :=
  [.pull 40000000 2
    [sampleSfCase "5001" "CASE-1" 10000000, sampleSfCase "5002" "CASE-2" 20000000] none,
   .modify modifiedCase]

/-- The pass that follows. -/
def distinctPull : Action :=
  .pull 60000000 2 [sampleSfCase "5003" "CASE-3" 30000000, modifiedCase] none

theorem pull_skips_nothing_distinct : ∃ s t,
    runActions (act "Fleet_Operations") (startOf 10000000 20000000 30000000) distinctRun = some s ∧
    act "Fleet_Operations" s distinctPull = some t ∧ Caught "Fleet_Operations" t ∧
    Progress "Fleet_Operations" s 60000000
      [sampleSfCase "5003" "CASE-3" 30000000, modifiedCase] := by
  have hstart : init (startOf 10000000 20000000 30000000) := ⟨rfl, rfl, rfl⟩
  have hguards : GuardsHold (act "Fleet_Operations") (guard "Fleet_Operations")
      (startOf 10000000 20000000 30000000) (distinctRun ++ [distinctPull]) := by decide
  have hsome : (runActions (act "Fleet_Operations") (startOf 10000000 20000000 30000000)
      (distinctRun ++ [distinctPull])).isSome := by decide
  obtain ⟨s, t, hs, hg, hrun, ht⟩ := Reached.exists_split (.start hstart) hguards hsome
  rw [runActions_singleton] at ht
  have hpull := pull_skips_nothing "Fleet_Operations" s t 60000000 2 _ hs hg.1 ht
  exact ⟨s, t, hrun, ht, hpull.1, hpull.2 rfl⟩

end SerialPull

end FleetMonitor
