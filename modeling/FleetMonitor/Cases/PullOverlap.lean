import FleetMonitor.Cases.PullWatermark

/-!
# Overlapping passes of the pull

The pull takes no lock, so the steps of several passes interleave: a pass reads the watermark,
fetches a page, applies its records one transaction at a time and writes the watermark. An apply
does not look at modstamps, so a pass that fetched early can put an old version over a newer one.
-/

namespace FleetMonitor.OverlappingPull

open Library

/-! ### The passes -/

/-- Where a pass stands. -/
inductive PassState where
  | idle
  | reading (since : Instant)
  | applying (rest : List SfCase) (maxModstamp : Option Instant)

/-- The watermark a pass has read. -/
def PassState.since? : PassState → Option Instant
  | .reading since => some since
  | _              => none

/-- The record a pass applies next. -/
def PassState.next? : PassState → Option SfCase
  | .applying (c :: _) _ => some c
  | _                    => none

/-- The two systems and the passes in flight. `shown` and `horizon` belong to the specification:
the revision of a Case that its row shows, and the latest stamp that has occurred. -/
structure State where
  db : CaseDb
  watermark : Option Instant
  org : SfOrg
  passes : ℕ → PassState
  shown : String → Option ℕ
  horizon : Instant

inductive Action where
  | edit (c : SfCase)
  | read (p : ℕ) (now : Instant)
  | fetch (p : ℕ) (limit : ℕ) (page : List SfCase)
  | apply (p : ℕ) (now : Instant)
  | write (p : ℕ)
  /-- The pass ends with an exception. -/
  | fail (p : ℕ)

/-- The watermark a pass with these records still ahead of it will write. -/
def finalModstamp : Option Instant → List SfCase → Option Instant :=
  List.foldl fun m c => bumpModstamp m (toSyncRecord c).systemModstamp

def State.setPass (s : State) (p : ℕ) (ps : PassState) : State :=
  { s with passes := Function.update s.passes p ps }

/-- The state after the transaction of an apply. -/
def State.applied (s : State) (p : ℕ) (rest : List SfCase) (maxModstamp : Option Instant)
    (v : SfCase)
    (db : CaseDb) (matched : Bool) : State :=
  { s.setPass p (.applying rest (bumpModstamp maxModstamp (toSyncRecord v).systemModstamp)) with
    db
    shown := if matched then Function.update s.shown v.id (some v.revision) else s.shown }

variable (recordType : String)

def act (s : State) : Action → Option State
  | .edit c =>
    match s.org.lookup c.id with
    | none => none
    | some old =>
      if c.revision = old.revision + 1 then
        some { s with org := s.org.upsert c, horizon := max s.horizon c.systemModstamp }
      else none
  | .read p now =>
    match s.passes p with
    | .idle => some
        { s.setPass p (.reading (s.watermark.getD (defaultPullWatermark now))) with
          horizon := max s.horizon (s.watermark.getD (defaultPullWatermark now)) }
    | _ => none
  | .fetch p limit page =>
    match s.passes p with
    | .reading since =>
      if 1 ≤ limit ∧ IsPullPage recordType s.org since limit page then
        some (s.setPass p (.applying page none))
      else none
    | _ => none
  | .apply p now =>
    match s.passes p with
    | .applying (c :: rest) maxModstamp =>
      (applyRecord now (toSyncRecord c) s.db).map fun (db, matched) =>
        s.applied p rest maxModstamp c db matched
    | _ => none
  | .write p =>
    match s.passes p with
    | .applying [] maxModstamp =>
      some { s.setPass p .idle with watermark := maxModstamp.or s.watermark }
    | _ => none
  | .fail p => some (s.setPass p .idle)

/-! ### Rows and Cases -/

/-- The Case is mirrored: of the record type, with a local row. -/
def Local (s : State) (c : SfCase) : Prop :=
  c.recordType = recordType ∧ HasRow s.db.cases (toSyncRecord c)

/-- The row shows the current version of the Case. -/
def Settled (s : State) (c : SfCase) : Prop := s.shown c.id = some c.revision

/-- Rows and Cases belong together one to one. -/
structure Linked (cases : CaseTable) (org : SfOrg) : Prop where
  row_unique : ∀ c ∈ org.rows, ∀ r ∈ cases.rows, ∀ r' ∈ cases.rows,
    recordMatches (toSyncRecord c) r → recordMatches (toSyncRecord c) r' → r = r'
  case_unique : ∀ r ∈ cases.rows, ∀ c ∈ org.rows, ∀ d ∈ org.rows,
    recordMatches (toSyncRecord c) r → recordMatches (toSyncRecord d) r → c = d

/-- The Cases stamped up to `t` are settled. -/
def SettledTo (s : State) (t : Instant) : Prop :=
  ∀ c ∈ s.org.rows, Local recordType s c → c.systemModstamp ≤ t → Settled s c

/-- Every local row equals the current version of its Case. -/
def Converged (s : State) : Prop :=
  ∀ c ∈ s.org.rows, c.recordType = recordType → ∀ row ∈ s.db.cases.rows,
    recordMatches (toSyncRecord c) row → Mirrors row (toSyncRecord c)

/-- No pass is in flight, and the rows show what the watermark promises. -/
structure init (s : State) : Prop where
  idle : ∀ p, s.passes p = .idle
  linked : Linked s.db.cases s.org
  shown_le : ∀ c ∈ s.org.rows, ∀ r ∈ s.shown c.id, r ≤ c.revision
  mirrors : ∀ c ∈ s.org.rows, Settled s c → ∀ row ∈ s.db.cases.rows,
    recordMatches (toSyncRecord c) row → Mirrors row (toSyncRecord c)
  settled : ∀ w ∈ s.watermark, SettledTo recordType s w
  horizon : (∀ c ∈ s.org.rows, c.systemModstamp ≤ s.horizon) ∧ ∀ w ∈ s.watermark, w ≤ s.horizon

/-! ### The condition on a step -/

/-- The condition under which a step keeps overlapping passes harmless. -/
def guard (s : State) : Action → Prop
  -- stamps increase, and an edit leaves the Case's identity alone
  | .edit c => s.horizon < c.systemModstamp ∧ ∀ old ∈ s.org.lookup c.id,
      c.afmExternalId = old.afmExternalId ∧ c.recordType = old.recordType
  -- a first pass looks back far enough
  | .read _ now => s.watermark = none → ∀ c ∈ s.org.rows, Local recordType s c → ¬ Settled s c →
      floorSecond (defaultPullWatermark now) < c.systemModstamp
  -- the window fits the limit
  | .fetch p limit _ => ∀ since ∈ (s.passes p).since?,
      (pullWindow recordType s.org since).length ≤ limit
  -- the record is not older than what the row shows
  | .apply p _ => ∀ c ∈ (s.passes p).next?, ∀ r ∈ s.shown c.id, r ≤ c.revision
  | .write _ => True
  | .fail _ => True

/-! ### The invariant -/

variable {recordType} {s t : State} {p q : ℕ} {c v : SfCase}

/-- What a pass in flight may rely on. -/
def PassInv (recordType : String) (s : State) : PassState → Prop
  | .idle => True
  | .reading since => since ≤ s.horizon ∧ SettledTo recordType s (floorSecond since)
  | .applying rest maxModstamp =>
    (∀ v ∈ rest, ∃ c ∈ s.org.rows, c.id = v.id ∧ c.afmExternalId = v.afmExternalId ∧
      v.revision ≤ c.revision ∧ (v.revision = c.revision → v = c)) ∧
    (∀ m ∈ finalModstamp maxModstamp rest, m ≤ s.horizon) ∧
    ∀ c ∈ s.org.rows, Local recordType s c → (∃ m ∈ finalModstamp maxModstamp rest,
      c.systemModstamp ≤ m) → Settled s c ∨ c ∈ rest

structure Inv (recordType : String) (s : State) : Prop where
  linked : Linked s.db.cases s.org
  shown_le : ∀ c ∈ s.org.rows, ∀ r ∈ s.shown c.id, r ≤ c.revision
  mirrors : ∀ c ∈ s.org.rows, Settled s c → ∀ row ∈ s.db.cases.rows,
    recordMatches (toSyncRecord c) row → Mirrors row (toSyncRecord c)
  stamps : ∀ c ∈ s.org.rows, c.systemModstamp ≤ s.horizon
  watermark : ∀ w ∈ s.watermark, w ≤ s.horizon ∧ SettledTo recordType s (floorSecond w)
  passes : ∀ p, PassInv recordType s (s.passes p)

lemma Inv.of_init (h : init recordType s) : Inv recordType s where
  linked := h.linked
  shown_le := h.shown_le
  mirrors := h.mirrors
  stamps := h.horizon.1
  watermark w hw := ⟨h.horizon.2 w hw,
    fun c hc hl hle => h.settled w hw c hc hl (hle.trans (floorSecond_le w))⟩
  passes p := by
    rw [h.idle p]
    trivial

@[simp] lemma setPass_self (ps : PassState) : (s.setPass p ps).passes p = ps := by
  simp [State.setPass]

lemma setPass_ne (ps : PassState) (h : q ≠ p) : (s.setPass p ps).passes q = s.passes q := by
  simp [State.setPass, h]

/-- The final watermark of a pass is bounded by what bounds its stamps. -/
lemma finalModstamp_le {h : Instant} {rest : List SfCase} {maxModstamp : Option Instant}
    (hmax : ∀ m ∈ maxModstamp, m ≤ h) (hrest : ∀ c ∈ rest, c.systemModstamp ≤ h) :
    ∀ m ∈ finalModstamp maxModstamp rest, m ≤ h := by
  induction rest generalizing maxModstamp with
  | nil => exact hmax
  | cons c rest ih =>
    refine ih ?_ fun x hx => hrest x (List.mem_cons_of_mem _ hx)
    have hc : c.systemModstamp ≤ h := hrest c List.mem_cons_self
    intro m hm
    cases hold : maxModstamp with
    | none =>
      simp only [bumpModstamp, hold, Option.mem_some] at hm
      exact hm ▸ hc
    | some m' =>
      simp only [bumpModstamp, hold, Option.mem_some] at hm
      exact hm ▸ max_le (hmax m' hold) hc

/-- What a pass relies on survives steps that keep the org and unsettle nothing. -/
lemma PassInv.mono {ps : PassState} (horg : t.org = s.org) (hhor : s.horizon ≤ t.horizon)
    (hlocal : ∀ c ∈ s.org.rows, Local recordType t c → Local recordType s c)
    (hset : ∀ c ∈ s.org.rows, Settled s c → Settled t c) (h : PassInv recordType s ps) :
    PassInv recordType t ps := by
  cases ps with
  | idle => trivial
  | reading since =>
    refine ⟨h.1.trans hhor, fun c hc hl hle => ?_⟩
    rw [horg] at hc
    exact hset c hc (h.2 c hc (hlocal c hc hl) hle)
  | applying rest maxModstamp =>
    obtain ⟨hvers, hle, hcov⟩ := h
    refine ⟨fun v hv => horg ▸ hvers v hv, fun m hm => (hle m hm).trans hhor, ?_⟩
    intro c hc hl hm
    rw [horg] at hc
    exact (hcov c hc (hlocal c hc hl) hm).imp_left (hset c hc)

/-- Two Cases of the org with one id are one Case. -/
lemma eq_of_id {org : SfOrg} (hc : c ∈ org.rows) (hv : v ∈ org.rows) (h : c.id = v.id) : c = v :=
  Table.row_eq_of_key_eq hc hv h

/-! ### Steps -/

/-- A step that moves one pass and settles nothing anew. -/
lemma Inv.setPass (hI : Inv recordType s) {ps : PassState} (h : PassInv recordType s ps) :
    Inv recordType (s.setPass p ps) where
  linked := hI.linked
  shown_le := hI.shown_le
  mirrors := hI.mirrors
  stamps := hI.stamps
  watermark := hI.watermark
  passes q := by
    by_cases hq : q = p
    · subst hq
      rw [setPass_self]
      exact h.mono rfl le_rfl (fun _ _ => id) fun _ _ => id
    · rw [setPass_ne ps hq]
      exact (hI.passes q).mono rfl le_rfl (fun _ _ => id) fun _ _ => id

lemma Inv.raise (hI : Inv recordType s) {h : Instant} (hh : s.horizon ≤ h) :
    Inv recordType { s with horizon := h } where
  linked := hI.linked
  shown_le := hI.shown_le
  mirrors := hI.mirrors
  stamps c hc := (hI.stamps c hc).trans hh
  watermark w hw := ⟨(hI.watermark w hw).1.trans hh, (hI.watermark w hw).2⟩
  passes p := PassInv.mono (s := s) rfl hh (fun _ _ => id) (fun _ _ => id) (hI.passes p)

lemma Inv.read (hI : Inv recordType s) {now : Instant} (hg : guard recordType s (.read p now)) :
    Inv recordType ({ s.setPass p (.reading (s.watermark.getD (defaultPullWatermark now))) with
      horizon := max s.horizon (s.watermark.getD (defaultPullWatermark now)) }) := by
  have hraised := hI.raise (le_max_left s.horizon (s.watermark.getD (defaultPullWatermark now)))
  refine hraised.setPass ⟨le_max_right _ _, fun c hc hl hle => ?_⟩
  cases hw : s.watermark with
  | some w =>
    rw [hw, Option.getD_some] at hle
    exact (hI.watermark w hw).2 c hc hl hle
  | none =>
    rw [hw, Option.getD_none] at hle
    by_contra hnot
    exact absurd hle (not_le.mpr (hg hw c hc hl hnot))

lemma Inv.fetch (hI : Inv recordType s) {since : Instant} {limit : ℕ} {page : List SfCase}
    (hp : s.passes p = .reading since) (hpage : IsPullPage recordType s.org since limit page)
    (hfits : (pullWindow recordType s.org since).length ≤ limit) :
    Inv recordType (s.setPass p (.applying page none)) := by
  have hrows : ∀ v ∈ page, v ∈ s.org.rows := fun v hv => (mem_pullWindow.mp (hpage.mem v hv)).1
  have hread := hI.passes p
  rw [hp] at hread
  refine hI.setPass ⟨fun v hv => ⟨v, hrows v hv, rfl, rfl, le_rfl, fun _ => rfl⟩, ?_, ?_⟩
  · exact finalModstamp_le (by simp) fun c hc => hI.stamps c (hrows c hc)
  · intro c hc hl _
    by_cases hle : c.systemModstamp ≤ floorSecond since
    · exact .inl (hread.2 c hc hl hle)
    · exact .inr (hpage.mem_of_length_lt hfits (mem_pullWindow.mpr ⟨hc, hl.1, not_le.mp hle⟩))

lemma Inv.write (hI : Inv recordType s) {maxModstamp : Option Instant}
    (hp : s.passes p = .applying [] maxModstamp) :
    Inv recordType { s.setPass p .idle with watermark := maxModstamp.or s.watermark } := by
  have hpass := hI.passes p
  rw [hp] at hpass
  have hidle : Inv recordType (s.setPass p .idle) := hI.setPass trivial
  refine { hidle with watermark := fun w hw => ?_, passes := ?_ }
  · cases hm : maxModstamp with
    | none =>
      rw [hm, Option.none_or] at hw
      exact hI.watermark w hw
    | some m =>
      rw [hm, Option.some_or, Option.mem_some] at hw
      subst hw
      refine ⟨hpass.2.1 m hm, fun c hc hl hle => ?_⟩
      rcases hpass.2.2 c hc hl ⟨m, hm, hle.trans (floorSecond_le m)⟩ with hset | hrest
      · exact hset
      · simp at hrest
  · intro q
    exact (hidle.passes q).mono rfl le_rfl (fun _ _ => id) fun _ _ => id

/-- An edit replaces the current version of one Case. -/
lemma mem_edited {org : SfOrg} {x : SfCase} (hx : x ∈ (org.upsert c).rows) :
    x = c ∨ x ∈ org.rows ∧ x.id ≠ c.id :=
  Table.mem_rows_upsert.mp hx

lemma Linked.edit {cases : CaseTable} {org : SfOrg} (h : Linked cases org) {old : SfCase}
    (hold : old ∈ org.rows) (hid : old.id = c.id) (hext : c.afmExternalId = old.afmExternalId) :
    Linked cases (org.upsert c) where
  row_unique x hx r hr r' hr' hm hm' := by
    rcases mem_edited hx with rfl | ⟨hx, -⟩
    · rw [recordMatches_congr hid.symm hext] at hm hm'
      exact h.row_unique old hold r hr r' hr' hm hm'
    · exact h.row_unique x hx r hr r' hr' hm hm'
  case_unique r hr x hx y hy hmx hmy := by
    rcases mem_edited hx with rfl | ⟨hx', hxid⟩ <;> rcases mem_edited hy with rfl | ⟨hy', hyid⟩
    · rfl
    · rw [recordMatches_congr hid.symm hext] at hmx
      exact absurd (h.case_unique r hr old hold y hy' hmx hmy ▸ hid) hyid
    · rw [recordMatches_congr hid.symm hext] at hmy
      exact absurd (h.case_unique r hr x hx' old hold hmx hmy ▸ hid) hxid
    · exact h.case_unique r hr x hx' y hy' hmx hmy

lemma Inv.edit (hI : Inv recordType s) {old : SfCase} (hold : s.org.lookup c.id = some old)
    (hrev : c.revision = old.revision + 1) (hg : guard recordType s (.edit c)) :
    Inv recordType
      { s with org := s.org.upsert c, horizon := max s.horizon c.systemModstamp } := by
  have hmem := Table.mem_rows_of_lookup hold
  have hid : old.id = c.id := Table.key_of_lookup hold
  obtain ⟨hext, -⟩ := hg.2 old hold
  -- the new version is stamped after everything a watermark has reached
  have hlate : ∀ u : Instant, u ≤ s.horizon → ¬ c.systemModstamp ≤ u :=
    fun u hu hle => absurd (hle.trans hu) (not_le.mpr hg.1)
  have hsettled : ∀ u : Instant, u ≤ s.horizon → SettledTo recordType s u →
      SettledTo recordType
        { s with org := s.org.upsert c, horizon := max s.horizon c.systemModstamp } u := by
    intro u hu hset x hx hl hle
    rcases mem_edited hx with rfl | ⟨hx, -⟩
    · exact absurd hle (hlate u hu)
    · exact hset x hx hl hle
  constructor
  · exact hI.linked.edit hmem hid hext
  · intro x hx r hr
    rcases mem_edited hx with rfl | ⟨hx, -⟩
    · have := hI.shown_le old hmem r (hid ▸ hr)
      omega
    · exact hI.shown_le x hx r hr
  · intro x hx hset
    rcases mem_edited hx with rfl | ⟨hx, -⟩
    · have := hI.shown_le old hmem x.revision (hid ▸ hset)
      omega
    · exact hI.mirrors x hx hset
  · intro x hx
    rcases mem_edited hx with rfl | ⟨hx, -⟩
    · exact le_max_right _ _
    · exact (hI.stamps x hx).trans (le_max_left _ _)
  · intro w hw
    obtain ⟨hle, hset⟩ := hI.watermark w hw
    exact ⟨hle.trans (le_max_left _ _), hsettled _ ((floorSecond_le w).trans hle) hset⟩
  · intro p
    have hp := hI.passes p
    show PassInv recordType _ (s.passes p)
    cases hps : s.passes p with
    | idle => trivial
    | reading since =>
      rw [hps] at hp
      exact ⟨hp.1.trans (le_max_left _ _), hsettled _ ((floorSecond_le since).trans hp.1) hp.2⟩
    | applying rest maxModstamp =>
      rw [hps] at hp
      obtain ⟨hvers, hle, hcov⟩ := hp
      refine ⟨fun v hv => ?_, fun m hm => (hle m hm).trans (le_max_left _ _), ?_⟩
      · obtain ⟨x, hx, hxid, hxext, hxrev, hxeq⟩ := hvers v hv
        by_cases hxc : x.id = c.id
        · obtain rfl := eq_of_id hx hmem (hxc.trans hid.symm)
          refine ⟨c, Table.mem_rows_upsert.mpr (.inl rfl), hxc.symm.trans hxid,
            hext.trans hxext, by omega, fun h => ?_⟩
          omega
        · exact ⟨x, Table.mem_rows_upsert.mpr (.inr ⟨hx, hxc⟩), hxid, hxext, hxrev, hxeq⟩
      · intro x hx hl hm
        rcases mem_edited hx with rfl | ⟨hx, -⟩
        · obtain ⟨m, hm, hmle⟩ := hm
          exact absurd hmle (hlate m (hle m hm))
        · exact hcov x hx hl hm

lemma Linked.applyRecord {org : SfOrg} {now : Instant} {db db' : CaseDb} {matched : Bool}
    (h : Linked db.cases org) (happly : applyRecord now (toSyncRecord v) db = some (db', matched))
    (hsame : ∀ c ∈ org.rows, SameIdentity v c) : Linked db'.cases org where
  row_unique c hc r hr r' hr' hm hm' := by
    obtain ⟨r₀, hr₀, hkey, hiff⟩ := exists_row_of_applyRecord happly hr
    obtain ⟨r₀', hr₀', hkey', hiff'⟩ := exists_row_of_applyRecord happly hr'
    have heq := h.row_unique c hc r₀ hr₀ r₀' hr₀' ((hiff _ (hsame c hc).externalId).mp hm)
      ((hiff' _ (hsame c hc).externalId).mp hm')
    exact Table.row_eq_of_key_eq hr hr'
      (hkey.symm.trans ((congrArg CaseRow.caseId heq).trans hkey'))
  case_unique r hr c hc d hd hmc hmd := by
    obtain ⟨r₀, hr₀, -, hiff⟩ := exists_row_of_applyRecord happly hr
    exact h.case_unique r₀ hr₀ c hc d hd ((hiff _ (hsame c hc).externalId).mp hmc)
      ((hiff _ (hsame d hd).externalId).mp hmd)

section Apply

variable {rest : List SfCase} {maxModstamp : Option Instant} {now : Instant} {db' : CaseDb}
  {matched : Bool}

/-- The Case of a record in flight, in its current version. -/
lemma Inv.current (hI : Inv recordType s) (hp : s.passes p = .applying (v :: rest) maxModstamp) :
    ∃ x ∈ s.org.rows, x.id = v.id ∧ x.afmExternalId = v.afmExternalId ∧
      v.revision ≤ x.revision ∧ (v.revision = x.revision → v = x) := by
  have := hI.passes p
  rw [hp] at this
  exact this.1 v List.mem_cons_self

lemma Inv.sameIdentity (hI : Inv recordType s)
    (hp : s.passes p = .applying (v :: rest) maxModstamp) :
    ∀ c ∈ s.org.rows, SameIdentity v c := by
  intro c hc hid
  obtain ⟨x, hx, hxid, hext, -⟩ := hI.current hp
  rw [eq_of_id hc hx (hid.trans hxid.symm), hext]

/-- An apply that is not stale unsettles no Case. -/
lemma Inv.settled_applied (hI : Inv recordType s)
    (hp : s.passes p = .applying (v :: rest) maxModstamp)
    (hfresh : ∀ r ∈ s.shown v.id, r ≤ v.revision) (hc : c ∈ s.org.rows) (hset : Settled s c) :
    Settled (s.applied p rest maxModstamp v db' matched) c := by
  obtain ⟨x, hx, hxid, -, hrev, -⟩ := hI.current hp
  cases matched with
  | false => exact hset
  | true =>
    show Function.update s.shown v.id (some v.revision) c.id = some c.revision
    by_cases hid : c.id = v.id
    · obtain rfl := eq_of_id hc hx (hid.trans hxid.symm)
      have hle := hfresh c.revision (hid ▸ hset)
      rw [hid, Function.update_self, Option.some.injEq]
      omega
    · rw [Function.update_of_ne hid]
      exact hset

lemma Inv.mirrors_applied (hI : Inv recordType s)
    (hp : s.passes p = .applying (v :: rest) maxModstamp)
    (happly : applyRecord now (toSyncRecord v) s.db = some (db', matched)) (hc : c ∈ s.org.rows)
    (hset : Settled (s.applied p rest maxModstamp v db' matched) c) :
    ∀ row ∈ db'.cases.rows, recordMatches (toSyncRecord c) row →
      Mirrors row (toSyncRecord c) := by
  obtain ⟨x, hx, hxid, hext, hrev, heq⟩ := hI.current hp
  have hsame := hI.sameIdentity hp
  cases ApplyRule.of_applyRecord happly with
  | unmatched => exact hI.mirrors c hc hset
  | matched row₀ hrow₀ hmatch =>
    have hset' : Function.update s.shown v.id (some v.revision) c.id = some c.revision := hset
    have hmatchx : recordMatches (toSyncRecord x) row₀ :=
      (recordMatches_congr hxid.symm hext.symm).mp hmatch
    intro row hrow hm
    rcases Table.mem_rows_upsert.mp hrow with rfl | ⟨hrow, hkey⟩
    · rw [recordMatches_appliedRow_iff now hmatch (hsame c hc).externalId] at hm
      obtain rfl := hI.linked.case_unique row₀ hrow₀ c hc x hx hm hmatchx
      rw [hxid, Function.update_self, Option.some.injEq] at hset'
      exact heq hset' ▸ mirrors_appliedRow now _ row₀
    · by_cases hid : c.id = v.id
      · obtain rfl := eq_of_id hc hx (hid.trans hxid.symm)
        exact absurd (congrArg CaseRow.caseId
          (hI.linked.row_unique c hc row hrow row₀ hrow₀ hm hmatchx)) hkey
      · rw [Function.update_of_ne hid] at hset'
        exact hI.mirrors c hc hset' row hrow hm

lemma Inv.apply (hI : Inv recordType s) (hp : s.passes p = .applying (v :: rest) maxModstamp)
    (happly : applyRecord now (toSyncRecord v) s.db = some (db', matched))
    (hfresh : ∀ r ∈ s.shown v.id, r ≤ v.revision) :
    Inv recordType (s.applied p rest maxModstamp v db' matched) := by
  obtain ⟨x, hx, hxid, -, hrev, -⟩ := hI.current hp
  have hsame := hI.sameIdentity hp
  have hset : ∀ c ∈ s.org.rows, Settled s c →
      Settled (s.applied p rest maxModstamp v db' matched) c :=
    fun c hc => hI.settled_applied hp hfresh hc
  have hlocal : ∀ c ∈ s.org.rows, Local recordType (s.applied p rest maxModstamp v db' matched) c →
      Local recordType s c :=
    fun c hc hl => ⟨hl.1, (hasRow_applyRecord happly (hsame c hc).externalId).mp hl.2⟩
  constructor
  · exact hI.linked.applyRecord happly hsame
  · intro c hc r hr
    cases matched with
    | false => exact hI.shown_le c hc r hr
    | true =>
      have hr' : Function.update s.shown v.id (some v.revision) c.id = some r := hr
      by_cases hid : c.id = v.id
      · obtain rfl := eq_of_id hc hx (hid.trans hxid.symm)
        rw [hid, Function.update_self, Option.some.injEq] at hr'
        exact hr' ▸ hrev
      · rw [Function.update_of_ne hid] at hr'
        exact hI.shown_le c hc r hr'
  · intro c hc hsettled
    exact hI.mirrors_applied hp happly hc hsettled
  · exact hI.stamps
  · intro w hw
    obtain ⟨hle, hto⟩ := hI.watermark w hw
    exact ⟨hle, fun c hc hl hcw => hset c hc (hto c hc (hlocal c hc hl) hcw)⟩
  · intro q
    by_cases hq : q = p
    · subst hq
      have hpass := hI.passes q
      rw [hp] at hpass
      obtain ⟨hvers, hle, hcov⟩ := hpass
      show PassInv recordType _ (Function.update s.passes q _ q)
      rw [Function.update_self]
      refine ⟨fun u hu => hvers u (List.mem_cons_of_mem _ hu), hle, fun c hc hl hm => ?_⟩
      rcases hcov c hc (hlocal c hc hl) hm with hs | hs
      · exact .inl (hset c hc hs)
      · rcases List.mem_cons.mp hs with rfl | hs
        · have := (applyRecord_matched happly).mpr (hlocal c hc hl).2
          subst this
          exact .inl (Function.update_self ..)
        · exact .inr hs
    · show PassInv recordType _ (Function.update s.passes p _ q)
      rw [Function.update_of_ne hq]
      exact PassInv.mono (s := s) rfl le_rfl hlocal hset (hI.passes q)

end Apply

/-! ### Runs -/

/-- What the steps of the system do. -/
inductive StepRule (recordType : String) (s : State) : Action → State → Prop where
  | edit (c old : SfCase) (hold : s.org.lookup c.id = some old)
      (hrev : c.revision = old.revision + 1) : StepRule recordType s (.edit c)
        { s with org := s.org.upsert c, horizon := max s.horizon c.systemModstamp }
  | read (p : ℕ) (now : Instant) : StepRule recordType s (.read p now)
      { s.setPass p (.reading (s.watermark.getD (defaultPullWatermark now))) with
        horizon := max s.horizon (s.watermark.getD (defaultPullWatermark now)) }
  | fetch (p limit : ℕ) (page : List SfCase) (since : Instant) (hp : s.passes p = .reading since)
      (hpage : IsPullPage recordType s.org since limit page) :
      StepRule recordType s (.fetch p limit page) (s.setPass p (.applying page none))
  | apply (p : ℕ) (now : Instant) (v : SfCase) (rest : List SfCase) (maxModstamp : Option Instant)
      (db' : CaseDb) (matched : Bool) (hp : s.passes p = .applying (v :: rest) maxModstamp)
      (happly : applyRecord now (toSyncRecord v) s.db = some (db', matched)) :
      StepRule recordType s (.apply p now) (s.applied p rest maxModstamp v db' matched)
  | write (p : ℕ) (maxModstamp : Option Instant) (hp : s.passes p = .applying [] maxModstamp) :
      StepRule recordType s (.write p)
        { s.setPass p .idle with watermark := maxModstamp.or s.watermark }
  | fail (p : ℕ) : StepRule recordType s (.fail p) (s.setPass p .idle)

lemma StepRule.of_act {a : Action} (h : act recordType s a = some t) :
    StepRule recordType s a t := by
  cases a with
  | edit c =>
    simp only [act] at h
    split at h
    next => simp at h
    next old hold =>
      split_ifs at h with hrev
      exact Option.some.inj h ▸ .edit c old hold hrev
  | read p now =>
    simp only [act] at h
    split at h
    next => exact Option.some.inj h ▸ .read p now
    next => simp at h
  | fetch p limit page =>
    simp only [act] at h
    split at h
    next since hp =>
      split_ifs at h with hpage
      exact Option.some.inj h ▸ .fetch p limit page since hp hpage.2
    next => simp at h
  | apply p now =>
    simp only [act] at h
    split at h
    next v rest maxModstamp hp =>
      obtain ⟨⟨db', matched⟩, happly, rfl⟩ := Option.map_eq_some_iff.mp h
      exact .apply p now v rest maxModstamp db' matched hp happly
    next => simp at h
  | write p =>
    simp only [act] at h
    split at h
    next maxModstamp hp => exact Option.some.inj h ▸ .write p maxModstamp hp
    next => simp at h
  | fail p => exact Option.some.inj h ▸ .fail p

lemma Inv.step {a : Action} (hI : Inv recordType s) (hg : guard recordType s a)
    (h : act recordType s a = some t) : Inv recordType t := by
  cases StepRule.of_act h with
  | edit c old hold hrev => exact hI.edit hold hrev hg
  | read p now => exact hI.read hg
  | fetch p limit page since hp hpage =>
    exact hI.fetch hp hpage (hg since (by rw [hp]; rfl))
  | apply p now v rest maxModstamp db' matched hp happly =>
    exact hI.apply hp happly (hg v (by rw [hp]; rfl))
  | write p maxModstamp hp => exact hI.write hp
  | fail p => exact hI.setPass trivial

lemma inv_of_reached (h : Reached (act recordType) (guard recordType) (init recordType) s) :
    Inv recordType s :=
  h.invariant (fun _ => Inv.of_init) fun _ _ _ hI hg ha => hI.step hg ha

/-! ### A further serial pass -/

/-- The steps of one pass with no other step between them. -/
def serialPass (p : ℕ) (now : Instant) (limit : ℕ) (page : List SfCase) (nows : List Instant) :
    List Action :=
  .read p now :: .fetch p limit page :: (nows.map (.apply p) ++ [.write p])

/-- Every Case is settled or still ahead of the pass. -/
def Draining (recordType : String) (s : State) (p : ℕ) : Prop :=
  ∃ rest maxModstamp, s.passes p = .applying rest maxModstamp ∧
    ∀ c ∈ s.org.rows, Local recordType s c → Settled s c ∨ c ∈ rest

lemma Draining.apply {now : Instant} (hI : Inv recordType s) (hd : Draining recordType s p)
    (hg : guard recordType s (.apply p now)) (h : act recordType s (.apply p now) = some t) :
    Draining recordType t p := by
  obtain ⟨rest', maxModstamp', hp', hcov⟩ := hd
  cases StepRule.of_act h with
  | apply _ _ v rest maxModstamp db' matched hp happly =>
    rw [hp, PassState.applying.injEq] at hp'
    obtain ⟨rfl, rfl⟩ := hp'
    have hfresh := hg v (by rw [hp]; rfl)
    refine ⟨rest, _, setPass_self _, fun c hc hl => ?_⟩
    have hl' : Local recordType s c :=
      ⟨hl.1, (hasRow_applyRecord happly (hI.sameIdentity hp c hc).externalId).mp hl.2⟩
    rcases hcov c hc hl' with hs | hs
    · exact .inl (hI.settled_applied hp hfresh hc hs)
    · rcases List.mem_cons.mp hs with rfl | hs
      · have := (applyRecord_matched happly).mpr hl'.2
        subst this
        exact .inl (Function.update_self ..)
      · exact .inr hs

/-- Once the pass is through its records every Case is settled. -/
lemma Draining.finish {nows : List Instant} (hI : Inv recordType s) (hd : Draining recordType s p)
    (hg : GuardsHold (act recordType) (guard recordType) s (nows.map (.apply p) ++ [.write p]))
    (h : runActions (act recordType) s (nows.map (.apply p) ++ [.write p]) = some t) :
    Inv recordType t ∧ ∀ c ∈ t.org.rows, Local recordType t c → Settled t c := by
  induction nows generalizing s with
  | nil =>
    simp only [List.map_nil, List.nil_append, runActions, Option.bind_eq_some_iff,
      Option.some.injEq] at h
    obtain ⟨u, hact, rfl⟩ := h
    obtain ⟨rest, maxModstamp', hp', hcov⟩ := hd
    refine ⟨hI.step hg.1 hact, ?_⟩
    cases StepRule.of_act hact with
    | write _ maxModstamp hp =>
      rw [hp, PassState.applying.injEq] at hp'
      obtain ⟨rfl, -⟩ := hp'
      intro c hc hl
      exact (hcov c hc hl).resolve_right List.not_mem_nil
  | cons now nows ih =>
    simp only [List.map_cons, List.cons_append, runActions, Option.bind_eq_some_iff] at h hg
    obtain ⟨u, hact, hrun⟩ := h
    exact ih (hI.step hg.1 hact) (hd.apply hI hg.1 hact) (hg.2 u hact) hrun

/-- In a run whose steps meet the condition, whatever passes overlapped before, one further serial
pass leaves every local row equal to the newest version of its Case. -/
theorem overlapping_pulls_converge (recordType : String) (s t : State) (p : ℕ) (now : Instant)
    (limit : ℕ) (page : List SfCase) (nows : List Instant)
    (hs : Reached (act recordType) (guard recordType) (init recordType) s)
    (hg : GuardsHold (act recordType) (guard recordType) s (serialPass p now limit page nows))
    (ht : runActions (act recordType) s (serialPass p now limit page nows) = some t) :
    Converged recordType t := by
  have hI := inv_of_reached hs
  simp only [serialPass, runActions, Option.bind_eq_some_iff] at ht
  obtain ⟨s₁, hread, s₂, hfetch, hrun⟩ := ht
  obtain ⟨hg₁, hg⟩ := hg
  obtain ⟨hg₂, hg⟩ := hg s₁ hread
  have hI₁ := hI.step hg₁ hread
  have hI₂ := hI₁.step hg₂ hfetch
  have hd : Draining recordType s₂ p := by
    cases StepRule.of_act hfetch with
    | fetch _ _ _ since hp hpage =>
      have hfits := hg₂ since (by rw [hp]; rfl)
      have hread' := hI₁.passes p
      rw [hp] at hread'
      refine ⟨page, none, setPass_self _, fun c hc hl => ?_⟩
      by_cases hle : c.systemModstamp ≤ floorSecond since
      · exact .inl (hread'.2 c hc hl hle)
      · exact .inr (hpage.mem_of_length_lt hfits (mem_pullWindow.mpr ⟨hc, hl.1, not_le.mp hle⟩))
  obtain ⟨hIt, hsettled⟩ := hd.finish hI₂ (hg s₂ hfetch) hrun
  intro c hc hrt row hrow hm
  exact hIt.mirrors c hc (hsettled c hc ⟨hrt, row, hrow, hm⟩) row hrow hm

/-! ### A stale apply -/

instance (s : State) (c : SfCase) : Decidable (Local recordType s c) :=
  inferInstanceAs (Decidable (_ ∧ _))

instance (s : State) (c : SfCase) : Decidable (Settled s c) :=
  inferInstanceAs (Decidable (_ = _))

instance (s : State) (a : Action) : Decidable (guard recordType s a) :=
  match a with
  | .edit c => inferInstanceAs (Decidable (_ < _ ∧ ∀ old ∈ s.org.lookup c.id, _ ∧ _))
  | .read _ _ =>
    inferInstanceAs (Decidable (s.watermark = none → ∀ c ∈ s.org.rows, _ → ¬ _ → _ < _))
  | .fetch p _ _ => inferInstanceAs (Decidable (∀ since ∈ (s.passes p).since?, _ ≤ _))
  | .apply p _ => inferInstanceAs (Decidable (∀ c ∈ (s.passes p).next?, ∀ r ∈ s.shown c.id, _ ≤ _))
  | .write _ => inferInstanceAs (Decidable True)
  | .fail _ => inferInstanceAs (Decidable True)

/-- A Case with a local row that shows its first version, pulled up to that version. -/
def startState : State where
  db := { cases := ⟨[{ sampleCase "CASE-1" 0 with salesforceId := some "5001" }], by decide⟩ }
  watermark := some 10000000
  org := ⟨[sampleSfCase "5001" "CASE-1" 10000000], by decide⟩
  passes := fun _ => .idle
  shown := fun _ => some 0
  horizon := 10000000

lemma init_startState : init "Fleet_Operations" startState where
  idle _ := rfl
  linked := ⟨by decide, by decide⟩
  shown_le := by decide
  mirrors := by
    intro c hc _ row hrow _
    rw [List.mem_singleton.mp hc, List.mem_singleton.mp hrow]
    exact ⟨rfl, by decide, by decide, by decide, by decide, rfl, by decide⟩
  settled := by
    intro w _ c hc _ _
    rw [List.mem_singleton.mp hc]
    rfl
  horizon := by decide

/-- The Case is taken up. -/
def workingCase : SfCase :=
  { sampleSfCase "5001" "CASE-1" 20000000 with status := .working, revision := 1 }

/-- The Case is closed. -/
def closedCase : SfCase :=
  { sampleSfCase "5001" "CASE-1" 30000000 with
    status := .closed, closedDate := some 30000000, revision := 2 }

/-- The first pass fetches the Case before it is closed and applies it after the second pass has
applied the closed version. -/
def staleRun : List Action :=
  [.edit workingCase, .read 0 40000000, .fetch 0 200 [workingCase],
   .edit closedCase, .read 1 40000000, .fetch 1 200 [closedCase], .apply 1 41000000,
   .apply 0 42000000, .write 0, .write 1]

/-- After the stale apply and a further pass the row still shows the Case as taken up. -/
lemma staleRun_diverges : ∀ t ∈ runActions (act "Fleet_Operations") startState
      (staleRun ++ serialPass 2 50000000 200 [] []),
    ∃ c ∈ t.org.rows, c.recordType = "Fleet_Operations" ∧ ∃ row ∈ t.db.cases.rows,
      recordMatches (toSyncRecord c) row ∧ row.status ≠ (toSyncRecord c).status := by
  decide

/-- The closure is lost: the last watermark is its stamp, and the row is not resolved. -/
theorem overlapping_pulls_lose_closure : ¬ ∀ (recordType : String) (s t : State) (p : ℕ)
    (now : Instant) (limit : ℕ) (page : List SfCase) (nows : List Instant),
    Reached (act recordType) unguarded (init recordType) s →
    runActions (act recordType) s (serialPass p now limit page nows) = some t →
    Converged recordType t := by
  intro h
  have hsome : (runActions (act "Fleet_Operations") startState
      (staleRun ++ serialPass 2 50000000 200 [] [])).isSome := by decide
  obtain ⟨s, t, hs, -, hstale, hserial⟩ :=
    Reached.exists_split (.start init_startState) (guardsHold_unguarded startState _) hsome
  have hconv := h "Fleet_Operations" s t 2 50000000 200 [] [] hs hserial
  obtain ⟨c, hc, hrt, row, hrow, hm, hne⟩ := staleRun_diverges t (by
    rw [runActions_append, hstale]
    exact hserial)
  exact hne (hconv c hc hrt row hrow hm).status

/-- The same two passes, with the older version applied first. -/
def freshRun : List Action :=
  [.edit workingCase, .read 0 40000000, .fetch 0 200 [workingCase],
   .edit closedCase, .read 1 40000000, .fetch 1 200 [closedCase],
   .apply 0 41000000, .write 0, .apply 1 42000000, .write 1]

theorem overlapping_pulls_converge_fresh : ∃ s t,
    runActions (act "Fleet_Operations") startState freshRun = some s ∧
    runActions (act "Fleet_Operations") s (serialPass 2 50000000 200 [] []) = some t ∧
    Converged "Fleet_Operations" t := by
  have hguards : GuardsHold (act "Fleet_Operations") (guard "Fleet_Operations") startState
      (freshRun ++ serialPass 2 50000000 200 [] []) := by decide
  have hsome : (runActions (act "Fleet_Operations") startState
      (freshRun ++ serialPass 2 50000000 200 [] [])).isSome := by decide
  obtain ⟨s, t, hs, hg, hrun, ht⟩ := Reached.exists_split (.start init_startState) hguards hsome
  exact ⟨s, t, hrun, ht,
    overlapping_pulls_converge "Fleet_Operations" s t 2 50000000 200 [] [] hs hg ht⟩

end FleetMonitor.OverlappingPull
