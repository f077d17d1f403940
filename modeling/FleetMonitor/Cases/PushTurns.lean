import FleetMonitor.Cases.Push
import FleetMonitor.Cases.Pull
import FleetMonitor.Library.RetryQueue
import Mathlib.Algebra.GroupWithZero.Nat

/-!
# Turns of the push

Push passes with the detector's inserts and the applies of the pull in between. A pending case may
be passed over by the cases that were created before it, each of which is attempted five times at
most, so it is attempted itself and settled after a number of passes that is known when it starts to
wait.
-/

namespace FleetMonitor.PushTurns

open Library

/-- What happens to `app.cases`: a pass with what it meets, a case of the detector, and a record
that a pull applies. -/
inductive PushEvent where
  | pass (sf : SfClient) (now : String → Instant) (service : SfService)
  | insert (now : Instant) (anomaly : Anomaly) (caseId : String) (runbookRefs : List String)
  | apply (now : Instant) (rec : CaseSyncRecord)

/-- The tables after an event; `none` when a pass raises or a transaction is rejected. -/
def after (limit : ℕ) (db : CaseDb) : PushEvent → Option CaseDb
  | .pass sf now service =>
    match pushPending sf now true limit db service with
    | (.ok _, st)    => some st.db
    | (.error _, _)  => none
  | .insert now anomaly caseId runbookRefs =>
    if caseId ∈ db.cases.keys then none
    else some
      { cases := db.cases.upsert (insertedRow now anomaly caseId runbookRefs)
        timeline := db.timeline ++ [(caseId, .created anomaly.rule)] }
  | .apply now rec => (applyRecord now rec db).map Prod.fst

/-- The events in order. -/
def afterAll (limit : ℕ) : List PushEvent → CaseDb → Option CaseDb
  | [], db          => some db
  | e :: events, db => (after limit db e).bind (afterAll limit events)

def isPass : PushEvent → Bool
  | .pass _ _ _ => true
  | _           => false

/-- A new case is created after an instant. -/
def CreatesAfter (t : Instant) : PushEvent → Prop
  | .insert now _ _ _ => t < now
  | _                 => True

/-- The attempts a row has left. -/
def rowAttemptsLeft (row : CaseRow) : ℕ :=
  if row.sfSyncStatus = .pending then maxAttempts - row.sfSyncAttempts else 0

/-- The attempts a case has left. -/
def attemptsLeft (db : CaseDb) (caseId : String) : ℕ :=
  (db.cases.lookup caseId).elim 0 rowAttemptsLeft

/-- The pending rows that a pass may take before a case. -/
def rowsAhead (db : CaseDb) (c : CaseRow) : List CaseRow :=
  db.cases.rows.filter fun r =>
    r.sfSyncStatus = .pending ∧ r.createdAt ≤ c.createdAt ∧ r.caseId ≠ c.caseId

/-- Rows that wait for the push have attempts left. -/
def AttemptsLeft (db : CaseDb) : Prop :=
  ∀ r ∈ db.cases.rows, r.sfSyncStatus = .pending → r.sfSyncAttempts < maxAttempts

variable {limit : ℕ} {db db' : CaseDb} {e : PushEvent} {k : String} {r r' : CaseRow}

/-! ### A pass -/

section

variable {sf : SfClient} {now : String → Instant} {service : SfService}

/-- What a pass has done to the rows it has fetched. -/
lemma exists_loopDone (h : after limit db (.pass sf now service) = some db') : ∃ st entries,
    db' = st.db ∧ LoopDone now (fetchPending db.cases limit) { db, service } st entries := by
  rw [after, pushPending, if_pos rfl, pushFetched] at h
  rcases hrows : pushRows sf now (fetchPending db.cases limit) { db, service } with ⟨e | ⟨⟩, st⟩
  · rw [hrows] at h
    cases h
  · rw [hrows] at h
    obtain ⟨entries, hdone⟩ := pushRows_done (pendingBatch_fetchPending db.cases limit) hrows
    exact ⟨st, entries, (Option.some.inj h).symm, hdone⟩

variable {rows : List CaseRow} {st st' : PushState} {entries : List PushEntry}

/-- A row that a pass has attempted and that waits on has one attempt more, and not the last one. -/
lemma retried (hdone : LoopDone now rows st st' entries) (hbatch : PendingBatch st.db.cases rows)
    (hr : r ∈ rows) (hlookup : st'.db.cases.lookup r.caseId = some r')
    (hpending : r'.sfSyncStatus = .pending) : r'.createdAt = r.createdAt ∧
      r'.sfSyncAttempts = r.sfSyncAttempts + 1 ∧ r'.sfSyncAttempts < maxAttempts := by
  rw [← hdone.inOrder] at hr
  obtain ⟨entry, hentry, rfl⟩ := List.mem_map.mp hr
  have hrow : entry.row ∈ rows := hdone.inOrder ▸ List.mem_map_of_mem hentry
  rw [hdone.marked entry hentry] at hlookup
  obtain rfl := Option.some.inj hlookup
  rw [markRow_status (hbatch.pending _ hrow)] at hpending
  cases hdone.classified entry hentry with
  | synced ref hout hmark => simp [hmark] at hpending
  | retry message hout hlt hmark =>
    rw [hmark]
    exact ⟨rfl, rfl, hlt⟩
  | exhausted message hout hge hmark => simp [hmark] at hpending
  | permanent message hout hmark => simp [hmark] at hpending

end

/-! ### What an event leaves -/

/-- A row that waits was there before, created at the same time and with no fewer attempts left. -/
structure WaitedBefore (db : CaseDb) (r' r : CaseRow) : Prop where
  lookup : db.cases.lookup r'.caseId = some r
  pending : r.sfSyncStatus = .pending
  createdAt : r'.createdAt = r.createdAt
  attempts : r.sfSyncAttempts ≤ r'.sfSyncAttempts

lemma WaitedBefore.refl (h : db.cases.lookup r.caseId = some r)
    (hpending : r.sfSyncStatus = .pending) :
    WaitedBefore db r r :=
  ⟨h, hpending, rfl, le_rfl⟩

/-- A row that waits after an event waited before it, or has been inserted by it. -/
lemma waitedBefore (h : after limit db e = some db') (hlookup : db'.cases.lookup k = some r')
    (hpending : r'.sfSyncStatus = .pending) : (∃ r, WaitedBefore db r' r) ∨
      db.cases.lookup k = none ∧ ∃ now anomaly refs, e = .insert now anomaly k refs ∧ r'.createdAt = now := by
  have hk := Table.key_of_lookup hlookup
  subst hk
  cases e with
  | pass sf now service =>
    obtain ⟨st, entries, rfl, hdone⟩ := exists_loopDone h
    have hbatch := pendingBatch_fetchPending db.cases limit
    by_cases hserved : r'.caseId ∈ (fetchPending db.cases limit).map CaseRow.caseId
    · obtain ⟨r, hr, hid⟩ := List.mem_map.mp hserved
      rw [← hid] at hlookup
      obtain ⟨hcreated, hattempts, -⟩ := retried hdone hbatch hr hlookup hpending
      exact .inl ⟨r, hid ▸ hbatch.lookup r hr, hbatch.pending r hr, hcreated, by omega⟩
    · rw [hdone.others _ hserved] at hlookup
      exact .inl ⟨r', .refl hlookup hpending⟩
  | insert now anomaly caseId refs =>
    rw [after] at h
    split_ifs at h with hfresh
    obtain rfl := Option.some.inj h
    rw [Table.lookup_upsert] at hlookup
    split_ifs at hlookup with hid
    · obtain rfl := Option.some.inj hlookup
      rw [Table.mem_keys_iff, not_not] at hfresh
      exact .inr ⟨hfresh, now, anomaly, refs, rfl, rfl⟩
    · exact .inl ⟨r', .refl hlookup hpending⟩
  | apply now rec =>
    obtain ⟨⟨db₁, matched⟩, happly, rfl⟩ := Option.map_eq_some_iff.mp h
    cases ApplyRule.of_applyRecord happly with
    | unmatched => exact .inl ⟨r', .refl hlookup hpending⟩
    | matched row hrow =>
      rw [Table.lookup_upsert, appliedRow_caseId] at hlookup
      split_ifs at hlookup with hid
      · obtain rfl := Option.some.inj hlookup
        exact .inl ⟨row, Table.lookup_of_mem hrow, hpending, rfl, le_rfl⟩
      · exact .inl ⟨r', .refl hlookup hpending⟩

lemma lookup_upsert_ne_none {row : CaseRow} (hk : db.cases.lookup k ≠ none) :
    (db.cases.upsert row).lookup k ≠ none := by
  rw [Table.lookup_upsert]
  split_ifs
  · exact Option.some_ne_none _
  · exact hk

/-- No row goes. -/
lemma lookup_ne_none (h : after limit db e = some db') (hk : db.cases.lookup k ≠ none) :
    db'.cases.lookup k ≠ none := by
  cases e with
  | pass sf now service =>
    obtain ⟨st, entries, rfl, hdone⟩ := exists_loopDone h
    by_cases hserved : k ∈ (fetchPending db.cases limit).map CaseRow.caseId
    · rw [← hdone.inOrder, List.map_map] at hserved
      obtain ⟨entry, hentry, rfl⟩ := List.mem_map.mp hserved
      rw [Function.comp_apply, hdone.marked entry hentry]
      exact Option.some_ne_none _
    · rwa [hdone.others k hserved]
  | insert now anomaly caseId refs =>
    rw [after] at h
    split_ifs at h
    obtain rfl := Option.some.inj h
    exact lookup_upsert_ne_none hk
  | apply now rec =>
    obtain ⟨⟨db₁, matched⟩, happly, rfl⟩ := Option.map_eq_some_iff.mp h
    cases ApplyRule.of_applyRecord happly with
    | unmatched => exact hk
    | matched row hrow => exact lookup_upsert_ne_none hk

/-- The rows that wait keep an attempt. -/
lemma AttemptsLeft.after (hleft : AttemptsLeft db) (h : after limit db e = some db') :
    AttemptsLeft db' := by
  intro r' hr' hpending
  have hlookup := Table.lookup_of_mem hr'
  cases e with
  | pass sf now service =>
    obtain ⟨st, entries, rfl, hdone⟩ := exists_loopDone h
    by_cases hserved : r'.caseId ∈ (fetchPending db.cases limit).map CaseRow.caseId
    · obtain ⟨r, hr, hid⟩ := List.mem_map.mp hserved
      rw [← hid] at hlookup
      exact (retried hdone (pendingBatch_fetchPending _ _) hr hlookup hpending).2.2
    · rw [hdone.others _ hserved] at hlookup
      exact hleft r' (Table.mem_rows_of_lookup hlookup) hpending
  | insert now anomaly caseId refs =>
    rw [PushTurns.after] at h
    split_ifs at h
    obtain rfl := Option.some.inj h
    rcases Table.mem_rows_upsert.mp hr' with rfl | ⟨hr', -⟩
    · simp [insertedRow, maxAttempts]
    · exact hleft r' hr' hpending
  | apply now rec =>
    obtain ⟨⟨db₁, matched⟩, happly, rfl⟩ := Option.map_eq_some_iff.mp h
    cases ApplyRule.of_applyRecord happly with
    | unmatched => exact hleft r' hr' hpending
    | matched row hrow =>
      rcases Table.mem_rows_upsert.mp hr' with rfl | ⟨hr', -⟩
      · exact hleft row hrow hpending
      · exact hleft r' hr' hpending

/-! ### Attempts -/

lemma attemptsLeft_of_pending (hlookup : db.cases.lookup k = some r)
    (hpending : r.sfSyncStatus = .pending) :
    attemptsLeft db k = maxAttempts - r.sfSyncAttempts := by
  rw [attemptsLeft, hlookup, Option.elim_some, rowAttemptsLeft, if_pos hpending]

/-- A case that has attempts left waits. -/
lemma exists_pending (h : attemptsLeft db k ≠ 0) :
    ∃ r, db.cases.lookup k = some r ∧ r.sfSyncStatus = .pending := by
  rw [attemptsLeft] at h
  cases hlookup : db.cases.lookup k with
  | none => simp [hlookup] at h
  | some r =>
    refine ⟨r, rfl, ?_⟩
    by_contra hpending
    simp [hlookup, rowAttemptsLeft, hpending] at h

/-- A case of the table never has more attempts left than before. -/
lemma attemptsLeft_le (h : after limit db e = some db') (hk : db.cases.lookup k ≠ none) :
    attemptsLeft db' k ≤ attemptsLeft db k := by
  by_cases hzero : attemptsLeft db' k = 0
  · rw [hzero]
    exact Nat.zero_le _
  · obtain ⟨r', hlookup, hpending⟩ := exists_pending hzero
    rcases waitedBefore h hlookup hpending with ⟨r, hbefore⟩ | ⟨hnone, -⟩
    · have hlookup' := hbefore.lookup
      rw [Table.key_of_lookup hlookup] at hlookup'
      rw [attemptsLeft_of_pending hlookup hpending,
        attemptsLeft_of_pending hlookup' hbefore.pending]
      exact Nat.sub_le_sub_left hbefore.attempts _
    · exact absurd hnone hk

/-- A case that a pass attempts has fewer left. -/
lemma attemptsLeft_lt {sf : SfClient} {now : String → Instant} {service : SfService}
    (h : after limit db (.pass sf now service) = some db') (hleft : AttemptsLeft db)
    (hr : r ∈ fetchPending db.cases limit) :
    attemptsLeft db' r.caseId < attemptsLeft db r.caseId := by
  have hbatch := pendingBatch_fetchPending db.cases limit
  have hbefore := hleft r (Table.mem_rows_of_lookup (hbatch.lookup r hr)) (hbatch.pending r hr)
  rw [attemptsLeft_of_pending (hbatch.lookup r hr) (hbatch.pending r hr)]
  by_cases hzero : attemptsLeft db' r.caseId = 0
  · rw [hzero]
    exact Nat.sub_pos_of_lt hbefore
  · obtain ⟨r', hlookup, hpending⟩ := exists_pending hzero
    obtain ⟨st, entries, rfl, hdone⟩ := exists_loopDone h
    obtain ⟨-, hattempts, hlt⟩ := retried hdone hbatch hr hlookup hpending
    rw [attemptsLeft_of_pending hlookup hpending]
    omega

/-! ### Rounds -/

lemma fetchPending_sorted (cases : CaseTable) :
    ((cases.rows.filter fun r => r.sfSyncStatus = .pending).insertionSort
      fun a b => a.createdAt ≤ b.createdAt).Pairwise fun a b => a.createdAt ≤ b.createdAt :=
  List.pairwise_insertionSort _ _

/-- A case that is not fetched has a full batch of cases before it. -/
lemma full_of_not_fetched (hlookup : db.cases.lookup r.caseId = some r)
    (hpending : r.sfSyncStatus = .pending) (hnot : r ∉ fetchPending db.cases limit) :
    (fetchPending db.cases limit).length = limit ∧
      ∀ x ∈ fetchPending db.cases limit, x.createdAt ≤ r.createdAt := by
  let sorted := (db.cases.rows.filter fun r => r.sfSyncStatus = .pending).insertionSort
    fun a b => a.createdAt ≤ b.createdAt
  have hmem : r ∈ sorted := by
    rw [List.mem_insertionSort, List.mem_filter]
    exact ⟨Table.mem_rows_of_lookup hlookup, by simpa using hpending⟩
  have hdrop : r ∈ sorted.drop limit := by
    rw [← List.take_append_drop limit sorted, List.mem_append] at hmem
    exact hmem.resolve_left hnot
  have hsorted : (sorted.take limit ++ sorted.drop limit).Pairwise
      fun a b => a.createdAt ≤ b.createdAt := by
    rw [List.take_append_drop]
    exact fetchPending_sorted db.cases
  refine ⟨?_, fun x hx => (List.pairwise_append.mp hsorted).2.2 x hx r hdrop⟩
  have hlong : limit < sorted.length := by
    have hpos := List.length_pos_of_mem hdrop
    rw [List.length_drop] at hpos
    omega
  exact List.length_take_of_le hlong.le

/-- A case created at an instant waits, and those that may go before it are known. -/
structure WaitInv (caseId : String) (t : Instant) (ahead : Finset String) (db : CaseDb) : Prop where
  waits : ∃ r, db.cases.lookup caseId = some r ∧ r.sfSyncStatus = .pending ∧ r.createdAt = t
  left : AttemptsLeft db
  covers : ∀ r ∈ db.cases.rows, r.sfSyncStatus = .pending → r.createdAt ≤ t →
    r.caseId = caseId ∨ r.caseId ∈ ahead
  known : ∀ k ∈ ahead, db.cases.lookup k ≠ none

variable {caseId : String} {t : Instant} {ahead : Finset String} {events : List PushEvent}

lemma WaitInv.after (hinv : WaitInv caseId t ahead db) (h : after limit db e = some db')
    (hlater : CreatesAfter t e) (hlookup : db'.cases.lookup caseId = some r')
    (hpending : r'.sfSyncStatus = .pending) : WaitInv caseId t ahead db' where
  waits := by
    obtain ⟨r, hr, -, hcreated⟩ := hinv.waits
    rcases waitedBefore h hlookup hpending with ⟨r₀, hbefore⟩ | ⟨hnone, -⟩
    · have hr₀ := hbefore.lookup
      rw [Table.key_of_lookup hlookup, hr] at hr₀
      obtain rfl := Option.some.inj hr₀
      exact ⟨r', hlookup, hpending, hbefore.createdAt.trans hcreated⟩
    · rw [hr] at hnone
      cases hnone
  left := hinv.left.after h
  covers x hx hxpending hxcreated := by
    rcases waitedBefore h (Table.lookup_of_mem hx) hxpending with ⟨r, hbefore⟩ | hinserted
    · rw [← Table.key_of_lookup hbefore.lookup]
      exact hinv.covers r (Table.mem_rows_of_lookup hbefore.lookup) hbefore.pending
        (hbefore.createdAt ▸ hxcreated)
    · -- a case that is inserted was created later
      obtain ⟨-, now, anomaly, refs, rfl, hcreated⟩ := hinserted
      have hnow : t < x.createdAt := hcreated ▸ hlater
      exact absurd hxcreated (not_le.mpr hnow)
  known k hk := lookup_ne_none h (hinv.known k hk)

lemma WaitInv.noMoreLeft (hinv : WaitInv caseId t ahead db)
    (h : PushTurns.after limit db e = some db') :
    NoMoreLeft caseId ahead (attemptsLeft db) (attemptsLeft db') := by
  rintro k (rfl | hk)
  · obtain ⟨r, hr, -⟩ := hinv.waits
    exact attemptsLeft_le h (by rw [hr]; exact Option.some_ne_none r)
  · exact attemptsLeft_le h (hinv.known k hk)

/-- A pass is a round: it attempts the case, or a full batch of those ahead of it. -/
lemma WaitInv.retryRound {sf : SfClient} {now : String → Instant} {service : SfService}
    (hinv : WaitInv caseId t ahead db)
    (h : PushTurns.after limit db (.pass sf now service) = some db') :
    RetryRound caseId ahead limit (attemptsLeft db) (attemptsLeft db') where
  noMoreLeft := hinv.noMoreLeft h
  full := by
    obtain ⟨r, hlookup, hpending, hcreated⟩ := hinv.waits
    have hid := Table.key_of_lookup hlookup
    by_cases hfetched : r ∈ fetchPending db.cases limit
    · left
      rw [← hid]
      exact attemptsLeft_lt h hinv.left hfetched
    · right
      rw [← hid] at hlookup
      obtain ⟨hlength, hbefore⟩ := full_of_not_fetched hlookup hpending hfetched
      have hbatch := pendingBatch_fetchPending db.cases limit
      refine ⟨((fetchPending db.cases limit).map CaseRow.caseId).toFinset, ?_, ?_, ?_⟩
      · intro k hk
        obtain ⟨x, hx, rfl⟩ := List.mem_map.mp (List.mem_toFinset.mp hk)
        have hrow := Table.mem_rows_of_lookup (hbatch.lookup x hx)
        apply (hinv.covers x hrow (hbatch.pending x hx) (hcreated ▸ hbefore x hx)).resolve_left
        intro hsame
        have heq := Table.row_eq_of_key_eq hrow (Table.mem_rows_of_lookup hlookup)
          (hsame.trans hid.symm)
        exact hfetched (heq ▸ hx)
      · rw [List.toFinset_card_of_nodup hbatch.nodup, List.length_map, hlength]
      · intro k hk
        obtain ⟨x, hx, rfl⟩ := List.mem_map.mp (List.mem_toFinset.mp hk)
        exact attemptsLeft_lt h hinv.left hx

/-! ### Runs -/

/-- A case that waits in the end has waited since it was there. -/
lemma exists_pending_before (hrun : afterAll limit events db = some db')
    (hknown : db.cases.lookup caseId ≠ none)
    (hwaits : ∃ r, db'.cases.lookup caseId = some r ∧ r.sfSyncStatus = .pending) :
    ∃ r, db.cases.lookup caseId = some r ∧ r.sfSyncStatus = .pending := by
  induction events generalizing db with
  | nil =>
    obtain rfl := Option.some.inj hrun
    exact hwaits
  | cons e events ih =>
    obtain ⟨mid, hstep, hrest⟩ := Option.bind_eq_some_iff.mp hrun
    obtain ⟨r', hlookup, hpending⟩ := ih hrest (lookup_ne_none hstep hknown)
    rcases waitedBefore hstep hlookup hpending with ⟨r, hbefore⟩ | ⟨hnone, -⟩
    · exact ⟨r, Table.key_of_lookup hlookup ▸ hbefore.lookup, hbefore.pending⟩
    · exact absurd hnone hknown

lemma WaitInv.retryRounds (hinv : WaitInv caseId t ahead db)
    (hrun : afterAll limit events db = some db') (hlater : ∀ e ∈ events, CreatesAfter t e)
    (hwaits : ∃ r, db'.cases.lookup caseId = some r ∧ r.sfSyncStatus = .pending) :
    WaitInv caseId t ahead db' ∧ RetryRounds caseId ahead limit (events.countP isPass)
      (attemptsLeft db) (attemptsLeft db') := by
  induction events generalizing db with
  | nil =>
    obtain rfl := Option.some.inj hrun
    exact ⟨hinv, .refl _⟩
  | cons e events ih =>
    obtain ⟨mid, hstep, hrest⟩ := Option.bind_eq_some_iff.mp hrun
    obtain ⟨r, hr, -⟩ := hinv.waits
    have hknown : db.cases.lookup caseId ≠ none := by
      rw [hr]
      exact Option.some_ne_none r
    obtain ⟨r', hlookup, hpending⟩ :=
      exists_pending_before hrest (lookup_ne_none hstep hknown) hwaits
    obtain ⟨hend, hrounds⟩ := ih (hinv.after hstep (hlater e List.mem_cons_self) hlookup hpending)
      hrest fun e' he' => hlater e' (List.mem_cons_of_mem e he')
    refine ⟨hend, ?_⟩
    cases e with
    | pass sf now service =>
      rw [List.countP_cons_of_pos rfl]
      exact .round (hinv.retryRound hstep) hrounds
    | insert now anomaly caseId refs =>
      rw [List.countP_cons_of_neg (by simp [isPass])]
      exact .quiet (hinv.noMoreLeft hstep) hrounds
    | apply now rec =>
      rw [List.countP_cons_of_neg (by simp [isPass])]
      exact .quiet (hinv.noMoreLeft hstep) hrounds

lemma waitInv_start {c : CaseRow} (hc : db.cases.lookup c.caseId = some c)
    (hpending : c.sfSyncStatus = .pending) (hleft : AttemptsLeft db) :
    WaitInv c.caseId c.createdAt ((rowsAhead db c).map CaseRow.caseId).toFinset db where
  waits := ⟨c, hc, hpending, rfl⟩
  left := hleft
  covers r hr hrpending hcreated := by
    by_cases hid : r.caseId = c.caseId
    · exact .inl hid
    · right
      rw [List.mem_toFinset]
      exact List.mem_map_of_mem (List.mem_filter.mpr ⟨hr, by simp [hrpending, hcreated, hid]⟩)
  known k hk := by
    obtain ⟨r, hr, rfl⟩ := List.mem_map.mp (List.mem_toFinset.mp hk)
    rw [Table.lookup_of_mem (List.mem_of_mem_filter hr)]
    exact Option.some_ne_none r

lemma sum_attemptsLeft (db : CaseDb) (c : CaseRow) :
    ∑ k ∈ ((rowsAhead db c).map CaseRow.caseId).toFinset, attemptsLeft db k =
      ((rowsAhead db c).map fun r => maxAttempts - r.sfSyncAttempts).sum := by
  have hnodup : ((rowsAhead db c).map CaseRow.caseId).Nodup :=
    (List.filter_sublist.map _).nodup db.cases.nodup
  rw [List.sum_toFinset _ hnodup, List.map_map]
  congr 1
  apply List.map_congr_left
  intro r hr
  obtain ⟨hrow, hahead⟩ := List.mem_filter.mp hr
  have hpending : r.sfSyncStatus = .pending := (of_decide_eq_true hahead).1
  exact attemptsLeft_of_pending (Table.lookup_of_mem hrow) hpending

/-- A case that still waits after some passes has waited for no more of them than the attempts left
to it and, a full batch at a time, to the cases that were created no later. -/
theorem settled_within_passes (limit : ℕ) (db db' : CaseDb) (c : CaseRow) (events : List PushEvent)
    (hc : db.cases.lookup c.caseId = some c) (hleft : AttemptsLeft db)
    (hlater : ∀ e ∈ events, CreatesAfter c.createdAt e)
    (hrun : afterAll limit events db = some db')
    (hwaits : ∃ r, db'.cases.lookup c.caseId = some r ∧ r.sfSyncStatus = .pending) :
    limit * (events.countP isPass + 1) ≤ limit * (maxAttempts - c.sfSyncAttempts) +
      ((rowsAhead db c).map fun r => maxAttempts - r.sfSyncAttempts).sum := by
  have hknown : db.cases.lookup c.caseId ≠ none := by
    rw [hc]
    exact Option.some_ne_none c
  have hpending : c.sfSyncStatus = .pending := by
    obtain ⟨r, hr, hpending⟩ := exists_pending_before hrun hknown hwaits
    rw [hc] at hr
    exact Option.some.inj hr ▸ hpending
  obtain ⟨hend, hrounds⟩ := (waitInv_start hc hpending hleft).retryRounds hrun hlater hwaits
  have hbound := hrounds.placesLeft_add_le
  rw [placesLeft, placesLeft, sum_attemptsLeft, attemptsLeft_of_pending hc hpending] at hbound
  -- the case that still waits has an attempt left
  have hlast : limit ≤ limit * attemptsLeft db' c.caseId := by
    obtain ⟨r, hr, hrpending, -⟩ := hend.waits
    have hlt := hend.left r (Table.mem_rows_of_lookup hr) hrpending
    rw [attemptsLeft_of_pending hr hrpending]
    exact Nat.le_mul_of_pos_right limit (Nat.sub_pos_of_lt hlt)
  rw [Nat.mul_succ]
  omega

/-- Salesforce does not create a Case. -/
def refusingClient : SfClient where
  token _ := .ok ()
  query _ := .ok ["0120"]
  create _ := .error (.salesforceError (some 503) [])

/-- One case at a time is attempted, and the one that is not waits. -/
theorem second_case_waits :
    ∃ db', afterAll 1 [.pass refusingClient (fun _ => 1000000) {}] waitingDb =
      some db' ∧
    1 * (1 + 1) ≤ 1 * (maxAttempts - (waitingRow "CASE-2").sfSyncAttempts) +
      ((rowsAhead waitingDb (waitingRow "CASE-2")).map fun r => maxAttempts - r.sfSyncAttempts).sum := by
  have hsome : (afterAll 1 [.pass refusingClient (fun _ => 1000000) {}] waitingDb).isSome := by decide
  obtain ⟨db', hrun⟩ := Option.isSome_iff_exists.mp hsome
  refine ⟨db', hrun, settled_within_passes 1 waitingDb db' (waitingRow "CASE-2") _ rfl ?_ ?_ hrun ?_⟩
  · unfold AttemptsLeft
    decide
  · intro e he
    obtain rfl := List.mem_singleton.mp he
    trivial
  · have hlookup : (afterAll 1 [.pass refusingClient (fun _ => 1000000) {}] waitingDb).bind
        (fun db => db.cases.lookup "CASE-2") = some (waitingRow "CASE-2") := by decide
    rw [hrun, Option.bind_some] at hlookup
    exact ⟨waitingRow "CASE-2", hlookup, rfl⟩

end FleetMonitor.PushTurns
