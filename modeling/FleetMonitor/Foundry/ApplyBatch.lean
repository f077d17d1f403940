import FleetMonitor.Archive.FlightArchive
import FleetMonitor.Foundry.FlightLifecycle
import FleetMonitor.Foundry.SyncErrors

/-!
# Batches of Actions

`_apply_batch` posts its parameter maps chunk by chunk, every POST under `transient_retry`, and goes
on only when a chunk has been posted. A tenant that applies nothing when a POST raises has therefore
applied the chunks before the one that fails, each once and in order.
-/

namespace FleetMonitor

open Library Library.StoreMove

/-! ### Chunks as slices -/

section Chunks

variable {α : Type} {size : ℕ} {items chunk : List α}

/-- `items[i : i + size]`, where `i` is the start of the `k`-th chunk. -/
def slice (size : ℕ) (items : List α) (k : ℕ) : List α := (items.drop (k * size)).take size

lemma slice_succ (k : ℕ) : slice size items (k + 1) = slice size (items.drop size) k := by
  rw [slice, slice, List.drop_drop, Nat.succ_mul, Nat.add_comm]

lemma length_drop_le {fuel : ℕ} (hsize : 0 < size) (hfuel : items.length ≤ fuel + 1) :
    (items.drop size).length ≤ fuel := by
  rw [List.length_drop]
  omega

lemma chunks_go_getElem? (hsize : 0 < size) {fuel : ℕ} (hfuel : items.length ≤ fuel) (k : ℕ) :
    (chunks.go size fuel items)[k]? =
      if k * size < items.length then some (slice size items k) else none := by
  induction fuel generalizing items k with
  | zero =>
    obtain rfl := List.length_eq_zero_iff.mp (Nat.le_zero.mp hfuel)
    simp [chunks.go]
  | succ fuel ih =>
    cases items with
    | nil => simp [chunks.go]
    | cons x xs =>
      rw [chunks.go]
      · cases k with
        | zero => simp [slice]
        | succ k =>
          have hlt :
              k * size < ((x :: xs).drop size).length ↔ (k + 1) * size < (x :: xs).length := by
            rw [List.length_drop, Nat.succ_mul, Nat.lt_sub_iff_add_lt]
          rw [List.getElem?_cons_succ, ih (length_drop_le hsize hfuel), slice_succ]
          simp only [hlt]
      · simp

/-- The `k`-th chunk is the slice that starts at `k * size`. -/
lemma chunks_getElem? (hsize : 0 < size) (items : List α) (k : ℕ) :
    (chunks size items)[k]? =
      if k * size < items.length then some (slice size items k) else none :=
  chunks_go_getElem? hsize le_rfl k

/-- The first chunks are the first items. -/
lemma flatten_take_chunks (hsize : 0 < size) (items : List α) (k : ℕ) :
    ((chunks size items).take k).flatten = items.take (k * size) := by
  induction k with
  | zero => simp
  | succ k ih =>
    rw [List.take_add_one, List.flatten_append, ih, chunks_getElem? hsize, Nat.succ_mul,
      List.take_add]
    split_ifs with hlt
    · simp [slice]
    · simp [List.drop_eq_nil_of_le (not_lt.mp hlt)]

/-- Every chunk has an item, and at most `size`. -/
lemma length_of_mem_chunks (hsize : 0 < size) (h : chunk ∈ chunks size items) :
    1 ≤ chunk.length ∧ chunk.length ≤ size := by
  obtain ⟨k, hk⟩ := List.mem_iff_getElem?.mp h
  rw [chunks_getElem? hsize] at hk
  split_ifs at hk with hlt
  obtain rfl := Option.some.inj hk
  rw [slice, List.length_take, List.length_drop]
  omega

end Chunks

/-! ### Posting -/

/-- The answer to a POST: what the tenant applies of the chunk, and what the client makes of it. -/
structure PostReply (P : Type) where
  applied : List P
  outcome : Except HttpError Unit

/-- The answers to the POSTs, by the number of the chunk, the attempt and the chunk. -/
abbrev ActionService (P : Type) := ℕ → ℕ → List P → PostReply P

/-- A POST that has been made. -/
structure Post (P : Type) where
  chunk : List P
  reply : PostReply P

/-- The tenant takes a chunk as a whole, and nothing of it when the POST raises. -/
structure AllOrNothing {P : Type} (service : ActionService P) : Prop where
  posted : ∀ k n chunk, (service k n chunk).outcome = .ok () → (service k n chunk).applied = chunk
  raised : ∀ k n chunk e, (service k n chunk).outcome = .error e → (service k n chunk).applied = []

variable {P : Type} (service : ActionService P)

/-- `_post_chunk`, with the POSTs it makes. -/
def postChunk (index : ℕ) (chunk : List P) : List (Post P) × Except HttpError Unit :=
  let attempt n := (service index n chunk).outcome
  ((attemptsMade shouldRetry attempt 3).map fun n => ⟨chunk, service index n chunk⟩,
    transientRetry attempt)

/-- The loop of `_apply_batch`. -/
def applyChunks : ℕ → ℕ → List (List P) → List (Post P) × Except HttpError ℕ
  | _, succeeded, [] => ([], .ok succeeded)
  | index, succeeded, chunk :: later =>
    match postChunk service index chunk with
    | (posts, .error e) => (posts, .error e)
    | (posts, .ok ()) =>
      let (more, result) := applyChunks (index + 1) (succeeded + chunk.length) later
      (posts ++ more, result)

/-- `_apply_batch`. -/
def applyBatch (paramDicts : List P) : List (Post P) × Except HttpError BatchResult :=
  let (posts, result) := applyChunks service 0 0 (chunks maxBatch paramDicts)
  (posts, result.map fun succeeded => { attempted := paramDicts.length, succeeded })

/-- What the POSTs have applied, in pieces. -/
def appliedPieces (posts : List (Post P)) : List (List P) :=
  (posts.map fun post => post.reply.applied).filter (· ≠ [])

variable {service} {index succeeded k : ℕ} {chunk : List P} {chunksLeft : List (List P)}
  {posts : List (Post P)} {e : HttpError}

@[simp] lemma appliedPieces_nil : appliedPieces ([] : List (Post P)) = [] := rfl

lemma appliedPieces_append (posts more : List (Post P)) :
    appliedPieces (posts ++ more) = appliedPieces posts ++ appliedPieces more := by
  simp [appliedPieces]

/-- POSTs that all raise apply nothing. -/
lemma appliedPieces_of_raised (hservice : AllOrNothing service) {attempts : List ℕ}
    (h : ∀ n ∈ attempts, ∃ e, (service index n chunk).outcome = .error e) :
    appliedPieces (attempts.map fun n => ⟨chunk, service index n chunk⟩) = [] := by
  apply List.filter_eq_nil_iff.mpr
  intro piece hpiece
  rw [List.map_map] at hpiece
  obtain ⟨n, hn, rfl⟩ := List.mem_map.mp hpiece
  obtain ⟨e, he⟩ := h n hn
  simp [hservice.raised index n chunk e he]

lemma chunk_of_mem_postChunk {post : Post P} (h : post ∈ (postChunk service index chunk).1) :
    post.chunk = chunk := by
  obtain ⟨n, -, rfl⟩ := List.mem_map.mp h
  rfl

/-- A chunk that is posted is applied once, whatever attempts it takes. -/
lemma postChunk_of_ok (hservice : AllOrNothing service) (hchunk : chunk ≠ [])
    (h : (postChunk service index chunk).2 = .ok ()) :
    appliedPieces (postChunk service index chunk).1 = [chunk] := by
  obtain ⟨failed, m, hmade, hfailed, hm⟩ := attemptsFrom_of_ok h
  have hlast : appliedPieces [(⟨chunk, service index m chunk⟩ : Post P)] = [chunk] := by
    simp [appliedPieces, hservice.posted index m chunk hm, hchunk]
  show appliedPieces ((attemptsFrom shouldRetry _ 2 0).map _) = [chunk]
  rw [hmade, List.map_append, appliedPieces_append, appliedPieces_of_raised hservice hfailed]
  exact hlast

/-- A chunk that fails is not applied, though it may have been posted three times. -/
lemma postChunk_of_error (hservice : AllOrNothing service)
    (h : (postChunk service index chunk).2 = .error e) :
    appliedPieces (postChunk service index chunk).1 = [] :=
  appliedPieces_of_raised hservice (attemptsFrom_of_error h)

/-! ### The loop -/

lemma applyChunks_cons_ok (h : (postChunk service index chunk).2 = .ok ()) :
    applyChunks service index succeeded (chunk :: chunksLeft) =
      ((postChunk service index chunk).1 ++
          (applyChunks service (index + 1) (succeeded + chunk.length) chunksLeft).1,
        (applyChunks service (index + 1) (succeeded + chunk.length) chunksLeft).2) := by
  rw [applyChunks]
  split
  next posts e hpost => simp [hpost] at h
  next posts hpost => rw [hpost]

lemma applyChunks_cons_error (h : (postChunk service index chunk).2 = .error e) :
    applyChunks service index succeeded (chunk :: chunksLeft) =
      ((postChunk service index chunk).1, .error e) := by
  rw [applyChunks]
  split
  next posts e' hpost =>
    rw [hpost] at h ⊢
    rw [Except.error.inj h]
  next posts hpost => simp [hpost] at h

lemma chunk_mem_of_mem_applyChunks {post : Post P}
    (h : post ∈ (applyChunks service index succeeded chunksLeft).1) : post.chunk ∈ chunksLeft := by
  induction chunksLeft generalizing index succeeded with
  | nil => cases h
  | cons chunk later ih =>
    rcases hpost : (postChunk service index chunk).2 with e | u
    · rw [applyChunks_cons_error hpost] at h
      rw [chunk_of_mem_postChunk h]
      exact List.mem_cons_self
    · rw [applyChunks_cons_ok hpost] at h
      rcases List.mem_append.mp h with h | h
      · rw [chunk_of_mem_postChunk h]
        exact List.mem_cons_self
      · exact List.mem_cons_of_mem _ (ih h)

/-- The loop has posted the chunks up to the `k`-th. -/
def Posted (service : ActionService P) (index : ℕ) (chunksLeft : List (List P)) (k : ℕ) : Prop :=
  ∀ j < k, ∀ chunk ∈ chunksLeft[j]?, (postChunk service (index + j) chunk).2 = .ok ()

lemma posted_cons_iff : Posted service index (chunk :: chunksLeft) (k + 1) ↔
    (postChunk service index chunk).2 = .ok () ∧ Posted service (index + 1) chunksLeft k := by
  constructor
  · intro h
    refine ⟨h 0 k.succ_pos chunk rfl, fun j hj c hc => ?_⟩
    have hnext := h (j + 1) (Nat.succ_lt_succ hj) c hc
    rwa [Nat.add_comm j 1, ← Nat.add_assoc] at hnext
  · rintro ⟨hfirst, hlater⟩ j hj c hc
    cases j with
    | zero =>
      obtain rfl := Option.some.inj hc
      exact hfirst
    | succ j =>
      rw [Nat.add_comm j 1, ← Nat.add_assoc]
      exact hlater j (Nat.lt_of_succ_lt_succ hj) c hc

variable (succeeded) in
/-- The loop returns when it has posted all chunks; it has then applied each of them once. -/
lemma applyChunks_of_posted (hservice : AllOrNothing service) (hne : ∀ c ∈ chunksLeft, c ≠ [])
    (h : Posted service index chunksLeft chunksLeft.length) :
    (applyChunks service index succeeded chunksLeft).2 =
        .ok (succeeded + chunksLeft.flatten.length) ∧
      appliedPieces (applyChunks service index succeeded chunksLeft).1 = chunksLeft := by
  induction chunksLeft generalizing index succeeded with
  | nil => exact ⟨rfl, rfl⟩
  | cons chunk later ih =>
    obtain ⟨hpost, hlater⟩ := posted_cons_iff.mp h
    obtain ⟨hresult, hpieces⟩ := ih (succeeded + chunk.length)
      (fun c hc => hne c (List.mem_cons_of_mem _ hc)) hlater
    have hown := postChunk_of_ok hservice (hne chunk List.mem_cons_self) hpost
    rw [applyChunks_cons_ok hpost]
    refine ⟨?_, ?_⟩
    · rw [hresult, List.flatten_cons, List.length_append, Nat.add_assoc]
    · rw [appliedPieces_append, hown, hpieces, List.singleton_append]

variable (succeeded) in
/-- The loop raises what the first chunk that fails raises; it has then applied the chunks before.
-/
lemma applyChunks_of_fails (hservice : AllOrNothing service) (hne : ∀ c ∈ chunksLeft, c ≠ [])
    (hbefore : Posted service index chunksLeft k) (hchunk : chunksLeft[k]? = some chunk)
    (hfails : (postChunk service (index + k) chunk).2 = .error e) :
    (applyChunks service index succeeded chunksLeft).2 = .error e ∧
      appliedPieces (applyChunks service index succeeded chunksLeft).1 = chunksLeft.take k := by
  induction chunksLeft generalizing index succeeded k with
  | nil => cases hchunk
  | cons first later ih =>
    cases k with
    | zero =>
      obtain rfl := Option.some.inj hchunk
      rw [Nat.add_zero] at hfails
      rw [applyChunks_cons_error hfails]
      exact ⟨rfl, postChunk_of_error hservice hfails⟩
    | succ k =>
      obtain ⟨hpost, hlater⟩ := posted_cons_iff.mp hbefore
      rw [Nat.add_comm k 1, ← Nat.add_assoc] at hfails
      obtain ⟨hresult, hpieces⟩ := ih (succeeded + first.length)
        (fun c hc => hne c (List.mem_cons_of_mem _ hc)) hlater hchunk hfails
      have hown := postChunk_of_ok hservice (hne first List.mem_cons_self) hpost
      rw [applyChunks_cons_ok hpost]
      refine ⟨hresult, ?_⟩
      rw [appliedPieces_append, hown, hpieces, List.singleton_append, List.take_succ_cons]

/-! ### Batches -/

variable {paramDicts : List P}

/-- What `_post_chunk` does for the `k`-th chunk of a batch. -/
def chunkOutcome (service : ActionService P) (paramDicts : List P) (k : ℕ) :
    Except HttpError Unit :=
  (postChunk service k (slice maxBatch paramDicts k)).2

/-- The batch has a `k`-th chunk, which is the first that fails. -/
structure FailsFirst (service : ActionService P) (paramDicts : List P) (k : ℕ) (e : HttpError) :
    Prop where
  lt : k * maxBatch < paramDicts.length
  before : ∀ j < k, chunkOutcome service paramDicts j = .ok ()
  fails : chunkOutcome service paramDicts k = .error e

/-- A batch is applied chunk by chunk: all of it and counted as such, or the chunks before the first
that fails. -/
structure AppliesInChunks (service : ActionService P) (paramDicts : List P) : Prop where
  sizes : ∀ post ∈ (applyBatch service paramDicts).1,
    1 ≤ post.chunk.length ∧ post.chunk.length ≤ maxBatch
  decided : (∀ k, k * maxBatch < paramDicts.length → chunkOutcome service paramDicts k = .ok ()) ∨
    ∃ k e, FailsFirst service paramDicts k e
  returns : (∀ k, k * maxBatch < paramDicts.length → chunkOutcome service paramDicts k = .ok ()) →
    (applyBatch service paramDicts).2 = .ok ⟨paramDicts.length, paramDicts.length, 0⟩ ∧
      appliedPieces (applyBatch service paramDicts).1 = chunks maxBatch paramDicts ∧
      (appliedPieces (applyBatch service paramDicts).1).flatten = paramDicts
  raises : ∀ k e, FailsFirst service paramDicts k e →
    (applyBatch service paramDicts).2 = .error e ∧
      appliedPieces (applyBatch service paramDicts).1 = (chunks maxBatch paramDicts).take k ∧
      (appliedPieces (applyBatch service paramDicts).1).flatten = paramDicts.take (k * maxBatch)

lemma applyBatch_fst : (applyBatch service paramDicts).1 =
    (applyChunks service 0 0 (chunks maxBatch paramDicts)).1 := rfl

lemma applyBatch_snd : (applyBatch service paramDicts).2 =
    (applyChunks service 0 0 (chunks maxBatch paramDicts)).2.map
      fun succeeded => { attempted := paramDicts.length, succeeded } := rfl

lemma maxBatch_pos : 0 < maxBatch := by decide

lemma ne_nil_of_mem_chunks (h : chunk ∈ chunks maxBatch paramDicts) : chunk ≠ [] := by
  apply List.ne_nil_of_length_pos
  exact (length_of_mem_chunks maxBatch_pos h).1

/-- The first chunks of a batch are posted when their slices are. -/
lemma posted_chunks (h : ∀ j < k, j * maxBatch < paramDicts.length →
    chunkOutcome service paramDicts j = .ok ()) :
    Posted service 0 (chunks maxBatch paramDicts) k := by
  intro j hj chunk hchunk
  rw [chunks_getElem? maxBatch_pos] at hchunk
  split_ifs at hchunk with hlt
  · obtain rfl := Option.some.inj hchunk
    rw [Nat.zero_add]
    exact h j hj hlt
  · cases hchunk

/-- Some chunk is the first that fails, unless all are posted. -/
lemma posted_or_failsFirst (service : ActionService P) (paramDicts : List P) :
    (∀ k, k * maxBatch < paramDicts.length → chunkOutcome service paramDicts k = .ok ()) ∨
      ∃ k e, FailsFirst service paramDicts k e := by
  refine or_iff_not_imp_left.mpr fun hnot => ?_
  push Not at hnot
  classical
  obtain ⟨hlt, hfails⟩ := Nat.find_spec hnot
  rcases hout : chunkOutcome service paramDicts (Nat.find hnot) with e | u
  · refine ⟨Nat.find hnot, e, hlt, fun j hj => ?_, hout⟩
    have hearlier : j * maxBatch < paramDicts.length :=
      (Nat.mul_le_mul_right maxBatch hj.le).trans_lt hlt
    by_contra hne
    exact Nat.find_min hnot hj ⟨hearlier, hne⟩
  · exact absurd hout hfails

lemma appliesInChunks (hservice : AllOrNothing service) (paramDicts : List P) :
    AppliesInChunks service paramDicts where
  sizes := fun post hpost =>
    length_of_mem_chunks maxBatch_pos (chunk_mem_of_mem_applyChunks hpost)
  decided := posted_or_failsFirst service paramDicts
  returns := fun hall => by
    obtain ⟨hresult, hpieces⟩ := applyChunks_of_posted 0 hservice
      (fun c => ne_nil_of_mem_chunks) (posted_chunks fun j _ => hall j)
    rw [applyBatch_fst, hpieces, flatten_chunks maxBatch_pos]
    refine ⟨?_, rfl, rfl⟩
    rw [applyBatch_snd, hresult, flatten_chunks maxBatch_pos, Nat.zero_add]
    rfl
  raises := fun k e hfails => by
    have hchunk : (chunks maxBatch paramDicts)[k]? = some (slice maxBatch paramDicts k) := by
      rw [chunks_getElem? maxBatch_pos, if_pos hfails.lt]
    have hown : (postChunk service (0 + k) (slice maxBatch paramDicts k)).2 = .error e := by
      rw [Nat.zero_add]
      exact hfails.fails
    obtain ⟨hresult, hpieces⟩ := applyChunks_of_fails 0 hservice
      (fun c => ne_nil_of_mem_chunks) (posted_chunks fun j hj _ => hfails.before j hj) hchunk hown
    rw [applyBatch_fst, hpieces, flatten_take_chunks maxBatch_pos]
    refine ⟨?_, rfl, rfl⟩
    rw [applyBatch_snd, hresult]
    rfl

/-! ### The counts of the archive -/

section Archive

variable {faults : Faults} {now grace retention : Instant} {cap : ℕ} {st : ArchiveState}
  {page : List OntologyObject} {pages : List (List OntologyObject)}

/-- A page that ends deletes as many flights as it archives. -/
lemma archivePage_balanced (h : (archivePage faults now grace cap retention page st).1 = .ok ())
    (hst : st.deleted = st.archived) :
    (archivePage faults now grace cap retention page st).2.deleted =
      (archivePage faults now grace cap retention page st).2.archived := by
  rw [archivePage] at h ⊢
  simp only at h ⊢
  split at h
  next => cases h
  next eligible past hscan =>
    split_ifs at h ⊢ with hnil hroom
    · exact hst
    · exact hst
    · obtain ⟨groups, files, trace, -, -, hmove⟩ := moveFlights_ok_cases h
      rw [hmove] at h ⊢
      obtain ⟨-, harchived, hdeleted⟩ := verifyThenDelete_ok h
      rw [harchived, hdeleted]
      exact congrArg (· + _) hst

lemma archivePages_balanced (h : (archivePages faults now grace cap retention pages st).1 = .ok ())
    (hst : st.deleted = st.archived) :
    (archivePages faults now grace cap retention pages st).2.deleted =
      (archivePages faults now grace cap retention pages st).2.archived := by
  induction pages generalizing st with
  | nil => exact hst
  | cons page pages ih =>
    rw [archivePages] at h ⊢
    split_ifs at h ⊢ with hfetch
    split at h
    next => cases h
    next st' hrun =>
      have hpage := archivePage_balanced (congrArg Prod.fst hrun) hst
      rw [hrun] at hpage
      split_ifs at h ⊢ with hcapped
      · exact hpage
      · exact ih h hpage

/-- No run of the archive returns fewer deletes than it has archived. -/
lemma runFlightArchive_balanced {start : Stores OntologyObject.pk ArchivedFlight}
    {result : FlightArchiveResult}
    (h : (runFlightArchive faults start pages now grace cap retention).1 = .ok result) :
    result.deleted = result.archived := by
  obtain ⟨st, hrun, hdeleted, harchived, -, -⟩ := runFlightArchive_ok h
  have hbalanced : (archivePages faults now grace cap retention pages {}).2.deleted =
      (archivePages faults now grace cap retention pages {}).2.archived :=
    archivePages_balanced (congrArg Prod.fst hrun) rfl
  rw [hrun] at hbalanced
  rw [hdeleted, harchived, hbalanced]

end Archive

/-- A tenant that is all or nothing has applied a prefix of the batch, whole chunks of it, and a run
of the archive never returns with fewer deletes than flights archived. -/
theorem applyBatch_in_order {P : Type} (service : ActionService P)
    (hservice : AllOrNothing service) (paramDicts : List P) :
    AppliesInChunks service paramDicts ∧
      ∀ (faults : Faults) (start : Stores OntologyObject.pk ArchivedFlight)
        (pages : List (List OntologyObject)) (now grace : Instant) (cap : ℕ) (retention : Instant),
        ¬∃ result, (runFlightArchive faults start pages now grace cap retention).1 = .ok result ∧
          result.deleted < result.archived := by
  refine ⟨appliesInChunks hservice paramDicts, ?_⟩
  rintro faults start pages now grace cap retention ⟨result, hrun, hlt⟩
  exact hlt.ne (runFlightArchive_balanced hrun)

/-- A tenant that is busy at first and refuses the third chunk. -/
def busyTenant : ActionService ℕ
  | 2, _, _     => ⟨[], .error (.status 400 "Bad Request")⟩
  | _, 0, _     => ⟨[], .error (.status 503 "Service Unavailable")⟩
  | _, _, chunk => ⟨chunk, .ok ()⟩

lemma busyTenant_allOrNothing : AllOrNothing busyTenant where
  posted := fun k n chunk h => by
    unfold busyTenant at h ⊢
    split at h <;> first | rfl | cases h
  raised := fun k n chunk e h => by
    unfold busyTenant at h ⊢
    split at h <;> first | rfl | cases h

theorem busyTenant_applies_two_chunks :
    (applyBatch busyTenant (List.range 250)).2 = .error (.status 400 "Bad Request") ∧
      (appliedPieces (applyBatch busyTenant (List.range 250)).1).flatten = List.range 200 := by
  have hfails : FailsFirst busyTenant (List.range 250) 2 (.status 400 "Bad Request") :=
    { lt := by
        rw [List.length_range]
        decide
      before := fun j hj => by
        rcases Nat.lt_succ_iff_lt_or_eq.mp hj with hj | rfl
        · obtain rfl := Nat.lt_one_iff.mp hj
          rfl
        · rfl
      fails := rfl }
  obtain ⟨hresult, -, hflatten⟩ :=
    (applyBatch_in_order busyTenant busyTenant_allOrNothing (List.range 250)).1.raises 2 _ hfails
  refine ⟨hresult, hflatten.trans ?_⟩
  rw [List.take_range]
  rfl

end FleetMonitor
