import FleetMonitor.Library.Runs
import FleetMonitor.Positions.LiveQuery
import Mathlib.Data.List.Dedup

/-!
# The aircraft reconcile

`reconcile_aircraft` fetches the live feed, then lists the tenant, then deletes what the feed does
not have. It runs beside the ingestion of positions and the positions sync. On its own, with a feed
that stays the same, it drains the tenant down to the live set, a capped number of aircraft a run.
-/

namespace FleetMonitor.AircraftReconcile

open Library

/-! ### The job -/

/-- `_AIRCRAFT_RECONCILE_DELETE_CAP`. -/
def aircraftReconcileDeleteCap : ℕ := 5000

/-- The in-scope aircraft of a feed. -/
def liveSet (response : LiveResponse) : List String :=
  ((response.items.filter fun p => inLiveScope p.toPosition).map (·.icao24)).dedup

/-- `list_aircraft_pks`, of the objects its pages had. -/
def aircraftPks (objs : List OntologyObject) : List String :=
  ((objs.filter (·.pk ≠ "")).map OntologyObject.pk).dedup

/-- `ReconcileResult`, with the ids that are about to be deleted in place of their number. -/
structure ReconcilePlan where
  live : ℕ
  tenant : ℕ
  orphans : ℕ
  toDelete : List String
  remaining : ℕ
  deriving DecidableEq, Repr

/-- The aircraft of the tenant that are not live. -/
def orphans (live pks : List String) : List String := sortedIds (pks.filter (· ∉ live))

/-- What `reconcile_aircraft` computes of its two reads. -/
def reconcilePlan (live pks : List String) : ReconcilePlan :=
  let orphans := orphans live pks
  let toDelete := orphans.take aircraftReconcileDeleteCap
  { live := live.length
    tenant := pks.length
    orphans := orphans.length
    toDelete
    remaining := orphans.length - toDelete.length }

/-- Where a run stands. -/
inductive ReconcilePhase where
  | idle
  | listing (live : List String) (objs : List OntologyObject)
  | deleting (rest : List String)
  deriving DecidableEq, Repr

inductive ReconcileAction where
  /-- The feed; `order` is the answer of the database. -/
  | fetch (order : List CurrentPosition)
  | page (objs : List OntologyObject)
  | plan
  /-- One chunk of `delete_aircraft_batch`. -/
  | delete (outcome : PostOutcome)
  /-- The run is over, or it fails. -/
  | stop

/-- One step of `reconcile_aircraft`; a page has objects of the tenant. -/
def reconcileStep (now : Instant) (positions : CurrentPositions) (tenant : ObjectSet) :
    ReconcilePhase → ReconcileAction → Option (ObjectSet × ReconcilePhase)
  | .idle, .fetch order =>
    (fetchPositionsLive now positions order).map fun response =>
      (tenant, if response.items = [] then .idle else .listing (liveSet response) [])
  | .listing live objs, .page page =>
    if ∀ o ∈ page, o ∈ tenant.rows then some (tenant, .listing live (objs ++ page)) else none
  | .listing live objs, .plan =>
    some (tenant, .deleting (reconcilePlan live (aircraftPks objs)).toDelete)
  | .deleting (id :: rest), .delete outcome =>
    some (if outcome.applied then tenant.delete ((id :: rest).take maxBatch) else tenant,
      outcome.phase (.deleting ((id :: rest).drop maxBatch)) (.deleting (id :: rest)) .idle)
  | _, .stop => some (tenant, .idle)
  | _, _     => none

/-- The deletes that are left. -/
def ReconcilePhase.pending : ReconcilePhase → List String
  | .deleting rest => rest
  | _              => []

/-- The aircraft of the delete that is issued next. -/
def ReconcilePhase.nextChunk (phase : ReconcilePhase) : List String := phase.pending.take maxBatch

variable {now : Instant} {positions : CurrentPositions} {tenant tenant' : ObjectSet}
  {phase phase' : ReconcilePhase} {a : ReconcileAction} {live pks : List String} {id : String}

/-! ### Orphans -/

lemma mem_orphans : id ∈ orphans live pks ↔ id ∈ pks ∧ id ∉ live := by
  rw [orphans, mem_sortedIds, List.mem_filter, decide_eq_true_eq]

lemma nodup_orphans (h : pks.Nodup) : (orphans live pks).Nodup :=
  (List.perm_insertionSort _ _).nodup_iff.mpr (h.filter _)

lemma sorted_orphans : (orphans live pks).Pairwise (· ≤ ·) :=
  List.pairwise_insertionSort _ _

/-- Two sorted lists without repetitions are the same when they have the same members. -/
lemma eq_of_sorted {xs ys : List String} (hxs : xs.Nodup) (hys : ys.Nodup)
    (hx : xs.Pairwise (· ≤ ·)) (hy : ys.Pairwise (· ≤ ·)) (h : ∀ id, id ∈ xs ↔ id ∈ ys) :
    xs = ys :=
  ((List.perm_ext_iff_of_nodup hxs hys).mpr h).eq_of_pairwise
    (fun _ _ _ _ hab hba => le_antisymm hab hba) hx hy

/-! ### Runs one after the other -/

/-- The tenant and the phase after a step, when nothing else writes. -/
def reconcileAlone (now : Instant) (positions : CurrentPositions)
    (s : ObjectSet × ReconcilePhase) (a : ReconcileAction) : Option (ObjectSet × ReconcilePhase) :=
  reconcileStep now positions s.1 s.2 a

/-- A run all of whose deletes are posted. -/
def runActionsOf (order : List CurrentPosition) (pages : List (List OntologyObject))
    (toDelete : List String) : List ReconcileAction :=
  .fetch order :: (pages.map .page ++
    .plan :: (chunks maxBatch toDelete).map fun _ => .delete .posted)

/-- The tenant after a run. -/
def reconcileOnce (live : List String) (tenant : ObjectSet) : ObjectSet :=
  tenant.delete (reconcilePlan live (aircraftPks tenant.rows)).toDelete

/-- The tenant after some runs with the same feed. -/
def tenantAfter (live : List String) : ℕ → ObjectSet → ObjectSet
  | 0, tenant     => tenant
  | n + 1, tenant => tenantAfter live n (reconcileOnce live tenant)

/-- The aircraft these runs delete, in order. -/
def deletedIn (live : List String) : ℕ → ObjectSet → List String
  | 0, _          => []
  | n + 1, tenant =>
    (reconcilePlan live (aircraftPks tenant.rows)).toDelete ++
      deletedIn live n (reconcileOnce live tenant)

lemma mem_aircraftPks : id ∈ aircraftPks tenant.rows ↔ id ≠ "" ∧ id ∈ tenant.keys := by
  simp only [aircraftPks, List.mem_dedup, List.mem_map, List.mem_filter, decide_eq_true_eq]
  constructor
  · rintro ⟨o, ⟨ho, hne⟩, rfl⟩
    exact ⟨hne, List.mem_map_of_mem ho⟩
  · rintro ⟨hne, hid⟩
    obtain ⟨o, ho, rfl⟩ := List.mem_map.mp hid
    exact ⟨o, ⟨ho, hne⟩, rfl⟩

lemma mem_aircraftPks_delete (ids : List String) :
    id ∈ aircraftPks (Table.delete tenant ids).rows ↔ id ∈ aircraftPks tenant.rows ∧ id ∉ ids := by
  rw [mem_aircraftPks, mem_aircraftPks, Table.mem_keys_delete, and_assoc]

/-- A run takes away the first orphans. -/
lemma orphans_reconcileOnce : orphans live (aircraftPks (reconcileOnce live tenant).rows) =
    (orphans live (aircraftPks tenant.rows)).drop aircraftReconcileDeleteCap := by
  have hnodup : (orphans live (aircraftPks tenant.rows)).Nodup :=
    nodup_orphans (List.nodup_dedup _)
  have hsplit := List.take_append_drop aircraftReconcileDeleteCap
    (orphans live (aircraftPks tenant.rows))
  have hdisjoint : List.Disjoint
      ((orphans live (aircraftPks tenant.rows)).take aircraftReconcileDeleteCap)
      ((orphans live (aircraftPks tenant.rows)).drop aircraftReconcileDeleteCap) :=
    List.disjoint_take_drop hnodup le_rfl
  refine eq_of_sorted (nodup_orphans (List.nodup_dedup _)) (hnodup.sublist (List.drop_sublist ..))
    sorted_orphans sorted_orphans.drop fun id => ?_
  rw [mem_orphans, reconcileOnce, mem_aircraftPks_delete]
  constructor
  · rintro ⟨⟨hid, hnot⟩, hlive⟩
    have hmem : id ∈ orphans live (aircraftPks tenant.rows) := mem_orphans.mpr ⟨hid, hlive⟩
    rw [← hsplit, List.mem_append] at hmem
    exact hmem.resolve_left hnot
  · intro hid
    obtain ⟨hpk, hlive⟩ := mem_orphans.mp (List.mem_of_mem_drop hid)
    exact ⟨⟨hpk, fun htake => hdisjoint htake hid⟩, hlive⟩

/-- Runs one after the other delete the orphans in order. -/
lemma deletedIn_eq (n : ℕ) : deletedIn live n tenant =
    (orphans live (aircraftPks tenant.rows)).take (n * aircraftReconcileDeleteCap) := by
  induction n generalizing tenant with
  | zero => simp [deletedIn]
  | succ n ih =>
    rw [deletedIn, ih, orphans_reconcileOnce, Nat.succ_mul, Nat.add_comm, List.take_add]
    rfl

lemma mem_keys_tenantAfter (n : ℕ) :
    id ∈ (tenantAfter live n tenant).keys ↔ id ∈ tenant.keys ∧ id ∉ deletedIn live n tenant := by
  induction n generalizing tenant with
  | zero => simp [tenantAfter, deletedIn]
  | succ n ih =>
    rw [tenantAfter, ih, deletedIn, reconcileOnce, Table.mem_keys_delete, List.mem_append, not_or,
      and_assoc]

lemma run_pages {objs : List OntologyObject} {pages : List (List OntologyObject)}
    (hpages : ∀ page ∈ pages, ∀ o ∈ page, o ∈ tenant.rows) :
    runActions (reconcileAlone now positions) (tenant, .listing live objs) (pages.map .page) =
      some (tenant, .listing live (objs ++ pages.flatten)) := by
  induction pages generalizing objs with
  | nil => simp [runActions]
  | cons page pages ih =>
    obtain ⟨hpage, hpages⟩ := List.forall_mem_cons.mp hpages
    rw [List.map_cons, runActions, reconcileAlone, reconcileStep, if_pos hpage, Option.bind_some,
      ih hpages, List.flatten_cons, List.append_assoc]

lemma run_deletes_go {fuel : ℕ} {rest : List String} (hfuel : rest.length ≤ fuel) :
    runActions (reconcileAlone now positions) (tenant, .deleting rest)
        ((chunks.go maxBatch fuel rest).map fun _ => .delete .posted) =
      some (tenant.delete rest, .deleting []) := by
  induction fuel generalizing rest tenant with
  | zero =>
    obtain rfl := List.length_eq_zero_iff.mp (Nat.le_zero.mp hfuel)
    simp [chunks.go, runActions, delete_nil]
  | succ fuel ih =>
    cases rest with
    | nil => simp [chunks.go, runActions, delete_nil]
    | cons first rest =>
      have hdrop : ((first :: rest).drop maxBatch).length ≤ fuel := by
        have hbatch : maxBatch = 100 := rfl
        rw [List.length_drop]
        simp only [List.length_cons] at hfuel ⊢
        omega
      rw [chunks.go, List.map_cons, runActions, reconcileAlone, reconcileStep]
      simp only [PostOutcome.applied, PostOutcome.phase, if_true, Option.bind_some]
      rw [ih hdrop, delete_delete, List.take_append_drop]
      simp

/-- A run on its own, with a feed that is not empty, leaves the tenant without its first orphans. -/
lemma run_reconcileOnce {order : List CurrentPosition} {response : LiveResponse}
    {pages : List (List OntologyObject)}
    (hfeed : fetchPositionsLive now positions order = some response)
    (hitems : response.items ≠ []) (hpages : pages.flatten = tenant.rows) :
    runActions (reconcileAlone now positions) (tenant, .idle)
        (runActionsOf order pages
          (reconcilePlan (liveSet response) (aircraftPks tenant.rows)).toDelete) =
      some (reconcileOnce (liveSet response) tenant, .deleting []) := by
  have hread : ∀ page ∈ pages, ∀ o ∈ page, o ∈ tenant.rows := by
    intro page hpage o ho
    rw [← hpages]
    exact List.mem_flatten.mpr ⟨page, hpage, ho⟩
  have hstart : reconcileAlone now positions (tenant, .idle) (.fetch order) =
      some (tenant, .listing (liveSet response) []) := by
    rw [reconcileAlone, reconcileStep, hfeed, Option.map_some, if_neg hitems]
  rw [runActionsOf, runActions, hstart, Option.bind_some, runActions_append, run_pages hread,
    Option.bind_some, runActions, reconcileAlone, reconcileStep, Option.bind_some,
    List.nil_append, hpages]
  exact run_deletes_go le_rfl

end FleetMonitor.AircraftReconcile
