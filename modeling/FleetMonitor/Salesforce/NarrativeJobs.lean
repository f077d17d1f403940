import FleetMonitor.Library.OwnedWrites
import FleetMonitor.Salesforce.Narrative
import Mathlib.Data.List.Dedup

/-!
# The jobs of an insert

The jobs that one insert of Cases enqueues have no Case in common, and each reads and writes only
its own Cases and the Tasks that are about them. So they leave the same org in whatever order they
run, and every Description they write is made from the one that triage left.
-/

namespace FleetMonitor

open Library

variable (p : NarrativePlatform)

/-! ### What is enqueued -/

lemma enqueueFrom_flatten (jobs : ℕ) (caseIds : List String) :
    (enqueueFrom jobs caseIds).flatten = caseIds.take (jobs * chunkSize) := by
  induction jobs generalizing caseIds with
  | zero => simp [enqueueFrom]
  | succ jobs ih =>
    cases caseIds with
    | nil => simp [enqueueFrom]
    | cons id caseIds =>
      rw [enqueueFrom, List.flatten_cons, ih, Nat.succ_mul, Nat.add_comm, ← List.take_add]
      intro h
      cases h

/-- The jobs have the first five hundred Cases, each Case once. -/
lemma enqueue_flatten (caseIds : List String) : (enqueue caseIds).flatten = caseIds.take 500 :=
  enqueueFrom_flatten maxJobs caseIds

lemma afterInsert_flatten (recordTypeId : String) (inserted : List OrgCase) :
    (afterInsert p recordTypeId inserted).2.flatten =
      (eligibleCases p recordTypeId inserted).take 500 := by
  simp only [afterInsert]
  split_ifs with hnone
  · simp [List.isEmpty_iff.mp hnone]
  · exact enqueue_flatten _

/-- The Cases a job is for. -/
def NarrativeJob.Owns (job : NarrativeJob) (caseId : String) : Prop := caseId ∈ job.caseIds

/-- These jobs are those of an insert. -/
def EnqueuedBy (recordTypeId : String) (inserted : List OrgCase) (jobs : List NarrativeJob) :
    Prop :=
  jobs.map (·.caseIds) = (afterInsert p recordTypeId inserted).2

variable {p} {recordTypeId : String} {inserted : List OrgCase} {jobs : List NarrativeJob}

lemma EnqueuedBy.flatten (h : EnqueuedBy p recordTypeId inserted jobs) :
    (jobs.map (·.caseIds)).flatten = (eligibleCases p recordTypeId inserted).take 500 := by
  rw [show jobs.map (·.caseIds) = _ from h, afterInsert_flatten]

lemma EnqueuedBy.mem_take (h : EnqueuedBy p recordTypeId inserted jobs) {job : NarrativeJob}
    (hjob : job ∈ jobs) {caseId : String} (hid : caseId ∈ job.caseIds) :
    caseId ∈ (eligibleCases p recordTypeId inserted).take 500 := by
  rw [← h.flatten, List.mem_flatten]
  exact ⟨job.caseIds, List.mem_map_of_mem hjob, hid⟩

/-- No Case is in two jobs of an insert. -/
lemma EnqueuedBy.pairwise_noSharedKey (h : EnqueuedBy p recordTypeId inserted jobs) :
    jobs.Pairwise (NoSharedKey NarrativeJob.Owns) := by
  have hnodup : ((jobs.map (·.caseIds)).flatten).Nodup := by
    rw [h.flatten, eligibleCases]
    exact (List.take_sublist _ _).nodup (List.nodup_dedup _)
  have hdisjoint := (List.nodup_flatten.mp hnodup).2
  rw [List.pairwise_map] at hdisjoint
  exact hdisjoint.imp fun hab id ha hb => hab ha hb

/-! ### What a job finds -/

namespace NarrativeJob

variable {job : NarrativeJob} {org org' : NarrativeOrg}

/-- The Tasks a job finds. -/
def notifications (job : NarrativeJob) (org : NarrativeOrg) : List OrgTask :=
  org.tasks.rows.filter fun t => t.whatId ∈ job.caseIds ∧ isNotification t

/-- Of the Tasks put under a key the last one is read. -/
lemma foldl_put (found : List OrgTask) (byCase : String → Option OrgTask) (caseId : String) :
    found.foldl (fun byCase (t : OrgTask) => Function.update byCase t.whatId (some t)) byCase caseId =
      (found.reverse.find? (·.whatId = caseId)).or (byCase caseId) := by
  induction found generalizing byCase with
  | nil => rfl
  | cons t found ih =>
    rw [List.foldl_cons, ih, List.reverse_cons, List.find?_append, Option.or_assoc]
    by_cases ht : t.whatId = caseId
    · simp [ht]
    · simp [ht, Function.update_of_ne (Ne.symm ht)]

lemma notifByCase_eq_find (caseId : String) : job.notifByCase org caseId =
    (job.order (job.notifications org)).reverse.find? (·.whatId = caseId) := by
  simp [notifByCase, notifications, foldl_put]

lemma notifByCase_mem {caseId : String} {t : OrgTask} (h : job.notifByCase org caseId = some t) :
    t ∈ job.notifications org ∧ t.whatId = caseId := by
  rw [notifByCase_eq_find] at h
  have hmem := List.mem_reverse.mp (List.mem_of_find?_eq_some h)
  exact ⟨(job.order_perm _).mem_iff.mp hmem, by simpa using List.find?_some h⟩

/-- The only Task found for a Case is the one that counts. -/
lemma notifByCase_eq {t : OrgTask} (ht : t ∈ job.notifications org)
    (honly : ∀ u ∈ job.notifications org, u.whatId = t.whatId → u = t) :
    job.notifByCase org t.whatId = some t := by
  have hsome : (job.notifByCase org t.whatId).isSome := by
    rw [notifByCase_eq_find, List.find?_isSome]
    exact ⟨t, List.mem_reverse.mpr ((job.order_perm _).mem_iff.mpr ht), by simp⟩
  obtain ⟨u, hu⟩ := Option.isSome_iff_exists.mp hsome
  obtain ⟨hmem, hid⟩ := notifByCase_mem hu
  rw [hu, honly u hmem hid]

/-! ### What a job writes -/

/-- A text that the model gave for a Case, not blank. -/
structure Answered (p : NarrativePlatform) (job : NarrativeJob) (c : OrgCase)
    (part : NarrativeParts → Option String) (text : String) : Prop where
  owns : job.Owns c.id
  answered : ∃ raw, job.complete (buildPrompt p c) = .ok raw ∧ part (parseNarrative p raw) = some text
  nonBlank : isBlankText p.toTriagePlatform text = false

lemma nonBlank_eq_some_iff {text : Option String} {s : String} :
    nonBlank p text = some s ↔ text = some s ∧ isBlankText p.toTriagePlatform s = false := by
  simp [nonBlank, Option.filter_eq_some_iff]

lemma parts_eq_some_iff {c : OrgCase} {out : NarrativeParts} : job.parts p c = some out ↔
    ∃ raw, job.complete (buildPrompt p c) = .ok raw ∧ parseNarrative p raw = out := by
  rw [parts]
  cases job.complete (buildPrompt p c) <;> simp

/-- The Task and the Description a Case gives. -/
lemma taskUpdate_eq_some_iff {c : OrgCase} (hc : job.Owns c.id) {t : OrgTask}
    {description : String} :
    job.taskUpdate p org c = some (t, description) ↔ job.notifByCase org c.id = some t ∧
      ∃ narrative, Answered p job c (·.narrative) narrative ∧
        description = abbreviate (mergeNarrative p t.description narrative) 32000 := by
  simp only [taskUpdate, Option.bind_eq_some_iff, Option.map_eq_some_iff, nonBlank_eq_some_iff,
    parts_eq_some_iff, Prod.mk.injEq]
  constructor
  · rintro ⟨out, ⟨raw, hraw, rfl⟩, notif, hnotif, narrative, ⟨hpart, hblank⟩, rfl, rfl⟩
    exact ⟨hnotif, narrative, ⟨hc, ⟨raw, hraw, hpart⟩, hblank⟩, rfl⟩
  · rintro ⟨hnotif, narrative, ⟨-, ⟨raw, hraw, hpart⟩, hblank⟩, rfl⟩
    exact ⟨_, ⟨raw, hraw, rfl⟩, t, hnotif, narrative, ⟨hpart, hblank⟩, rfl, rfl⟩

/-- A Task's new Description comes from the Case that the Task is about. -/
lemma descriptionFor_eq_some {taskId description : String}
    (h : job.descriptionFor p org taskId = some description) :
    ∃ c ∈ job.casesById org, ∃ t, t.id = taskId ∧
      job.taskUpdate p org c = some (t, description) := by
  obtain ⟨update, hmem, hsome⟩ := List.exists_of_findSome?_eq_some h
  obtain ⟨c, hc, hupdate⟩ := List.mem_filterMap.mp hmem
  split_ifs at hsome with hid
  obtain rfl := Option.some.inj hsome
  exact ⟨c, hc, update.1, hid, hupdate⟩

lemma mem_casesById {c : OrgCase} : c ∈ job.casesById org ↔ c ∈ org.cases.rows ∧ job.Owns c.id := by
  simp [casesById, Owns]

lemma mem_notifications {t : OrgTask} : t ∈ job.notifications org ↔
    t ∈ org.tasks.rows ∧ job.Owns t.whatId ∧ isNotification t := by
  simp [notifications, Owns]

variable (p) in
/-- What a job may make of a Case. -/
def CaseWritten (job : NarrativeJob) (c c' : OrgCase) : Prop :=
  ∃ text, Answered p job c (·.justification) text ∧
    c' = { c with severityJustification := some (abbreviate text 4096) }

variable (p) in
/-- What a job may make of a Task. -/
def TaskWritten (job : NarrativeJob) (org : NarrativeOrg) (t t' : OrgTask) : Prop :=
  isNotification t ∧ ∃ c ∈ org.cases.rows, c.id = t.whatId ∧
    ∃ text, Answered p job c (·.narrative) text ∧
      t' = { t with description := abbreviate (mergeNarrative p t.description text) 32000 }

lemma updatedCase_cases (c : OrgCase) :
    job.updatedCase p c = c ∨ CaseWritten p job c (job.updatedCase p c) := by
  rw [updatedCase]
  split_ifs with hsaved
  · cases hupdate : job.caseUpdate p c with
    | none => exact .inl rfl
    | some justification =>
      simp only [caseUpdate, Option.bind_eq_some_iff, Option.map_eq_some_iff, nonBlank_eq_some_iff,
        parts_eq_some_iff] at hupdate
      obtain ⟨out, ⟨raw, hraw, rfl⟩, text, ⟨hpart, hblank⟩, rfl⟩ := hupdate
      exact .inr ⟨text, ⟨hsaved.1, ⟨raw, hraw, hpart⟩, hblank⟩, rfl⟩
  · exact .inl rfl

lemma updatedTask_cases {t : OrgTask} (ht : t ∈ org.tasks.rows) :
    job.updatedTask p org t = t ∨ TaskWritten p job org t (job.updatedTask p org t) := by
  rw [updatedTask]
  split_ifs with hsaved
  · cases hdescription : job.descriptionFor p org t.id with
    | none => exact .inl rfl
    | some description =>
      obtain ⟨c, hc, u, hid, hupdate⟩ := descriptionFor_eq_some hdescription
      obtain ⟨hrow, howns⟩ := mem_casesById.mp hc
      obtain ⟨hnotif, text, hanswered, rfl⟩ := (taskUpdate_eq_some_iff howns).mp hupdate
      obtain ⟨hfound, hwhat⟩ := notifByCase_mem hnotif
      obtain ⟨hu, -, hnotification⟩ := mem_notifications.mp hfound
      obtain rfl := Table.row_eq_of_key_eq hu ht hid
      exact .inr ⟨hnotification, c, hrow, hwhat.symm, text, hanswered, rfl⟩
  · exact .inl rfl

@[simp] lemma updatedCase_id (c : OrgCase) : (job.updatedCase p c).id = c.id := by
  have hcases : job.updatedCase p c = c ∨ CaseWritten p job c (job.updatedCase p c) :=
    updatedCase_cases c
  rcases hcases with heq | ⟨text, -, heq⟩
  · rw [heq]
  · rw [heq]

@[simp] lemma updatedTask_whatId (t : OrgTask) : (job.updatedTask p org t).whatId = t.whatId := by
  rw [updatedTask]
  split_ifs
  · split <;> rfl
  · rfl

end NarrativeJob

/-! ### The org by Cases -/

/-- A Case and the Tasks about it, in their places. -/
def NarrativeOrg.at (org : NarrativeOrg) (caseId : String) :
    List (Option OrgCase) × List (Option OrgTask) :=
  (rowsAt (fun c : OrgCase => c.id) org.cases.rows caseId, rowsAt (·.whatId) org.tasks.rows caseId)

lemma NarrativeOrg.at_ext {org org' : NarrativeOrg} (h : org.at = org'.at) : org = org' := by
  apply NarrativeOrg.ext
  · exact Table.ext (rowsAt_ext (funext fun id => congrArg Prod.fst (congrFun h id)))
  · exact Table.ext (rowsAt_ext (funext fun id => congrArg Prod.snd (congrFun h id)))

lemma NarrativeOrg.at_fst_length (org : NarrativeOrg) (caseId : String) :
    (org.at caseId).1.length = org.cases.rows.length := List.length_map _

lemma NarrativeOrg.at_snd_length (org : NarrativeOrg) (caseId : String) :
    (org.at caseId).2.length = org.tasks.rows.length := List.length_map _

namespace NarrativeJob

variable {job : NarrativeJob} {org org' : NarrativeOrg}

lemma notifications_eq : job.notifications org =
    (org.tasks.rows.filter (·.whatId ∈ job.caseIds)).filter isNotification := by
  rw [notifications, List.filter_filter]
  congr 1
  funext t
  simp [Bool.and_comm]

/-- A job finds the same Cases and Tasks in orgs that agree on its own. -/
lemma finds_congr (h : ∀ caseId, job.Owns caseId → org.at caseId = org'.at caseId)
    {caseId : String} (hid : job.Owns caseId) :
    job.casesById org = job.casesById org' ∧ job.notifications org = job.notifications org' := by
  have hcases : org.cases.rows.length = org'.cases.rows.length := by
    rw [← org.at_fst_length caseId, h caseId hid, org'.at_fst_length]
  have htasks : org.tasks.rows.length = org'.tasks.rows.length := by
    rw [← org.at_snd_length caseId, h caseId hid, org'.at_snd_length]
  constructor
  · exact filter_eq_of_rowsAt _ (· ∈ job.caseIds) (fun id hmem => congrArg Prod.fst (h id hmem)) hcases
  · have hfilter := filter_eq_of_rowsAt (fun t : OrgTask => t.whatId) (· ∈ job.caseIds)
      (fun id hmem => congrArg Prod.snd (h id hmem)) htasks
    rw [notifications_eq, notifications_eq, hfilter]

lemma updatedTask_congr (hcases : job.casesById org = job.casesById org')
    (htasks : job.notifications org = job.notifications org') :
    job.updatedTask p org = job.updatedTask p org' := by
  have hnotif : job.notifByCase org = job.notifByCase org' := by
    funext id
    rw [notifByCase_eq_find, notifByCase_eq_find, htasks]
  have hupdate : job.taskUpdate p org = job.taskUpdate p org' := by
    funext c
    rw [taskUpdate, taskUpdate, hnotif]
  funext t
  rw [updatedTask, updatedTask, descriptionFor, descriptionFor, hcases, hupdate]

variable (p) in
/-- Each job reads and writes its own Cases and the Tasks about them. -/
lemma ownedWrites :
    OwnedWrites NarrativeOrg.at Owns fun org job => NarrativeJob.execute p job org where
  frame org job caseId hid := by
    have hcases : ∀ c ∈ org.cases.rows, c.id = caseId → job.updatedCase p c = c := by
      rintro c - rfl
      exact (updatedCase_cases c).resolve_right fun ⟨_, hanswered, _⟩ => hid hanswered.owns
    have htasks : ∀ t ∈ org.tasks.rows, t.whatId = caseId → job.updatedTask p org t = t := by
      rintro t ht rfl
      refine (updatedTask_cases ht).resolve_right ?_
      rintro ⟨-, c, -, hwhat, text, hanswered, -⟩
      exact hid (hwhat ▸ hanswered.owns)
    have hcaseRows := rowsAt_map_congr (g := id) updatedCase_id (fun _ => rfl) rfl hcases
    have htaskRows := rowsAt_map_congr (g := id) updatedTask_whatId (fun _ => rfl) rfl htasks
    rw [List.map_id] at hcaseRows htaskRows
    exact Prod.ext hcaseRows htaskRows
  congr org org' job h caseId hid := by
    obtain ⟨hcases, htasks⟩ := finds_congr h hid
    apply Prod.ext
    · exact rowsAt_map_congr updatedCase_id updatedCase_id (congrArg Prod.fst (h caseId hid))
        fun c _ _ => rfl
    · exact rowsAt_map_congr updatedTask_whatId updatedTask_whatId
        (congrArg Prod.snd (h caseId hid))
        fun t _ _ => congrFun (updatedTask_congr hcases htasks) t

end NarrativeJob

/-! ### Runs of the jobs -/

variable (p) in
/-- The jobs one after the other. -/
def runNarratives (org : NarrativeOrg) (jobs : List NarrativeJob) : NarrativeOrg :=
  jobs.foldl (fun org job => job.execute p org) org

variable (p) in
/-- The jobs of an insert leave the same Cases and Tasks in every order. -/
theorem narratives_any_order (recordTypeId : String) (inserted : List OrgCase) (org : NarrativeOrg)
    (jobs jobs' : List NarrativeJob) (hjobs : EnqueuedBy p recordTypeId inserted jobs)
    (hperm : jobs.Perm jobs') : runNarratives p org jobs = runNarratives p org jobs' :=
  (NarrativeJob.ownedWrites p).foldl_eq_of_perm (fun _ _ h => NarrativeOrg.at_ext h) hperm
    hjobs.pairwise_noSharedKey org

variable (p) in
/-- A Case is as it was, or is one of the Cases and has a justification that was given for it; a
Task is as it was, or is the notification of one of the Cases, whose narrative its first Description
was merged with. -/
structure NarrativesConfined (caseIds : List String) (jobs : List NarrativeJob)
    (org org' : NarrativeOrg) : Prop where
  cases : List.Forall₂ (fun c c' => c' = c ∨
    c.id ∈ caseIds ∧ ∃ job ∈ jobs, NarrativeJob.CaseWritten p job c c') org.cases.rows org'.cases.rows
  tasks : List.Forall₂ (fun t t' => t' = t ∨
    t.whatId ∈ caseIds ∧ ∃ job ∈ jobs, NarrativeJob.TaskWritten p job org t t')
    org.tasks.rows org'.tasks.rows

variable (p) in
/-- The jobs of an insert write to its first five hundred eligible Cases and their notifications
alone, each of them once at most. -/
theorem narratives_confined (recordTypeId : String) (inserted : List OrgCase) (org : NarrativeOrg)
    (jobs : List NarrativeJob) (hjobs : EnqueuedBy p recordTypeId inserted jobs) :
    NarrativesConfined p ((eligibleCases p recordTypeId inserted).take 500) jobs org
      (runNarratives p org jobs) := by
  have howned := NarrativeJob.ownedWrites p
  constructor
  · apply forall₂_of_rowsAt fun c : OrgCase => c.id
    intro caseId
    by_cases hid : ∃ job ∈ jobs, job.Owns caseId
    · obtain ⟨job, hjob, hown⟩ := hid
      refine ⟨job.updatedCase p, NarrativeJob.updatedCase_id,
        congrArg Prod.fst (howned.view_foldl_of_owned hjobs.pairwise_noSharedKey hjob hown org), ?_⟩
      rintro c - rfl
      exact (NarrativeJob.updatedCase_cases c).imp_right fun hwritten =>
        ⟨hjobs.mem_take hjob hown, job, hjob, hwritten⟩
    · have hsame := howned.view_foldl_of_unowned (fun job hjob hown => hid ⟨job, hjob, hown⟩) org
      refine ⟨id, fun _ => rfl, ?_, fun c _ _ => .inl rfl⟩
      rw [List.map_id]
      exact congrArg Prod.fst hsame
  · apply forall₂_of_rowsAt fun t : OrgTask => t.whatId
    intro caseId
    by_cases hid : ∃ job ∈ jobs, job.Owns caseId
    · obtain ⟨job, hjob, hown⟩ := hid
      refine ⟨job.updatedTask p org, NarrativeJob.updatedTask_whatId,
        congrArg Prod.snd (howned.view_foldl_of_owned hjobs.pairwise_noSharedKey hjob hown org), ?_⟩
      rintro t ht rfl
      exact (NarrativeJob.updatedTask_cases ht).imp_right fun hwritten =>
        ⟨hjobs.mem_take hjob hown, job, hjob, hwritten⟩
    · have hsame := howned.view_foldl_of_unowned (fun job hjob hown => hid ⟨job, hjob, hown⟩) org
      refine ⟨id, fun _ => rfl, ?_, fun t _ _ => .inl rfl⟩
      rw [List.map_id]
      exact congrArg Prod.snd hsame

/-! ### Eleven Cases -/

/-- A platform on which the model's one answer is the only object. -/
def answeringPlatform : NarrativePlatform where
  deserializeUntyped _ := none
  decimalValueOf _ := none
  decimalText x := toString x
  jsonText _ := "\x7b\x7d"
  today := 0
  isWhitespace := Char.isWhitespace
  isNullJson := (· = "null")
  deserializeMap text :=
    if text = "\x7b\"narrative\":\"Arrivals are delayed.\"\x7d" then
      some [("narrative", .str "Arrivals are delayed.")]
    else none
  valueOf
    | .str s => s
    | _      => ""

/-- A Case of the region `us_west`. -/
def westCase (id : String) : OrgCase where
  id := id
  subject := "Go-around at KSFO"
  afmCaseType := some "go_around"
  afmDetectionFacts := none
  afmCustomerRegion := some "us_west"
  afmFlightId := none
  afmSiteIcao := some "KSFO"
  afmExternalId := some id
  recordTypeId := "fleet"
  severityJustification := none

def elevenIds : List String := ["a", "b", "c", "d", "e", "f", "g", "h", "i", "j", "k"]

def elevenCases : List OrgCase := elevenIds.map westCase

/-- A job whose model gives the one answer in a fence, and all of whose rows are saved. -/
def fencedJob (caseIds : List String) : NarrativeJob where
  caseIds := caseIds
  complete _ := .ok (some
    "```json\n\x7b\"narrative\":\"Arrivals are delayed.\"\x7d\n```")
  order tasks := tasks
  order_perm _ := .refl _
  caseSaved _ := true
  taskSaved _ := true

def twoJobs : List NarrativeJob := [fencedJob (elevenIds.take 10), fencedJob ["k"]]

/-- The Cases as they are inserted, and the notification that triage has drafted for the last one.
-/
def draftedOrg : NarrativeOrg where
  cases := ⟨elevenCases, by decide⟩
  tasks :=
    ⟨[⟨notificationTask answeringPlatform.toTriagePlatform (westCase "k").toServiceCase, "t"⟩],
      by simp⟩

lemma enqueuedBy_twoJobs : EnqueuedBy answeringPlatform "fleet" elevenCases twoJobs := by
  unfold EnqueuedBy
  decide +kernel

theorem narratives_two_orders : runNarratives answeringPlatform draftedOrg twoJobs =
    runNarratives answeringPlatform draftedOrg twoJobs.reverse :=
  narratives_any_order answeringPlatform "fleet" elevenCases draftedOrg twoJobs twoJobs.reverse
    enqueuedBy_twoJobs (List.reverse_perm twoJobs).symm

theorem narratives_confined_eleven : NarrativesConfined answeringPlatform
    ((eligibleCases answeringPlatform "fleet" elevenCases).take 500) twoJobs draftedOrg
    (runNarratives answeringPlatform draftedOrg twoJobs) :=
  narratives_confined answeringPlatform "fleet" elevenCases draftedOrg twoJobs enqueuedBy_twoJobs

end FleetMonitor
