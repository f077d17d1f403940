import FleetMonitor.Salesforce.CaseTriage

/-!
# Runs of case triage

Whatever rows of its inserts are saved, a call tallies for each Case the Tasks of each kind and the
links that were saved for it. Calls one after the other leave a Case one link at most to a document.
-/

namespace FleetMonitor

open Library

variable {p : TriagePlatform} {reads : TriageReads} {lists : TriageLists} {c : ServiceCase}
  {cs : List ServiceCase} {id : String} {summaries : TriageSummaries}

/-! ### The counts -/

/-- A tally changes the summary of its own Case only. -/
lemma TriageSummaries.tally_of_some {s : TriageSummary} (hs : summaries id = some s)
    (id' : String) (count : TriageSummary → TriageSummary) :
    summaries.tally id' count id = some (if id = id' then count s else s) := by
  rw [tally]
  split_ifs with heq
  · subst heq
    rw [hs]
    exact Function.update_self ..
  · cases summaries id' with
    | none => exact hs
    | some _ => exact (Function.update_of_ne heq ..).trans hs

lemma TriageSummaries.tally_of_none (hnone : summaries id = none) (id' : String)
    (count : TriageSummary → TriageSummary) : summaries.tally id' count id = none := by
  rw [tally]
  cases hs : summaries id' with
  | none => exact hnone
  | some s =>
    have hne : id ≠ id' := fun heq => by simp [heq, hs] at hnone
    exact (Function.update_of_ne hne ..).trans hnone

/-- The tally of the Tasks reads each kind beside its Task. -/
lemma tallyTasks_eq {keys : List String} {rows : List (SfTask × TaskKind)}
    {candidates : List DocumentLink} (h : lists.Gathered keys rows candidates)
    (taskSaved : ℕ → Bool) : tallyTasks lists taskSaved summaries =
      some ((savedRows taskSaved rows).foldl
        (fun summaries row => summaries.tally row.1.whatId (·.countTask row.2)) summaries) := by
  have hlength : lists.tasks.length = rows.length := by rw [h.tasks, List.length_map]
  have hturn : ∀ results, tallyTask lists results = visitSaved (fun summaries row =>
      some (summaries.tally row.1.whatId (·.countTask row.2))) results rows := by
    intro results
    funext summaries i
    simp only [tallyTask, visitSaved, h.tasks, h.taskKinds, List.getElem?_map]
    refine congrArg (results[i]?.bind ·) (funext fun success => ?_)
    cases success with
    | false => rfl
    | true =>
      cases rows[i]? with
      | none => rfl
      | some row =>
        cases hs : summaries row.1.whatId with
        | none => simp [hs, TriageSummaries.tally]
        | some s => simp [hs]
  simp only [tallyTasks, hturn, hlength, foldlM_visitSaved]
  exact List.foldlM_pure

lemma tallyLinks_eq (links : List DocumentLink) (linkSaved : ℕ → Bool) :
    tallyLinks links linkSaved summaries =
      some ((savedRows linkSaved links).foldl (fun summaries link =>
        summaries.tally link.linkedEntityId TriageSummary.countLink) summaries) := by
  simp only [tallyLinks, foldlM_visitSaved]
  exact List.foldlM_pure

/-- A row of a kind for a Case. -/
def isTaskOf (id : String) (kind : TaskKind) (row : SfTask × TaskKind) : Bool :=
  row.1.whatId = id ∧ row.2 = kind

def isLinkOf (id : String) (link : DocumentLink) : Bool := link.linkedEntityId = id

/-- A summary after some Tasks and some links of its Case. -/
structure TriageSummary.Counted (id : String) (tasks : List (SfTask × TaskKind))
    (links : List DocumentLink) (s : TriageSummary) : Prop where
  investigationTasks : s.investigationTasks = tasks.countP (isTaskOf id .investigation)
  escalated : s.escalated = tasks.any (isTaskOf id .escalation)
  notificationDrafted : s.notificationDrafted = tasks.any (isTaskOf id .notification)
  runbookLinks : s.runbookLinks = links.countP (isLinkOf id)

namespace TriageSummary.Counted

variable {tasks : List (SfTask × TaskKind)} {links : List DocumentLink} {s : TriageSummary}

lemma start : Counted id [] [] {} := ⟨rfl, rfl, rfl, rfl⟩

lemma countTask (h : Counted id tasks links s) (row : SfTask × TaskKind) :
    Counted id (tasks ++ [row]) links (if id = row.1.whatId then s.countTask row.2 else s) := by
  by_cases hid : id = row.1.whatId
  · rw [if_pos hid]
    refine ⟨?_, ?_, ?_, ?_⟩
    · simp [h.investigationTasks, isTaskOf, hid, List.countP_cons]
    · simp [h.escalated, isTaskOf, hid]
    · simp [h.notificationDrafted, isTaskOf, hid]
    · simp [h.runbookLinks]
  · rw [if_neg hid]
    have hnot : ∀ kind, isTaskOf id kind row = false := by simp [isTaskOf, Ne.symm hid]
    refine ⟨?_, ?_, ?_, h.runbookLinks⟩
    · simp [h.investigationTasks, hnot]
    · simp [h.escalated, hnot]
    · simp [h.notificationDrafted, hnot]

lemma countLink (h : Counted id tasks links s) (link : DocumentLink) :
    Counted id tasks (links ++ [link])
      (if id = link.linkedEntityId then s.countLink else s) := by
  split_ifs with hid
  · exact ⟨h.investigationTasks, h.escalated, h.notificationDrafted, by
      simp [TriageSummary.countLink, isLinkOf, hid, h.runbookLinks]⟩
  · exact ⟨h.investigationTasks, h.escalated, h.notificationDrafted, by
      simp [isLinkOf, Ne.symm hid, h.runbookLinks]⟩

lemma foldl_tasks (hs : summaries id = some s) (h : Counted id tasks links s)
    (rows : List (SfTask × TaskKind)) : ∃ s', (rows.foldl (fun summaries row =>
        summaries.tally row.1.whatId (·.countTask row.2)) summaries) id = some s' ∧
      Counted id (tasks ++ rows) links s' := by
  induction rows generalizing summaries tasks s with
  | nil => exact ⟨s, hs, by rwa [List.append_nil]⟩
  | cons row rows ih =>
    rw [List.append_cons]
    exact ih (TriageSummaries.tally_of_some hs ..) (h.countTask row)

lemma foldl_links (hs : summaries id = some s) (h : Counted id tasks links s)
    (more : List DocumentLink) : ∃ s', (more.foldl (fun summaries link =>
        summaries.tally link.linkedEntityId TriageSummary.countLink) summaries) id = some s' ∧
      Counted id tasks (links ++ more) s' := by
  induction more generalizing summaries links s with
  | nil => exact ⟨s, hs, by rwa [List.append_nil]⟩
  | cons link more ih =>
    rw [List.append_cons]
    exact ih (TriageSummaries.tally_of_some hs ..) (h.countLink link)

end TriageSummary.Counted

/-- Without a summary nothing is counted. -/
lemma foldl_tally_eq_none {ρ : Type*} (entity : ρ → String)
    (count : ρ → TriageSummary → TriageSummary) (hnone : summaries id = none) (rows : List ρ) :
    (rows.foldl (fun summaries row => summaries.tally (entity row) (count row)) summaries) id =
      none := by
  induction rows generalizing summaries with
  | nil => exact hnone
  | cons row rows ih => exact ih (TriageSummaries.tally_of_none hnone ..)

/-! ### One call -/

/-- The Tasks a call asks for. -/
def TriageCall.tasksAsked (call : TriageCall) : List (SfTask × TaskKind) :=
  call.casesById.flatMap (tasksOf call.platform call.reads)

/-- The Tasks of a call that are saved, with the kind each was asked for as. -/
def TriageCall.tasksSaved (call : TriageCall) : List (SfTask × TaskKind) :=
  savedRows call.taskSaved call.tasksAsked

/-- The links a call inserts. -/
def TriageCall.linksInserted (orgLinks : List DocumentLink)
    (call : TriageCall) : List DocumentLink :=
  keepFirst DocumentLink.key (fun _ => false) (call.casesById.flatMap (linksOf call.reads))
    (existingLinkKeys orgLinks call.ids)

variable {orgLinks : List DocumentLink} {call : TriageCall} {result : TriageResult}

/-- For no Cases the loop and the tallies do nothing. -/
lemma triageCases_eq : triageCases orgLinks call =
    (call.casesById.foldlM (triageCase call.platform call.reads)
      ⟨[], [], [], existingLinkKeys orgLinks call.ids⟩).bind (saveAndTally call) := by
  have hempty (hnone : call.casesById = []) : some ⟨emptySummaries [], [], []⟩ =
      (call.casesById.foldlM (triageCase call.platform call.reads)
        ⟨[], [], [], existingLinkKeys orgLinks call.ids⟩).bind (saveAndTally call) := by
    have hids : call.ids = [] := by rw [TriageCall.ids, hnone, List.map_nil]
    rw [hnone, List.foldlM_nil, Option.pure_def, Option.bind_some, saveAndTally, hids]
    rfl
  rw [triageCases]
  split_ifs with hids hcases
  · exact hempty (by simp [TriageCall.casesById, hids])
  · exact hempty hcases
  · rfl

/-- What a call does that does not throw. -/
def TriageCall.outcome (orgLinks : List DocumentLink) (call : TriageCall) : TriageResult where
  summaries := (savedRows call.linkSaved (call.linksInserted orgLinks)).foldl
    (fun summaries link => summaries.tally link.linkedEntityId TriageSummary.countLink)
    (call.tasksSaved.foldl
      (fun summaries row => summaries.tally row.1.whatId (·.countTask row.2))
      (emptySummaries call.ids))
  tasks := call.tasksSaved.map Prod.fst
  links := savedRows call.linkSaved (call.linksInserted orgLinks)

lemma triageCases_of_lists {lists : TriageLists}
    (hlists : call.casesById.foldlM (triageCase call.platform call.reads)
      ⟨[], [], [], existingLinkKeys orgLinks call.ids⟩ = some lists) :
    triageCases orgLinks call = some (call.outcome orgLinks) := by
  have hgathered := TriageLists.Gathered.start.foldlM hlists
  rw [List.nil_append, List.nil_append] at hgathered
  rw [triageCases_eq, hlists, Option.bind_some]
  simp only [saveAndTally, tallyTasks_eq hgathered, tallyLinks_eq, Option.bind_eq_bind,
    Option.bind_some, hgathered.tasks, hgathered.links, savedRows_map]
  rfl

/-- A call throws exactly for the facts of one of its Cases that do. -/
lemma triageCases_eq_none_iff :
    triageCases orgLinks call = none ↔ ∃ c ∈ call.casesById, throwsOn call.platform c = true := by
  rw [← foldlM_triageCase_eq_none_iff call.reads
    ⟨[], [], [], existingLinkKeys orgLinks call.ids⟩]
  cases hlists : call.casesById.foldlM (triageCase call.platform call.reads)
      ⟨[], [], [], existingLinkKeys orgLinks call.ids⟩ with
  | none => simp [triageCases_eq, hlists]
  | some lists => simp [triageCases_of_lists hlists]

lemma eq_outcome (h : triageCases orgLinks call = some result) :
    result = call.outcome orgLinks := by
  have hloop := h
  rw [triageCases_eq] at hloop
  obtain ⟨lists, hlists, -⟩ := Option.bind_eq_some_iff.mp hloop
  exact Option.some.inj (h.symm.trans (triageCases_of_lists hlists))

/-- The summaries are those of the Cases the call has found. -/
lemma outcome_summaries_eq_none (hid : id ∉ call.ids) :
    (call.outcome orgLinks).summaries id = none := by
  apply foldl_tally_eq_none
  apply foldl_tally_eq_none
  exact if_neg hid

lemma outcome_counted (hid : id ∈ call.ids) :
    ∃ s, (call.outcome orgLinks).summaries id = some s ∧
      s.Counted id call.tasksSaved (call.outcome orgLinks).links := by
  have hzero : emptySummaries call.ids id = some {} := if_pos hid
  obtain ⟨s, hs, hcounted⟩ := TriageSummary.Counted.start.foldl_tasks hzero call.tasksSaved
  exact hcounted.foldl_links hs _

/-! ### One Task of a kind -/

lemma whatId_of_criticalEscalation {apex : Apex} {c : TriageCase} {engQueueId : Option String}
    {task : SfTask} (h : criticalEscalation apex c engQueueId = some task) :
    task.whatId = c.id := by
  simp only [criticalEscalation, Option.ite_none_left_eq_some, Option.bind_eq_some_iff,
    Option.some.injEq] at h
  obtain ⟨-, facts, -, gap, -, alt, -, -, rfl⟩ := h
  rfl

lemma whatId_of_mem_tasksOf {row : SfTask × TaskKind} (h : row ∈ tasksOf p reads c) :
    row.1.whatId = c.id := by
  simp only [tasksOf, List.mem_append, List.mem_flatMap, List.mem_map] at h
  rcases h with (⟨rb, -, step, -, rfl⟩ | ⟨task, htask, rfl⟩) | hnotify
  · rfl
  · exact whatId_of_criticalEscalation (Option.mem_toList.mp htask)
  · split_ifs at hnotify
    · obtain rfl := List.mem_singleton.mp hnotify
      rfl
    · cases hnotify

/-- A Case asks for one escalation and one notification at most. -/
lemma countP_tasksOf_le {kind : TaskKind} (hkind : kind ≠ .investigation) :
    (tasksOf p reads c).countP (isTaskOf id kind) ≤ 1 := by
  have hsteps : ((reads.runbooksOf c).flatMap fun rb => (manualSteps p rb.triageSteps).map
      fun step => (investigationTask p c step, TaskKind.investigation)).countP
        (isTaskOf id kind) = 0 := by
    rw [List.countP_eq_zero]
    intro row hrow
    obtain ⟨rb, -, hrow⟩ := List.mem_flatMap.mp hrow
    obtain ⟨step, -, rfl⟩ := List.mem_map.mp hrow
    simp [isTaskOf, hkind.symm]
  rw [tasksOf, List.countP_append, List.countP_append, hsteps, Nat.zero_add]
  cases kind with
  | investigation => exact absurd rfl hkind
  | escalation =>
    have hnotify : (if isRegionScoped p c.afmCustomerRegion then
        [(notificationTask p c, TaskKind.notification)] else []).countP
          (isTaskOf id .escalation) = 0 := by
      split_ifs <;> simp [isTaskOf]
    rw [hnotify, Nat.add_zero]
    refine List.countP_le_length.trans ?_
    rw [List.length_map]
    exact Option.length_toList_le
  | notification =>
    have hescalated : ((criticalEscalation p.toApex c.toTriageCase reads.engQueueId).toList.map
        (·, TaskKind.escalation)).countP (isTaskOf id .notification) = 0 := by
      simp [List.countP_eq_zero, isTaskOf]
    rw [hescalated, Nat.zero_add]
    refine List.countP_le_length.trans ?_
    split_ifs
    · rfl
    · exact Nat.zero_le 1

lemma countP_flatMap_tasksOf_le {kind : TaskKind} (hkind : kind ≠ .investigation)
    (hnodup : (cs.map fun c => c.id).Nodup) :
    (cs.flatMap (tasksOf p reads)).countP (isTaskOf id kind) ≤ 1 := by
  have hother : ∀ c : ServiceCase, c.id ≠ id → ∀ row ∈ tasksOf p reads c,
      ¬isTaskOf id kind row = true := by
    intro c hne row hrow
    simp [isTaskOf, whatId_of_mem_tasksOf hrow, hne]
  induction cs with
  | nil => exact Nat.zero_le 1
  | cons c cs ih =>
    obtain ⟨hnew, hnodup⟩ := List.nodup_cons.mp hnodup
    rw [List.flatMap_cons, List.countP_append]
    by_cases hid : c.id = id
    · have hrest : (cs.flatMap (tasksOf p reads)).countP (isTaskOf id kind) = 0 := by
        rw [List.countP_eq_zero]
        intro row hrow
        obtain ⟨c', hc', hrow⟩ := List.mem_flatMap.mp hrow
        refine hother c' (fun heq => hnew ?_) row hrow
        exact List.mem_map.mpr ⟨c', hc', heq.trans hid.symm⟩
      rw [hrest, Nat.add_zero]
      exact countP_tasksOf_le hkind
    · rw [List.countP_eq_zero.mpr (hother c hid), Nat.zero_add]
      exact ih hnodup

/-- Of the Tasks saved one at most is the escalation of a Case, and one its notification. -/
lemma toNat_any_tasksSaved {kind : TaskKind} (hkind : kind ≠ .investigation) :
    (call.tasksSaved.any (isTaskOf id kind)).toNat =
      call.tasksSaved.countP (isTaskOf id kind) := by
  have hnodup : (call.casesById.map fun c => c.id).Nodup :=
    (List.filter_sublist.map _).nodup call.cases.nodup
  have hle : call.tasksSaved.countP (isTaskOf id kind) ≤ 1 :=
    savedRows_sublist.countP_le.trans (countP_flatMap_tasksOf_le hkind hnodup)
  cases hany : call.tasksSaved.any (isTaskOf id kind) with
  | false =>
    rw [List.any_eq_false] at hany
    exact (List.countP_eq_zero.mpr hany).symm
  | true =>
    obtain ⟨row, hrow, htask⟩ := List.any_eq_true.mp hany
    exact le_antisymm (List.countP_pos_iff.mpr ⟨row, hrow, htask⟩) hle

/-- The summary of a Case counts the rows of a call that were saved for it. -/
structure TriageSummary.Tallies (id : String) (tasks : List (SfTask × TaskKind))
    (links : List DocumentLink) (s : TriageSummary) : Prop where
  investigationTasks : s.investigationTasks = tasks.countP (isTaskOf id .investigation)
  escalated : s.escalated.toNat = tasks.countP (isTaskOf id .escalation)
  notificationDrafted : s.notificationDrafted.toNat = tasks.countP (isTaskOf id .notification)
  runbookLinks : s.runbookLinks = links.countP (isLinkOf id)

/-- A call that returns has left some Tasks and links, and for each Case that it has found, and for
no other id, a summary that counts those of the Case. -/
structure TriageResult.TalliesSaved (call : TriageCall)
    (result : TriageResult) : Prop where
  tasks : result.tasks = call.tasksSaved.map Prod.fst
  found : ∀ id ∈ call.ids, ∃ s, result.summaries id = some s ∧
    s.Tallies id call.tasksSaved result.links
  others : ∀ id ∉ call.ids, result.summaries id = none

theorem TriageResult.talliesSaved (h : triageCases orgLinks call = some result) :
    result.TalliesSaved call := by
  obtain rfl := eq_outcome h
  refine ⟨rfl, fun id hid => ?_, fun id hid => outcome_summaries_eq_none hid⟩
  obtain ⟨s, hs, hcounted⟩ := outcome_counted hid
  refine ⟨s, hs, hcounted.investigationTasks, ?_, ?_, hcounted.runbookLinks⟩
  · rw [hcounted.escalated]
    exact toNat_any_tasksSaved (by decide)
  · rw [hcounted.notificationDrafted]
    exact toNat_any_tasksSaved (by decide)

/-! ### Runs -/

/-- The Case and the document of a link. -/
def DocumentLink.pair (cdl : DocumentLink) : String × String :=
  (cdl.linkedEntityId, cdl.contentDocumentId)

/-- The links of a run of calls. -/
def linksCreated (run : List (TriageCall × Option TriageResult)) : List DocumentLink :=
  run.flatMap fun outcome => linksSaved outcome.2

lemma key_eq_of_pair_eq {a b : DocumentLink} (h : a.pair = b.pair) : a.key = b.key := by
  obtain ⟨hentity, hdocument⟩ := Prod.mk.inj h
  rw [DocumentLink.key, DocumentLink.key, hentity, hdocument]

/-- A call inserts links of its own Cases. -/
lemma linkedEntityId_mem_ids {link : DocumentLink} (h : link ∈ call.linksInserted orgLinks) :
    link.linkedEntityId ∈ call.ids := by
  obtain ⟨c, hc, hlink⟩ := List.mem_flatMap.mp (keepFirst_sublist.subset h)
  obtain ⟨rb, -, hlink⟩ := List.mem_filterMap.mp hlink
  obtain ⟨docId, -, rfl⟩ := Option.map_eq_some_iff.mp hlink
  exact List.mem_map.mpr ⟨c, hc, rfl⟩

/-- A call leaves no link twice and none that the org had. -/
lemma linksSaved_new (orgLinks : List DocumentLink) (call : TriageCall) :
    ((linksSaved (triageCases orgLinks call)).map DocumentLink.pair).Nodup ∧
      ∀ link ∈ linksSaved (triageCases orgLinks call),
        link.pair ∉ orgLinks.map DocumentLink.pair := by
  cases hresult : triageCases orgLinks call with
  | none => exact ⟨List.nodup_nil, fun _ h => nomatch h⟩
  | some result =>
    obtain rfl := eq_outcome hresult
    have hsub : (call.outcome orgLinks).links.Sublist (call.linksInserted orgLinks) :=
      savedRows_sublist
    constructor
    · apply List.pairwise_map.mpr
      apply (keepFirst_pairwise.sublist hsub).imp
      intro a b hkey hpair
      exact hkey (key_eq_of_pair_eq hpair)
    · intro link hlink hmem
      obtain ⟨old, hold, hpair⟩ := List.mem_map.mp hmem
      have hinserted := hsub.subset hlink
      have hentity : old.linkedEntityId ∈ call.ids :=
        (Prod.mk.inj hpair).1 ▸ linkedEntityId_mem_ids hinserted
      apply (of_mem_keepFirst hinserted).1
      apply List.mem_map.mpr
      exact ⟨old, List.mem_filter.mpr ⟨hold, by simpa⟩, key_eq_of_pair_eq hpair⟩

/-- A run leaves no link twice and none that the org had. -/
lemma linksCreated_new (orgLinks : List DocumentLink)
    (calls : List TriageCall) :
    ((linksCreated (triageRun orgLinks calls)).map DocumentLink.pair).Nodup ∧
      ∀ link ∈ linksCreated (triageRun orgLinks calls),
        link.pair ∉ orgLinks.map DocumentLink.pair := by
  induction calls generalizing orgLinks with
  | nil => exact ⟨List.nodup_nil, fun _ h => nomatch h⟩
  | cons call calls ih =>
    let found := orgLinks ++ call.linkedElsewhere
    obtain ⟨hcallNodup, hcallNew⟩ := linksSaved_new found call
    obtain ⟨hrestNodup, hrestNew⟩ := ih (found ++ linksSaved (triageCases found call))
    rw [triageRun, linksCreated, List.flatMap_cons]
    constructor
    · rw [List.map_append, List.nodup_append]
      refine ⟨hcallNodup, hrestNodup, ?_⟩
      intro pair hpair pair' hpair' heq
      obtain ⟨link, hlink, rfl⟩ := List.mem_map.mp hpair'
      refine hrestNew link hlink ?_
      rw [List.map_append]
      exact List.mem_append_right _ (heq ▸ hpair)
    · intro link hlink hold
      have hfound : link.pair ∈ found.map DocumentLink.pair := by
        rw [List.map_append]
        exact List.mem_append_left _ hold
      rcases List.mem_append.mp hlink with hlink | hlink
      · exact hcallNew link hlink hfound
      · refine hrestNew link hlink ?_
        rw [List.map_append]
        exact List.mem_append_left _ hfound

/-- The calls of a run that return are calls in some org. -/
lemma exists_org_of_mem_triageRun {calls : List TriageCall}
    {outcome : TriageCall × Option TriageResult} (h : outcome ∈ triageRun orgLinks calls) :
    ∃ found, triageCases found outcome.1 = outcome.2 := by
  induction calls generalizing orgLinks with
  | nil => cases h
  | cons call calls ih =>
    rcases List.mem_cons.mp h with rfl | h
    · exact ⟨_, rfl⟩
    · exact ih h

/-- Over every run of calls a Case gets one link at most to a document, and none to a document it
was linked to before the run; every summary returned counts what that call has saved, and only the
facts of one of its Cases keep a call from returning. -/
theorem triage_links_once_and_tallied (orgLinks : List DocumentLink)
    (calls : List TriageCall) :
    ((linksCreated (triageRun orgLinks calls)).map DocumentLink.pair).Nodup ∧
      (∀ link ∈ linksCreated (triageRun orgLinks calls),
        link.pair ∉ orgLinks.map DocumentLink.pair) ∧
      (∀ call result, (call, some result) ∈ triageRun orgLinks calls →
        result.TalliesSaved call) ∧
      ∀ outcome ∈ triageRun orgLinks calls, outcome.2 = none ↔
        ∃ c ∈ outcome.1.casesById, throwsOn outcome.1.platform c = true := by
  obtain ⟨hnodup, hnew⟩ := linksCreated_new orgLinks calls
  refine ⟨hnodup, hnew, fun call result hmem => ?_, fun outcome hmem => ?_⟩
  · obtain ⟨found, hresult⟩ := exists_org_of_mem_triageRun hmem
    exact TriageResult.talliesSaved hresult
  · obtain ⟨found, hresult⟩ := exists_org_of_mem_triageRun hmem
    rw [← hresult]
    exact triageCases_eq_none_iff

/-- A call for one Case, asked for twice, whose two runbooks share their file. -/
def sharedFileCall (taskSaved linkSaved : ℕ → Bool) : TriageCall where
  platform :=
    { deserializeUntyped := fun _ => none, decimalValueOf := fun _ => none,
      decimalText := fun _ => "", jsonText := fun _ => "", today := 20614,
      isWhitespace := Char.isWhitespace, isNullJson := (· = "null") }
  caseIds := ["500A", "500A"]
  cases :=
    ⟨[{ id := "500A", subject := "Lost signal", afmCaseType := some "lost_signal",
        afmDetectionFacts := none, afmCustomerRegion := some "East", afmFlightId := none,
        afmSiteIcao := none, afmExternalId := none }], List.nodup_singleton _⟩
  runbooks :=
    [⟨some "Lost Signal", some "lost_signal, diversion", some "[Auto] Read feed\nCall crew\nLog"⟩,
      ⟨some "Lost Signal", some "lost_signal", none⟩]
  engQueueId := none
  files := [⟨"Lost Signal", "069D"⟩]
  taskSaved := taskSaved
  linkSaved := linkSaved
  linkedElsewhere := []

/-- The first Task and the link fail at first, and nothing fails afterwards. -/
def sharedFileCalls : List TriageCall :=
  [sharedFileCall (· ≠ 0) (fun _ => false), sharedFileCall (fun _ => true) (fun _ => true),
    sharedFileCall (fun _ => true) (fun _ => true)]

/-- The second call makes the link, the third none. -/
theorem shared_file_linked_once :
    (triageRun [] sharedFileCalls).map
        (fun outcome => outcome.2.bind fun result => result.summaries "500A") =
      [some ⟨1, false, true, 0⟩, some ⟨2, false, true, 1⟩, some ⟨2, false, true, 0⟩] ∧
    (linksCreated (triageRun [] sharedFileCalls)).map DocumentLink.pair = [("500A", "069D")] ∧
    ∀ call result, (call, some result) ∈ triageRun [] sharedFileCalls →
      result.TalliesSaved call := by
  obtain ⟨-, -, htallied, -⟩ := triage_links_once_and_tallied [] sharedFileCalls
  refine ⟨?_, ?_, htallied⟩
  · decide +kernel
  · decide +kernel

end FleetMonitor
