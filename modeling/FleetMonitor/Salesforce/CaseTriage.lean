import FleetMonitor.Library.KeepFirst
import FleetMonitor.Library.PartialInserts
import FleetMonitor.Library.Table
import FleetMonitor.Salesforce.Triage
import Mathlib.Data.List.Infix

/-!
# Case triage

`AFM_CaseTriageService.triageCases`: for the Cases of a call it gathers Tasks from the runbooks,
from the critical escalation and for the customer, and links to the runbook files, inserts both
lists with partial success and tallies for each Case what was saved. The Tasks and their kinds are
two parallel lists; a link is left out when its key is among those of the org or of the call so far.
-/

namespace FleetMonitor

open Library

/-- What a call takes from the platform besides: the characters `String.isBlank` passes over, and
whether a text is the JSON `null`. -/
structure TriagePlatform extends Apex where
  isWhitespace : Char → Bool
  isNullJson : String → Bool

/-- The fields of a Case that triage reads. -/
structure ServiceCase extends TriageCase where
  afmCustomerRegion : Option String
  afmFlightId : Option String
  afmSiteIcao : Option String
  afmExternalId : Option String
  deriving DecidableEq, Repr

/-- The fields of an `AFM_Runbook__mdt` that triage reads. -/
structure Runbook where
  title : Option String
  caseTypes : Option String
  triageSteps : Option String
  deriving DecidableEq, Repr

/-- A latest `.md` ContentVersion. -/
structure RunbookFile where
  title : String
  contentDocumentId : String
  deriving DecidableEq, Repr

/-- A ContentDocumentLink. -/
structure DocumentLink where
  linkedEntityId : String
  contentDocumentId : String
  shareType : String
  visibility : String
  deriving DecidableEq, Repr

inductive TaskKind
  | investigation
  | escalation
  | notification
  deriving DecidableEq, Repr

/-- `TriageSummary`. -/
structure TriageSummary where
  investigationTasks : ℕ := 0
  escalated : Bool := false
  notificationDrafted : Bool := false
  runbookLinks : ℕ := 0
  deriving DecidableEq, Repr

/-- A call: the platform on its day, its argument, what its queries return, which rows of its two
inserts are saved, and the links that others have added since the call before. -/
structure TriageCall where
  platform : TriagePlatform
  caseIds : List String
  cases : Table fun c : ServiceCase => c.id
  runbooks : List Runbook
  engQueueId : Option String
  files : List RunbookFile
  taskSaved : ℕ → Bool
  linkSaved : ℕ → Bool
  linkedElsewhere : List DocumentLink

/-! ### Texts -/

/-- `String.trim`. -/
def apexTrim (s : String) : String :=
  String.ofList ((s.toList.dropWhile (· ≤ ' ')).rdropWhile (· ≤ ' '))

/-- `String.split` at a character, which drops the empty texts at the end. -/
def apexSplit (separator : Char) (s : String) : List String :=
  ((s.toList.splitOn separator).rdropWhile (· = [])).map String.ofList

/-- A String in a concatenation. -/
def concatText (value : Option String) : String := value.getD "null"

variable (p : TriagePlatform)

/-- `String.isBlank` of a String. -/
def isBlankText (value : Option String) : Bool := (value.getD "").toList.all p.isWhitespace

/-- `emptyDash`. -/
def emptyDash (value : Option String) : String :=
  if isBlankText p value then "—" else concatText value

/-! ### Runbooks and files -/

/-- A runbook under one of its case types. -/
def addRunbook (rb : Runbook) (byType : String → Option (List Runbook)) (ct : String) :
    String → Option (List Runbook) :=
  let key := apexTrim ct
  if isBlankText p key then byType
  else Function.update byType key (some ((byType key).getD [] ++ [rb]))

/-- `runbooksByCaseType`. -/
def runbooksByCaseType (runbooks : List Runbook) : String → Option (List Runbook) :=
  runbooks.foldl (fun byType rb =>
    if isBlankText p rb.caseTypes then byType
    else (apexSplit ',' (concatText rb.caseTypes)).foldl (addRunbook p rb) byType) fun _ => none

/-- `manualSteps`. -/
def manualSteps (triageSteps : Option String) : List String :=
  if isBlankText p triageSteps then []
  else ((apexSplit '\n' (concatText triageSteps)).map apexTrim).filter fun step =>
    ¬isBlankText p step ∧ ¬"[Auto]".toList <:+: step.toList

/-- `runbookDocIdsByTitle`; of two files with a title the later counts. -/
def runbookDocIdsByTitle (files : List RunbookFile) : String → Option String :=
  files.foldl (fun byTitle cv => Function.update byTitle cv.title (some cv.contentDocumentId))
    fun _ => none

/-- The key that links are deduplicated by. -/
def DocumentLink.key (cdl : DocumentLink) : String :=
  cdl.linkedEntityId ++ ":" ++ cdl.contentDocumentId

/-- `existingLinkKeys`. -/
def existingLinkKeys (links : List DocumentLink) (caseIds : List String) : List String :=
  (links.filter fun cdl => cdl.linkedEntityId ∈ caseIds).map DocumentLink.key

/-! ### Tasks -/

/-- `investigationTask`. -/
def investigationTask (c : ServiceCase) (step : String) : SfTask where
  whatId := c.id
  subject := abbreviate step 255
  description :=
    step ++ "\n\n" ++ "Case: " ++ concatText c.afmExternalId ++ " (" ++ concatText c.afmCaseType ++
      ")\n" ++ "Flight: " ++ emptyDash p c.afmFlightId ++ "   Site: " ++ emptyDash p c.afmSiteIcao
  priority := "Normal"
  activityDate := p.today
  ownerId := none

/-- `notificationTask`. -/
def notificationTask (c : ServiceCase) : SfTask where
  whatId := c.id
  subject := abbreviate ("Customer notification — " ++ c.subject) 255
  description :=
    "Draft customer notification for " ++ concatText c.afmCaseType ++ " affecting " ++
      emptyDash p c.afmSiteIcao ++ " (region: " ++ concatText c.afmCustomerRegion ++ ").\n\n" ++
      "[Narrative pending — generated by triage.]"
  priority := "Normal"
  activityDate := p.today
  ownerId := none

/-- `isRegionScoped`. -/
def isRegionScoped (region : Option String) : Bool :=
  !isBlankText p region && !apexEq (concatText region) "All"

/-- The facts of a `lost_signal` Case are the JSON `null`: to read them throws, and no one catches
it. -/
def throwsOn (c : ServiceCase) : Bool :=
  c.afmCaseType.any (apexEq "lost_signal") && !isBlank c.afmDetectionFacts &&
    match c.afmDetectionFacts with
    | some (.text value) => p.isNullJson value
    | _                  => false

/-! ### The loop over the Cases -/

/-- What a call has read before the loop, the link keys apart. -/
structure TriageReads where
  runbooksByType : String → Option (List Runbook)
  engQueueId : Option String
  docIdByTitle : String → Option String

/-- The lists of the loop. -/
structure TriageLists where
  tasks : List SfTask
  taskKinds : List TaskKind
  links : List DocumentLink
  linkKeys : List String

def TriageLists.addTask (lists : TriageLists) (task : SfTask) (kind : TaskKind) : TriageLists :=
  { lists with tasks := lists.tasks ++ [task], taskKinds := lists.taskKinds ++ [kind] }

/-- The runbooks of a Case. -/
def TriageReads.runbooksOf (reads : TriageReads) (c : ServiceCase) : List Runbook :=
  (c.afmCaseType.bind reads.runbooksByType).getD []

def runbookLink (c : ServiceCase) (docId : String) : DocumentLink where
  linkedEntityId := c.id
  contentDocumentId := docId
  shareType := "V"
  visibility := "AllUsers"

/-- A link, unless one with its key is there. -/
def TriageLists.addLink (lists : TriageLists) (link : DocumentLink) : TriageLists :=
  if link.key ∈ lists.linkKeys then lists
  else { lists with linkKeys := link.key :: lists.linkKeys, links := lists.links ++ [link] }

def TriageLists.linkRunbook (reads : TriageReads) (c : ServiceCase) (lists : TriageLists)
    (rb : Runbook) : TriageLists :=
  match rb.title.bind reads.docIdByTitle with
  | none       => lists
  | some docId => lists.addLink (runbookLink c docId)

/-- One turn of the loop; `none` when it throws. -/
def triageCase (reads : TriageReads) (lists : TriageLists) (c : ServiceCase) :
    Option TriageLists :=
  let runbooks := reads.runbooksOf c
  let lists := runbooks.foldl (fun lists rb =>
    (manualSteps p rb.triageSteps).foldl (fun lists step =>
      lists.addTask (investigationTask p c step) .investigation) lists) lists
  if throwsOn p c then none
  else
    let lists :=
      match criticalEscalation p.toApex c.toTriageCase reads.engQueueId with
      | none      => lists
      | some task => lists.addTask task .escalation
    let lists :=
      if isRegionScoped p c.afmCustomerRegion then
        lists.addTask (notificationTask p c) .notification
      else lists
    some (runbooks.foldl (TriageLists.linkRunbook reads c) lists)

/-! ### The tallies -/

def TriageSummary.countTask (s : TriageSummary) : TaskKind → TriageSummary
  | .investigation => { s with investigationTasks := s.investigationTasks + 1 }
  | .escalation    => { s with escalated := true }
  | .notification  => { s with notificationDrafted := true }

def TriageSummary.countLink (s : TriageSummary) : TriageSummary :=
  { s with runbookLinks := s.runbookLinks + 1 }

section

variable (s : TriageSummary) (kind : TaskKind)

@[simp] lemma TriageSummary.countTask_investigationTasks : (s.countTask kind).investigationTasks =
    s.investigationTasks + if kind = .investigation then 1 else 0 := by
  cases kind <;> rfl

@[simp] lemma TriageSummary.countTask_escalated : (s.countTask kind).escalated =
    (s.escalated || decide (kind = .escalation)) := by
  cases kind <;> simp [countTask]

@[simp] lemma TriageSummary.countTask_notificationDrafted : (s.countTask kind).notificationDrafted =
    (s.notificationDrafted || decide (kind = .notification)) := by
  cases kind <;> simp [countTask]

@[simp] lemma TriageSummary.countTask_runbookLinks :
    (s.countTask kind).runbookLinks = s.runbookLinks := by
  cases kind <;> rfl

end

/-- The summaries of a call by Case id. -/
abbrev TriageSummaries := String → Option TriageSummary

/-- Count for a Case, when it has a summary. -/
def TriageSummaries.tally (summaries : TriageSummaries) (id : String)
    (count : TriageSummary → TriageSummary) : TriageSummaries :=
  match summaries id with
  | none   => summaries
  | some s => Function.update summaries id (some (count s))

/-- One turn of the loop over the answer to the Tasks; `none` for an index that is not there. -/
def tallyTask (lists : TriageLists) (results : List Bool) (summaries : TriageSummaries) (i : ℕ) :
    Option TriageSummaries := do
  let success ← results[i]?
  if success then
    let task ← lists.tasks[i]?
    match summaries task.whatId with
    | none   => some summaries
    | some _ =>
      let kind ← lists.taskKinds[i]?
      some (summaries.tally task.whatId (·.countTask kind))
  else some summaries

def tallyTasks (lists : TriageLists) (taskSaved : ℕ → Bool) (summaries : TriageSummaries) :
    Option TriageSummaries :=
  let results := saveResults taskSaved lists.tasks.length
  (List.range results.length).foldlM (tallyTask lists results) summaries

def tallyLinks (links : List DocumentLink) (linkSaved : ℕ → Bool) (summaries : TriageSummaries) :
    Option TriageSummaries :=
  let results := saveResults linkSaved links.length
  (List.range results.length).foldlM (visitSaved (fun summaries link =>
    some (summaries.tally link.linkedEntityId TriageSummary.countLink)) results links) summaries

/-! ### A call -/

/-- What a call returns, and the rows it leaves in the org. -/
structure TriageResult where
  summaries : TriageSummaries
  tasks : List SfTask
  links : List DocumentLink

/-- The Cases the query returns. -/
def TriageCall.casesById (call : TriageCall) : List ServiceCase :=
  call.cases.rows.filter fun c => c.id ∈ call.caseIds

def TriageCall.reads (call : TriageCall) : TriageReads where
  runbooksByType := runbooksByCaseType call.platform call.runbooks
  engQueueId := call.engQueueId
  docIdByTitle := runbookDocIdsByTitle call.files

/-- A summary of zeros for each Case. -/
def emptySummaries (caseIds : List String) : TriageSummaries :=
  fun id => if id ∈ caseIds then some {} else none

def TriageCall.ids (call : TriageCall) : List String := call.casesById.map fun c => c.id

/-- The two inserts and their tallies. -/
def saveAndTally (call : TriageCall) (lists : TriageLists) : Option TriageResult := do
  let summaries ← tallyTasks lists call.taskSaved (emptySummaries call.ids)
  let summaries ← tallyLinks lists.links call.linkSaved summaries
  some ⟨summaries, savedRows call.taskSaved lists.tasks, savedRows call.linkSaved lists.links⟩

/-- `triageCases`, in an org with some links; `none` when it throws and nothing is kept. -/
def triageCases (orgLinks : List DocumentLink) (call : TriageCall) : Option TriageResult :=
  if call.caseIds = [] then some ⟨emptySummaries [], [], []⟩
  else if call.casesById = [] then some ⟨emptySummaries [], [], []⟩
  else do
    let lists ← call.casesById.foldlM (triageCase call.platform call.reads)
      ⟨[], [], [], existingLinkKeys orgLinks call.ids⟩
    saveAndTally call lists

/-- The links a call leaves, none when it throws. -/
def linksSaved (result : Option TriageResult) : List DocumentLink := result.elim [] (·.links)

/-- Calls one after the other, with their outcomes. -/
def triageRun : List DocumentLink → List TriageCall → List (TriageCall × Option TriageResult)
  | _, []                => []
  | orgLinks, call :: calls =>
    let found := orgLinks ++ call.linkedElsewhere
    let result := triageCases found call
    (call, result) :: triageRun (found ++ linksSaved result) calls

/-! ### What a Case asks for -/

/-- The Tasks of a Case with the kind of each. -/
def tasksOf (reads : TriageReads) (c : ServiceCase) : List (SfTask × TaskKind) :=
  ((reads.runbooksOf c).flatMap fun rb =>
      (manualSteps p rb.triageSteps).map fun step =>
        (investigationTask p c step, .investigation)) ++
    (criticalEscalation p.toApex c.toTriageCase reads.engQueueId).toList.map (·, .escalation) ++
    if isRegionScoped p c.afmCustomerRegion then [(notificationTask p c, .notification)] else []

/-- The links to the runbooks of a Case that have a file. -/
def linksOf (reads : TriageReads) (c : ServiceCase) : List DocumentLink :=
  (reads.runbooksOf c).filterMap fun rb =>
    (rb.title.bind reads.docIdByTitle).map (runbookLink c)

/-- The lists after some Tasks and some links have been asked for, where some keys were there
before. -/
structure TriageLists.Gathered (keys : List String) (rows : List (SfTask × TaskKind))
    (candidates : List DocumentLink) (lists : TriageLists) : Prop where
  tasks : lists.tasks = rows.map Prod.fst
  taskKinds : lists.taskKinds = rows.map Prod.snd
  links : lists.links = keepFirst DocumentLink.key (fun _ => false) candidates keys
  linkKeys : ∀ k, k ∈ lists.linkKeys ↔ k ∈ lists.links.map DocumentLink.key ++ keys

namespace TriageLists.Gathered

variable {p} {keys : List String} {rows : List (SfTask × TaskKind)}
  {candidates : List DocumentLink} {lists lists' : TriageLists} {reads : TriageReads}
  {c : ServiceCase}

lemma start : Gathered keys [] [] ⟨[], [], [], keys⟩ := ⟨rfl, rfl, rfl, fun _ => Iff.rfl⟩

lemma addTask (h : Gathered keys rows candidates lists) (task : SfTask) (kind : TaskKind) :
    Gathered keys (rows ++ [(task, kind)]) candidates (lists.addTask task kind) where
  tasks := by rw [List.map_append, ← h.tasks]; rfl
  taskKinds := by rw [List.map_append, ← h.taskKinds]; rfl
  links := h.links
  linkKeys := h.linkKeys

lemma addTasks (h : Gathered keys rows candidates lists) (more : List (SfTask × TaskKind)) :
    Gathered keys (rows ++ more) candidates
      (more.foldl (fun lists row => lists.addTask row.1 row.2) lists) := by
  induction more generalizing rows lists with
  | nil => rwa [List.append_nil]
  | cons row more ih =>
    rw [List.append_cons]
    exact ih (h.addTask row.1 row.2)

/-- A link is added unless its key is that of a link before or was there. -/
lemma addLink (h : Gathered keys rows candidates lists) (link : DocumentLink) :
    Gathered keys rows (candidates ++ [link]) (lists.addLink link) := by
  have hkept : keepFirst DocumentLink.key (fun _ => false) (candidates ++ [link]) keys =
      lists.links ++ keepFirst DocumentLink.key (fun _ => false) [link] lists.linkKeys := by
    rw [keepFirst_append, ← h.links, keepFirst_congr fun k => (h.linkKeys k).symm]
  rw [TriageLists.addLink]
  split_ifs with hkey
  · refine ⟨h.tasks, h.taskKinds, ?_, h.linkKeys⟩
    rw [hkept, keepFirst_cons_of_skipped (.inl hkey), keepFirst_nil, List.append_nil]
  · refine ⟨h.tasks, h.taskKinds, ?_, fun k => ?_⟩
    · rw [hkept, keepFirst_cons_of_kept hkey rfl, keepFirst_nil]
    · rw [List.mem_cons, h.linkKeys k]
      simp only [List.map_append, List.map_cons, List.map_nil, List.mem_append, List.mem_singleton]
      tauto

lemma linkRunbooks (h : Gathered keys rows candidates lists) (reads : TriageReads)
    (c : ServiceCase) (runbooks : List Runbook) :
    Gathered keys rows
      (candidates ++ runbooks.filterMap fun rb =>
        (rb.title.bind reads.docIdByTitle).map (runbookLink c))
      (runbooks.foldl (TriageLists.linkRunbook reads c) lists) := by
  induction runbooks generalizing candidates lists with
  | nil => rwa [List.filterMap_nil, List.append_nil]
  | cons rb runbooks ih =>
    rw [List.foldl_cons, TriageLists.linkRunbook]
    cases hdoc : rb.title.bind reads.docIdByTitle with
    | none =>
      rw [List.filterMap_cons_none (by rw [hdoc, Option.map_none])]
      exact ih h
    | some docId =>
      rw [List.filterMap_cons_some (by rw [hdoc, Option.map_some]), List.append_cons]
      exact ih (h.addLink _)

/-- A turn gathers what its Case asks for. -/
lemma triageCase (h : Gathered keys rows candidates lists)
    (hturn : triageCase p reads lists c = some lists') :
    Gathered keys (rows ++ tasksOf p reads c) (candidates ++ linksOf reads c) lists' := by
  have hsteps := h.addTasks ((reads.runbooksOf c).flatMap fun rb =>
    (manualSteps p rb.triageSteps).map fun step => (investigationTask p c step, .investigation))
  simp only [List.foldl_flatMap, List.foldl_map] at hsteps
  have hescalated := hsteps.addTasks
    ((criticalEscalation p.toApex c.toTriageCase reads.engQueueId).toList.map (·, .escalation))
  have hnotified := hescalated.addTasks
    (if isRegionScoped p c.afmCustomerRegion then [(notificationTask p c, .notification)] else [])
  have hlinked := hnotified.linkRunbooks reads c (reads.runbooksOf c)
  simp only [FleetMonitor.triageCase] at hturn
  split at hturn
  · cases hturn
  · obtain rfl := Option.some.inj hturn
    rw [List.append_assoc, List.append_assoc] at hlinked
    rw [tasksOf, List.append_assoc, linksOf]
    generalize criticalEscalation p.toApex c.toTriageCase reads.engQueueId = escalation at hlinked ⊢
    generalize isRegionScoped p c.afmCustomerRegion = notify at hlinked ⊢
    cases escalation <;> cases notify <;> exact hlinked

/-- The loop gathers what its Cases ask for. -/
lemma foldlM {cs : List ServiceCase} (h : Gathered keys rows candidates lists)
    (hrun : cs.foldlM (FleetMonitor.triageCase p reads) lists = some lists') :
    Gathered keys (rows ++ cs.flatMap (tasksOf p reads)) (candidates ++ cs.flatMap (linksOf reads))
      lists' := by
  induction cs generalizing rows candidates lists with
  | nil =>
    obtain rfl := Option.some.inj hrun
    simpa using h
  | cons c cs ih =>
    obtain ⟨mid, hturn, hrest⟩ := Option.bind_eq_some_iff.mp hrun
    simpa using ih (h.triageCase hturn) hrest

end TriageLists.Gathered

variable {p} (reads : TriageReads) (lists : TriageLists)

lemma triageCase_eq_none_iff {c : ServiceCase} :
    triageCase p reads lists c = none ↔ throwsOn p c = true := by
  simp [triageCase]

/-- The loop throws exactly for the facts that do. -/
lemma foldlM_triageCase_eq_none_iff {cs : List ServiceCase} :
    cs.foldlM (triageCase p reads) lists = none ↔ ∃ c ∈ cs, throwsOn p c = true := by
  induction cs generalizing lists with
  | nil => simp
  | cons c cs ih =>
    rw [List.foldlM_cons, List.exists_mem_cons_iff, ← triageCase_eq_none_iff reads lists]
    cases hturn : triageCase p reads lists c with
    | none => simp
    | some mid => simpa using ih mid

end FleetMonitor
