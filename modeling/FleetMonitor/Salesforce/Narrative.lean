import FleetMonitor.Library.JsonValue
import FleetMonitor.Library.Replacement
import FleetMonitor.Salesforce.CaseTriage

/-!
# The narrative of a Case

After the insert of Cases, `AFM_CaseTriggerHandler` triages the eligible ones and enqueues
`AFM_TriageNarrative`: jobs for ten Cases each, which ask a language model for a justification and a
narrative, and write the one to the Case and the other into the notification Task of the Case.
-/

namespace FleetMonitor

open Library

/-! ### The org -/

/-- What the narrative takes from the platform besides: `JSON.deserializeUntyped` with its cast to a
map, `none` when they throw or give null, whose first use throws, and `String.valueOf` of a value.
-/
structure NarrativePlatform extends TriagePlatform where
  deserializeMap : String → Option JsonObject
  valueOf : Json → String

/-- A Case with the fields the trigger and the narrative read. -/
structure OrgCase extends ServiceCase where
  recordTypeId : String
  severityJustification : Option String
  deriving DecidableEq, Repr

/-- A Task; a Description that is null is the empty text. -/
structure OrgTask extends SfTask where
  id : String
  deriving DecidableEq, Repr

/-- The Cases and the Tasks of the org. -/
@[ext] structure NarrativeOrg where
  cases : Table fun c : OrgCase => c.id
  tasks : Table OrgTask.id

variable (p : NarrativePlatform)

/-! ### Enqueueing -/

/-- `CHUNK_SIZE`. -/
def chunkSize : ℕ := 10

/-- `MAX_JOBS`. -/
def maxJobs : ℕ := 50

/-- The loop of `enqueue`, with that many jobs left. -/
def enqueueFrom : ℕ → List String → List (List String)
  | 0, _             => []
  | _, []            => []
  | jobs + 1, caseIds => caseIds.take chunkSize :: enqueueFrom jobs (caseIds.drop chunkSize)

/-- The Cases of each job that `AFM_TriageNarrative.enqueue` enqueues. -/
def enqueue (caseIds : List String) : List (List String) := enqueueFrom maxJobs caseIds

/-! ### The prompt -/

/-- A value of the facts that is neither null nor structured. -/
def isScalar : Json → Bool
  | .null  => false
  | .obj _ => false
  | .arr _ => false
  | _      => true

/-- The lines of the facts. -/
def factLines (facts : Option SfValue) : List String :=
  let text := (facts.map (SfValue.asText p.toApex)).getD ""
  if isBlankText p.toTriagePlatform text then []
  else
    match p.deserializeMap text with
    | none        => []
    | some fields =>
      (fields.filter fun field => isScalar field.2).map fun field =>
        "- " ++ field.1 ++ ": " ++ p.valueOf field.2

/-- `buildPrompt`. -/
def buildPrompt (c : OrgCase) : String :=
  let facts := factLines p c.afmDetectionFacts
  "You are a fleet operations analyst for an aviation monitoring service. " ++
    "An anomaly case was detected. Respond with ONLY a JSON object of the form " ++
    "\x7b\"justification\":\"...\",\"narrative\":\"...\"\x7d and nothing else.\n" ++
    "- justification: 1-2 sentences for internal ops staff explaining the severity rationale.\n" ++
    "- narrative: 2-3 sentences, professional and customer-facing, about the operational impact.\n" ++
    "Do not invent facts beyond those provided.\n\n" ++
    "Case type: " ++ emptyDash p.toTriagePlatform c.afmCaseType ++ "\n" ++
    "Site (ICAO): " ++ emptyDash p.toTriagePlatform c.afmSiteIcao ++ "\n" ++
    "Customer region: " ++ emptyDash p.toTriagePlatform c.afmCustomerRegion ++ "\n" ++
    "Facts:\n" ++ (if facts.isEmpty then "- (none)" else "\n".intercalate facts)

/-! ### The answer -/

/-- A character of `\s`. -/
def isRegexSpace (c : Char) : Bool := c ∈ [' ', '\t', '\n', '\x0b', '\x0c', '\r']

def isAsciiLetter (c : Char) : Bool := ('a' ≤ c && c ≤ 'z') || ('A' ≤ c && c ≤ 'Z')

def fence : List Char := ['`', '`', '`']

/-- The first `replaceFirst`: the fence that opens, with its language. -/
def openingStripped (s : List Char) : List Char :=
  if fence <+: s then ((s.drop 3).dropWhile isAsciiLetter).dropWhile isRegexSpace else s

/-- A line terminator that `trim` leaves; `$` also matches before the last one. -/
def isLineTerminator (c : Char) : Bool := c ∈ ['\u0085', '\u2028', '\u2029']

/-- The second `replaceFirst`: the fence that closes. -/
def closingStripped (s : List Char) : List Char :=
  let terminator := (s.getLast?.filter isLineTerminator).toList
  let body := s.take (s.length - terminator.length)
  if fence <:+ body then (body.take (body.length - 3)).rdropWhile isRegexSpace ++ terminator else s

/-- The answer without fences. -/
def unfenced (raw : String) : String :=
  let s := apexTrim raw
  if fence <+: s.toList then apexTrim (String.ofList (closingStripped (openingStripped s.toList)))
  else s

/-- What is read from an answer. -/
structure NarrativeParts where
  justification : Option String
  narrative : Option String
  deriving DecidableEq, Repr

/-- The text of a field that is not null. -/
def textField (fields : JsonObject) (key : String) : Option String :=
  match fields.get key with
  | .null => none
  | value => some (p.valueOf value)

/-- `parse`. -/
def parseNarrative (raw : Option String) : NarrativeParts :=
  if isBlankText p.toTriagePlatform raw then ⟨none, none⟩
  else
    let s := unfenced (raw.getD "")
    match p.deserializeMap s with
    | none        => ⟨some s, none⟩
    | some fields => ⟨textField p fields "justification", textField p fields "narrative"⟩

/-- `NARRATIVE_PLACEHOLDER`. -/
def narrativePlaceholder : String := "[Narrative pending — generated by triage.]"

/-- `mergeNarrative`. -/
def mergeNarrative (description narrative : String) : String :=
  if isBlankText p.toTriagePlatform description then narrative
  else if narrativePlaceholder.toList <:+: description.toList then
    String.ofList (replaceAll narrativePlaceholder.toList narrative.toList description.toList)
  else description ++ "\n\n" ++ narrative

/-! ### The job -/

/-- `NOTIF_PREFIX`. -/
def notificationSubject : String := "Customer notification — "

/-- `Subject LIKE` the prefix with any characters after it, which ignores case. -/
def isNotification (task : OrgTask) : Bool :=
  notificationSubject.toList.map Char.toLower <+: task.subject.toList.map Char.toLower

/-- A job with what it meets: the answers of the model, an exception being given by its text, the
order in which its query returns the Tasks, and which rows its two updates save. -/
structure NarrativeJob where
  caseIds : List String
  complete : String → Except String (Option String)
  order : List OrgTask → List OrgTask
  order_perm : ∀ tasks, (order tasks).Perm tasks
  caseSaved : String → Bool
  taskSaved : String → Bool

namespace NarrativeJob

variable (job : NarrativeJob) (org : NarrativeOrg)

/-- The Cases of the job. -/
def casesById : List OrgCase := org.cases.rows.filter fun c => c.id ∈ job.caseIds

/-- The notification Tasks of the Cases; of several the last one counts. -/
def notifByCase : String → Option OrgTask :=
  (job.order (org.tasks.rows.filter fun t => t.whatId ∈ job.caseIds ∧ isNotification t)).foldl
    (fun byCase t => Function.update byCase t.whatId (some t)) fun _ => none

/-- What the model answers for a Case; after an exception the Case is left as it is. -/
def parts (c : OrgCase) : Option NarrativeParts :=
  match job.complete (buildPrompt p c) with
  | .error _ => none
  | .ok raw  => some (parseNarrative p raw)

/-- A text that is not blank. -/
def nonBlank (text : Option String) : Option String :=
  text.filter fun s => !isBlankText p.toTriagePlatform (some s)

/-- The justification of a Case that is updated. -/
def caseUpdate (c : OrgCase) : Option String :=
  (job.parts p c).bind fun out => (nonBlank p out.justification).map (abbreviate · 4096)

/-- The Task that is updated for a Case, with its Description. -/
def taskUpdate (c : OrgCase) : Option (OrgTask × String) :=
  (job.parts p c).bind fun out =>
    (job.notifByCase org c.id).bind fun notif =>
      (nonBlank p out.narrative).map fun narrative =>
        (notif, abbreviate (mergeNarrative p notif.description narrative) 32000)

/-- The first update: a Case of the job is given its justification. -/
def updatedCase (c : OrgCase) : OrgCase :=
  if c.id ∈ job.caseIds ∧ job.caseSaved c.id then
    match job.caseUpdate p c with
    | some justification => { c with severityJustification := some justification }
    | none               => c
  else c

/-- The Description the second update has for a Task. -/
def descriptionFor (taskId : String) : Option String :=
  ((job.casesById org).filterMap (job.taskUpdate p org)).findSome? fun update =>
    if update.1.id = taskId then some update.2 else none

/-- The second update. -/
def updatedTask (task : OrgTask) : OrgTask :=
  if job.taskSaved task.id then
    match job.descriptionFor p org task.id with
    | some description => { task with description }
    | none             => task
  else task

/-- `Worker.execute`. -/
def execute : NarrativeOrg where
  cases := {
    rows := org.cases.rows.map (job.updatedCase p)
    nodup := by
      have hid : ∀ c, (job.updatedCase p c).id = c.id := by
        intro c
        rw [updatedCase]
        split_ifs
        · split <;> rfl
        · rfl
      rw [List.map_map]
      simpa [Function.comp_def, hid] using org.cases.nodup }
  tasks := {
    rows := org.tasks.rows.map (job.updatedTask p org)
    nodup := by
      have hid : ∀ t, (job.updatedTask p org t).id = t.id := by
        intro t
        rw [updatedTask]
        split_ifs
        · split <;> rfl
        · rfl
      rw [List.map_map]
      simpa [Function.comp_def, hid] using org.tasks.nodup }

end NarrativeJob

/-! ### The trigger -/

/-- The Cases of an insert that are triaged. -/
def eligibleCases (fleetOpsRecordTypeId : String) (inserted : List OrgCase) : List String :=
  ((inserted.filter fun c => c.recordTypeId = fleetOpsRecordTypeId ∧
    ¬isBlankText p.toTriagePlatform c.afmCaseType ∧ c.severityJustification = none).map (·.id)).dedup

/-- `AFM_CaseTriggerHandler.afterInsert`: the Cases it triages, and those of each job. -/
def afterInsert (fleetOpsRecordTypeId : String) (inserted : List OrgCase) :
    List String × List (List String) :=
  let eligible := eligibleCases p fleetOpsRecordTypeId inserted
  if eligible.isEmpty then ([], []) else (eligible, enqueue eligible)

end FleetMonitor
