import FleetMonitor.Foundry.FlightIds
import FleetMonitor.Salesforce.TriageRuns

/-!
# The triage action of the agent

`AFM_TriageCase.triage` passes the Cases of its requests to the triage and gives each request a
result with a text that the agent says. The text alone tells what was done: it can be read back.
-/

namespace FleetMonitor

open Library

/-- `AFM_TriageCase.TriageResult`. -/
structure AgentResult where
  triaged : Bool := false
  investigationTaskCount : ℕ := 0
  escalatedToEngineering : Bool := false
  customerNotificationDrafted : Bool := false
  summary : String
  deriving DecidableEq, Repr

/-- `buildSummary`. -/
def buildSummary (s : TriageSummary) : String :=
  let tasks := toString s.investigationTasks ++ " investigation task" ++
    (if s.investigationTasks = 1 then "" else "s") ++ " created"
  let parts := tasks ::
    ((if s.escalated then ["escalated to the Engineering Triage queue"] else []) ++
      if s.notificationDrafted then ["customer notification drafted"] else [])
  String.intercalate "; " parts ++ "."

/-- The text for an id of no Case. -/
def notFoundSummary (caseId : String) : String :=
  "Case " ++ caseId ++ " was not found or is not eligible for triage."

/-- `toResult`. -/
def toResult (caseId : String) : Option TriageSummary → AgentResult
  | none   => { summary := notFoundSummary caseId }
  | some s =>
    { triaged := true
      investigationTaskCount := s.investigationTasks
      escalatedToEngineering := s.escalated
      customerNotificationDrafted := s.notificationDrafted
      summary := buildSummary s }

/-- `AFM_TriageCase.triage`: the requests are the ids of the call; `none` when the triage throws. -/
def agentTriage (orgLinks : List DocumentLink) (call : TriageCall) : Option (List AgentResult) :=
  (triageCases orgLinks call).map fun result =>
    call.caseIds.map fun caseId => toResult caseId (result.summaries caseId)

/-! ### The text -/

/-- What comes after the number of Tasks. -/
def summaryTail (one escalated notificationDrafted : Bool) : String :=
  " investigation task" ++ (if one then "" else "s") ++ " created" ++
    (if escalated then "; " ++ "escalated to the Engineering Triage queue" else "") ++
    (if notificationDrafted then "; " ++ "customer notification drafted" else "") ++ "."

lemma buildSummary_eq (s : TriageSummary) : buildSummary s = toString s.investigationTasks ++
    summaryTail (s.investigationTasks = 1) s.escalated s.notificationDrafted := by
  have hone : ∀ a : String, String.intercalate "; " [a] = a := fun _ => rfl
  have htwo : ∀ a b : String, String.intercalate "; " [a, b] = a ++ "; " ++ b := fun _ _ => rfl
  have hthree : ∀ a b c : String,
      String.intercalate "; " [a, b, c] = a ++ "; " ++ b ++ "; " ++ c := fun _ _ _ => rfl
  obtain ⟨n, escalated, notificationDrafted, links⟩ := s
  unfold buildSummary summaryTail
  cases escalated <;> cases notificationDrafted <;>
    simp only [hone, htwo, hthree, Bool.false_eq_true, if_false, if_true,
      List.nil_append, List.append_nil, List.singleton_append, String.append_assoc, String.append_empty,
      decide_eq_true_eq]

lemma exists_toList_summaryTail (one escalated notificationDrafted : Bool) :
    ∃ rest, (summaryTail one escalated notificationDrafted).toList = ' ' :: rest := by
  cases one <;> cases escalated <;> cases notificationDrafted <;> exact ⟨_, rfl⟩

lemma summaryTail_inj : ∀ one escalated notificationDrafted escalated' notificationDrafted' : Bool,
    summaryTail one escalated notificationDrafted = summaryTail one escalated' notificationDrafted' →
      escalated = escalated' ∧ notificationDrafted = notificationDrafted' := by
  decide +kernel

/-- The number of Tasks comes first. -/
lemma takeWhile_buildSummary (s : TriageSummary) :
    (buildSummary s).toList.takeWhile Char.isDigit = Nat.toDigits 10 s.investigationTasks := by
  obtain ⟨rest, hrest⟩ := exists_toList_summaryTail (s.investigationTasks = 1) s.escalated
    s.notificationDrafted
  rw [buildSummary_eq, String.toList_append, hrest, Nat.toString_eq_ofList_toDigits,
    String.toList_ofList, List.takeWhile_append_of_pos fun c hc => isDigit_of_mem_repr hc]
  simp

/-- The text tells the number of Tasks, and whether the Case was escalated and the customer is to be
notified. -/
lemma buildSummary_inj {s t : TriageSummary} (h : buildSummary s = buildSummary t) :
    s.investigationTasks = t.investigationTasks ∧ s.escalated = t.escalated ∧
      s.notificationDrafted = t.notificationDrafted := by
  have hnumber : s.investigationTasks = t.investigationTasks := by
    apply toDigits_injective
    rw [← takeWhile_buildSummary, h, takeWhile_buildSummary]
  rw [buildSummary_eq, buildSummary_eq, hnumber] at h
  exact ⟨hnumber, summaryTail_inj _ _ _ _ _ (String.append_right_inj _ |>.mp h)⟩

/-- No triage is told as that of an id of no Case. -/
lemma buildSummary_ne_notFound (s : TriageSummary) (caseId : String) :
    buildSummary s ≠ notFoundSummary caseId := by
  intro h
  have hdigits := takeWhile_buildSummary s
  have hnone : (notFoundSummary caseId).toList.takeWhile Char.isDigit = [] := by
    unfold notFoundSummary
    simp only [String.toList_append]
    rfl
  rw [h, hnone] at hdigits
  exact Nat.toDigits_ne_nil hdigits.symm

/-! ### The results -/

/-- The result of a request says what was saved for its Case. -/
structure Reports (call : TriageCall) (caseId : String) (r : AgentResult) : Prop where
  triaged : r.triaged = true ↔ caseId ∈ call.ids
  investigationTaskCount :
    r.investigationTaskCount = call.tasksSaved.countP (isTaskOf caseId .investigation)
  escalatedToEngineering :
    r.escalatedToEngineering = true ↔ ∃ row ∈ call.tasksSaved, isTaskOf caseId .escalation row
  customerNotificationDrafted :
    r.customerNotificationDrafted = true ↔ ∃ row ∈ call.tasksSaved, isTaskOf caseId .notification row

variable {orgLinks : List DocumentLink} {call : TriageCall} {results : List AgentResult}
  {caseId : String}

/-- A Task is saved for a Case that was found. -/
lemma countP_tasksSaved_of_notMem (hid : caseId ∉ call.ids) (kind : TaskKind) :
    call.tasksSaved.countP (isTaskOf caseId kind) = 0 := by
  rw [List.countP_eq_zero]
  intro row hrow
  have hasked : row ∈ call.tasksAsked := savedRows_sublist.mem hrow
  obtain ⟨c, hc, hrow⟩ := List.mem_flatMap.mp hasked
  have hne : row.1.whatId ≠ caseId := by
    rw [whatId_of_mem_tasksOf hrow]
    rintro rfl
    exact hid (List.mem_map.mpr ⟨c, hc, rfl⟩)
  simp [isTaskOf, hne]

/-- A flag that counts rows says that there is one. -/
lemma flag_iff_exists {flag : Bool} {rows : List (SfTask × TaskKind)} {q : SfTask × TaskKind → Bool}
    (h : flag.toNat = rows.countP q) : flag = true ↔ ∃ row ∈ rows, q row := by
  rw [← List.countP_pos_iff, ← h]
  cases flag <;> simp

lemma reports_toResult {result : TriageResult} (h : triageCases orgLinks call = some result)
    (caseId : String) : Reports call caseId (toResult caseId (result.summaries caseId)) := by
  have htallies := TriageResult.talliesSaved h
  by_cases hid : caseId ∈ call.ids
  · obtain ⟨s, hs, hcounts⟩ := htallies.found caseId hid
    rw [hs]
    exact ⟨iff_of_true rfl hid, hcounts.investigationTasks, flag_iff_exists hcounts.escalated,
      flag_iff_exists hcounts.notificationDrafted⟩
  · rw [htallies.others caseId hid]
    have hnone : ∀ kind, call.tasksSaved.countP (isTaskOf caseId kind) = 0 :=
      countP_tasksSaved_of_notMem hid
    exact ⟨iff_of_false Bool.false_ne_true hid, (hnone _).symm, flag_iff_exists (hnone _).symm,
      flag_iff_exists (hnone _).symm⟩

/-- Results of one text are one result. -/
lemma eq_of_summary_eq {caseId' : String} {s s' : Option TriageSummary}
    (h : (toResult caseId s).summary = (toResult caseId' s').summary) :
    toResult caseId s = toResult caseId' s' := by
  cases s with
  | none =>
    cases s' with
    | none =>
      change notFoundSummary caseId = notFoundSummary caseId' at h
      simp only [toResult, h]
    | some s' => exact absurd h.symm (buildSummary_ne_notFound s' caseId)
  | some s =>
    cases s' with
    | none => exact absurd h (buildSummary_ne_notFound s caseId')
    | some s' =>
      change buildSummary s = buildSummary s' at h
      obtain ⟨hnumber, hescalated, hdrafted⟩ := buildSummary_inj h
      simp only [toResult, h, hnumber, hescalated, hdrafted]

/-- The agent has a result for each request, in order, that says what was saved for its Case; two
results of the same text, also of different calls, say the same. -/
theorem agentTriage_reports (h : agentTriage orgLinks call = some results) :
    List.Forall₂ (Reports call) call.caseIds results ∧
      ∀ orgLinks' call' results', agentTriage orgLinks' call' = some results' →
        ∀ r ∈ results, ∀ r' ∈ results', r.summary = r'.summary → r = r' := by
  obtain ⟨result, hresult, rfl⟩ := Option.map_eq_some_iff.mp h
  constructor
  · rw [List.forall₂_map_right_iff, List.forall₂_same]
    exact fun caseId _ => reports_toResult hresult caseId
  · intro orgLinks' call' results' h' r hr r' hr' htext
    obtain ⟨result', -, rfl⟩ := Option.map_eq_some_iff.mp h'
    obtain ⟨caseId, -, rfl⟩ := List.mem_map.mp hr
    obtain ⟨caseId', -, rfl⟩ := List.mem_map.mp hr'
    exact eq_of_summary_eq htext

/-- The first Task is not saved, and nothing of the other id is found. -/
example :
    (agentTriage [] { sharedFileCall (· ≠ 0) (fun _ => true) with caseIds := ["500A", "500B"] }).map
      (fun results => results.map AgentResult.summary) =
    some ["1 investigation task created; customer notification drafted.",
      "Case 500B was not found or is not eligible for triage."] := by
  decide +kernel

theorem sharedFileCall_reports : ∃ results,
    agentTriage [] (sharedFileCall (· ≠ 0) (fun _ => true)) = some results ∧
      List.Forall₂ (Reports (sharedFileCall (· ≠ 0) (fun _ => true))) ["500A", "500A"] results := by
  obtain ⟨results, hresults⟩ : ∃ results,
      agentTriage [] (sharedFileCall (· ≠ 0) (fun _ => true)) = some results :=
    Option.isSome_iff_exists.mp (by decide +kernel)
  exact ⟨results, hresults, (agentTriage_reports hresults).1⟩

end FleetMonitor
