import FleetMonitor.Detection.Rules

/-!
# Deduplication over a frame

`deduplicate` reads the existing cases from a frame, whose cells can be missing. The cases a tick
loads are one such frame. What it keeps of a batch is a subsequence with distinct keys that accounts
for everything left out.
-/

namespace FleetMonitor

open Library

/-! ### The frame -/

/-- A row of `existing_cases`; a value of `detection_facts` that is no dict counts as missing. -/
structure ExistingCase where
  caseType : Option CaseType
  flightId : Option String
  siteIcao : Option String
  detectionFacts : Option DetectionFacts
  createdAt : Option Instant
  deriving DecidableEq, Repr

/-- The columns `_load_open_cases` selects. -/
def CaseRow.toExistingCase (row : CaseRow) : ExistingCase where
  caseType := some row.caseType
  flightId := some row.flightId
  siteIcao := some row.siteIcao
  detectionFacts := some row.detectionFacts
  createdAt := some row.createdAt

/-- `existing_key`. -/
def existingKey (rule : Rule) (row : ExistingCase) : DedupKey :=
  rule.dedupKey (row.flightId.getD "") row.siteIcao (row.detectionFacts.getD [])

/-- The filter of `recent`: a comparison with a missing value fails. -/
def isRecent (rule : Rule) (now : Instant) (row : ExistingCase) : Bool :=
  row.caseType = some rule.caseType && row.createdAt.any (now - rule.dedupWindow ≤ ·)

/-- `_matches_existing`, of any frame. -/
def matchesFrame (frame : List ExistingCase) (now : Instant) (d : Anomaly × Rule) : Bool :=
  (frame.filter (isRecent d.2 now)).any fun row => existingKey d.2 row = anomalyKey d.2 d.1

/-- The loop of `deduplicate`, with the rules of what it keeps. -/
def keptPairs (frame : List ExistingCase) (now : Instant) (anomalies : List (Anomaly × Rule)) :
    List (Anomaly × Rule) :=
  keepFirst (fun d => anomalyKey d.2 d.1) (matchesFrame frame now) anomalies []

/-- `deduplicate`, of any frame. -/
def deduplicateFrame (anomalies : List (Anomaly × Rule)) (frame : List ExistingCase)
    (now : Instant) : List Anomaly :=
  (keptPairs frame now anomalies).map Prod.fst

variable {frame : List ExistingCase} {now : Instant} {anomalies : List (Anomaly × Rule)}
  {d : Anomaly × Rule}

@[simp] lemma existingKey_toExistingCase (rule : Rule) (row : CaseRow) :
    existingKey rule row.toExistingCase = caseKey rule row := rfl

@[simp] lemma isRecent_toExistingCase {rule : Rule} {row : CaseRow} :
    isRecent rule now row.toExistingCase = true ↔
      row.caseType = rule.caseType ∧ now - rule.dedupWindow ≤ row.createdAt := by
  simp [isRecent, CaseRow.toExistingCase]

/-- On the cases a tick loads. -/
lemma deduplicate_eq (anomalies : List (Anomaly × Rule)) (cases : List CaseRow) (now : Instant) :
    deduplicate anomalies cases now =
      deduplicateFrame anomalies (cases.map CaseRow.toExistingCase) now := by
  have hmatches : ∀ d : Anomaly × Rule, matchesExisting (anomalyKey d.2 d.1) d.2 cases now =
      matchesFrame (cases.map CaseRow.toExistingCase) now d := by
    intro d
    rw [Bool.eq_iff_iff]
    simp only [matchesExisting, matchesFrame, List.any_eq_true, decide_eq_true_eq, List.mem_filter,
      List.mem_map]
    simp [and_assoc]
  rw [deduplicate, deduplicateFrame, survivors_eq, keptPairs]
  simp only [hmatches]

/-! ### What it keeps -/

/-- The frame has a case of the anomaly's rule and key that is in the window. -/
def HasExisting (frame : List ExistingCase) (now : Instant) (d : Anomaly × Rule) : Prop :=
  ∃ row ∈ frame, row.caseType = some d.2.caseType ∧
    (∃ createdAt, row.createdAt = some createdAt ∧ now - d.2.dedupWindow ≤ createdAt) ∧
    existingKey d.2 row = anomalyKey d.2 d.1

lemma matchesFrame_iff : matchesFrame frame now d = true ↔ HasExisting frame now d := by
  simp [matchesFrame, HasExisting, isRecent, Option.any_eq_true, and_assoc]

/-- `kept` is what a deduplication may keep of a batch: `prior` gives what it keeps of the anomalies
up to some point. -/
structure Deduplicates (frame : List ExistingCase) (now : Instant)
    (prior : List (Anomaly × Rule) → List (Anomaly × Rule))
    (anomalies kept : List (Anomaly × Rule)) : Prop where
  subsequence : kept.Sublist anomalies
  distinct : kept.Pairwise fun d e => anomalyKey d.2 d.1 ≠ anomalyKey e.2 e.1
  fresh : ∀ d ∈ kept, ¬HasExisting frame now d
  /-- An anomaly is kept at its place, or one kept earlier or an existing case accounts for it. -/
  accounted : ∀ earlier d later, anomalies = earlier ++ d :: later →
    ∃ rest, rest.Sublist later ∧
      (kept = prior earlier ++ d :: rest ∨
        kept = prior earlier ++ rest ∧
          ((∃ e ∈ prior earlier, anomalyKey e.2 e.1 = anomalyKey d.2 d.1) ∨
            HasExisting frame now d))

/-- The anomalies `deduplicate` returns are a subsequence of the batch with distinct keys and no
existing case, everything left out is accounted for, and a second pass changes nothing. A tick gives
it the frame of the cases it has loaded. -/
theorem deduplicate_accounts (anomalies : List (Anomaly × Rule)) (frame : List ExistingCase)
    (now : Instant) :
    deduplicateFrame anomalies frame now = (keptPairs frame now anomalies).map Prod.fst ∧
      Deduplicates frame now (keptPairs frame now) anomalies (keptPairs frame now anomalies) ∧
      keptPairs frame now (keptPairs frame now anomalies) = keptPairs frame now anomalies ∧
      ∀ cases : List CaseRow, deduplicate anomalies cases now =
        deduplicateFrame anomalies (cases.map CaseRow.toExistingCase) now := by
  refine ⟨rfl, ⟨keepFirst_sublist, keepFirst_pairwise, fun d hd hexisting => ?_, ?_⟩,
    keepFirst_keepFirst, fun cases => deduplicate_eq anomalies cases now⟩
  · have hclear := (of_mem_keepFirst hd).2
    rw [matchesFrame_iff.mpr hexisting] at hclear
    cases hclear
  · rintro earlier d later rfl
    obtain ⟨rest, hrest, hkept⟩ : ∃ rest, rest.Sublist later ∧
        keptPairs frame now (earlier ++ [d] ++ later) = keptPairs frame now (earlier ++ [d]) ++ rest :=
      exists_keepFirst_append
    rw [List.append_assoc, List.singleton_append, keptPairs, keptPairs, keepFirst_concat] at hkept
    refine ⟨rest, hrest, ?_⟩
    split_ifs at hkept with hskipped
    · rw [matchesFrame_iff] at hskipped
      exact .inr ⟨hkept, hskipped⟩
    · rw [List.append_assoc] at hkept
      exact .inl hkept

end FleetMonitor
