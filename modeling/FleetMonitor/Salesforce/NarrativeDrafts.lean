import FleetMonitor.Salesforce.NarrativeJobs

/-!
# The customer notification

Triage drafts the notification of a Case with a placeholder for the narrative, and the job of the
Case later puts the narrative in its place. The job finds the draft by its subject, which
abbreviation leaves its beginning, and reads the narrative from an answer with or without a fence
around it.
-/

namespace FleetMonitor

open Library

variable {p : NarrativePlatform}

/-! ### The draft -/

/-- What a draft has before the placeholder. -/
def draftHeading (p : NarrativePlatform) (c : ServiceCase) : String :=
  "Draft customer notification for " ++ concatText c.afmCaseType ++ " affecting " ++
    emptyDash p.toTriagePlatform c.afmSiteIcao ++ " (region: " ++ concatText c.afmCustomerRegion ++
    ").\n\n"

lemma notificationTask_description (c : ServiceCase) :
    (notificationTask p.toTriagePlatform c).description = draftHeading p c ++ narrativePlaceholder :=
  rfl

/-- Abbreviation keeps a beginning that is not too long. -/
lemma prefix_abbreviate {start s : String} {width : ℕ} (hstart : start.toList <+: s.toList)
    (hfits : start.length + 3 ≤ width) : start.toList <+: (abbreviate s width).toList := by
  rw [abbreviate]
  split_ifs
  · exact hstart
  · rw [String.toList_append, String.toList_ofList]
    have htake : start.toList <+: s.toList.take (width - 3) :=
      List.prefix_take_iff.mpr ⟨hstart, by rw [String.length_toList]; omega⟩
    exact htake.trans (List.prefix_append _ _)

/-- A job takes every draft for a notification. -/
lemma isNotification_draft {t : OrgTask} {c : ServiceCase}
    (ht : t.toSfTask = notificationTask p.toTriagePlatform c) : isNotification t := by
  have hsubject : t.subject = abbreviate (notificationSubject ++ c.subject) 255 :=
    congrArg SfTask.subject ht
  have hprefix : notificationSubject.toList <+: t.subject.toList := by
    rw [hsubject]
    apply prefix_abbreviate
    · rw [String.toList_append]
      exact List.prefix_append _ _
    · decide
  simp only [isNotification, decide_eq_true_eq]
  exact hprefix.map Char.toLower

lemma mem_draftHeading (c : ServiceCase) : 'D' ∈ (draftHeading p c).toList := by
  have hstart : 'D' ∈ "Draft customer notification for ".toList := by decide +kernel
  unfold draftHeading
  simp only [String.toList_append, List.mem_append, hstart, true_or]

lemma placeholder_eq_cons : ∃ rest, narrativePlaceholder.toList = '[' :: rest ∧ '[' ∉ rest :=
  ⟨narrativePlaceholder.toList.tail, by decide, by decide⟩

/-- The draft with the narrative in the place of the placeholder, and of any that the heading has.
-/
def filledDraft (p : NarrativePlatform) (c : ServiceCase) (narrative : String) : String :=
  String.ofList (replaceAll narrativePlaceholder.toList narrative.toList
    (draftHeading p c).toList) ++ narrative

/-- In a draft the narrative takes the place of the placeholder. -/
lemma mergeNarrative_draft {c : ServiceCase} (hletter : p.isWhitespace 'D' = false)
    (narrative : String) :
    mergeNarrative p (draftHeading p c ++ narrativePlaceholder) narrative =
      filledDraft p c narrative := by
  have hblank : isBlankText p.toTriagePlatform (some (draftHeading p c ++ narrativePlaceholder)) =
      false := by
    rw [isBlankText, Option.getD_some, String.toList_append, List.all_append, Bool.and_eq_false_iff]
    exact .inl (List.all_eq_false.mpr ⟨'D', mem_draftHeading c, by simp [hletter]⟩)
  have hfound :
      narrativePlaceholder.toList <:+: (draftHeading p c ++ narrativePlaceholder).toList := by
    rw [String.toList_append]
    exact (List.suffix_append ..).isInfix
  obtain ⟨rest, hrest, hfirst⟩ := placeholder_eq_cons
  rw [mergeNarrative, hblank, if_neg (by simp), if_pos hfound, filledDraft, String.toList_append,
    hrest, replaceAll_append_target narrative.toList hfirst, String.ofList_append,
    String.ofList_toList]

/-! ### The narrative in the draft -/

namespace NarrativeJob

variable {job : NarrativeJob} {org : NarrativeOrg} {c : OrgCase} {t : OrgTask} {narrative : String}

/-- The only notification of a Case is given the narrative of the Case. -/
lemma updatedTask_eq (hc : c ∈ org.cases.rows)
    (hanswered : Answered p job c (·.narrative) narrative)
    (ht : t ∈ org.tasks.rows) (hwhat : t.whatId = c.id) (hnotification : isNotification t)
    (honly : ∀ u ∈ org.tasks.rows, u.whatId = c.id → isNotification u → u = t)
    (hsaved : job.taskSaved t.id) : job.updatedTask p org t =
      { t with description := abbreviate (mergeNarrative p t.description narrative) 32000 } := by
  have hfound : t ∈ job.notifications org :=
    mem_notifications.mpr ⟨ht, hwhat ▸ hanswered.owns, hnotification⟩
  have hnotif : job.notifByCase org c.id = some t := by
    rw [← hwhat]
    apply notifByCase_eq hfound
    intro u hu hid
    obtain ⟨hrow, -, hnotif⟩ := mem_notifications.mp hu
    exact honly u hrow (hid.trans hwhat) hnotif
  have hupdate : job.taskUpdate p org c =
      some (t, abbreviate (mergeNarrative p t.description narrative) 32000) :=
    (taskUpdate_eq_some_iff hanswered.owns).mpr ⟨hnotif, narrative, hanswered, rfl⟩
  have hsome : (job.descriptionFor p org t.id).isSome := by
    rw [descriptionFor, List.findSome?_isSome_iff]
    exact ⟨_, List.mem_filterMap.mpr ⟨c, mem_casesById.mpr ⟨hc, hanswered.owns⟩, hupdate⟩, by simp⟩
  obtain ⟨description, hdescription⟩ := Option.isSome_iff_exists.mp hsome
  -- the Description found belongs to the same Case, as Tasks and Cases have one row for an id
  obtain ⟨c', hc', u, hid, hupdate'⟩ := descriptionFor_eq_some hdescription
  obtain ⟨hrow', howns'⟩ := mem_casesById.mp hc'
  obtain ⟨hnotif', -⟩ := (taskUpdate_eq_some_iff howns').mp hupdate'
  obtain ⟨hu, hwhat'⟩ := notifByCase_mem hnotif'
  obtain rfl := Table.row_eq_of_key_eq (mem_notifications.mp hu).1 ht hid
  obtain rfl := Table.row_eq_of_key_eq hrow' hc (hwhat'.symm.trans hwhat)
  rw [hupdate, Option.some.injEq, Prod.mk.injEq] at hupdate'
  rw [updatedTask, if_pos hsaved, hdescription]
  simp [hupdate'.2]

end NarrativeJob

/-- A draft is found by its subject; if it is the only notification of its Case, it has after the
jobs of the insert the narrative that was given for the Case. -/
theorem drafts_filled (p : NarrativePlatform) (recordTypeId : String) (inserted : List OrgCase)
    (org : NarrativeOrg) (jobs : List NarrativeJob) (job : NarrativeJob) (c : OrgCase) (t : OrgTask)
    (narrative : String) (hjobs : EnqueuedBy p recordTypeId inserted jobs) (hjob : job ∈ jobs)
    (hc : c ∈ org.cases.rows) (ht : t ∈ org.tasks.rows)
    (hdraft : t.toSfTask = notificationTask p.toTriagePlatform c.toServiceCase)
    (honly : ∀ u ∈ org.tasks.rows, u.whatId = c.id → isNotification u → u = t)
    (hanswered : NarrativeJob.Answered p job c (·.narrative) narrative)
    (hsaved : job.taskSaved t.id) (hletter : p.isWhitespace 'D' = false) :
    isNotification t ∧
      { t with description := abbreviate (filledDraft p c.toServiceCase narrative) 32000 } ∈
        (runNarratives p org jobs).tasks.rows := by
  have hfound : isNotification t := isNotification_draft hdraft
  have hwhat : t.whatId = c.id := congrArg SfTask.whatId hdraft
  have hupdated := NarrativeJob.updatedTask_eq hc hanswered ht hwhat hfound honly hsaved
  rw [congrArg SfTask.description hdraft, notificationTask_description,
    mergeNarrative_draft hletter] at hupdated
  have hrows : (runNarratives p org jobs).at c.id = (job.execute p org).at c.id :=
    (NarrativeJob.ownedWrites p).view_foldl_of_owned hjobs.pairwise_noSharedKey hjob hanswered.owns org
  have hmem : job.updatedTask p org t ∈ (job.execute p org).tasks.rows := List.mem_map_of_mem ht
  refine ⟨hfound, ?_⟩
  rw [← hupdated]
  apply mem_of_rowsAt_eq (congrArg Prod.snd hrows) hmem
  rw [NarrativeJob.updatedTask_whatId, hwhat]

/-- The Task of `draftedOrg`. -/
def draftTask : OrgTask :=
  ⟨notificationTask answeringPlatform.toTriagePlatform (westCase "k").toServiceCase, "t"⟩

lemma answered_fencedJob : NarrativeJob.Answered answeringPlatform (fencedJob ["k"]) (westCase "k")
    (·.narrative) "Arrivals are delayed." where
  owns := List.mem_singleton_self "k"
  answered := ⟨_, rfl, by decide +kernel⟩
  nonBlank := by decide +kernel

theorem draft_filled_west : isNotification draftTask ∧
    { draftTask with
      description := abbreviate (filledDraft answeringPlatform (westCase "k").toServiceCase
        "Arrivals are delayed.") 32000 } ∈
    (runNarratives answeringPlatform draftedOrg twoJobs).tasks.rows := by
  apply drafts_filled answeringPlatform "fleet" elevenCases draftedOrg twoJobs (fencedJob ["k"])
    (westCase "k") draftTask "Arrivals are delayed." enqueuedBy_twoJobs
  · simp [twoJobs]
  · exact List.mem_map_of_mem (by decide)
  · exact List.mem_singleton_self draftTask
  · rfl
  · exact fun u hu _ _ => List.mem_singleton.mp hu
  · exact answered_fencedJob
  · rfl
  · rfl

/-! ### Answers in a fence -/

/-- What is passed over at both ends leaves a text whose ends are not. -/
lemma strip_padded {q : Char → Bool} {before after middle : List Char} {a b : Char}
    (hbefore : ∀ x ∈ before, q x) (hafter : ∀ x ∈ after, q x) (ha : q a = false)
    (hb : q b = false) :
    ((before ++ (a :: (middle ++ [b])) ++ after).dropWhile q).rdropWhile q =
      a :: (middle ++ [b]) := by
  rw [List.append_assoc, List.dropWhile_append_of_pos hbefore, List.cons_append,
    List.dropWhile_cons_of_neg (by simp [ha]), List.rdropWhile, List.reverse_cons,
    List.reverse_append, List.append_assoc,
    List.dropWhile_append_of_pos fun x hx => hafter x (List.mem_reverse.mp hx)]
  simp [hb]

/-- The text of an object: what stands in its braces. -/
def braced (inner : List Char) : List Char := '\x7b' :: (inner ++ ['\x7d'])

/-- A text in a fence with its language, and whitespace between the fence and the text. -/
def fenced (language space space' text : List Char) : List Char :=
  fence ++ language ++ space ++ text ++ space' ++ fence

variable {language space space' pad pad' inner : List Char}

lemma openingStripped_fenced (hlanguage : ∀ x ∈ language, isAsciiLetter x)
    (hspace : ∀ x ∈ space, isRegexSpace x) (rest : List Char) :
    openingStripped (fence ++ (language ++ (space ++ '\x7b' :: rest))) = '\x7b' :: rest := by
  have hdrop : (fence ++ (language ++ (space ++ '\x7b' :: rest))).drop 3 =
      language ++ (space ++ '\x7b' :: rest) := rfl
  rw [openingStripped, if_pos (List.prefix_append ..), hdrop,
    List.dropWhile_append_of_pos hlanguage]
  have hletters : (space ++ '\x7b' :: rest).dropWhile isAsciiLetter = space ++ '\x7b' :: rest := by
    cases space with
    | nil => rfl
    | cons x space =>
      have hx : isRegexSpace x := hspace x List.mem_cons_self
      have hnot : isAsciiLetter x = false := by
        simp only [isRegexSpace, List.mem_cons, List.not_mem_nil, or_false,
          decide_eq_true_eq] at hx
        rcases hx with rfl | rfl | rfl | rfl | rfl | rfl <;> rfl
      rw [List.cons_append, List.dropWhile_cons_of_neg (by simp [hnot])]
  rw [hletters, List.dropWhile_append_of_pos hspace]
  rfl

lemma closingStripped_fenced (hspace' : ∀ x ∈ space', isRegexSpace x) :
    closingStripped (braced inner ++ space' ++ fence) = braced inner := by
  have hlast : (braced inner ++ space' ++ fence).getLast? = some '`' := by
    rw [List.getLast?_append_of_ne_nil _ (by simp [fence])]
    rfl
  have hnone : ((some '`').filter isLineTerminator).toList = [] := rfl
  have hlength :
      (braced inner ++ space' ++ fence).length - 3 = (braced inner ++ space').length := by
    rw [List.length_append]
    rfl
  rw [closingStripped, hlast, hnone, List.length_nil, Nat.sub_zero, List.take_length,
    if_pos (List.suffix_append ..), hlength, List.take_left', List.append_nil]
  · rw [List.rdropWhile, List.reverse_append,
      List.dropWhile_append_of_pos fun x hx => hspace' x (List.mem_reverse.mp hx)]
    simp [braced, isRegexSpace]
  · rfl

/-- Trimming takes away what is around a text whose ends stay. -/
lemma apexTrim_padded {middle : List Char} {a b : Char} (hpad : ∀ x ∈ pad, x ≤ ' ')
    (hpad' : ∀ x ∈ pad', x ≤ ' ') (ha : ¬a ≤ ' ') (hb : ¬b ≤ ' ') :
    apexTrim (String.ofList (pad ++ (a :: (middle ++ [b])) ++ pad')) =
      String.ofList (a :: (middle ++ [b])) := by
  rw [apexTrim, String.toList_ofList, strip_padded]
  · simpa using hpad
  · simpa using hpad'
  · simpa using ha
  · simpa using hb

lemma unfenced_braced (hpad : ∀ x ∈ pad, x ≤ ' ') (hpad' : ∀ x ∈ pad', x ≤ ' ') :
    unfenced (String.ofList (pad ++ braced inner ++ pad')) = String.ofList (braced inner) := by
  have htrim :
      apexTrim (String.ofList (pad ++ braced inner ++ pad')) = String.ofList (braced inner) :=
    apexTrim_padded hpad hpad' (by decide) (by decide)
  have hbare : ¬fence <+: braced inner := by
    intro hprefix
    have hhead := (List.cons_prefix_cons.mp hprefix).1
    cases hhead
  rw [unfenced, htrim, String.toList_ofList, if_neg hbare]

lemma unfenced_fenced (hlanguage : ∀ x ∈ language, isAsciiLetter x)
    (hspace : ∀ x ∈ space, isRegexSpace x) (hspace' : ∀ x ∈ space', isRegexSpace x)
    (hpad : ∀ x ∈ pad, x ≤ ' ') (hpad' : ∀ x ∈ pad', x ≤ ' ') :
    unfenced (String.ofList (pad ++ fenced language space space' (braced inner) ++ pad')) =
      String.ofList (braced inner) := by
  have htrim : apexTrim (String.ofList (pad ++ fenced language space space' (braced inner) ++ pad')) =
      String.ofList (fenced language space space' (braced inner)) := by
    have hends : fenced language space space' (braced inner) =
        '`' :: (('`' :: '`' :: (language ++ space ++ braced inner ++ space' ++ ['`',
          '`'])) ++ ['`']) := by
      simp [fenced, fence]
    rw [hends]
    exact apexTrim_padded hpad hpad' (by decide) (by decide)
  have hopens : fence <+: fenced language space space' (braced inner) := by
    simp only [fenced, List.append_assoc]
    exact List.prefix_append ..
  have hopening : openingStripped (fenced language space space' (braced inner)) =
      braced inner ++ space' ++ fence := by
    have hstripped := openingStripped_fenced hlanguage hspace (inner ++ ['\x7d'] ++ space' ++ fence)
    simpa [fenced, braced] using hstripped
  have hinner : apexTrim (String.ofList (braced inner)) = String.ofList (braced inner) := by
    have hpadded :
        apexTrim (String.ofList ([] ++ braced inner ++ [])) = String.ofList (braced inner) :=
      apexTrim_padded (by simp) (by simp) (by decide) (by decide)
    simpa using hpadded
  rw [unfenced, htrim, String.toList_ofList, if_pos hopens, hopening,
    closingStripped_fenced hspace',
    hinner]

/-- An object in a fence is read as the object alone, whatever the language of the fence and
whatever whitespace is around either. -/
theorem parse_fenced (p : NarrativePlatform) (language space space' pad pad' inner : List Char)
    (hlanguage : ∀ x ∈ language, isAsciiLetter x) (hspace : ∀ x ∈ space, isRegexSpace x)
    (hspace' : ∀ x ∈ space', isRegexSpace x) (hpad : ∀ x ∈ pad, x ≤ ' ')
    (hpad' : ∀ x ∈ pad', x ≤ ' ') (hbrace : p.isWhitespace '\x7b' = false) :
    parseNarrative p (some (String.ofList
        (pad ++ fenced language space space' (braced inner) ++ pad'))) =
      parseNarrative p (some (String.ofList (braced inner))) := by
  have hblank : ∀ text : List Char, '\x7b' ∈ text →
      isBlankText p.toTriagePlatform (some (String.ofList text)) = false := by
    intro text hmem
    rw [isBlankText, Option.getD_some, String.toList_ofList]
    exact List.all_eq_false.mpr ⟨'\x7b', hmem, by simp [hbrace]⟩
  have hbare : unfenced (String.ofList (braced inner)) = String.ofList (braced inner) := by
    have hpadded :
        unfenced (String.ofList ([] ++ braced inner ++ [])) = String.ofList (braced inner) :=
      unfenced_braced (by simp) (by simp)
    simpa using hpadded
  rw [parseNarrative, parseNarrative, hblank _ (by simp [fenced, braced]),
    hblank _ (by simp [braced]), if_neg (by simp), if_neg (by simp), Option.getD_some,
    Option.getD_some, unfenced_fenced hlanguage hspace hspace' hpad hpad', hbare]

theorem parse_fenced_json : parseNarrative answeringPlatform (some (String.ofList
      ([' '] ++ fenced ['j', 's', 'o', 'n'] ['\n'] ['\n'] (braced ['"', 'a', '"', ':', '1']) ++
        ['\n']))) =
    parseNarrative answeringPlatform (some (String.ofList (braced ['"', 'a', '"', ':', '1']))) := by
  apply parse_fenced
  · simp [isAsciiLetter]
  · simp [isRegexSpace]
  · simp [isRegexSpace]
  · simp
  · simp
  · rfl

end FleetMonitor
