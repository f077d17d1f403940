import FleetMonitor.Library.Validation
import Mathlib.Data.List.Dedup
import Mathlib.Data.List.Sort

/-!
# Groups of a stream

A generator that goes once through rows in the order of their keys and yields the group of each key
when the next key begins. It yields what separate computations, one a key, give in the order of the
keys, up to the first of them that raises. A stream that breaks off raises in the middle of the
group it has come to.
-/

namespace FleetMonitor.Library

variable {ε α κ ρ π : Type*}

/-- What a generator yields, and what it raises at the end. -/
structure Yields (ε α : Type*) where
  yielded : List α
  raised : Option ε := none
  deriving DecidableEq, Repr

/-- Yield some values first. -/
def Yields.prepend (first : List α) (s : Yields ε α) : Yields ε α :=
  { s with yielded := first ++ s.yielded }

@[simp] lemma Yields.prepend_yielded (first : List α) (s : Yields ε α) :
    (s.prepend first).yielded = first ++ s.yielded := rfl

@[simp] lemma Yields.prepend_raised (first : List α) (s : Yields ε α) :
    (s.prepend first).raised = s.raised := rfl

@[simp] lemma Yields.prepend_nil (s : Yields ε α) : s.prepend [] = s := rfl

/-! ### One computation after the other -/

/-- The results of a computation at each key, up to the first that raises. -/
def runAll (f : κ → Except ε α) : List κ → Yields ε α
  | [] => ⟨[], none⟩
  | k :: ks =>
    match f k with
    | .error e => ⟨[], some e⟩
    | .ok a    => (runAll f ks).prepend [a]

variable {f g : κ → Except ε α} {ks : List κ} {k : κ} {a : α}

lemma runAll_cons_error {e : ε} (h : f k = .error e) : runAll f (k :: ks) = ⟨[], some e⟩ := by
  simp [runAll, h]

lemma runAll_cons_ok (h : f k = .ok a) : runAll f (k :: ks) = (runAll f ks).prepend [a] := by
  simp [runAll, h]

lemma runAll_congr (h : ∀ k ∈ ks, f k = g k) : runAll f ks = runAll g ks := by
  induction ks with
  | nil => rfl
  | cons k ks ih =>
    have htail : runAll f ks = runAll g ks := ih fun k hk => h k (List.mem_cons_of_mem _ hk)
    simp only [runAll, h k List.mem_cons_self, htail]

lemma isOk_of_runAll_raised_eq_none (h : (runAll f ks).raised = none) (hk : k ∈ ks) :
    ∃ a, f k = .ok a := by
  induction ks with
  | nil => cases hk
  | cons k' ks ih =>
    cases hk' : f k' with
    | error e =>
      rw [runAll_cons_error hk'] at h
      cases h
    | ok a =>
      rw [runAll_cons_ok hk', Yields.prepend_raised] at h
      rcases List.mem_cons.mp hk with rfl | hk
      · exact ⟨a, hk'⟩
      · exact ih h hk

variable [LinearOrder κ]

/-- Yielded are the results that come before all failures. -/
lemma mem_runAll (hsorted : ks.Pairwise (· < ·)) :
    a ∈ (runAll f ks).yielded ↔
      ∃ k ∈ ks, f k = .ok a ∧ ∀ k' ∈ ks, ∀ e, f k' = .error e → k < k' := by
  induction ks with
  | nil => simp [runAll]
  | cons k ks ih =>
    obtain ⟨hlt, hsorted⟩ := List.pairwise_cons.mp hsorted
    cases hk : f k with
    | error e =>
      rw [runAll_cons_error hk]
      refine iff_of_false List.not_mem_nil ?_
      rintro ⟨k', hk', -, hfirst⟩
      have hbefore : k' < k := hfirst k List.mem_cons_self e hk
      rcases List.mem_cons.mp hk' with rfl | hk'
      · exact lt_irrefl _ hbefore
      · exact lt_asymm hbefore (hlt k' hk')
    | ok b =>
      rw [runAll_cons_ok hk, Yields.prepend_yielded, List.singleton_append, List.mem_cons,
        ih hsorted]
      constructor
      · rintro (rfl | ⟨k', hk', hok, hfirst⟩)
        · refine ⟨k, List.mem_cons_self, hk, fun k' hk' e he => ?_⟩
          rcases List.mem_cons.mp hk' with rfl | hk'
          · rw [hk] at he
            cases he
          · exact hlt k' hk'
        · refine ⟨k', List.mem_cons_of_mem _ hk', hok, fun k'' hk'' e he => ?_⟩
          rcases List.mem_cons.mp hk'' with rfl | hk''
          · rw [hk] at he
            cases he
          · exact hfirst k'' hk'' e he
      · rintro ⟨k', hk', hok, hfirst⟩
        rcases List.mem_cons.mp hk' with rfl | hk'
        · rw [hk] at hok
          exact .inl (Except.ok.inj hok).symm
        · exact .inr ⟨k', hk', hok, fun k'' hk'' => hfirst k'' (List.mem_cons_of_mem _ hk'')⟩

/-- Raised is the first failure. -/
lemma runAll_raised_eq_some_iff {e : ε} (hsorted : ks.Pairwise (· < ·)) :
    (runAll f ks).raised = some e ↔
      ∃ k ∈ ks, f k = .error e ∧ ∀ k' ∈ ks, ∀ e', f k' = .error e' → k ≤ k' := by
  induction ks with
  | nil => simp [runAll]
  | cons k ks ih =>
    obtain ⟨hlt, hsorted⟩ := List.pairwise_cons.mp hsorted
    cases hk : f k with
    | error e₀ =>
      rw [runAll_cons_error hk]
      constructor
      · intro h
        obtain rfl := Option.some.inj h
        refine ⟨k, List.mem_cons_self, hk, fun k' hk' e' he => ?_⟩
        rcases List.mem_cons.mp hk' with rfl | hk'
        · exact le_rfl
        · exact (hlt k' hk').le
      · rintro ⟨k', hk', herror, hfirst⟩
        rcases List.mem_cons.mp hk' with rfl | hk'
        · rw [hk] at herror
          exact congrArg some (Except.error.inj herror)
        · exact absurd (hlt k' hk') (not_lt.mpr (hfirst k List.mem_cons_self e₀ hk))
    | ok a =>
      rw [runAll_cons_ok hk, Yields.prepend_raised, ih hsorted]
      have hnotError : ∀ e', f k ≠ .error e' := by
        intro e' he
        rw [hk] at he
        cases he
      constructor
      · rintro ⟨k', hk', herror, hfirst⟩
        refine ⟨k', List.mem_cons_of_mem _ hk', herror, fun k'' hk'' e' he => ?_⟩
        rcases List.mem_cons.mp hk'' with rfl | hk''
        · exact absurd he (hnotError e')
        · exact hfirst k'' hk'' e' he
      · rintro ⟨k', hk', herror, hfirst⟩
        rcases List.mem_cons.mp hk' with rfl | hk'
        · exact absurd herror (hnotError e)
        · exact ⟨k', hk', herror, fun k'' hk'' => hfirst k'' (List.mem_cons_of_mem _ hk'')⟩

/-- What is yielded is in the order of the keys, each once. -/
lemma runAll_pairwise {keyOf : α → κ} (hkey : ∀ k a, f k = .ok a → keyOf a = k)
    (hsorted : ks.Pairwise (· < ·)) : ((runAll f ks).yielded.map keyOf).Pairwise (· < ·) := by
  induction ks with
  | nil => exact List.Pairwise.nil
  | cons k ks ih =>
    obtain ⟨hlt, hsorted⟩ := List.pairwise_cons.mp hsorted
    cases hk : f k with
    | error e =>
      rw [runAll_cons_error hk]
      exact List.Pairwise.nil
    | ok a =>
      rw [runAll_cons_ok hk, Yields.prepend_yielded, List.singleton_append, List.map_cons]
      refine List.pairwise_cons.mpr ⟨fun k' hk' => ?_, ih hsorted⟩
      obtain ⟨b, hb, rfl⟩ := List.mem_map.mp hk'
      obtain ⟨k', hk', hok, -⟩ := (mem_runAll hsorted).mp hb
      rw [hkey k a hk, hkey k' b hok]
      exact hlt k' hk'

/-! ### The loop -/

variable (key : ρ → κ) (parse : ρ → Except ε π) (emit : κ → List π → α)

/-- The loop over the rows, with the group it collects; after the last of them the stream is over,
or breaks off. -/
def streamGroups (broken : Option ε) : List ρ → Option κ → List π → Yields ε α
  | [], current, points =>
    match broken with
    | none   => ⟨(current.map fun k => emit k points).toList, none⟩
    | some e => ⟨[], some e⟩
  | row :: rows, current, points =>
    let isNew := current ≠ some (key row)
    let flushed := if isNew then (current.map fun k => emit k points).toList else []
    match parse row with
    | .error e  => ⟨flushed, some e⟩
    | .ok point =>
      (streamGroups broken rows (some (key row)) ((if isNew then [] else points) ++ [point])).prepend
        flushed

/-- The computation of one group by itself. -/
def groupOf (rows : List ρ) (k : κ) : Except ε α :=
  ((rows.filter fun row => key row = k).mapM parse).map (emit k)

variable {key parse emit} {rows : List ρ} {points : List π}

lemma streamGroups_cons_same {row : ρ} (h : key row = k) :
    streamGroups key parse emit none (row :: rows) (some k) points =
      match parse row with
      | .error e  => ⟨[], some e⟩
      | .ok point => streamGroups key parse emit none rows (some k) (points ++ [point]) := by
  subst h
  simp only [streamGroups, ne_eq, not_true_eq_false, if_false, Yields.prepend_nil]

lemma streamGroups_cons_new {row : ρ} (h : k ≠ key row) :
    streamGroups key parse emit none (row :: rows) (some k) points =
      (streamGroups key parse emit none (row :: rows) none []).prepend [emit k points] := by
  cases hparse : parse row with
  | error e => simp [streamGroups, h, hparse, Yields.prepend]
  | ok point => simp [streamGroups, h, hparse, Yields.prepend]

/-- A group that has begun takes the rows of its key, and the rest of the stream follows. -/
lemma streamGroups_some (hsorted : rows.Pairwise fun a b => key a ≤ key b)
    (hge : ∀ row ∈ rows, k ≤ key row) :
    streamGroups key parse emit none rows (some k) points =
      match (rows.filter fun row => key row = k).mapM parse with
      | .error e => ⟨[], some e⟩
      | .ok more =>
        (streamGroups key parse emit none (rows.filter fun row => k < key row) none []).prepend
          [emit k (points ++ more)] := by
  induction rows generalizing points with
  | nil => simp [streamGroups, pure, Except.pure, Yields.prepend]
  | cons row rows ih =>
    obtain ⟨hrow, hsorted'⟩ := List.pairwise_cons.mp hsorted
    rcases (hge row List.mem_cons_self).eq_or_lt with heq | hlt
    · have hge' : ∀ row ∈ rows, k ≤ key row := fun r hr => hge r (List.mem_cons_of_mem _ hr)
      have hsame : (row :: rows).filter (fun row => key row = k) =
          row :: rows.filter fun row => key row = k := by simp [heq.symm]
      have hlater : (row :: rows).filter (fun row => k < key row) =
          rows.filter fun row => k < key row := by simp [heq.symm]
      rw [streamGroups_cons_same heq.symm, hsame, hlater, List.mapM_cons]
      cases parse row with
      | error e => rfl
      | ok point =>
        simp only [ih hsorted' hge']
        cases (rows.filter fun row => key row = k).mapM parse with
        | error e => rfl
        | ok more => simp [bind, Except.bind, pure, Except.pure]
    · have hall : ∀ r ∈ row :: rows, k < key r := by
        intro r hr
        rcases List.mem_cons.mp hr with rfl | hr
        · exact hlt
        · exact hlt.trans_le (hrow r hr)
      have hnone : (row :: rows).filter (fun row => key row = k) = [] :=
        List.filter_eq_nil_iff.mpr fun r hr => by simpa using (hall r hr).ne'
      have hkept : (row :: rows).filter (fun row => k < key row) = row :: rows :=
        List.filter_eq_self.mpr fun r hr => by simpa using hall r hr
      rw [streamGroups_cons_new hlt.ne, hnone, hkept]
      simp [pure, Except.pure]

/-- The first group, and the rest of the stream. -/
lemma streamGroups_first {row : ρ} (hsorted : (row :: rows).Pairwise fun a b => key a ≤ key b) :
    streamGroups key parse emit none (row :: rows) none [] =
      match groupOf key parse emit (row :: rows) (key row) with
      | .error e => ⟨[], some e⟩
      | .ok a =>
        (streamGroups key parse emit none ((row :: rows).filter fun r => key row < key r) none
          []).prepend [a] := by
  obtain ⟨hge, hsorted'⟩ := List.pairwise_cons.mp hsorted
  have hsame : (row :: rows).filter (fun r => key r = key row) =
      row :: rows.filter fun r => key r = key row := by simp
  have hlater : (row :: rows).filter (fun r => key row < key r) =
      rows.filter fun r => key row < key r := by simp
  rw [groupOf, hsame, hlater, List.mapM_cons]
  cases hparse : parse row with
  | error e => simp [streamGroups, hparse, bind, Except.bind, Except.map]
  | ok point =>
    have hstart : streamGroups key parse emit none (row :: rows) none [] =
        streamGroups key parse emit none rows (some (key row)) [point] := by
      simp [streamGroups, hparse]
    rw [hstart, streamGroups_some hsorted' hge]
    cases (rows.filter fun r => key r = key row).mapM parse with
    | error e => rfl
    | ok more => simp [bind, Except.bind, pure, Except.pure, Except.map]

/-- The stream gives what separate computations give, in the order of the keys. -/
theorem streamGroups_eq_runAll (hsorted : rows.Pairwise fun a b => key a ≤ key b)
    (hkeys : ks.Pairwise (· < ·)) (hmem : ∀ k, k ∈ ks ↔ ∃ row ∈ rows, key row = k) :
    streamGroups key parse emit none rows none [] = runAll (groupOf key parse emit rows) ks := by
  induction ks generalizing rows with
  | nil =>
    have hnil : rows = [] := List.eq_nil_iff_forall_not_mem.mpr fun row hrow =>
      List.not_mem_nil ((hmem (key row)).mpr ⟨row, hrow, rfl⟩)
    rw [hnil]
    rfl
  | cons k ks ih =>
    obtain ⟨hlt, hkeys⟩ := List.pairwise_cons.mp hkeys
    obtain ⟨first, hfirst, hfirstKey⟩ := (hmem k).mp List.mem_cons_self
    obtain ⟨row, rest, rfl⟩ := List.exists_cons_of_ne_nil (List.ne_nil_of_mem hfirst)
    -- the first row has the least key
    have hkey : key row = k := by
      apply le_antisymm
      · rcases List.mem_cons.mp hfirst with rfl | hfirst
        · exact hfirstKey.le
        · exact hfirstKey ▸ (List.pairwise_cons.mp hsorted).1 first hfirst
      · rcases List.mem_cons.mp ((hmem (key row)).mpr ⟨row, List.mem_cons_self, rfl⟩) with h | h
        · exact h.ge
        · exact (hlt _ h).le
    have hrest : ∀ k', k' ∈ ks ↔
        ∃ r ∈ (row :: rest).filter (fun r => key row < key r), key r = k' := by
      intro k'
      simp only [List.mem_filter, decide_eq_true_eq]
      constructor
      · intro hk'
        obtain ⟨r, hr, rfl⟩ := (hmem k').mp (List.mem_cons_of_mem _ hk')
        exact ⟨r, ⟨hr, hkey ▸ hlt _ hk'⟩, rfl⟩
      · rintro ⟨r, ⟨hr, hlater⟩, rfl⟩
        refine ((List.mem_cons.mp ((hmem (key r)).mpr ⟨r, hr, rfl⟩))).resolve_left ?_
        rw [← hkey]
        exact hlater.ne'
    have hgroups : ∀ k' ∈ ks, groupOf key parse emit
        ((row :: rest).filter fun r => key row < key r) k' =
          groupOf key parse emit (row :: rest) k' := by
      intro k' hk'
      have hlater : key row < k' := hkey ▸ hlt k' hk'
      rw [groupOf, groupOf, List.filter_filter]
      congr 2
      apply List.filter_congr
      intro r _
      by_cases heq : key r = k'
      · simp [heq, hlater]
      · simp [heq]
    rw [streamGroups_first hsorted, ih (hsorted.filter _) hkeys hrest, runAll_congr hgroups, hkey,
      runAll]

/-! ### Keys -/

/-- The keys of some rows, in order. -/
lemma exists_sortedKeys (key : ρ → κ) (rows : List ρ) :
    ∃ ks : List κ, ks.Pairwise (· < ·) ∧ ∀ k, k ∈ ks ↔ ∃ row ∈ rows, key row = k := by
  refine ⟨(rows.map key).dedup.insertionSort (· ≤ ·), ?_, fun k => by simp⟩
  have hsorted := List.pairwise_insertionSort (· ≤ ·) (rows.map key).dedup
  have hnodup := (List.perm_insertionSort (· ≤ ·) (rows.map key).dedup).nodup_iff.mpr
    (List.nodup_dedup _)
  exact (hsorted.and hnodup).imp fun h => lt_of_le_of_ne h.1 h.2

lemma groupOf_eq_ok_iff :
    groupOf key parse emit rows k = .ok a ↔
      ∃ points, (rows.filter fun row => key row = k).mapM parse = .ok points ∧ emit k points = a := by
  rw [groupOf]
  cases (rows.filter fun row => key row = k).mapM parse with
  | error e => simp [Except.map]
  | ok points => simp [Except.map]

/-- What fails fails on a row. -/
lemma exists_error_of_groupOf_error {e : ε} (h : groupOf key parse emit rows k = .error e) :
    ∃ row ∈ rows, key row = k ∧ parse row = .error e := by
  rw [groupOf] at h
  cases hmapM : (rows.filter fun row => key row = k).mapM parse with
  | error e' =>
    rw [hmapM] at h
    obtain rfl := Except.error.inj h
    obtain ⟨row, hrow, he⟩ := exists_mem_of_mapM_error hmapM
    obtain ⟨hrow, hkey⟩ := List.mem_filter.mp hrow
    exact ⟨row, hrow, by simpa using hkey, he⟩
  | ok points =>
    rw [hmapM] at h
    cases h

/-! ### A stream that breaks off -/

/-- A break is a last row that cannot be parsed, of the group the loop has come to. -/
lemma streamGroups_broken {e : ε} (rows : List ρ) (last : κ) (current : Option κ) (points : List π)
    (hlast : ∀ k ∈ (rows.getLast?.map key).or current, k = last) :
    streamGroups key parse emit (some e) rows current points =
      streamGroups Prod.fst Prod.snd emit none
        (rows.map (fun row => (key row, parse row)) ++ [(last, .error e)]) current points := by
  induction rows generalizing current points with
  | nil =>
    cases current with
    | none => rfl
    | some k =>
      obtain rfl : k = last := hlast k (by simp)
      simp [streamGroups]
  | cons row rows ih =>
    rw [List.map_cons, List.cons_append, streamGroups, streamGroups]
    cases parse row with
    | error e' => rfl
    | ok point =>
      simp only
      rw [ih (some (key row))]
      intro k hk
      refine hlast k ?_
      cases rows with
      | nil => simpa using hk
      | cons next rows =>
        obtain ⟨x, hx⟩ : ∃ x, (next :: rows).getLast? = some x :=
          ⟨_, List.getLast?_eq_some_getLast (List.cons_ne_nil _ _)⟩
        rw [List.getLast?_cons_cons, hx]
        rw [hx] at hk
        simpa using hk

/-- What a broken stream computes of the groups it has rows of: that of its last row fails. -/
def brokenGroup (key : ρ → κ) (parse : ρ → Except ε π) (emit : κ → List π → α) (rows : List ρ)
    (last : κ) (e : ε) (k : κ) : Except ε α :=
  if k = last then (groupOf key parse emit rows k).bind fun _ => .error e
  else groupOf key parse emit rows k

lemma groupOf_brokenItems (rows : List ρ) (last : κ) (e : ε) (k : κ) :
    groupOf Prod.fst Prod.snd emit
        (rows.map (fun r => (key r, parse r)) ++ [(last, .error e)]) k =
      brokenGroup key parse emit rows last e k := by
  have hparsed : (rows.map fun r => (key r, parse r)).filter (fun item => item.1 = k) =
      (rows.filter fun r => key r = k).map fun r => (key r, parse r) := by
    rw [List.filter_map]
    rfl
  have hmapM : ((rows.filter fun r => key r = k).map fun r => (key r, parse r)).mapM Prod.snd =
      (rows.filter fun r => key r = k).mapM parse := List.mapM_map
  rw [brokenGroup, groupOf, groupOf, List.filter_append, hparsed, List.mapM_append, hmapM]
  by_cases hk : k = last
  · rw [if_pos hk, List.filter_cons_of_pos (by simp [hk])]
    cases (rows.filter fun r => key r = k).mapM parse with
    | error e' => rfl
    | ok points => rfl
  · have hnone : [(last, (Except.error e : Except ε π))].filter (fun item => item.1 = k) = [] := by
      simp [Ne.symm hk]
    rw [if_neg hk, hnone]
    cases (rows.filter fun r => key r = k).mapM parse with
    | error e' => rfl
    | ok points => simp [pure, Except.pure, bind, Except.bind]

/-- A broken stream gives what separate computations give, up to the group it breaks off in. -/
theorem streamGroups_broken_eq_runAll {e : ε} {row : ρ}
    (hsorted : (rows ++ [row]).Pairwise fun a b => key a ≤ key b) (hkeys : ks.Pairwise (· < ·))
    (hmem : ∀ k, k ∈ ks ↔ ∃ r ∈ rows ++ [row], key r = k) :
    streamGroups key parse emit (some e) (rows ++ [row]) none [] =
      runAll (brokenGroup key parse emit (rows ++ [row]) (key row) e) ks := by
  have hlast : ∀ k ∈ ((rows ++ [row]).getLast?.map key).or none, k = key row := by simp
  have hle : ∀ r ∈ rows ++ [row], key r ≤ key row := by
    intro r hr
    rcases List.mem_append.mp hr with hr | hr
    · exact (List.pairwise_append.mp hsorted).2.2 r hr row List.mem_cons_self
    · rw [List.mem_singleton.mp hr]
  rw [streamGroups_broken _ (key row) none [] hlast]
  have hsorted' : ((rows ++ [row]).map (fun r => (key r, parse r)) ++
      [(key row, Except.error e)]).Pairwise fun a b : κ × Except ε π => a.1 ≤ b.1 := by
    refine List.pairwise_append.mpr ⟨List.pairwise_map.mpr hsorted, List.pairwise_singleton _ _, ?_⟩
    intro a ha b hb
    obtain ⟨r, hr, rfl⟩ := List.mem_map.mp ha
    rw [List.mem_singleton.mp hb]
    exact hle r hr
  rw [streamGroups_eq_runAll hsorted' hkeys]
  · exact runAll_congr fun k _ => groupOf_brokenItems (rows ++ [row]) (key row) e k
  · intro k
    rw [hmem]
    constructor
    · rintro ⟨r, hr, rfl⟩
      exact ⟨_, List.mem_append_left _ (List.mem_map_of_mem hr), rfl⟩
    · rintro ⟨item, hitem, rfl⟩
      rcases List.mem_append.mp hitem with hitem | hitem
      · obtain ⟨r, hr, rfl⟩ := List.mem_map.mp hitem
        exact ⟨r, hr, rfl⟩
      · rw [List.mem_singleton.mp hitem]
        exact ⟨row, List.mem_append_right _ List.mem_cons_self, rfl⟩

/-! ### What a broken stream gives of the whole -/

section Broken

variable {whole before : List ρ} {e : ε}
  (hsorted : whole.Pairwise fun a b => key a ≤ key b) (hbefore : before <+: whole)

include hsorted hbefore in
/-- The groups before one that has been received are complete. -/
lemma groupOf_eq_of_lt {row : ρ} (hrow : row ∈ before) (hlt : k < key row) :
    groupOf key parse emit before k = groupOf key parse emit whole k := by
  obtain ⟨rest, rfl⟩ := hbefore
  have hnone : rest.filter (fun r => key r = k) = [] := by
    refine List.filter_eq_nil_iff.mpr fun r hr => ?_
    have hle : key row ≤ key r := (List.pairwise_append.mp hsorted).2.2 row hrow r hr
    simpa using (hlt.trans_le hle).ne'
  rw [groupOf, groupOf, List.filter_append, hnone, List.append_nil]

include hbefore in
/-- What fails of a group fails the group. -/
lemma groupOf_error_of_isPrefix (h : groupOf key parse emit before k = .error e) :
    groupOf key parse emit whole k = .error e := by
  obtain ⟨rest, rfl⟩ := hbefore
  rw [groupOf] at h ⊢
  rw [List.filter_append, List.mapM_append]
  cases hmapM : (before.filter fun row => key row = k).mapM parse with
  | error e' =>
    rw [hmapM] at h
    exact h
  | ok points =>
    rw [hmapM] at h
    cases h

lemma brokenGroup_of_ne {last : κ} (hne : k ≠ last) :
    brokenGroup key parse emit before last e k = groupOf key parse emit before k :=
  if_neg hne

/-- The group a stream breaks off in fails, with the break or as the whole group does. -/
lemma brokenGroup_self (hbefore : before <+: whole) :
    ∃ e', brokenGroup key parse emit before k e k = .error e' ∧
      (e' = e ∨ groupOf key parse emit whole k = .error e') := by
  rw [brokenGroup, if_pos rfl]
  cases hgroup : groupOf key parse emit before k with
  | error e' => exact ⟨e', rfl, .inr (groupOf_error_of_isPrefix hbefore hgroup)⟩
  | ok a     => exact ⟨e, rfl, .inl rfl⟩

/-- The keys of what a broken stream has received, up to the last of them. -/
structure BrokenKeys (key : ρ → κ) (parse : ρ → Except ε π) (emit : κ → List π → α)
    (whole before : List ρ) (e : ε) (ks : List κ) (last : κ) : Prop where
  sorted : ks.Pairwise (· < ·)
  last_mem : last ∈ ks
  received : ∃ row ∈ before, key row = last
  le_last : ∀ k ∈ ks, k ≤ last
  mem_of_received : ∀ row ∈ before, key row ∈ ks
  mem_iff : ∀ k < last, k ∈ ks ↔ ∃ row ∈ whole, key row = k
  group_eq : ∀ k < last,
    brokenGroup key parse emit before last e k = groupOf key parse emit whole k
  eq_runAll : streamGroups key parse emit (some e) before none [] =
    runAll (brokenGroup key parse emit before last e) ks

include hsorted hbefore in
lemma exists_brokenKeys (hne : before ≠ []) (e : ε) :
    ∃ ks last, BrokenKeys key parse emit whole before e ks last := by
  obtain ⟨rows, row, rfl⟩ := (List.eq_nil_or_concat before).resolve_left hne
  rw [List.concat_eq_append] at *
  obtain ⟨ks, hks, hmem⟩ := exists_sortedKeys key (rows ++ [row])
  have hrow : row ∈ rows ++ [row] := List.mem_append_right _ List.mem_cons_self
  have hsortedBefore := hsorted.sublist hbefore.sublist
  refine ⟨ks, key row, hks, (hmem _).mpr ⟨row, hrow, rfl⟩, ⟨row, hrow, rfl⟩, fun k hk => ?_,
    fun r hr => (hmem _).mpr ⟨r, hr, rfl⟩, fun k hk => ?_, fun k hk => ?_,
    streamGroups_broken_eq_runAll hsortedBefore hks hmem⟩
  · obtain ⟨r, hr, rfl⟩ := (hmem k).mp hk
    rcases List.mem_append.mp hr with hr | hr
    · exact (List.pairwise_append.mp hsortedBefore).2.2 r hr row List.mem_cons_self
    · rw [List.mem_singleton.mp hr]
  · rw [hmem]
    refine ⟨fun ⟨r, hr, hrk⟩ => ⟨r, hbefore.subset hr, hrk⟩, ?_⟩
    rintro ⟨r, hr, rfl⟩
    obtain ⟨rest, rfl⟩ := hbefore
    rcases List.mem_append.mp hr with hr | hr
    · exact ⟨r, hr, rfl⟩
    · exact absurd hk (not_lt.mpr ((List.pairwise_append.mp hsorted).2.2 row hrow r hr))
  · rw [brokenGroup_of_ne hk.ne, groupOf_eq_of_lt hsorted hbefore hrow hk]

/-- What fails in the whole is not before the last group, or fails in the broken stream. -/
lemma BrokenKeys.le_or_broken {ks : List κ} {last : κ}
    (h : BrokenKeys key parse emit whole before e ks last) {k' : κ} {e' : ε}
    (he' : groupOf key parse emit whole k' = .error e') :
    last ≤ k' ∨ k' ∈ ks ∧ k' < last ∧ brokenGroup key parse emit before last e k' = .error e' := by
  rcases le_or_gt last k' with hle | hlt
  · exact .inl hle
  · obtain ⟨row, hrow, rfl, -⟩ := exists_error_of_groupOf_error he'
    exact .inr ⟨(h.mem_iff _ hlt).mpr ⟨row, hrow, rfl⟩, hlt, (h.group_eq _ hlt).trans he'⟩

include hsorted hbefore in
/-- A broken stream yields what the whole stream yields of the groups before the last that it has
received a row of. -/
theorem mem_streamGroups_broken :
    a ∈ (streamGroups key parse emit (some e) before none []).yielded ↔
      ∃ k, (∃ row ∈ whole, key row = k) ∧ groupOf key parse emit whole k = .ok a ∧
        (∀ k' e', groupOf key parse emit whole k' = .error e' → k < k') ∧
        ∃ row ∈ before, k < key row := by
  by_cases hne : before = []
  · subst hne
    simp [streamGroups]
  obtain ⟨ks, last, h⟩ : ∃ ks last, BrokenKeys key parse emit whole before e ks last :=
    exists_brokenKeys hsorted hbefore hne e
  obtain ⟨atLast, hlast, -⟩ : ∃ e', brokenGroup key parse emit before last e last = .error e' ∧
      (e' = e ∨ groupOf key parse emit whole last = .error e') := brokenGroup_self hbefore
  rw [h.eq_runAll, mem_runAll h.sorted]
  constructor
  · rintro ⟨k, hk, hok, hfirst⟩
    have hlt : k < last := hfirst last h.last_mem atLast hlast
    rw [h.group_eq k hlt] at hok
    refine ⟨k, (h.mem_iff k hlt).mp hk, hok, fun k' e' he' => ?_, ?_⟩
    · rcases h.le_or_broken he' with hle | ⟨hk', -, hbroken⟩
      · exact hlt.trans_le hle
      · exact hfirst k' hk' e' hbroken
    · obtain ⟨row, hrow, rfl⟩ := h.received
      exact ⟨row, hrow, hlt⟩
  · rintro ⟨k, hrow, hok, hfirst, row, hreceived, hlt⟩
    have hkLast : k < last := hlt.trans_le (h.le_last _ (h.mem_of_received row hreceived))
    refine ⟨k, (h.mem_iff k hkLast).mpr hrow, (h.group_eq k hkLast).trans hok,
      fun k' hk' e' he' => ?_⟩
    rcases (h.le_last k' hk').eq_or_lt with rfl | hk'Last
    · exact hkLast
    · rw [h.group_eq k' hk'Last] at he'
      exact hfirst k' e' he'

include hsorted hbefore in
/-- A broken stream raises its break, or the first failure of the whole stream. -/
theorem streamGroups_broken_raised :
    ∃ e', (streamGroups key parse emit (some e) before none []).raised = some e' ∧
      (e' = e ∨ ∃ k, groupOf key parse emit whole k = .error e' ∧
        ∀ k' e'', groupOf key parse emit whole k' = .error e'' → k ≤ k') := by
  by_cases hne : before = []
  · subst hne
    exact ⟨e, rfl, .inl rfl⟩
  obtain ⟨ks, last, h⟩ : ∃ ks last, BrokenKeys key parse emit whole before e ks last :=
    exists_brokenKeys hsorted hbefore hne e
  obtain ⟨atLast, hlast, hwhole⟩ : ∃ e', brokenGroup key parse emit before last e last = .error e' ∧
      (e' = e ∨ groupOf key parse emit whole last = .error e') := brokenGroup_self hbefore
  rw [h.eq_runAll]
  cases hraised : (runAll (brokenGroup key parse emit before last e) ks).raised with
  | none =>
    obtain ⟨a, ha⟩ := isOk_of_runAll_raised_eq_none hraised h.last_mem
    rw [hlast] at ha
    cases ha
  | some e' =>
    refine ⟨e', rfl, ?_⟩
    obtain ⟨k, hk, herror, hfirst⟩ := (runAll_raised_eq_some_iff h.sorted).mp hraised
    have hleast : ∀ k' e'', groupOf key parse emit whole k' = .error e'' → k ≤ k' := by
      intro k' e'' he''
      rcases h.le_or_broken he'' with hle | ⟨hk', -, hbroken⟩
      · exact (h.le_last k hk).trans hle
      · exact hfirst k' hk' e'' hbroken
    rcases (h.le_last k hk).eq_or_lt with rfl | hlt
    · rw [hlast] at herror
      obtain rfl := Except.error.inj herror
      exact hwhole.imp_right fun hwhole => ⟨k, hwhole, hleast⟩
    · rw [h.group_eq k hlt] at herror
      exact .inr ⟨k, herror, hleast⟩

include hsorted hbefore in
/-- What a broken stream yields is in the order of the keys, each once. -/
lemma streamGroups_broken_pairwise {keyOf : α → κ}
    (hkey : ∀ k a, groupOf key parse emit before k = .ok a → keyOf a = k) :
    ((streamGroups key parse emit (some e) before none []).yielded.map keyOf).Pairwise
      (· < ·) := by
  by_cases hne : before = []
  · subst hne
    exact List.Pairwise.nil
  obtain ⟨ks, last, h⟩ : ∃ ks last, BrokenKeys key parse emit whole before e ks last :=
    exists_brokenKeys hsorted hbefore hne e
  rw [h.eq_runAll]
  refine runAll_pairwise (fun k a hok => hkey k a ?_) h.sorted
  rw [brokenGroup] at hok
  split_ifs at hok
  · cases hgroup : groupOf key parse emit before k with
    | error e' =>
      rw [hgroup] at hok
      cases hok
    | ok b =>
      rw [hgroup] at hok
      cases hok
  · exact hok

end Broken

end FleetMonitor.Library
