import FleetMonitor.Library.Table
import Mathlib.Data.List.Infix

/-!
# File trees

A tree of directories and files, as the table of its entries by path; symbolic links are left out.
What lies below an entry lies in a directory: every proper prefix of a path is one. `rmtree` takes a
directory with all below it, `rmdir` only one that has nothing below, and `write` puts a file into a
directory and makes what is missing on the way there. `writeFile` does so by way of a temporary
file, and may break off.
-/

namespace FleetMonitor.Library

abbrev Path := List String

inductive Node (γ : Type*) where
  | dir
  | file (content : γ)
  deriving DecidableEq, Repr

structure Entry (γ : Type*) where
  path : Path
  node : Node γ
  deriving DecidableEq, Repr

/-- The entries below the root. -/
structure FileTree (γ : Type*) where
  entries : Table (Entry.path : Entry γ → Path)
  below : ∀ e ∈ entries.rows, ∀ p, p ≠ [] → p <+: e.path → p ≠ e.path → ⟨p, .dir⟩ ∈ entries.rows

namespace FileTree

variable {γ : Type*}

def empty : FileTree γ := ⟨Table.empty, fun _ he => absurd he List.not_mem_nil⟩

instance : Membership (Entry γ) (FileTree γ) := ⟨fun tree e => e ∈ tree.entries.rows⟩

lemma mem_iff {tree : FileTree γ} {e : Entry γ} : e ∈ tree ↔ e ∈ tree.entries.rows := Iff.rfl

@[simp] lemma not_mem_empty (e : Entry γ) : e ∉ (empty : FileTree γ) := List.not_mem_nil

/-- Paths tell entries apart. -/
lemma eq_of_path {tree : FileTree γ} {e e' : Entry γ} (he : e ∈ tree) (he' : e' ∈ tree)
    (h : e.path = e'.path) : e = e' :=
  Table.row_eq_of_key_eq he he' h

lemma dir_of_prefix {tree : FileTree γ} {e : Entry γ} {p : Path} (he : e ∈ tree) (hp : p ≠ [])
    (hunder : p <+: e.path) (hne : p ≠ e.path) : ⟨p, .dir⟩ ∈ tree :=
  tree.below e he p hp hunder hne

/-- The directory has nothing below it. -/
def IsEmptyDir (tree : FileTree γ) (p : Path) : Prop :=
  ⟨p, .dir⟩ ∈ tree ∧ ∀ e ∈ tree, p <+: e.path → e.path = p

/-! ### Listing -/

/-- The files, with their paths. -/
def files (tree : FileTree γ) : List (Path × γ) :=
  tree.entries.rows.filterMap fun e =>
    match e.node with
    | .dir          => none
    | .file content => some (e.path, content)

lemma mem_files {tree : FileTree γ} {path : Path} {content : γ} :
    (path, content) ∈ tree.files ↔ ⟨path, .file content⟩ ∈ tree := by
  rw [files]
  rw [List.mem_filterMap]
  constructor
  · rintro ⟨⟨path', node⟩, he, hsome⟩
    cases node with
    | dir => cases hsome
    | file content' =>
      cases hsome
      exact he
  · intro he
    exact ⟨_, he, rfl⟩

/-- The path leads below the directory, and past no hidden name. -/
def IsVisibleBelow (hidden : String → Bool) (dir path : Path) : Prop :=
  dir <+: path ∧ ∀ name ∈ path.drop dir.length, ¬hidden name

instance (hidden : String → Bool) (dir path : Path) : Decidable (IsVisibleBelow hidden dir path) :=
  inferInstanceAs (Decidable (_ ∧ _))

/-- The files anywhere below a directory, but for those that a hidden name leads to. -/
def filesBelow (hidden : String → Bool) (tree : FileTree γ) (dir : Path) : List γ :=
  (tree.files.filter fun file => IsVisibleBelow hidden dir file.1).map Prod.snd

/-! ### Removing -/

section Remove

/-- Keep the entries whose path is not removed, when nothing is left below what is. -/
def keep (tree : FileTree γ) (removed : Path → Bool)
    (h : ∀ e ∈ tree, removed e.path = false → ∀ p, p <+: e.path → p ≠ e.path → removed p = false) :
    FileTree γ where
  entries := ⟨tree.entries.rows.filter fun e => !removed e.path,
    (List.filter_sublist.map Entry.path).nodup tree.entries.nodup⟩
  below e he p hp hunder hne := by
    obtain ⟨hmem, hkept⟩ := List.mem_filter.mp he
    have hkept : removed e.path = false := by simpa using hkept
    refine List.mem_filter.mpr ⟨tree.below e hmem p hp hunder hne, ?_⟩
    simp [h e hmem hkept p hunder hne]

lemma mem_keep {tree : FileTree γ} {removed : Path → Bool} {h} {e : Entry γ} :
    e ∈ tree.keep removed h ↔ e ∈ tree ∧ removed e.path = false := by
  rw [mem_iff, keep, List.mem_filter, Bool.not_eq_true', ← mem_iff]

/-- `shutil.rmtree`, of a directory. -/
def rmtree (tree : FileTree γ) (p : Path) : FileTree γ :=
  tree.keep (p.isPrefixOf ·) fun e _ hkept q hq _ => by
    by_contra hremoved
    have hpq : p <+: q := List.isPrefixOf_iff_prefix.mp (by simpa using hremoved)
    simp [List.isPrefixOf_iff_prefix.mpr (hpq.trans hq)] at hkept

lemma mem_rmtree {tree : FileTree γ} {p : Path} {e : Entry γ} :
    e ∈ tree.rmtree p ↔ e ∈ tree ∧ ¬p <+: e.path := by
  rw [rmtree, mem_keep, Bool.eq_false_iff, Ne, List.isPrefixOf_iff_prefix]

variable [DecidableEq γ]

instance (tree : FileTree γ) (p : Path) : Decidable (tree.IsEmptyDir p) :=
  inferInstanceAs (Decidable (⟨p, Node.dir⟩ ∈ tree.entries.rows ∧
    ∀ e ∈ tree.entries.rows, p <+: e.path → e.path = p))

/-- `Path.rmdir`; none is an `OSError`. -/
def rmdir (tree : FileTree γ) (p : Path) : Option (FileTree γ) :=
  if h : tree.IsEmptyDir p then
    some <| tree.keep (fun q => decide (q = p)) fun e he hkept q hq _ => by
      rw [decide_eq_false_iff_not] at hkept ⊢
      rintro rfl
      exact hkept (h.2 e he hq)
  else none

lemma rmdir_eq_some {tree tree' : FileTree γ} {p : Path} (h : tree.rmdir p = some tree') :
    tree.IsEmptyDir p ∧ ∀ e, e ∈ tree' ↔ e ∈ tree ∧ e.path ≠ p := by
  rw [rmdir] at h
  split_ifs at h with hempty
  obtain rfl := Option.some.inj h
  refine ⟨hempty, fun e => ?_⟩
  rw [mem_keep, decide_eq_false_iff_not]

/-- Remove the directories in turn, as long as they are empty. -/
def rmdirs : List Path → FileTree γ → FileTree γ
  | [], tree => tree
  | p :: ps, tree =>
    match tree.rmdir p with
    | none       => tree
    | some tree' => rmdirs ps tree'

/-- What `rmdirs` takes is a directory of the list that is left with nothing below it. -/
lemma rmdirs_spec (ps : List Path) (tree : FileTree γ) {e : Entry γ} :
    (e ∈ rmdirs ps tree → e ∈ tree) ∧ (e ∈ tree → e ∈ rmdirs ps tree ∨
      e.path ∈ ps ∧ e.node = .dir ∧ ∀ e' ∈ rmdirs ps tree, ¬e.path <+: e'.path) := by
  induction ps generalizing tree e with
  | nil => exact ⟨id, .inl⟩
  | cons p ps ih =>
    rw [rmdirs]
    split
    next => exact ⟨id, .inl⟩
    next tree' hrmdir =>
      obtain ⟨⟨hdir, hempty⟩, hmem⟩ := rmdir_eq_some hrmdir
      obtain ⟨hsub, hkept⟩ := ih tree'
      refine ⟨fun he => ((hmem e).mp (hsub he)).1, fun he => ?_⟩
      by_cases hp : e.path = p
      · subst hp
        have hnode : e.node = .dir := congrArg Entry.node (eq_of_path he hdir rfl)
        refine .inr ⟨List.mem_cons_self, hnode, fun e' he' hbelow => ?_⟩
        obtain ⟨he', hne⟩ := (hmem e').mp ((ih tree').1 he')
        exact hne (hempty e' he' hbelow)
      · rcases hkept ((hmem e).mpr ⟨he, hp⟩) with hleft | ⟨hin, hnode, hnothing⟩
        · exact .inl hleft
        · exact .inr ⟨List.mem_cons_of_mem _ hin, hnode, hnothing⟩

end Remove

/-! ### Writing -/

section Write

variable {tree tree' : FileTree γ} {dir : Path} {name : String} {content : γ} {e : Entry γ}

/-- The directory and those it lies in. -/
def ancestors (dir : Path) : List (Entry γ) :=
  (dir.inits.filter (· ≠ [])).map fun p => ⟨p, .dir⟩

lemma mem_ancestors : e ∈ ancestors dir ↔ e.node = .dir ∧ e.path ≠ [] ∧ e.path <+: dir := by
  simp only [ancestors, List.mem_map, List.mem_filter, List.mem_inits, decide_eq_true_eq]
  constructor
  · rintro ⟨p, ⟨hunder, hne⟩, rfl⟩
    exact ⟨rfl, hne, hunder⟩
  · rintro ⟨hnode, hne, hunder⟩
    exact ⟨e.path, ⟨hunder, hne⟩, by rw [← hnode]⟩

/-- No file stands on the way to the directory. -/
def CanMake (tree : FileTree γ) (dir : Path) : Prop :=
  ∀ e ∈ tree, e.path <+: dir → e.node = .dir

instance [DecidableEq γ] (tree : FileTree γ) (dir : Path) : Decidable (tree.CanMake dir) :=
  inferInstanceAs (Decidable (∀ e ∈ tree.entries.rows, _ → _))

/-- No file stands on the way to the directory, and no directory in the place of the file. -/
def CanWrite (tree : FileTree γ) (dir : Path) (name : String) : Prop :=
  ∀ e ∈ tree, (e.path <+: dir → e.node = .dir) ∧ (e.path = dir ++ [name] → e.node ≠ .dir)

instance [DecidableEq γ] (tree : FileTree γ) (dir : Path) (name : String) :
    Decidable (tree.CanWrite dir name) :=
  inferInstanceAs (Decidable (∀ e ∈ tree.entries.rows, _ ∧ _))

lemma CanWrite.canMake (h : tree.CanWrite dir name) : tree.CanMake dir := fun e he => (h e he).1

/-- The entries after a file is written. -/
def writeEntries (tree : FileTree γ) (dir : Path) (name : String) (content : γ) :
    Table (Entry.path : Entry γ → Path) :=
  (tree.entries.upsertAll (ancestors dir)).upsert ⟨dir ++ [name], .file content⟩

lemma mem_upsertAll_ancestors (h : tree.CanMake dir) :
    e ∈ (tree.entries.upsertAll (ancestors dir)).rows ↔ e ∈ ancestors dir ∨ e ∈ tree := by
  have hlookup : ∀ {t : Table (Entry.path : Entry γ → Path)} {x : Entry γ},
      x ∈ t.rows ↔ t.lookup x.path = some x :=
    ⟨Table.lookup_of_mem, Table.mem_rows_of_lookup⟩
  have hdirs : ∀ x ∈ ancestors (γ := γ) dir, ∀ y ∈ tree, y.path = x.path → y = x := by
    intro x hx y hy hpath
    obtain ⟨hnode, -, hunder⟩ := mem_ancestors.mp hx
    have hynode := h y hy (hpath ▸ hunder)
    cases x
    cases y
    simp_all
  rw [hlookup, Table.lookup_upsertAll, mem_iff, hlookup]
  cases hfind : (ancestors (γ := γ) dir).reverse.find? (·.path = e.path) with
  | none =>
    have hnot : e ∉ ancestors dir := by
      intro he
      simpa using List.find?_eq_none.mp hfind e (List.mem_reverse.mpr he)
    simp [hnot]
  | some x =>
    have hx : x ∈ ancestors dir := List.mem_reverse.mp (List.mem_of_find?_eq_some hfind)
    have hpath : x.path = e.path := by simpa using List.find?_some hfind
    rw [Option.some_or, Option.some.injEq]
    constructor
    · rintro rfl
      exact .inl hx
    · rintro (he | he)
      · obtain ⟨hxnode, -⟩ := mem_ancestors.mp hx
        obtain ⟨henode, -⟩ := mem_ancestors.mp he
        cases x
        cases e
        simp_all
      · exact (hdirs x hx e (hlookup.mpr he) hpath.symm).symm

lemma mem_writeEntries (h : tree.CanWrite dir name) :
    e ∈ (tree.writeEntries dir name content).rows ↔ e = ⟨dir ++ [name], .file content⟩ ∨
      e.path ≠ dir ++ [name] ∧ (e ∈ ancestors dir ∨ e ∈ tree) := by
  rw [writeEntries, Table.mem_rows_upsert, mem_upsertAll_ancestors h.canMake, and_comm]

/-- Write a file, once its directory is made; none is an `OSError`. -/
def write [DecidableEq γ] (tree : FileTree γ) (dir : Path) (name : String) (content : γ) :
    Option (FileTree γ) :=
  if h : tree.CanWrite dir name then
    some
      { entries := tree.writeEntries dir name content
        below := by
          intro e he p hp hunder hne
          have hlonger : ∀ {q : Path}, q <+: dir → q ≠ dir ++ [name] := by
            rintro q hq rfl
            have hlength := hq.length_le
            rw [List.length_append, List.length_singleton] at hlength
            omega
          rw [mem_writeEntries h]
          rcases (mem_writeEntries h).mp he with rfl | ⟨-, he | he⟩
          · have hdir : p <+: dir := (List.prefix_concat_iff.mp hunder).resolve_left hne
            exact .inr ⟨hlonger hdir, .inl (mem_ancestors.mpr ⟨rfl, hp, hdir⟩)⟩
          · obtain ⟨-, -, hdir⟩ := mem_ancestors.mp he
            have hdir := hunder.trans hdir
            exact .inr ⟨hlonger hdir, .inl (mem_ancestors.mpr ⟨rfl, hp, hdir⟩)⟩
          · have hmem := tree.below e he p hp hunder hne
            refine .inr ⟨fun heq => ?_, .inr hmem⟩
            exact (h ⟨p, .dir⟩ hmem).2 heq rfl }
  else none

lemma write_eq_some [DecidableEq γ] (hwrite : tree.write dir name content = some tree') :
    tree.CanWrite dir name ∧ (e ∈ tree' ↔ e = ⟨dir ++ [name], .file content⟩ ∨
      e.path ≠ dir ++ [name] ∧ (e ∈ ancestors dir ∨ e ∈ tree)) := by
  rw [write] at hwrite
  split_ifs at hwrite with h
  obtain rfl := Option.some.inj hwrite
  exact ⟨h, mem_writeEntries h⟩

/-- `Path.mkdir`, with its parents; none is an `OSError`. -/
def mkdirs [DecidableEq γ] (tree : FileTree γ) (dir : Path) : Option (FileTree γ) :=
  if h : tree.CanMake dir then
    some
      { entries := tree.entries.upsertAll (ancestors dir)
        below := by
          intro e he p hp hunder hne
          rw [mem_upsertAll_ancestors h] at he ⊢
          rcases he with he | he
          · obtain ⟨-, -, hdir⟩ := mem_ancestors.mp he
            exact .inl (mem_ancestors.mpr ⟨rfl, hp, hunder.trans hdir⟩)
          · exact .inr (tree.below e he p hp hunder hne) }
  else none

lemma mkdirs_eq_some [DecidableEq γ] (hmkdirs : tree.mkdirs dir = some tree') :
    e ∈ tree' ↔ e ∈ ancestors dir ∨ e ∈ tree := by
  rw [mkdirs] at hmkdirs
  split_ifs at hmkdirs with h
  obtain rfl := Option.some.inj hmkdirs
  exact mem_upsertAll_ancestors h

/-- Where the writing of a file breaks off: when so many of its directories are made, or after all
of them, with what is left of the temporary file if it cannot be removed. -/
inductive WriteFault (γ : Type*) where
  | making (made : ℕ)
  | writing (left : Option γ)
  deriving DecidableEq, Repr

def tempName (name : String) : String := "." ++ name ++ ".tmp"

/-- Make the directory, write a temporary file there and rename it. With the tree comes whether the
file is written. -/
def writeFile [DecidableEq γ] (tree : FileTree γ) (dir : Path) (name : String) (content : γ) :
    Option (WriteFault γ) → FileTree γ × Bool
  | none =>
    match tree.write dir name content with
    | none       => (tree, false)
    | some tree' => (tree', true)
  | some (.making made)          => ((tree.mkdirs (dir.take made)).getD tree, false)
  | some (.writing none)         => ((tree.mkdirs dir).getD tree, false)
  | some (.writing (some left)) => ((tree.write dir (tempName name) left).getD tree, false)

end Write

/-! ### Trees of one depth -/

section Shaped

variable {tree tree' : FileTree γ} {depth : ℕ} {dir : Path} {name : String} {content : γ}
  {e : Entry γ}

/-- Down to a depth there are directories, and below it files. -/
def IsShaped (depth : ℕ) (tree : FileTree γ) : Prop :=
  ∀ e ∈ tree, e.node = .dir ↔ e.path.length ≤ depth

lemma isShaped_empty : IsShaped depth (empty : FileTree γ) :=
  fun e he => absurd he (not_mem_empty e)

lemma IsShaped.canMake (h : tree.IsShaped depth) (hdir : dir.length ≤ depth) : tree.CanMake dir :=
  fun e he hunder => (h e he).mpr (hunder.length_le.trans hdir)

lemma IsShaped.canWrite (h : tree.IsShaped depth) (hdir : dir.length = depth) :
    tree.CanWrite dir name := by
  refine fun e he => ⟨h.canMake hdir.le e he, fun hpath hnode => ?_⟩
  have hlength := (h e he).mp hnode
  rw [hpath, List.length_append, List.length_singleton] at hlength
  omega

lemma IsShaped.mono (h : tree.IsShaped depth) (hsub : ∀ e ∈ tree', e ∈ tree) :
    tree'.IsShaped depth :=
  fun e he => h e (hsub e he)

/-- The directory is made, whatever comes after. -/
def Makes (depth : ℕ) : Option (WriteFault γ) → Prop
  | some (.making made) => depth ≤ made
  | _                   => True

instance : DecidablePred (Makes depth : Option (WriteFault γ) → Prop)
  | none                 => inferInstanceAs (Decidable True)
  | some (.making _)     => inferInstanceAs (Decidable (_ ≤ _))
  | some (.writing _)    => inferInstanceAs (Decidable True)

/-- The file that a write leaves in its directory, whole or not. -/
def leftFile (name : String) (content : γ) : Option (WriteFault γ) → Option (String × γ)
  | none                        => some (name, content)
  | some (.writing (some left)) => some (tempName name, left)
  | _                           => none

/-- The file is the one that is to be written, or the temporary one. -/
lemma leftFile_cases {fault : Option (WriteFault γ)} {file : String × γ}
    (h : file ∈ leftFile name content fault) :
    fault = none ∧ file = (name, content) ∨ file.1 = tempName name := by
  cases fault with
  | none => exact .inl ⟨rfl, (Option.some.inj h).symm⟩
  | some fault =>
    cases fault with
    | making made => cases h
    | writing left =>
      cases left with
      | none => cases h
      | some left =>
        obtain rfl := Option.some.inj h
        exact .inr rfl

variable [DecidableEq γ] {fault : Option (WriteFault γ)}

variable (name content) in
lemma IsShaped.exists_write (h : tree.IsShaped depth) (hdir : dir.length = depth) :
    ∃ tree', tree.write dir name content = some tree' := ⟨_, dif_pos (h.canWrite hdir)⟩

lemma IsShaped.exists_mkdirs (h : tree.IsShaped depth) (hdir : dir.length ≤ depth) :
    ∃ tree', tree.mkdirs dir = some tree' := ⟨_, dif_pos (h.canMake hdir)⟩

/-- A write into a tree of one depth makes directories on the way to its own and at most one file.
-/
lemma IsShaped.mem_writeFile (h : tree.IsShaped depth) (hdir : dir.length = depth) :
    e ∈ (tree.writeFile dir name content fault).1 ↔
      (∃ file ∈ leftFile name content fault, e = ⟨dir ++ [file.1], .file file.2⟩) ∨
      (∀ file ∈ leftFile name content fault, e.path ≠ dir ++ [file.1]) ∧
        ((e.node = .dir ∧ e.path ≠ [] ∧ e.path <+: dir ∧
          ∀ made, fault = some (.making made) → e.path.length ≤ made) ∨ e ∈ tree) := by
  cases fault with
  | none =>
    obtain ⟨tree', hwrite⟩ := h.exists_write name content hdir
    simp [writeFile, hwrite, leftFile, (write_eq_some hwrite).2, mem_ancestors]
  | some fault =>
    cases fault with
    | making made =>
      obtain ⟨tree', hmkdirs⟩ := h.exists_mkdirs ((dir.length_take_le' made).trans hdir.le)
      simp [writeFile, hmkdirs, leftFile, mkdirs_eq_some hmkdirs, mem_ancestors,
        List.prefix_take_iff]
    | writing left =>
      cases left with
      | none =>
        obtain ⟨tree', hmkdirs⟩ := h.exists_mkdirs hdir.le
        simp [writeFile, hmkdirs, leftFile, mkdirs_eq_some hmkdirs, mem_ancestors]
      | some left =>
        obtain ⟨tree', hwrite⟩ := h.exists_write (tempName name) left hdir
        simp [writeFile, hwrite, leftFile, (write_eq_some hwrite).2, mem_ancestors]

/-- The tree keeps its depth. -/
lemma IsShaped.writeFile (h : tree.IsShaped depth) (hdir : dir.length = depth) :
    (tree.writeFile dir name content fault).1.IsShaped depth := by
  intro e he
  rcases (h.mem_writeFile hdir).mp he with ⟨file, -, rfl⟩ | ⟨-, ⟨hnode, -, hunder, -⟩ | he⟩
  · simp [hdir]
  · exact iff_of_true hnode (hdir ▸ hunder.length_le)
  · exact h e he

/-- At the depth of the tree a write makes its own directory, if it comes so far. -/
lemma IsShaped.mem_writeFile_of_length (h : tree.IsShaped depth) (hdir : dir.length = depth)
    (hdepth : 0 < depth) (he : e.path.length = depth) :
    e ∈ (tree.writeFile dir name content fault).1 ↔
      e = ⟨dir, .dir⟩ ∧ Makes depth fault ∨ e ∈ tree := by
  have hpath : ∀ name, e.path ≠ dir ++ [name] := by
    intro name heq
    rw [heq, List.length_append, hdir, List.length_singleton] at he
    omega
  have hfile : ¬∃ file ∈ leftFile name content fault, e = ⟨dir ++ [file.1], .file file.2⟩ := by
    rintro ⟨file, -, rfl⟩
    exact hpath file.1 rfl
  have hpaths : ∀ file ∈ leftFile name content fault, e.path ≠ dir ++ [file.1] :=
    fun file _ => hpath file.1
  rw [h.mem_writeFile hdir, or_iff_right hfile, and_iff_right hpaths]
  refine or_congr_left ⟨?_, ?_⟩
  · rintro ⟨hnode, -, hunder, hmade⟩
    refine ⟨?_, ?_⟩
    · rw [← hnode, ← hunder.eq_of_length (he.trans hdir.symm)]
    · cases fault with
      | none => trivial
      | some fault =>
        cases fault with
        | making made => exact he ▸ hmade made rfl
        | writing left => trivial
  · rintro ⟨rfl, hmakes⟩
    refine ⟨rfl, ?_, List.prefix_rfl, ?_⟩
    · rintro rfl
      simp only [List.length_nil] at he
      omega
    · rintro made rfl
      exact he ▸ hmakes

end Shaped

end FileTree

end FleetMonitor.Library
