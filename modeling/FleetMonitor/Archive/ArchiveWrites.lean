import FleetMonitor.Archive.Purge
import FleetMonitor.Foundry.FlightIds

/-!
# Writes to the cold store

The names that a write gives to the three directories of a date are read back as that date. So a
write adds one partition at most, and a tree that is only written to has none but those.
-/

namespace FleetMonitor

open Library

/-! ### Padded numbers -/

lemma toList_zeroPad (width n : ℕ) :
    (zeroPad width n).toList = List.replicate (width - (Nat.toDigits 10 n).length) '0' ++
      Nat.toDigits 10 n := by
  rw [zeroPad, String.toList_ofList, List.leftpad]

lemma isDigit_of_mem_zeroPad {width n : ℕ} {c : Char} (h : c ∈ (zeroPad width n).toList) :
    c.isDigit := by
  rw [toList_zeroPad, List.mem_append] at h
  rcases h with h | h
  · obtain rfl := List.eq_of_mem_replicate h
    decide
  · exact isDigit_of_mem_repr h

lemma ofDigitChars_zeroPad (width n : ℕ) : Nat.ofDigitChars 10 (zeroPad width n).toList 0 = n := by
  rw [toList_zeroPad, Nat.ofDigitChars_append, Nat.ofDigitChars_replicate_zero, Nat.mul_zero,
    Nat.ofDigitChars_ten_toDigits]

lemma zeroPad_injective (width : ℕ) : Function.Injective (zeroPad width) := by
  intro m n h
  rw [← ofDigitChars_zeroPad width m, h, ofDigitChars_zeroPad]

/-- A padded number is read back as the number. -/
lemma pyInt_zeroPad {width n : ℕ} (hwidth : width ≤ intMaxStrDigits)
    (hn : n < 10 ^ intMaxStrDigits) :
    pyInt (zeroPad width n).toList = some (n : ℤ) := by
  have hne : (zeroPad width n).toList ≠ [] := by
    rw [toList_zeroPad]
    exact List.append_ne_nil_of_right_ne_nil _ Nat.toDigits_ne_nil
  have hlength : (zeroPad width n).toList.length ≤ intMaxStrDigits := by
    rw [zeroPad, String.toList_ofList, List.length_leftpad]
    exact max_le hwidth ((Nat.length_toDigits_le_iff (by decide) (by decide)).mpr hn)
  rw [pyInt_digits (fun c => isDigit_of_mem_zeroPad) hne hlength, ofDigitChars_zeroPad]

/-- A number of a date is read back from what stands after the first `=`. -/
lemma intPart_zeroPad {label : String} {width n : ℕ}
    (hlabel : label.toList.dropWhile (· ≠ '=') = ['=']) (hwidth : width ≤ 4) (hn : n ≤ 9999) :
    intPart (label ++ zeroPad width n) = .ok (n : ℤ) := by
  have hdrop : (label ++ zeroPad width n).toList.dropWhile (· ≠ '=') =
      '=' :: (zeroPad width n).toList := by
    rw [String.toList_append, List.dropWhile_append, hlabel]
    rfl
  have hwidth : width ≤ intMaxStrDigits := hwidth.trans (by decide)
  have hn : n < 10 ^ intMaxStrDigits := calc
    n < 10 ^ 4 := by omega
    _ ≤ 10 ^ intMaxStrDigits := Nat.pow_le_pow_right (by decide) (by decide)
  rw [intPart, hdrop]
  simp only [pyInt_zeroPad hwidth hn]

/-! ### Day directories -/

variable {tree : ArchiveTree} {d : CivilDate} {rows : List ArchiveRow} {uuid : String}
  {fault : Option (FileTree.WriteFault ArchiveFile)}

lemma pyDate_civil (d : CivilDate) : pyDate d.year d.month d.day = .ok (dateOf d) := by
  obtain ⟨⟨-, hyear⟩, ⟨-, hmonth⟩, -⟩ := d.isDate
  have hday := d.day_le
  have hfits : FitsInt d.year ∧ FitsInt d.month ∧ FitsInt d.day := by
    unfold FitsInt
    omega
  have hdate : IsDate (d.year : ℤ).toNat (d.month : ℤ).toNat (d.day : ℤ).toNat := d.isDate
  rw [pyDate, if_pos hfits, dif_pos hdate]
  rfl

/-- The names of a date are read back as the date. -/
lemma partitionDate_archiveDir (d : CivilDate) :
    partitionDate ("year=" ++ zeroPad 4 d.year) ("month=" ++ zeroPad 2 d.month)
      ("day=" ++ zeroPad 2 d.day) = .ok (dateOf d) := by
  obtain ⟨⟨-, hyear⟩, ⟨-, hmonth⟩, -⟩ := d.isDate
  have hday := d.day_le
  have hy : intPart ("year=" ++ zeroPad 4 d.year) = .ok (d.year : ℤ) :=
    intPart_zeroPad (by decide) le_rfl hyear
  have hm : intPart ("month=" ++ zeroPad 2 d.month) = .ok (d.month : ℤ) :=
    intPart_zeroPad (by decide) (by decide) (by omega)
  have hd : intPart ("day=" ++ zeroPad 2 d.day) = .ok (d.day : ℤ) :=
    intPart_zeroPad (by decide) (by decide) (by omega)
  simp only [partitionDate, hy, hm, hd, bind, Except.bind, pyDate_civil]

lemma dayNames_archiveDir (d : CivilDate) : dayNames ⟨archiveDir d, .dir⟩ = some
    ("year=" ++ zeroPad 4 d.year, "month=" ++ zeroPad 2 d.month, "day=" ++ zeroPad 2 d.day) := by
  have hmatches : MatchesDay ("year=" ++ zeroPad 4 d.year) ("month=" ++ zeroPad 2 d.month)
      ("day=" ++ zeroPad 2 d.day) := by
    simp only [MatchesDay, String.toList_append]
    exact ⟨List.prefix_append _ _, List.prefix_append _ _, List.prefix_append _ _⟩
  exact if_pos hmatches

@[simp] lemma length_archiveDir (d : CivilDate) : (archiveDir d).length = 3 := rfl

lemma partitionOf_archiveDir (d : CivilDate) :
    partitionOf ⟨archiveDir d, .dir⟩ = some (dateOf d, archiveDir d) := by
  simp only [partitionOf, dayNames_archiveDir, partitionDate_archiveDir]

lemma archiveDir_mem_partitions {tree : ArchiveTree} {d : CivilDate}
    (h : ⟨archiveDir d, .dir⟩ ∈ tree) : (dateOf d, archiveDir d) ∈ partitions tree := by
  rw [mem_partitions]
  exact ⟨⟨archiveDir d, .dir⟩, h, partitionOf_archiveDir d⟩

lemma not_oversized_archiveDir (d : CivilDate) : ¬Oversized ⟨archiveDir d, .dir⟩ := by
  rintro ⟨y, m, day, year, month, n, hnames, hy, hm, hd, hlarge⟩
  have hover := partitionDate_overflow_iff.mpr ⟨year, month, n, hy, hm, hd, hlarge⟩
  rw [dayNames_archiveDir] at hnames
  cases hnames
  cases (partitionDate_archiveDir d).symm.trans hover

lemma dateOf_injective : Function.Injective dateOf := by
  intro d e h
  apply CivilDate.ordinal_injective
  apply Int.ofNat_inj.mp
  exact sub_left_injective h

/-- Different dates have different directories. -/
lemma archiveDir_injective : Function.Injective archiveDir := by
  intro d e h
  have hparts := partitionOf_archiveDir d
  rw [h, partitionOf_archiveDir] at hparts
  exact (dateOf_injective (congrArg Prod.fst (Option.some.inj hparts))).symm

/-! ### Writes -/

/-- Directories for years, months and days, and files in those of the days. -/
lemma isShaped_writeFlightsArchive (h : tree.IsShaped 3) :
    (writeFlightsArchive rows d uuid fault tree).1.IsShaped 3 := by
  rw [writeFlightsArchive]
  split_ifs
  · exact h
  · exact h.writeFile rfl

/-- What a write puts three levels down is the directory of its date. -/
lemma mem_writeFlightsArchive {e : Entry ArchiveFile} (h : tree.IsShaped 3)
    (he : e.path.length = 3) :
    e ∈ (writeFlightsArchive rows d uuid fault tree).1 ↔
      (rows ≠ [] ∧ FileTree.Makes 3 fault) ∧ e = ⟨archiveDir d, .dir⟩ ∨ e ∈ tree := by
  rw [writeFlightsArchive]
  split_ifs with hrows
  · simp [hrows]
  · simp only [ne_eq, hrows, not_false_eq_true, true_and]
    rw [h.mem_writeFile_of_length rfl (by decide) he, and_comm]

/-- A row with nothing but its id and its landing. -/
def bareRow (flightId : String) (landedAt : Instant) : ArchiveRow where
  flightId
  icao24 := none
  takeoffTs := none
  landedAt
  callsign := none
  registration := none
  aircraftType := none
  operatorIcao := none
  customerRegion := none
  originIcao := none
  destinationIcao := none
  etaMinutes := none
  status := none
  currentStage := none
  lat := none
  lon := none
  openCaseCount := none
  openCaseIds := none
  statusTimeline := none
  trail2h := none
  archivedAt := landedAt

end FleetMonitor
