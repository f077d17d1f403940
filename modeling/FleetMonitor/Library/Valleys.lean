import Mathlib.Algebra.Order.Group.Defs
import Mathlib.Data.Prod.Lex
import Mathlib.Data.Set.Finite.Lemmas

/-!
# Valleys of a sampled track

A track is a set of samples, each a time and a height. A valley is a sample from which the track is
higher by some amount both earlier and later. A detector that looks at the first lowest sample only
finds the bottom of a valley there, or else that sample lies outside of every valley.
-/

namespace FleetMonitor.Library

variable {τ α : Type*} [LinearOrder τ] [AddCommGroup α] [LinearOrder α]

/-- The earliest of the lowest samples. -/
structure IsFirstLowest (track : Set (τ × α)) (m : τ × α) : Prop where
  mem : m ∈ track
  lowest : ∀ x ∈ track, m.2 ≤ x.2
  first : ∀ x ∈ track, x.2 = m.2 → m.1 ≤ x.1

/-- The track falls from `p` to `q` and rises from `q` to `r`. -/
structure IsValley (track : Set (τ × α)) (floor fall rise : α) (p q r : τ × α) : Prop where
  left_mem : p ∈ track
  bottom_mem : q ∈ track
  right_mem : r ∈ track
  before : p.1 < q.1
  after : q.1 < r.1
  low : q.2 ≤ floor
  falls : fall ≤ p.2 - q.2
  rises : rise ≤ r.2 - q.2

/-- The sample is the bottom of a valley. -/
def IsBottom (track : Set (τ × α)) (floor fall rise : α) (q : τ × α) : Prop :=
  ∃ p r, IsValley track floor fall rise p q r

/-- The sample does not lie after `p`, and the track does not fall to it; or it does not lie before
`r`, and the track does not rise from it. -/
def Outside (track : Set (τ × α)) (fall rise : α) (p r m : τ × α) : Prop :=
  (m.1 ≤ p.1 ∧ ∀ x ∈ track, x.1 < m.1 → ¬fall ≤ x.2 - m.2) ∨
    (r.1 ≤ m.1 ∧ ∀ x ∈ track, m.1 < x.1 → ¬rise ≤ x.2 - m.2)

variable {track : Set (τ × α)} {floor fall rise : α} {p q r m m' : τ × α}

omit [AddCommGroup α] in
lemma IsFirstLowest.unique (h : IsFirstLowest track m) (h' : IsFirstLowest track m') : m = m' := by
  have hheight : m.2 = m'.2 := le_antisymm (h.lowest m' h'.mem) (h'.lowest m h.mem)
  have htime : m.1 = m'.1 :=
    le_antisymm (h.first m' h'.mem hheight.symm) (h'.first m h.mem hheight)
  exact Prod.ext htime hheight

omit [AddCommGroup α] in
lemma exists_isFirstLowest (hfinite : track.Finite) (hne : track.Nonempty) :
    ∃ m, IsFirstLowest track m := by
  obtain ⟨m, hm, hmin⟩ := Set.exists_min_image track (fun x => toLex (x.2, x.1)) hfinite hne
  refine ⟨m, hm, fun x hx => ?_, fun x hx heq => ?_⟩
  · rcases Prod.Lex.toLex_le_toLex.mp (hmin x hx) with hlt | ⟨heq, -⟩
    · exact hlt.le
    · exact heq.le
  · rcases Prod.Lex.toLex_le_toLex.mp (hmin x hx) with hlt | ⟨-, hle⟩
    · exact absurd heq hlt.ne'
    · exact hle

lemma Outside.not_isBottom (hout : Outside track fall rise p r m) :
    ¬IsBottom track floor fall rise m := by
  rintro ⟨p', r', h'⟩
  rcases hout with ⟨-, hfall⟩ | ⟨-, hrise⟩
  · exact hfall p' h'.left_mem h'.before h'.falls
  · exact hrise r' h'.right_mem h'.after h'.rises

variable [IsOrderedAddMonoid α]

/-- What is some amount above a sample is so above the lowest one. -/
lemma IsFirstLowest.le_sub (hm : IsFirstLowest track m) (hq : q ∈ track) {x d : α}
    (h : d ≤ x - q.2) : d ≤ x - m.2 := h.trans (sub_le_sub_left (hm.lowest q hq) x)

/-- When the track has a valley, its first lowest sample is the bottom of one or lies outside. -/
lemma IsValley.isBottom_or_outside (h : IsValley track floor fall rise p q r)
    (hm : IsFirstLowest track m) :
    IsBottom track floor fall rise m ∨ Outside track fall rise p r m := by
  have hlow : m.2 ≤ floor := (hm.lowest q h.bottom_mem).trans h.low
  have hfalls : fall ≤ p.2 - m.2 := hm.le_sub h.bottom_mem h.falls
  have hrises : rise ≤ r.2 - m.2 := hm.le_sub h.bottom_mem h.rises
  rcases le_or_gt m.1 p.1 with hp | hp
  · by_cases hfall : ∀ x ∈ track, x.1 < m.1 → ¬fall ≤ x.2 - m.2
    · exact .inr (.inl ⟨hp, hfall⟩)
    · push Not at hfall
      obtain ⟨x, hx, hbefore, hx'⟩ := hfall
      have hafter : m.1 < r.1 := hp.trans_lt (h.before.trans h.after)
      exact .inl ⟨x, r, hx, hm.mem, h.right_mem, hbefore, hafter, hlow, hx', hrises⟩
  · rcases le_or_gt r.1 m.1 with hr | hr
    · by_cases hrise : ∀ x ∈ track, m.1 < x.1 → ¬rise ≤ x.2 - m.2
      · exact .inr (.inr ⟨hr, hrise⟩)
      · push Not at hrise
        obtain ⟨x, hx, hafter, hx'⟩ := hrise
        exact .inl ⟨p, x, h.left_mem, hm.mem, hx, hp, hafter, hlow, hfalls, hx'⟩
    · exact .inl ⟨p, r, h.left_mem, hm.mem, h.right_mem, hp, hr, hlow, hfalls, hrises⟩

/-- Looking for a valley at the first lowest sample finds one exactly when there is one that is
clean, unless one of two things happens: the sample lies outside of a clean valley, or it is the
bottom of a valley and no valley is clean. -/
theorem firstLowest_finds_iff (hfinite : track.Finite) (floor fall rise : α)
    (clean : τ → τ → Prop) :
    ((∃ m, IsFirstLowest track m ∧ IsBottom track floor fall rise m) ↔
        ∃ p q r, IsValley track floor fall rise p q r ∧ clean p.1 r.1) ↔
      (¬∃ m p q r, IsFirstLowest track m ∧ IsValley track floor fall rise p q r ∧ clean p.1 r.1 ∧
          Outside track fall rise p r m) ∧
        ¬∃ m, IsFirstLowest track m ∧ IsBottom track floor fall rise m ∧
          ∀ p q r, IsValley track floor fall rise p q r → ¬clean p.1 r.1 := by
  constructor
  · refine fun hiff => ⟨?_, ?_⟩
    · rintro ⟨m, p, q, r, hm, hvalley, hclean, hout⟩
      obtain ⟨m', hm', hbottom⟩ := hiff.mpr ⟨p, q, r, hvalley, hclean⟩
      obtain rfl := hm.unique hm'
      exact hout.not_isBottom hbottom
    · rintro ⟨m, hm, hbottom, hdirty⟩
      obtain ⟨p, q, r, hvalley, hclean⟩ := hiff.mp ⟨m, hm, hbottom⟩
      exact hdirty p q r hvalley hclean
  · rintro ⟨hmissed, hfalse⟩
    constructor
    · rintro ⟨m, hm, hbottom⟩
      by_contra hnone
      exact hfalse ⟨m, hm, hbottom, fun p q r hvalley hclean => hnone ⟨p, q, r, hvalley, hclean⟩⟩
    · rintro ⟨p, q, r, hvalley, hclean⟩
      obtain ⟨m, hm⟩ := exists_isFirstLowest hfinite ⟨q, hvalley.bottom_mem⟩
      rcases hvalley.isBottom_or_outside hm with hbottom | hout
      · exact ⟨m, hm, hbottom⟩
      · exact absurd ⟨m, p, q, r, hm, hvalley, hclean, hout⟩ hmissed

end FleetMonitor.Library
