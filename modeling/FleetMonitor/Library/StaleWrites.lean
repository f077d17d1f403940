import FleetMonitor.Library.Runs
import Mathlib.Data.Set.Basic

/-!
# Stale writes

Writers read the keys of a store, go their way and later write some of the keys they have read; a
remover takes keys out of the store for good. A write creates the key when the store does not have
it, so a key that is removed while a writer still holds it may come back. It does not if no key is
removed that is held (`Clean.step`).
-/

namespace FleetMonitor.Library.StaleWrites

variable {κ : Type*}

/-- The keys in the store, those a writer may still write, and those removed for good. -/
@[ext] structure Keys (κ : Type*) where
  live : Set κ
  held : Set κ
  gone : Set κ

/-- No key that is gone is in the store, and none is held. -/
def Clean (s : Keys κ) : Prop := ∀ k ∈ s.gone, k ∉ s.live ∧ k ∉ s.held

/-- What keeps the store clean: keys come only from the store and from the writers, and what is
newly gone is neither in the store nor held. -/
structure Step (s t : Keys κ) : Prop where
  live : t.live ⊆ s.live ∪ s.held
  held : t.held ⊆ s.live ∪ s.held
  gone : ∀ k ∈ t.gone, k ∈ s.gone ∨ k ∉ t.live ∧ k ∉ t.held

variable {s t : Keys κ}

lemma Clean.step (h : Clean s) (hstep : Step s t) : Clean t := by
  intro k hk
  rcases hstep.gone k hk with hold | hnew
  · obtain ⟨hlive, hheld⟩ := h k hold
    have hnot : k ∉ s.live ∪ s.held := by rintro (hk | hk) <;> contradiction
    exact ⟨fun hk => hnot (hstep.live hk), fun hk => hnot (hstep.held hk)⟩
  · exact hnew

lemma Step.refl (s : Keys κ) : Step s s :=
  ⟨Set.subset_union_left, Set.subset_union_right, fun _ => .inl⟩

/-- Writers read and write. -/
lemma Step.write {live held : Set κ} (hlive : live ⊆ s.live ∪ s.held)
    (hheld : held ⊆ s.live ∪ s.held) : Step s ⟨live, held, s.gone⟩ :=
  ⟨hlive, hheld, fun _ => .inl⟩

/-- Keys that nobody holds are removed. -/
lemma Step.remove {ks : Set κ} (hks : ∀ k ∈ ks, k ∉ s.held) :
    Step s ⟨s.live \ ks, s.held, s.gone ∪ ks⟩ where
  live _ hk := .inl hk.1
  held := Set.subset_union_right
  gone k hk := hk.imp_right fun hk => ⟨fun hlive => hlive.2 hk, hks k hk⟩

/-- The remover and the writers of a system keep the store clean. -/
theorem clean_of_reached {σ α : Type*} {act : σ → α → Option σ} {guard : σ → α → Prop}
    {init : σ → Prop} {s : σ} (keys : σ → Keys κ) (h0 : ∀ s, init s → Clean (keys s))
    (hstep : ∀ s a t, guard s a → act s a = some t → Step (keys s) (keys t))
    (h : Reached act guard init s) : Clean (keys s) :=
  h.invariant (I := fun s => Clean (keys s)) h0
    fun s a t hclean hg ha => hclean.step (hstep s a t hg ha)

end FleetMonitor.Library.StaleWrites
