import Mathlib.Data.Finset.Basic
import Mathlib.Logic.Relation

/-!
# Asking until all is acknowledged

A client asks for what it wants, more than once perhaps, and keeps what it has not been told that it
has; it is ready when it finds nothing left. What it asked for is answered in any order, and a
failure is not asked for again. In every run (`Inv.run`) a client that is ready was told that it has
all that it wants (`Inv.ready`), and one with no answer to come and no failure is ready
(`Inv.ready_of_settled`).
-/

namespace Handshake

variable {K : Type} [DecidableEq K]

structure State (K : Type) where
  started : Bool := false
  /-- What the client does not know to be acknowledged. -/
  unset : Finset K := ∅
  ready : Bool := false
  pending : Multiset K := 0
  acked : Finset K := ∅
  failed : Finset K := ∅

/-- The client finds nothing left. -/
def State.test (s : State K) : State K := if s.unset = ∅ then { s with ready := true } else s

/-- A request that is answered and asked again is pending before and after. -/
inductive Step (wants : Finset K) (s : State K) : State K → Prop
  | ask : Step wants s
      (State.test
        { s with
          started := true
          unset := s.unset ∪ wants
          pending := s.pending + wants.val })
  | ack (k : K) (h : k ∈ s.pending) : Step wants s
      (State.test
        { s with
          unset := s.unset.erase k
          pending := s.pending.erase k
          acked := insert k s.acked })
  | fail (k : K) (h : k ∈ s.pending) : Step wants s
      { s with
        pending := s.pending.erase k
        failed := insert k s.failed }

structure Inv (wants : Finset K) (s : State K) : Prop where
  idle : s.started = false → s.pending = 0
  acked : s.started = true → ∀ k ∈ wants, k ∈ s.unset ∨ k ∈ s.acked
  owed : ∀ k ∈ s.unset, k ∈ s.pending ∨ k ∈ s.failed
  ready : s.ready = true → ∀ k ∈ wants, k ∈ s.acked
  settled : s.started = true → s.unset = ∅ → s.ready = true

variable {wants : Finset K} {s s' : State K}

omit [DecidableEq K] in
theorem inv_init : Inv wants ({} : State K) where
  idle := fun _ => rfl
  acked := fun h => by cases h
  owed := by simp
  ready := fun h => by cases h
  settled := fun h => by cases h

namespace Inv

theorem test (hstarted : s.started = true)
    (hacked : ∀ k ∈ wants, k ∈ s.unset ∨ k ∈ s.acked)
    (howed : ∀ k ∈ s.unset, k ∈ s.pending ∨ k ∈ s.failed)
    (hready : s.ready = true → ∀ k ∈ wants, k ∈ s.acked) : Inv wants s.test := by
  unfold State.test
  split
  · rename_i hempty
    refine ⟨?_, fun _ => hacked, howed, fun _ k hk => ?_, fun _ _ => rfl⟩
    · intro h
      simp [hstarted] at h
    · apply (hacked k hk).resolve_left
      simp [hempty]
  · rename_i hne
    refine ⟨?_, fun _ => hacked, howed, hready, fun _ h => absurd h hne⟩
    intro h
    simp [hstarted] at h

omit [DecidableEq K] in
theorem started (h : Inv wants s) {k : K} (hk : k ∈ s.pending) : s.started = true := by
  by_contra hnot
  have hidle := h.idle (by simpa using hnot)
  simp [hidle] at hk

theorem step (h : Inv wants s) (hstep : Step wants s s') : Inv wants s' := by
  cases hstep with
  | ask =>
    apply Inv.test
    · rfl
    · intro k hk
      simp [hk]
    · intro k hk
      rcases Finset.mem_union.1 hk with hk | hk
      · rcases h.owed k hk with hp | hf
        · simp [hp]
        · simp [hf]
      · simp [hk]
    · exact h.ready
  | ack k hk =>
    have hstarted := h.started hk
    apply Inv.test
    · exact hstarted
    · intro j hj
      by_cases hjk : j = k
      · simp [hjk]
      · simpa [hjk] using h.acked hstarted j hj
    · intro j hj
      obtain ⟨hjk, hj⟩ := Finset.mem_erase.1 hj
      rcases h.owed j hj with hp | hf
      · exact .inl ((Multiset.mem_erase_of_ne hjk).2 hp)
      · exact .inr hf
    · intro hready j hj
      exact Finset.mem_insert_of_mem (h.ready hready j hj)
  | fail k hk =>
    have hstarted := h.started hk
    refine ⟨fun hs => ?_, h.acked, fun j hj => ?_, h.ready, h.settled⟩
    · simp [hstarted] at hs
    · by_cases hjk : j = k
      · simp [hjk]
      · rcases h.owed j hj with hp | hf
        · exact .inl ((Multiset.mem_erase_of_ne hjk).2 hp)
        · simp [hf]

theorem run (h : Inv wants s) (hrun : Relation.ReflTransGen (Step wants) s s') : Inv wants s' := by
  induction hrun with
  | refl => exact h
  | tail _ hstep ih => exact ih.step hstep

omit [DecidableEq K] in
theorem ready_of_settled (h : Inv wants s) (hstarted : s.started = true) (hpending : s.pending = 0)
    (hfailed : s.failed = ∅) : s.ready = true := by
  apply h.settled hstarted
  apply Finset.eq_empty_of_forall_notMem
  intro k hk
  have howed := h.owed k hk
  simp [hpending, hfailed] at howed

end Inv

end Handshake
