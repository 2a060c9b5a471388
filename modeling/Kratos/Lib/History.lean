import Mathlib.Data.List.Induction

/-!
# Histories

A history is a list of events, oldest first.

* `LastAt p h h₁ a h₂`: `a` is the last event of `h` that hits `p`, where whether an event hits
  may depend on the history before it. It is followed along a growing history (`LastAt.snoc_hit`,
  `LastAt.snoc_skip`, `LastAt.append_skip`) and is unique (`LastAt.unique`).
* `Interleave3 A B C h`: `h` is a merge of three streams that keeps each one's order; filtering
  recovers a stream (`Interleave3.filter_fst`, `Interleave3.filter_snd`,
  `Interleave3.filter_trd`).
-/

namespace History

variable {α : Type}

/-! ## The last event that hits -/

structure LastAt (p : List α → α → Prop) (h h₁ : List α) (a : α) (h₂ : List α) : Prop where
  split : h = h₁ ++ a :: h₂
  hit : p h₁ a
  last : ∀ k₁ b k₂, h₂ = k₁ ++ b :: k₂ → ¬ p (h₁ ++ a :: k₁) b

variable {p : List α → α → Prop} {h h₁ h₂ k₁ k₂ : List α} {a b : α}

theorem LastAt.snoc_hit (hp : p h a) : LastAt p (h ++ [a]) h a [] where
  split := rfl
  hit := hp
  last := fun _ _ _ he => by simp at he

theorem LastAt.snoc_skip (hl : LastAt p h h₁ a h₂) (hp : ¬ p h b) :
    LastAt p (h ++ [b]) h₁ a (h₂ ++ [b]) where
  split := by rw [hl.split]; simp
  hit := hl.hit
  last := fun k₁ c k₂ he => by
    rcases List.eq_nil_or_concat k₂ with rfl | ⟨k₂, d, rfl⟩
    · obtain ⟨rfl, hc⟩ := List.append_inj' he rfl
      obtain rfl : b = c := by simpa using hc
      rwa [← hl.split]
    · have he' : h₂ ++ [b] = (k₁ ++ c :: k₂) ++ [d] := by simpa using he
      exact hl.last k₁ c k₂ (List.append_inj' he' rfl).1

/-- A last hit stays the last one while nothing hits. -/
theorem LastAt.append_skip (hl : LastAt p h h₁ a h₂) {k : List α}
    (hk : ∀ k₁ b k₂, k = k₁ ++ b :: k₂ → ¬ p (h ++ k₁) b) : LastAt p (h ++ k) h₁ a (h₂ ++ k) := by
  induction k using List.reverseRecOn with
  | nil => simpa using hl
  | append_singleton k b ih =>
    have h1 := ih fun k₁ c k₂ he => hk k₁ c (k₂ ++ [b]) (by simp [he])
    rw [← List.append_assoc, ← List.append_assoc]
    exact h1.snoc_skip (hk k b [] rfl)

/-- Two last hits of one history are the same event. -/
theorem LastAt.unique (h1 : LastAt p h h₁ a h₂) (h2 : LastAt p h k₁ b k₂) :
    h₁ = k₁ ∧ a = b ∧ h₂ = k₂ := by
  have he : h₁ ++ a :: h₂ = k₁ ++ b :: k₂ := h1.split ▸ h2.split
  rcases List.append_eq_append_iff.1 he with ⟨l, rfl, hl⟩ | ⟨l, rfl, hl⟩
  · cases l with
    | nil => simpa using hl
    | cons c l =>
      obtain ⟨rfl, rfl⟩ : a = c ∧ h₂ = l ++ b :: k₂ := by simpa using hl
      exact absurd h2.hit (h1.last l b k₂ rfl)
  · cases l with
    | nil => simpa [eq_comm] using hl
    | cons c l =>
      obtain ⟨rfl, rfl⟩ : b = c ∧ k₂ = l ++ a :: h₂ := by simpa using hl
      exact absurd h1.hit (h2.last l a h₂ rfl)

/-! ## Interleavings of three streams -/

inductive Interleave3 : List α → List α → List α → List α → Prop where
  | nil : Interleave3 [] [] [] []
  | fst {a : α} {A B C h : List α} : Interleave3 A B C h → Interleave3 (a :: A) B C (a :: h)
  | snd {a : α} {A B C h : List α} : Interleave3 A B C h → Interleave3 A (a :: B) C (a :: h)
  | trd {a : α} {A B C h : List α} : Interleave3 A B C h → Interleave3 A B (a :: C) (a :: h)

namespace Interleave3

variable {A B C : List α} {q : α → Bool}

theorem filter_eq (hi : Interleave3 A B C h) : Interleave3 (A.filter q) (B.filter q) (C.filter q)
    (h.filter q) := by
  induction hi with
  | nil => exact .nil
  | @fst a _ _ _ _ _ ih => by_cases hq : q a = true <;> simp [hq, ih, ih.fst]
  | @snd a _ _ _ _ _ ih => by_cases hq : q a = true <;> simp [hq, ih, ih.snd]
  | @trd a _ _ _ _ _ ih => by_cases hq : q a = true <;> simp [hq, ih, ih.trd]

theorem eq_fst (hi : Interleave3 A [] [] h) : h = A := by
  induction A generalizing h with
  | nil => cases hi; rfl
  | cons a A ih => cases hi with | fst hi => rw [ih hi]

theorem eq_snd (hi : Interleave3 [] B [] h) : h = B := by
  induction B generalizing h with
  | nil => cases hi; rfl
  | cons a B ih => cases hi with | snd hi => rw [ih hi]

theorem eq_trd (hi : Interleave3 [] [] C h) : h = C := by
  induction C generalizing h with
  | nil => cases hi; rfl
  | cons a C ih => cases hi with | trd hi => rw [ih hi]

/-- Keeping the events of the first stream recovers it. -/
theorem filter_fst (hi : Interleave3 A B C h) (hA : ∀ a ∈ A, q a = true)
    (hB : ∀ b ∈ B, q b = false) (hC : ∀ c ∈ C, q c = false) : h.filter q = A := by
  have h1 := hi.filter_eq (q := q)
  rw [List.filter_eq_self.2 hA, List.filter_eq_nil_iff.2 (by simpa using hB),
    List.filter_eq_nil_iff.2 (by simpa using hC)] at h1
  exact h1.eq_fst

theorem filter_snd (hi : Interleave3 A B C h) (hA : ∀ a ∈ A, q a = false)
    (hB : ∀ b ∈ B, q b = true) (hC : ∀ c ∈ C, q c = false) : h.filter q = B := by
  have h1 := hi.filter_eq (q := q)
  rw [List.filter_eq_nil_iff.2 (by simpa using hA), List.filter_eq_self.2 hB,
    List.filter_eq_nil_iff.2 (by simpa using hC)] at h1
  exact h1.eq_snd

theorem filter_trd (hi : Interleave3 A B C h) (hA : ∀ a ∈ A, q a = false)
    (hB : ∀ b ∈ B, q b = false) (hC : ∀ c ∈ C, q c = true) : h.filter q = C := by
  have h1 := hi.filter_eq (q := q)
  rw [List.filter_eq_nil_iff.2 (by simpa using hA), List.filter_eq_nil_iff.2 (by simpa using hB),
    List.filter_eq_self.2 hC] at h1
  exact h1.eq_trd

end Interleave3

end History
