import Mathlib.Data.List.Chain
import Mathlib.Data.Nat.ModEq
import Mathlib.Tactic.Linarith
import Mathlib.Tactic.Ring

/-!
# A stream cut once in each period

Spans `(f, l)` of time come one after the other. Time is counted in slots of `u`, and a period is `p`
slots. A cut is made at the end `l` of a span that lies in the first slot of a period, if what has
come since the last cut is `tol` long (`step`).

Where spans end at most `g` apart and `2 * g` and `tol` leave room for each other in a period, no
first slot goes by without a cut, and none has two (`Cutting.run`): consecutive cuts are a period
apart. No piece is then longer than `tol`, a period and `g` (`Running.run`), also the first one, which
begins anywhere in a period.
-/

namespace Slots

/-- Where the pieces that have been cut begin and end, and the begin of what has come since. -/
structure State where
  pieces : List (Nat × Nat) := []
  base : Option Nat := none

def State.cuts (s : State) : List Nat := s.pieces.map Prod.snd

/-- The end of a span is in the first slot of a period, and far enough from the base. -/
def Due (u p tol b l : Nat) : Prop := l / u % p = 0 ∧ l / u ≠ 0 ∧ tol ≤ l - b

instance (u p tol b l : Nat) : Decidable (Due u p tol b l) := by unfold Due; infer_instance

def step (u p tol : Nat) (s : State) (span : Nat × Nat) : State :=
  let b := s.base.getD span.1
  if Due u p tol b span.2 then { pieces := s.pieces ++ [(b, span.2)], base := none }
  else { s with base := some b }

def run (u p tol : Nat) (s : State) (spans : List (Nat × Nat)) : State := spans.foldl (step u p tol) s

/-- Spans that end at most `g` apart, from the time `now` on. -/
def Steady (g : Nat) : Nat → List (Nat × Nat) → Prop
  | _, [] => True
  | now, (f, l) :: spans => now ≤ f ∧ f ≤ l ∧ l ≤ now + g ∧ Steady g l spans

instance instDecidableSteady (g : Nat) :
    (now : Nat) → (spans : List (Nat × Nat)) → Decidable (Steady g now spans)
  | _, [] => .isTrue trivial
  | now, (f, l) :: spans =>
    have := instDecidableSteady g l spans
    inferInstanceAs (Decidable (now ≤ f ∧ f ≤ l ∧ l ≤ now + g ∧ Steady g l spans))

/-- The time at which spans end. -/
def endOf : Nat → List (Nat × Nat) → Nat
  | now, [] => now
  | _, (_, l) :: spans => endOf l spans

variable {u p tol g now : Nat} {s : State} {spans : List (Nat × Nat)}

theorem cuts_concat (pieces : List (Nat × Nat)) (b l : Nat) (base : Option Nat) :
    State.cuts { pieces := pieces ++ [(b, l)], base } =
      State.cuts { pieces, base } ++ [l] := List.map_append

@[simp] theorem run_concat (span : Nat × Nat) :
    run u p tol s (spans ++ [span]) = step u p tol (run u p tol s spans) span := by
  simp [run]

@[simp] theorem endOf_concat (f l : Nat) : endOf now (spans ++ [(f, l)]) = l := by
  induction spans generalizing now with
  | nil => rfl
  | cons span spans ih => exact ih

@[simp] theorem steady_concat (f l : Nat) :
    Steady g now (spans ++ [(f, l)]) ↔
      Steady g now spans ∧ endOf now spans ≤ f ∧ f ≤ l ∧ l ≤ endOf now spans + g := by
  induction spans generalizing now with
  | nil => simp [Steady, endOf]
  | cons span spans ih => simp [Steady, endOf, ih, and_assoc]

/-- Spans come one after the other. -/
theorem Steady.ordered (h : Steady g now spans) :
    (∀ q ∈ spans, now ≤ q.1 ∧ q.1 ≤ q.2) ∧ spans.Pairwise fun q q' => q.2 ≤ q'.1 := by
  induction spans generalizing now with
  | nil => exact ⟨fun _ hq => absurd hq List.not_mem_nil, .nil⟩
  | cons span spans ih =>
    obtain ⟨f, l⟩ := span
    obtain ⟨hf, hfl, -, hrest⟩ := h
    obtain ⟨hspans, hpairs⟩ := ih hrest
    refine ⟨fun q hq => ?_, List.pairwise_cons.2 ⟨fun q hq => (hspans q hq).1, hpairs⟩⟩
    rcases List.mem_cons.1 hq with rfl | hq
    · exact ⟨hf, hfl⟩
    · obtain ⟨hlq, hqq⟩ := hspans q hq
      exact ⟨by omega, hqq⟩

/-- What is known between two spans, from the last cut on. -/
structure Cutting (u p tol g : Nat) (s : State) (now : Nat) : Prop where
  chain : s.cuts.IsChain fun c c' => c' / u = c / u + p
  base_le : ∀ b, s.base = some b → b ≤ now
  slot : ∀ c, s.cuts.getLast? = some c → c / u % p = 0 ∧ c ≤ now ∧ now < (c / u + p + 1) * u
  open? : ∀ c, s.cuts.getLast? = some c → s.base = none → now = c
  base : ∀ c b, s.cuts.getLast? = some c → s.base = some b →
    c ≤ b ∧ b ≤ c + g ∧ ((c / u + p) * u ≤ now → now - b < tol)

theorem cutting_init (now : Nat) : Cutting u p tol g {} now where
  chain := List.isChain_nil
  base_le := fun _ h => by cases h
  slot := fun _ h => by cases h
  open? := fun _ h => by cases h
  base := fun _ _ h => by cases h

/-- The begin of what has come since a cut, once there is a further span. -/
theorem Cutting.begin (h : Cutting u p tol g s now) {c f l : Nat} (hc : s.cuts.getLast? = some c)
    (hf : now ≤ f) (hfl : f ≤ l) (hl : l ≤ now + g) :
    c ≤ s.base.getD f ∧ s.base.getD f ≤ c + g := by
  cases hb : s.base with
  | none =>
    have hopen := h.open? c hc hb
    simp only [Option.getD_none]
    omega
  | some b =>
    obtain ⟨hle, hge, -⟩ := h.base c b hc hb
    exact ⟨hle, hge⟩

/-- The next first slot does not go by without a cut. -/
theorem Cutting.end_lt (h : Cutting u p tol g s now) (hu : 0 < u) (hp : 1 < p)
    (htol : p * u ≤ tol + u) (hroom : tol + 2 * g ≤ p * u) {c l : Nat}
    (hc : s.cuts.getLast? = some c) (hl : l ≤ now + g) : l < (c / u + p + 1) * u := by
  have hdiv := Nat.div_add_mod c u
  have hmod := Nat.mod_lt c hu
  have hpu : u + u ≤ p * u := by nlinarith
  have hexpand : (c / u + p + 1) * u = u * (c / u) + p * u + u := by ring
  rw [hexpand]
  by_contra hle
  cases hb : s.base with
  | none =>
    have hopen := h.open? c hc hb
    omega
  | some b =>
    obtain ⟨-, hge, hlate⟩ := h.base c b hc hb
    have hslot : (c / u + p) * u = u * (c / u) + p * u := by ring
    have hlate' := hlate (by omega)
    omega

theorem Cutting.step (h : Cutting u p tol g s now) (hu : 0 < u) (hp : 1 < p)
    (htol : p * u ≤ tol + u) (hroom : tol + 2 * g ≤ p * u) {f l : Nat} (hf : now ≤ f) (hfl : f ≤ l)
    (hl : l ≤ now + g) : Cutting u p tol g (step u p tol s (f, l)) l := by
  have hbase : s.base.getD f ≤ l := by
    cases hb : s.base with
    | none => exact hfl
    | some b => exact (h.base_le b hb).trans (hf.trans hfl)
  -- where the span ends, as seen from the last cut
  have hwhere : ∀ c, s.cuts.getLast? = some c → c / u % p = 0 ∧ c ≤ l ∧ c / u ≤ l / u ∧
      l / u ≤ c / u + p := fun c hc => by
    obtain ⟨hfirst, hcn, -⟩ := h.slot c hc
    have hcl : c ≤ l := by omega
    have hlt := (Nat.div_lt_iff_lt_mul hu).2 (h.end_lt hu hp htol hroom hc hl)
    exact ⟨hfirst, hcl, Nat.div_le_div_right hcl, by omega⟩
  unfold Slots.step
  dsimp only
  split
  · rename_i hdue
    obtain ⟨hslot, -, hlong⟩ := hdue
    refine ⟨?_, fun _ hb => (nomatch hb), fun c hc => ?_, fun c hc _ => ?_,
      fun _ _ _ hb => (nomatch hb)⟩
    · rw [cuts_concat]
      refine List.isChain_append.2 ⟨h.chain, List.isChain_singleton l, fun c hc y hy => ?_⟩
      cases hy
      obtain ⟨hfirst, hcl, hge, hle⟩ := hwhere c hc
      obtain ⟨hcb, -⟩ := h.begin hc hf hfl hl
      -- not in the slot of the cut before, which is too near
      have hne : l / u ≠ c / u := fun he => by
        have hdc := Nat.div_add_mod c u
        have hdl := Nat.div_add_mod l u
        have hml := Nat.mod_lt l hu
        have hpu : u + u ≤ p * u := by nlinarith
        rw [he] at hdl
        omega
      have hmod : (l / u - c / u) % p = 0 :=
        Nat.sub_mod_eq_zero_of_mod_eq (hslot.trans hfirst.symm)
      have hdvd := Nat.le_of_dvd (by omega) (Nat.dvd_of_mod_eq_zero hmod)
      omega
    · rw [cuts_concat, List.getLast?_concat] at hc
      cases hc
      refine ⟨hslot, le_rfl, ?_⟩
      have hdl := Nat.div_add_mod l u
      have hml := Nat.mod_lt l hu
      nlinarith
    · rw [cuts_concat, List.getLast?_concat] at hc
      exact Option.some_inj.1 hc
  · rename_i hdue
    refine ⟨h.chain, fun b hb => ?_, fun c hc => ?_, fun _ _ hb => (nomatch hb), fun c b hc hb => ?_⟩
    · cases hb
      exact hbase
    · obtain ⟨hfirst, hcl, -, -⟩ := hwhere c hc
      exact ⟨hfirst, hcl, h.end_lt hu hp htol hroom hc hl⟩
    · cases hb
      obtain ⟨hcb, hbc⟩ := h.begin hc hf hfl hl
      refine ⟨hcb, hbc, fun hin => ?_⟩
      obtain ⟨hfirst, -, -, hle⟩ := hwhere c hc
      have heq : l / u = c / u + p := le_antisymm hle ((Nat.le_div_iff_mul_le hu).2 hin)
      by_contra hlong
      have hpos : 0 < l / u := heq ▸ Nat.add_pos_right _ (Nat.zero_lt_of_lt hp)
      exact hdue ⟨by rw [heq, Nat.add_mod_right, hfirst], hpos.ne', by omega⟩

theorem Cutting.run (h : Cutting u p tol g s now) (hu : 0 < u) (hp : 1 < p)
    (htol : p * u ≤ tol + u) (hroom : tol + 2 * g ≤ p * u) (hs : Steady g now spans) :
    Cutting u p tol g (run u p tol s spans) (endOf now spans) := by
  induction spans generalizing s now with
  | nil => exact h
  | cons span spans ih =>
    obtain ⟨f, l⟩ := span
    obtain ⟨hf, hfl, hl, hrest⟩ := hs
    exact ih (h.step hu hp htol hroom hf hfl hl) hrest

/-- What is known between two spans of what has come since the last cut: it has been cut in the first
slot of the first period that it could be cut in. -/
structure Running (u p tol g : Nat) (s : State) (now : Nat) : Prop where
  pieces : ∀ q ∈ s.pieces, q.1 ≤ q.2 ∧ q.2 < q.1 + tol + p * u + g
  base : ∀ b, s.base = some b → b ≤ now ∧ ∀ k, 0 < k → b + tol ≤ k * (p * u) → now < k * (p * u)

theorem running_init (now : Nat) : Running u p tol g {} now where
  pieces := fun _ h => absurd h List.not_mem_nil
  base := fun _ h => by cases h

/-- The begin of what there is with a further span has not been passed by a period. -/
theorem Running.begin (h : Running u p tol g s now) (htol : 0 < tol) {f l : Nat} (hf : now ≤ f)
    (hfl : f ≤ l) : s.base.getD f ≤ l ∧
      ∀ k, 0 < k → s.base.getD f + tol ≤ k * (p * u) → now < k * (p * u) := by
  cases hb : s.base with
  | none =>
    rw [Option.getD_none]
    exact ⟨hfl, fun k _ hk => by omega⟩
  | some b =>
    obtain ⟨hle, hnext⟩ := h.base b hb
    exact ⟨hle.trans (hf.trans hfl), hnext⟩

theorem Running.step (h : Running u p tol g s now) (hu : 0 < u) (hp : 0 < p) (htol : 0 < tol)
    (hg : g < u) {f l : Nat} (hf : now ≤ f) (hfl : f ≤ l) (hl : l ≤ now + g) :
    Running u p tol g (step u p tol s (f, l)) l := by
  obtain ⟨hbl, hnext⟩ := h.begin htol hf hfl
  have hperiod : 0 < p * u := Nat.mul_pos hp hu
  unfold Slots.step
  dsimp only
  split
  · refine ⟨fun q hq => ?_, fun _ hb => (nomatch hb)⟩
    rcases List.mem_append.1 hq with hq | hq
    · exact h.pieces q hq
    · rw [List.mem_singleton.1 hq]
      refine ⟨hbl, ?_⟩
      -- the first period that begins `tol` after the piece
      have hdiv := Nat.div_add_mod' (s.base.getD f + tol + p * u - 1) (p * u)
      have hmod := Nat.mod_lt (s.base.getD f + tol + p * u - 1) hperiod
      generalize (s.base.getD f + tol + p * u - 1) / (p * u) = k at hdiv
      have hle : s.base.getD f + tol ≤ k * (p * u) := by omega
      have hpos : 0 < k := Nat.pos_of_ne_zero fun h0 => by
        rw [h0, Nat.zero_mul] at hle
        omega
      have hnow := hnext k hpos hle
      dsimp only
      omega
  · rename_i hdue
    refine ⟨h.pieces, fun b hb => ?_⟩
    cases hb
    refine ⟨hbl, fun k hpos hk => ?_⟩
    by_contra hpast
    have hnow := hnext k hpos hk
    -- the span ends in the first slot of the period
    have hslot : l / u = k * p := by
      have hassoc : k * (p * u) = k * p * u := (Nat.mul_assoc k p u).symm
      refine Nat.div_eq_of_lt_le (by omega) ?_
      rw [Nat.succ_mul]
      omega
    refine hdue ⟨by rw [hslot, Nat.mul_mod_left], ?_, by omega⟩
    rw [hslot]
    exact (Nat.mul_pos hpos hp).ne'

theorem Running.run (h : Running u p tol g s now) (hu : 0 < u) (hp : 0 < p) (htol : 0 < tol)
    (hg : g < u) (hs : Steady g now spans) :
    Running u p tol g (run u p tol s spans) (endOf now spans) := by
  induction spans generalizing s now with
  | nil => exact h
  | cons span spans ih =>
    obtain ⟨f, l⟩ := span
    obtain ⟨hf, hfl, hl, hrest⟩ := hs
    exact ih (h.step hu hp htol hg hf hfl hl) hrest

end Slots
