import Mathlib.Logic.Relation
import Kratos.Lib.Prog

/-!
# The turns of a loop, and loops that end

`Turns body h h'`: from `h` the loop has gone on, turn by turn, to `h'`. It is the same run
(`Turns.run_eq`), and what every turn keeps holds there (`Turns.inv`).

`ends P n p Q s` is total correctness: where every input satisfies `P`, `n` of them are enough for
`p` to return, with `Q`. The rules add up the inputs; `ends_loop` needs a variant.
-/

namespace Prog

variable {ι ε σ α β γ : Type}

/-! ## Turns -/

/-- A loop between two turns. -/
structure At (β ι σ : Type) where
  var : β
  rest : List ι
  state : σ

/-- One turn that goes on. -/
def Next (body : β → Prog ι ε σ (Turn β α)) (h h' : At β ι σ) : Prop :=
  (body h.var).run h.rest h.state = .ret (.next h'.var) h'.rest h'.state

def Turns (body : β → Prog ι ε σ (Turn β α)) : At β ι σ → At β ι σ → Prop :=
  Relation.ReflTransGen (Next body)

variable {body : β → Prog ι ε σ (Turn β α)} {h h' : At β ι σ}

theorem Turns.refl (h : At β ι σ) : Turns body h h := Relation.ReflTransGen.refl

/-- Either no turn was taken, or there was a first one. -/
theorem Turns.first (ht : Turns body h h') :
    h = h' ∨ ∃ h₁, Next body h h₁ ∧ Turns body h₁ h' := Relation.ReflTransGen.cases_head ht

/-- The run of a loop goes on from any of its turns. -/
theorem Turns.run_eq (hw : ∀ b, Waits (body b)) (ht : Turns body h h') :
    (loop body h.var).run h.rest h.state = (loop body h'.var).run h'.rest h'.state := by
  induction ht with
  | refl => rfl
  | tail _ hn ih => rw [ih, loop_eq hw, run_bind, show (body _).run _ _ = _ from hn]

theorem Turns.inv {J : β → σ → Prop} {Q : α → σ → Prop} {E : ε → σ → Prop} {B : σ → Prop}
    (ht : Turns body h h') (hbody : ∀ b s, J b s → wp (body b) (turnPost J Q) E B s)
    (hinv : J h.var h.state) : J h'.var h'.state := by
  induction ht with
  | refl => exact hinv
  | tail _ hn ih => exact (hbody _ _ ih).ret hn

/-! ## Total correctness -/

def ends (P : ι → Prop) (n : Nat) (p : Prog ι ε σ α) (Q : α → σ → Prop) (s : σ) : Prop :=
  ∀ ins, (∀ i ∈ ins, P i) → n ≤ ins.length →
    ∃ a rest s', p.run ins s = .ret a rest s' ∧ ins.length ≤ rest.length + n ∧ Q a s'

variable {P : ι → Prop} {n m : Nat} {p : Prog ι ε σ α} {Q Q' : α → σ → Prop} {s : σ}

theorem ends.imp (hp : ends P n p Q s) (hnm : n ≤ m) (hQ : ∀ a s, Q a s → Q' a s) :
    ends P m p Q' s := by
  intro ins hP hlen
  obtain ⟨a, rest, s', hr, hle, hq⟩ := hp ins hP (hnm.trans hlen)
  exact ⟨a, rest, s', hr, by omega, hQ a s' hq⟩

theorem ends.mono (hp : ends P n p Q s) (hQ : ∀ a s, Q a s → Q' a s) : ends P n p Q' s :=
  hp.imp le_rfl hQ

/-- What is known of a run that returns may be added. -/
theorem ends.and {E : ε → σ → Prop} {B : σ → Prop} (hp : ends P n p Q s) (hw : wp p Q' E B s) :
    ends P n p (fun a s => Q a s ∧ Q' a s) s := by
  intro ins hP hlen
  obtain ⟨a, rest, s', hr, hle, hq⟩ := hp ins hP hlen
  exact ⟨a, rest, s', hr, hle, hq, hw.ret hr⟩

theorem ends_pure {a : α} (hq : Q a s) : ends P n (pure a : Prog ι ε σ α) Q s :=
  fun ins _ _ => ⟨a, ins, s, rfl, by omega, hq⟩

/-- Reading and writing the state takes no input. -/
theorem ends_get {f : σ → Prog ι ε σ α} (hf : ends P n (f s) Q s) : ends P n (get >>= f) Q s :=
  fun ins hP hlen => hf ins hP hlen

theorem ends_modify {g : σ → σ} {f : Unit → Prog ι ε σ α} (hf : ends P n (f ()) Q (g s)) :
    ends P n (modify g >>= f) Q s :=
  fun ins hP hlen => hf ins hP hlen

theorem ends_next {Q : ι → σ → Prop} (hq : ∀ i, P i → Q i s) :
    ends P 1 (next : Prog ι ε σ ι) Q s := by
  intro ins hP hlen
  cases ins with
  | nil => simp at hlen
  | cons i rest => exact ⟨i, rest, s, rfl, by simp, hq i (hP i List.mem_cons_self)⟩

/-- The inputs of both parts add up. -/
theorem ends_bind {f : α → Prog ι ε σ β} {Q : β → σ → Prop}
    (hp : ends P n p (fun a => ends P m (f a) Q) s) : ends P (n + m) (p >>= f) Q s := by
  intro ins hP hlen
  obtain ⟨a, rest, s', hr, hle, hf⟩ := hp ins hP (by omega)
  have hsuf : rest <:+ ins := by
    have := p.suffix ins s
    rwa [hr] at this
  obtain ⟨b, rest', s'', hr', hle', hq⟩ := hf rest (fun i hi => hP i (hsuf.subset hi)) (by omega)
  refine ⟨b, rest', s'', ?_, by omega, hq⟩
  rw [run_bind, hr]
  exact hr'

/-- What follows takes no input. -/
theorem ends_then {f : α → Prog ι ε σ β} {Q : β → σ → Prop}
    (hp : ends P n p (fun a => ends P 0 (f a) Q) s) : ends P n (p >>= f) Q s := ends_bind hp

/-- Over a list, as often as it is long. -/
theorem ends_forM {f : α → Prog ι ε σ PUnit} {l : List α}
    (hf : ∀ a ∈ l, ∀ s, ends P n (f a) (fun _ _ => True) s) :
    ends P (l.length * n) (l.forM f) (fun _ _ => True) s := by
  induction l generalizing s with
  | nil => exact ends_pure trivial
  | cons a l ih =>
    have hcons : (a :: l).length * n = n + l.length * n := by
      rw [List.length_cons, Nat.succ_mul, Nat.add_comm]
    rw [hcons]
    refine ends_bind ((hf a List.mem_cons_self s).mono fun _ s' _ => ?_)
    exact ih fun b hb => hf b (List.mem_cons_of_mem a hb)

/-- What a turn from `n` must establish: the invariant and a smaller variant, or the loop's
postcondition. -/
def variantPost (Inv : β → σ → Prop) (μ : β → σ → Nat) (Q : α → σ → Prop) (n : Nat) :
    Turn β α → σ → Prop
  | .next b, s => Inv b s ∧ μ b s < n
  | .done a, s => Q a s

/-- **The variant rule**: each turn takes at most `n` inputs and makes `μ` smaller. -/
theorem ends_loop (hw : ∀ b, Waits (body b)) (Inv : β → σ → Prop) (μ : β → σ → Nat)
    (hbody : ∀ b s, Inv b s → ends P n (body b) (variantPost Inv μ Q (μ b s)) s)
    {b : β} (hinv : Inv b s) : ends P (n * (μ b s + 1)) (loop body b) Q s := by
  induction hk : μ b s using Nat.strong_induction_on generalizing b s with
  | _ k ih =>
    intro ins hP hlen
    have hn : n * (k + 1) = n * k + n := Nat.mul_succ n k
    obtain ⟨t, rest, s', hr, hle, ht⟩ := hbody b s hinv ins hP (by omega)
    have hsuf : rest <:+ ins := by
      have := (body b).suffix ins s
      rwa [hr] at this
    rw [loop_eq hw, run_bind, hr]
    cases t with
    | done a => exact ⟨a, rest, s', rfl, by omega, ht⟩
    | next b' =>
      obtain ⟨hinv', hlt⟩ := ht
      have hmul : n * (μ b' s' + 1) ≤ n * k := Nat.mul_le_mul_left n (by omega)
      obtain ⟨a, rest', s'', hr', hle', hq⟩ :=
        ih _ (by omega) hinv' rfl rest (fun i hi => hP i (hsuf.subset hi)) (by omega)
      exact ⟨a, rest', s'', hr', by omega, hq⟩

/-- A loop whose first turn is its last. -/
theorem ends_loop_done (hw : ∀ b, Waits (body b)) {b : β}
    (hb : ends P n (body b) (fun t s' => ∃ a, t = .done a ∧ Q a s') s) :
    ends P n (loop body b) Q s := by
  intro ins hP hlen
  obtain ⟨t, rest, s', hr, hle, a, rfl, hq⟩ := hb ins hP hlen
  refine ⟨a, rest, s', ?_, hle, hq⟩
  rw [loop_eq hw, run_ret _ hr]
  rfl

end Prog
