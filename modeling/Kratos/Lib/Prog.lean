import Mathlib.Data.List.Infix

/-!
# Programs that wait for their environment

A `Prog ι ε σ α` runs on a state `σ` and a finite list of inputs `ι`, one for each time it waits
(`Prog.next`). It returns, raises an exception `ε`, or is still waiting when the inputs are used
up (`Res`). Quantifying over the input list quantifies over every behaviour of the environment,
and a blocked run is a run in progress.

A loop has no bound of its own: `Prog.loop` gives it one turn more than there are inputs left,
and where every turn waits at least once that is the loop (`loop_eq`).

`wp p Q E B s`: on any inputs, `p` from `s` returns with `Q`, raises with `E` or blocks with `B`.
The rules follow the constructors (`wp_pure`, `wp_bind`, `wp_next`, …); `wp_loop` is the
invariant rule. `Keeps J p`: however `p` ends, it keeps `J`.
-/

/-- How a run ends. -/
inductive Res (ι ε σ α : Type) where
  | ret (a : α) (rest : List ι) (s : σ)
  | raised (e : ε) (rest : List ι) (s : σ)
  | blocked (s : σ)

variable {ι ε σ α β γ : Type}

/-- The inputs that are left. -/
def Res.rest : Res ι ε σ α → List ι
  | .ret _ rest _ => rest
  | .raised _ rest _ => rest
  | .blocked _ => []

def Res.state : Res ι ε σ α → σ
  | .ret _ _ s => s
  | .raised _ _ s => s
  | .blocked s => s

/-- A program, which takes its inputs in order. -/
structure Prog (ι ε σ α : Type) where
  run : List ι → σ → Res ι ε σ α
  suffix : ∀ ins s, (run ins s).rest <:+ ins

/-- One turn of a loop: go on with a new loop state, or leave. -/
inductive Turn (β α : Type) where
  | next (b : β)
  | done (a : α)

namespace Prog

/-! ## The constructors -/

instance : Monad (Prog ι ε σ) where
  pure a := ⟨fun ins s => .ret a ins s, fun _ _ => List.suffix_rfl⟩
  bind p f :=
    { run := fun ins s =>
        match p.run ins s with
        | .ret a rest s' => (f a).run rest s'
        | .raised e rest s' => .raised e rest s'
        | .blocked s' => .blocked s'
      suffix := fun ins s => by
        have hp := p.suffix ins s
        cases hr : p.run ins s with
        | ret a rest s' => rw [hr] at hp; exact ((f a).suffix rest s').trans hp
        | raised e rest s' => rw [hr] at hp; exact hp
        | blocked s' => exact List.nil_suffix }

def get : Prog ι ε σ σ := ⟨fun ins s => .ret s ins s, fun _ _ => List.suffix_rfl⟩

def modify (f : σ → σ) : Prog ι ε σ Unit :=
  ⟨fun ins s => .ret () ins (f s), fun _ _ => List.suffix_rfl⟩

def raise (e : ε) : Prog ι ε σ α := ⟨fun ins s => .raised e ins s, fun _ _ => List.suffix_rfl⟩

/-- Wait for the next input. -/
def next : Prog ι ε σ ι where
  run
    | [], s => .blocked s
    | i :: rest, s => .ret i rest s
  suffix
    | [], _ => List.nil_suffix
    | i :: _, _ => List.suffix_cons i _

/-- Run to the end, exception or not. -/
def attempt (p : Prog ι ε σ α) : Prog ι ε σ (Except ε α) where
  run ins s :=
    match p.run ins s with
    | .ret a rest s' => .ret (.ok a) rest s'
    | .raised e rest s' => .ret (.error e) rest s'
    | .blocked s' => .blocked s'
  suffix ins s := by
    have hp := p.suffix ins s
    cases hr : p.run ins s with
    | ret a rest s' => rw [hr] at hp; exact hp
    | raised e rest s' => rw [hr] at hp; exact hp
    | blocked s' => exact List.nil_suffix

/-- At most `n` turns. -/
def iter (body : β → Prog ι ε σ (Turn β α)) : Nat → β → Prog ι ε σ α
  | 0, _ => ⟨fun _ s => .blocked s, fun _ _ => List.nil_suffix⟩
  | n + 1, b => do
    match ← body b with
    | .next b' => iter body n b'
    | .done a => pure a

def loop (body : β → Prog ι ε σ (Turn β α)) (b : β) : Prog ι ε σ α :=
  ⟨fun ins s => (iter body (ins.length + 1) b).run ins s, fun _ _ => (iter ..).suffix _ _⟩

/-! ## Running -/

@[simp] theorem run_pure (a : α) (ins : List ι) (s : σ) :
    (pure a : Prog ι ε σ α).run ins s = .ret a ins s := rfl

@[simp] theorem run_get (ins : List ι) (s : σ) :
    (get : Prog ι ε σ σ).run ins s = .ret s ins s := rfl

@[simp] theorem run_modify (f : σ → σ) (ins : List ι) (s : σ) :
    (modify f : Prog ι ε σ Unit).run ins s = .ret () ins (f s) := rfl

theorem run_bind (p : Prog ι ε σ α) (f : α → Prog ι ε σ β) (ins : List ι) (s : σ) :
    (p >>= f).run ins s =
      match p.run ins s with
      | .ret a rest s' => (f a).run rest s'
      | .raised e rest s' => .raised e rest s'
      | .blocked s' => .blocked s' := rfl

/-- A program that has returned runs on into what follows. -/
theorem run_ret {p : Prog ι ε σ α} (f : α → Prog ι ε σ β) {ins rest : List ι} {a : α} {s s' : σ}
    (hr : p.run ins s = .ret a rest s') : (p >>= f).run ins s = (f a).run rest s' := by
  rw [run_bind, hr]

/-- A sequence that has returned has returned from its first part. -/
theorem ret_bind {p : Prog ι ε σ α} {f : α → Prog ι ε σ β} {ins rest : List ι} {b : β} {s s' : σ}
    (hr : (p >>= f).run ins s = .ret b rest s') :
    ∃ a ins₁ s₁, p.run ins s = .ret a ins₁ s₁ ∧ (f a).run ins₁ s₁ = .ret b rest s' := by
  rw [run_bind] at hr
  cases h1 : p.run ins s with
  | ret a ins₁ s₁ => rw [h1] at hr; exact ⟨a, ins₁, s₁, rfl, hr⟩
  | raised e ins₁ s₁ => rw [h1] at hr; cases hr
  | blocked s₁ => rw [h1] at hr; cases hr

/-- If the turn goes on, it has taken an input. -/
def Waits (p : Prog ι ε σ (Turn β α)) : Prop :=
  ∀ ins s b rest s', p.run ins s = .ret (.next b) rest s' → rest.length < ins.length

/-- Turns beyond the number of inputs are never taken. -/
theorem iter_stable {body : β → Prog ι ε σ (Turn β α)} (hw : ∀ b, Waits (body b)) :
    ∀ (n m : Nat) (b : β) (ins : List ι) (s : σ), ins.length < n → ins.length < m →
      (iter body n b).run ins s = (iter body m b).run ins s
  | 0, _, _, _, _, hn, _ => absurd hn (Nat.not_lt_zero _)
  | _, 0, _, _, _, _, hm => absurd hm (Nat.not_lt_zero _)
  | n + 1, m + 1, b, ins, s, hn, hm => by
    simp only [iter, run_bind]
    cases hr : (body b).run ins s with
    | raised e rest s' => rfl
    | blocked s' => rfl
    | ret t rest s' =>
      cases t with
      | done a => rfl
      | next b' =>
        have := hw b ins s b' rest s' hr
        exact iter_stable hw n m b' rest s' (by omega) (by omega)

/-- **A loop whose turns wait is its first turn and then the loop.** -/
theorem loop_eq {body : β → Prog ι ε σ (Turn β α)} (hw : ∀ b, Waits (body b)) (b : β) (ins : List ι)
    (s : σ) :
    (loop body b).run ins s =
      (do match ← body b with
          | .next b' => loop body b'
          | .done a => pure a : Prog ι ε σ α).run ins s := by
  show (iter body (ins.length + 1) b).run ins s = _
  rw [iter, run_bind, run_bind]
  cases hr : (body b).run ins s with
  | raised e rest s' => rfl
  | blocked s' => rfl
  | ret t rest s' =>
    cases t with
    | done a => rfl
    | next b' =>
      have := hw b ins s b' rest s' hr
      exact iter_stable hw ins.length (rest.length + 1) b' rest s' this (Nat.lt_succ_self _)

/-- `p` takes an input before it returns. -/
def Consumes (p : Prog ι ε σ α) : Prop :=
  ∀ ins s a rest s', p.run ins s = .ret a rest s' → rest.length < ins.length

theorem consumes_next : Consumes (next : Prog ι ε σ ι) := by
  intro ins s a rest s' hr
  cases ins with
  | nil => simp [next] at hr
  | cons i ins =>
    obtain ⟨rfl, rfl, rfl⟩ : i = a ∧ ins = rest ∧ s = s' := by simpa [next] using hr
    exact Nat.lt_succ_self _

theorem Consumes.bind {p : Prog ι ε σ α} (hp : Consumes p) (f : α → Prog ι ε σ β) :
    Consumes (p >>= f) := by
  intro ins s b rest s' hr
  obtain ⟨a, rest₁, s₁, h1, hr⟩ := ret_bind hr
  have h2 := (f a).suffix rest₁ s₁
  rw [hr] at h2
  exact h2.length_le.trans_lt (hp ins s a rest₁ s₁ h1)

theorem Consumes.waits {p : Prog ι ε σ (Turn β α)} (hp : Consumes p) : Waits p :=
  fun ins s b rest s' hr => hp ins s (.next b) rest s' hr

theorem waits_done (a : α) : Waits (pure (.done a) : Prog ι ε σ (Turn β α)) := by
  intro ins s b rest s' hr
  cases hr

theorem waits_bind {p : Prog ι ε σ γ} {f : γ → Prog ι ε σ (Turn β α)}
    (hf : ∀ c, Waits (f c)) : Waits (p >>= f) := by
  intro ins s b rest s' hr
  obtain ⟨c, rest₁, s₁, h1, hr⟩ := ret_bind hr
  have h2 := p.suffix ins s
  rw [h1] at h2
  exact (hf c rest₁ s₁ b rest s' hr).trans_le h2.length_le

/-! ## Weakest preconditions -/

/-- `p` from `s` returns with `Q`, raises with `E` or blocks with `B`. -/
def wp (p : Prog ι ε σ α) (Q : α → σ → Prop) (E : ε → σ → Prop) (B : σ → Prop) (s : σ) : Prop :=
  ∀ ins,
    match p.run ins s with
    | .ret a _ s' => Q a s'
    | .raised e _ s' => E e s'
    | .blocked s' => B s'

variable {p : Prog ι ε σ α} {Q Q' : α → σ → Prop} {E : ε → σ → Prop} {B : σ → Prop} {s : σ}

theorem wp.imp {E' : ε → σ → Prop} {B' : σ → Prop} (h : wp p Q E B s)
    (hQ : ∀ a s, Q a s → Q' a s) (hE : ∀ e s, E e s → E' e s) (hB : ∀ s, B s → B' s) :
    wp p Q' E' B' s := by
  intro ins
  have h1 := h ins
  cases hr : p.run ins s with
  | ret a rest s' => rw [hr] at h1; exact hQ a s' h1
  | raised e rest s' => rw [hr] at h1; exact hE e s' h1
  | blocked s' => rw [hr] at h1; exact hB s' h1

theorem wp.mono (h : wp p Q E B s) (hQ : ∀ a s, Q a s → Q' a s) : wp p Q' E B s :=
  h.imp hQ (fun _ _ h => h) (fun _ h => h)

theorem wp_pure {a : α} (h : Q a s) : wp (pure a : Prog ι ε σ α) Q E B s := fun _ => h

theorem wp_get {Q : σ → σ → Prop} (h : Q s s) : wp (get : Prog ι ε σ σ) Q E B s := fun _ => h

theorem wp_modify {f : σ → σ} {Q : Unit → σ → Prop} (h : Q () (f s)) :
    wp (modify f : Prog ι ε σ Unit) Q E B s := fun _ => h

theorem wp_raise {e : ε} (h : E e s) : wp (raise e : Prog ι ε σ α) Q E B s := fun _ => h

theorem wp_next {Q : ι → σ → Prop} (h : ∀ i, Q i s) (hB : B s) : wp next Q E B s := by
  intro ins
  cases ins with
  | nil => exact hB
  | cons i rest => exact h i

theorem wp_bind {f : α → Prog ι ε σ β} {Q : β → σ → Prop}
    (h : wp p (fun a => wp (f a) Q E B) E B s) : wp (p >>= f) Q E B s := by
  intro ins
  have h1 := h ins
  rw [run_bind]
  cases hr : p.run ins s with
  | ret a rest s' => rw [hr] at h1; exact h1 rest
  | raised e rest s' => rw [hr] at h1; exact h1
  | blocked s' => rw [hr] at h1; exact h1

/-- A sequence may be regrouped. -/
theorem wp_bind_assoc {f : α → Prog ι ε σ β} {g : β → Prog ι ε σ γ} {Q : γ → σ → Prop}
    (h : wp ((p >>= f) >>= g) Q E B s) : wp (p >>= fun a => f a >>= g) Q E B s := by
  intro ins
  have hrun : (p >>= fun a => f a >>= g).run ins s = ((p >>= f) >>= g).run ins s := by
    rw [run_bind, run_bind, run_bind]
    cases p.run ins s <;> rfl
  rw [hrun]
  exact h ins

theorem wp_attempt {Q : Except ε α → σ → Prop}
    (h : wp p (fun a => Q (.ok a)) (fun e => Q (.error e)) B s) : wp (attempt p) Q E B s := by
  intro ins
  have h1 := h ins
  simp only [attempt]
  cases hr : p.run ins s with
  | ret a rest s' => rw [hr] at h1; exact h1
  | raised e rest s' => rw [hr] at h1; exact h1
  | blocked s' => rw [hr] at h1; exact h1

/-- What a turn must establish: the invariant again, or the loop's postcondition. -/
def turnPost (Inv : β → σ → Prop) (Q : α → σ → Prop) : Turn β α → σ → Prop
  | .next b => Inv b
  | .done a => Q a

/-- **The invariant rule.** -/
theorem wp_loop {body : β → Prog ι ε σ (Turn β α)} (Inv : β → σ → Prop) {b : β}
    (hbody : ∀ b s, Inv b s → wp (body b) (turnPost Inv Q) E B s)
    (hB : ∀ b s, Inv b s → B s) (h : Inv b s) : wp (loop body b) Q E B s := by
  have key : ∀ n b s, Inv b s → wp (iter body n b) Q E B s := by
    intro n
    induction n with
    | zero => exact fun b s h _ => hB b s h
    | succ n ih =>
      intro b s h
      refine wp_bind ((hbody b s h).mono fun t s' ht => ?_)
      cases t with
      | next b' => exact ih b' s' ht
      | done a => exact wp_pure ht
  exact fun ins => key (ins.length + 1) b s h ins

/-- A run over a list keeps what each of its steps keeps. -/
theorem wp_forM {f : α → Prog ι ε σ PUnit} {J : σ → Prop} {l : List α}
    (hf : ∀ a ∈ l, ∀ s, J s → wp (f a) (fun _ => J) E B s) (h : J s) :
    wp (l.forM f) (fun _ => J) E B s := by
  induction l generalizing s with
  | nil => exact wp_pure h
  | cons a l ih =>
    refine wp_bind ((hf a List.mem_cons_self s h).mono fun _ s' h' => ?_)
    exact ih (fun b hb => hf b (List.mem_cons_of_mem a hb)) h'

/-- A run over a list does to each element what its step does, if no step undoes it. -/
theorem wp_forM_each {f : α → Prog ι ε σ PUnit} {J : σ → Prop} {P : α → σ → Prop} {l : List α}
    (hf : ∀ a ∈ l, ∀ s, J s → wp (f a)
      (fun _ s' => J s' ∧ P a s' ∧ ∀ b, P b s → P b s') E B s) (h : J s) :
    wp (l.forM f) (fun _ s' => J s' ∧ (∀ a ∈ l, P a s') ∧ ∀ b, P b s → P b s') E B s := by
  induction l generalizing s with
  | nil => exact wp_pure ⟨h, by simp, fun _ hb => hb⟩
  | cons a l ih =>
    refine wp_bind ((hf a List.mem_cons_self s h).mono fun _ s₁ h₁ => ?_)
    obtain ⟨hJ, ha, hkeep⟩ := h₁
    refine (ih (fun b hb => hf b (List.mem_cons_of_mem a hb)) hJ).mono fun _ s₂ h₂ => ?_
    obtain ⟨hJ, hl, hkeep'⟩ := h₂
    refine ⟨hJ, fun b hb => ?_, fun b hb => hkeep' b (hkeep b hb)⟩
    rcases List.mem_cons.1 hb with rfl | hb
    · exact hkeep' b ha
    · exact hl b hb

/-- Reading a postcondition off a run. -/
theorem wp.ret (h : wp p Q E B s) {ins rest : List ι} {a : α} {s' : σ}
    (hr : p.run ins s = .ret a rest s') : Q a s' := by
  have h1 := h ins
  rwa [hr] at h1

theorem wp.raised (h : wp p Q E B s) {ins rest : List ι} {e : ε} {s' : σ}
    (hr : p.run ins s = .raised e rest s') : E e s' := by
  have h1 := h ins
  rwa [hr] at h1

/-- What holds however a run ends holds of every run so far. -/
theorem wp.state {J : σ → Prop} (h : wp p Q E B s) (hQ : ∀ a s, Q a s → J s)
    (hE : ∀ e s, E e s → J s) (hB : ∀ s, B s → J s) (ins : List ι) : J (p.run ins s).state := by
  have h1 := h ins
  cases hr : p.run ins s with
  | ret a rest s' => rw [hr] at h1; exact hQ a s' h1
  | raised e rest s' => rw [hr] at h1; exact hE e s' h1
  | blocked s' => rw [hr] at h1; exact hB s' h1

/-! ## Invariants -/

/-- However `p` ends, it keeps `J`. -/
def Keeps (J : σ → Prop) (p : Prog ι ε σ α) : Prop :=
  ∀ s, J s → wp p (fun _ => J) (fun _ => J) J s

variable {J : σ → Prop}

theorem keeps_pure (a : α) : Keeps J (pure a : Prog ι ε σ α) := fun _ h => wp_pure h

theorem keeps_modify {f : σ → σ} (hf : ∀ s, J s → J (f s)) :
    Keeps J (modify f : Prog ι ε σ Unit) := fun s h => wp_modify (hf s h)

theorem Keeps.bind {f : α → Prog ι ε σ β} (hp : Keeps J p) (hf : ∀ a, Keeps J (f a)) :
    Keeps J (p >>= f) := fun s h => wp_bind ((hp s h).mono fun a s' h' => hf a s' h')

/-- What is read is not remembered. -/
theorem keeps_get {f : σ → Prog ι ε σ α} (hf : ∀ s, Keeps J (f s)) : Keeps J (get >>= f) :=
  fun s h => wp_bind (wp_get (hf s s h))

theorem Keeps.attempt (hp : Keeps J p) : Keeps J (attempt p) := fun s h => wp_attempt (hp s h)

theorem keeps_loop {body : β → Prog ι ε σ (Turn β α)} (hbody : ∀ b, Keeps J (body b)) (b : β) :
    Keeps J (loop body b) := by
  intro s h
  refine wp_loop (fun _ => J) (fun b s h => (hbody b s h).mono fun t s' h' => ?_)
    (fun _ _ h => h) h
  cases t <;> exact h'

end Prog
