import Mathlib.Data.List.Induction
import Mathlib.Data.List.Nodup
import Mathlib.Logic.Function.Basic

/-!
# Lists with keys, and stores

In a list whose keys are distinct, filtering by a key finds its one element (`filter_of_mem`), and
each key has one place (`idxOf_key`).

A store maps a key to the value last put under it: `putAll ws s` puts a list of pairs into `s`, in
order (`putAll_apply`).
-/

namespace Keyed

variable {α β κ : Type} [DecidableEq κ]

/-! ## Distinct keys -/

section
variable {f : α → κ} {l : List α}

theorem filter_of_mem (hn : (l.map f).Nodup) {a : α} (ha : a ∈ l) :
    (l.filter fun b => f b = f a) = [a] := by
  obtain ⟨l₁, l₂, rfl⟩ := List.append_of_mem ha
  have hother : ∀ b ∈ l₁ ++ l₂, f b ≠ f a := by
    rw [List.map_append, List.map_cons] at hn
    have hna : f a ∉ l₁.map f ++ l₂.map f := (List.nodup_middle.1 hn).notMem
    rw [← List.map_append] at hna
    exact fun b hb he => hna (he ▸ List.mem_map_of_mem hb)
  rw [List.forall_mem_append] at hother
  have hnil : ∀ l' : List α, (∀ b ∈ l', f b ≠ f a) → (l'.filter fun b => f b = f a) = [] :=
    fun l' hl' => List.filter_eq_nil_iff.2 fun b hb => by simpa using hl' b hb
  rw [List.filter_append, List.filter_cons_of_pos (by simp), hnil _ hother.1, hnil _ hother.2]
  rfl

theorem filter_of_notMem {k : κ} (hk : k ∉ l.map f) : (l.filter fun b => f b = k) = [] := by
  refine List.filter_eq_nil_iff.2 fun b hb => ?_
  have hne : f b ≠ k := fun he => hk (he ▸ List.mem_map_of_mem hb)
  simpa using hne

/-- The place of a key is that of its element. -/
theorem idxOf_key (hn : (l.map f).Nodup) {k : Nat} {a : α} (hk : l[k]? = some a) :
    (l.map f).idxOf (f a) = k := by
  obtain ⟨hlt, hget⟩ := List.getElem?_eq_some_iff.1 hk
  have hlt' : k < (l.map f).length := by rwa [List.length_map]
  have hkey : (l.map f)[k] = f a := by simp [hget]
  rw [← hkey, hn.idxOf_getElem]

end

/-! ## Stores -/

def putAll (ws : List (κ × β)) (s : κ → Option β) : κ → Option β :=
  ws.foldl (fun s w => Function.update s w.1 (some w.2)) s

/-- **The last pair with the key is what is found under it.** -/
theorem putAll_apply (ws : List (κ × β)) (s : κ → Option β) (k : κ) :
    putAll ws s k =
      ((ws.filter fun w => w.1 = k).getLast?.map (·.2)).orElse fun _ => s k := by
  induction ws using List.reverseRecOn with
  | nil => rfl
  | append_singleton ws w ih =>
    rw [putAll, List.foldl_append, List.foldl_cons, List.foldl_nil, Function.update_apply]
    by_cases hw : k = w.1
    · subst hw
      simp
    · have hw' : ¬ w.1 = k := fun h => hw h.symm
      rw [if_neg hw]
      refine ih.trans ?_
      simp [hw']

theorem putAll_of_mem {ws : List (κ × β)} (hn : (ws.map (·.1)).Nodup) {w : κ × β} (hw : w ∈ ws)
    (s : κ → Option β) : putAll ws s w.1 = some w.2 := by
  rw [putAll_apply, filter_of_mem hn hw]
  rfl

theorem putAll_of_notMem {ws : List (κ × β)} {k : κ} (hk : k ∉ ws.map (·.1)) (s : κ → Option β) :
    putAll ws s k = s k := by
  rw [putAll_apply, filter_of_notMem hk]
  rfl

end Keyed
