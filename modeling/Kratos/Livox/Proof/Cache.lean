import Mathlib.Data.List.Nodup
import Kratos.Livox.Lds

/-!
# Every LiDAR has a place of its own

Whatever calls of `GetFreeIndex` there are at a time, no two LiDARs come to share a place (`Placed`).
`GetFreeIndex` looks a key up and takes a place for it in two locked blocks; where no two calls for
one key overlap (`Apart`), a place is taken exactly while a LiDAR has it, a LiDAR keeps its place,
and a call fails only when every place is another LiDAR's (`places`).
-/

namespace Livox

/-! ## Keys -/

theorem generateIndexKey_inj {t t' : UInt8} {handle handle' : UInt32} {key : String}
    (h : generateIndexKey t handle = some key) (h' : generateIndexKey t' handle' = some key) :
    handle = handle' := by
  unfold generateIndexKey at h h'
  split at h
  · split at h'
    · injection h with h
      injection h' with h'
      have hnum : handle.toNat.repr = handle'.toNat.repr :=
        String.append_right_inj _ |>.1 (h.trans h'.symm)
      have hdigits : Nat.toDigits 10 handle.toNat = Nat.toDigits 10 handle'.toNat := by
        rw [← Nat.toList_repr, ← Nat.toList_repr, hnum]
      refine UInt32.toNat_inj.1 ?_
      rw [← Nat.ofDigitChars_ten_toDigits (n := handle.toNat), hdigits,
        Nat.ofDigitChars_ten_toDigits]
    · cases h'
  · cases h

namespace CacheIndex

/-- No two keys share a place, and a place that a key has is taken. -/
structure Placed (c : CacheIndex) : Prop where
  inj : ∀ key key' i, c.mapIndex key = some i → c.mapIndex key' = some i → key = key'
  taken : ∀ key i, c.mapIndex key = some i → c.indexCache i = true

variable {c : CacheIndex}

theorem placed_empty : Placed {} := ⟨fun _ _ _ h => (nomatch h), fun _ _ h => (nomatch h)⟩

/-- A place is one LiDAR's. -/
theorem Placed.getIndex_inj (h : Placed c) {t t' : UInt8} {handle handle' : UInt32} {i : Index}
    (hi : c.getIndex t handle = some i) (hi' : c.getIndex t' handle' = some i) :
    handle = handle' := by
  obtain ⟨key, hkey, hplace⟩ := Option.bind_eq_some_iff.1 hi
  obtain ⟨key', hkey', hplace'⟩ := Option.bind_eq_some_iff.1 hi'
  have heq := h.inj key key' i hplace hplace'
  subst heq
  exact generateIndexKey_inj hkey hkey'

/-- What the second block does. -/
theorem takeIndex_cases (c : CacheIndex) (key : String) :
    (c.takeIndex key = (none, c) ∧ ∀ i, c.indexCache i = true) ∨
      ∃ i, c.indexCache i = false ∧ c.takeIndex key =
        (some i,
          { mapIndex := Function.update c.mapIndex key (some i)
            indexCache := Function.update c.indexCache i true }) := by
  unfold takeIndex
  cases hfind : (List.finRange kMaxSourceLidar).find? fun i => !c.indexCache i with
  | none =>
    refine .inl ⟨rfl, fun i => ?_⟩
    simpa using List.find?_eq_none.1 hfind i (List.mem_finRange i)
  | some i => exact .inr ⟨i, by simpa using List.find?_some hfind, rfl⟩

theorem Placed.takeIndex (h : Placed c) (key : String) : Placed (c.takeIndex key).2 := by
  rcases takeIndex_cases c key with ⟨heq, -⟩ | ⟨i, hfree, heq⟩
  · rw [heq]
    exact h
  · rw [heq]
    -- the place was free, so no key had it
    have hother : ∀ k j, c.mapIndex k = some j → j ≠ i := fun k j hk he => by
      have htaken := h.taken k j hk
      rw [he, hfree] at htaken
      cases htaken
    refine ⟨fun k k' j hk hk' => ?_, fun k j hk => ?_⟩
    · dsimp only at hk hk'
      by_cases he : k = key
      · by_cases he' : k' = key
        · rw [he, he']
        · rw [he, Function.update_self] at hk
          rw [Function.update_of_ne he'] at hk'
          exact absurd (Option.some_inj.1 hk).symm (hother k' j hk')
      · rw [Function.update_of_ne he] at hk
        by_cases he' : k' = key
        · rw [he', Function.update_self] at hk'
          exact absurd (Option.some_inj.1 hk').symm (hother k j hk)
        · rw [Function.update_of_ne he'] at hk'
          exact h.inj k k' j hk hk'
    · dsimp only at hk ⊢
      by_cases hj : j = i
      · rw [hj, Function.update_self]
      · rw [Function.update_of_ne hj]
        by_cases he : k = key
        · rw [he, Function.update_self] at hk
          exact absurd (Option.some_inj.1 hk).symm hj
        · rw [Function.update_of_ne he] at hk
          exact h.taken k j hk

theorem Placed.getFreeIndex (h : Placed c) (t : UInt8) (handle : UInt32) :
    Placed (c.getFreeIndex t handle).2 := by
  unfold CacheIndex.getFreeIndex
  split
  · exact h
  · split
    · exact h
    · exact h.takeIndex _

/-- What a reset does: nothing, or it gives up the key and its place. -/
theorem resetIndex_cases (c : CacheIndex) (t : UInt8) (handle : UInt32) :
    c.resetIndex t handle = c ∨ ∃ key i, generateIndexKey t handle = some key ∧
      c.mapIndex key = some i ∧ c.resetIndex t handle =
        { mapIndex := Function.update c.mapIndex key none
          indexCache := Function.update c.indexCache i false } := by
  unfold resetIndex
  split
  · exact .inl rfl
  · rename_i key hkey
    split
    · exact .inl rfl
    · rename_i i hi
      exact .inr ⟨key, i, hkey, hi, rfl⟩

theorem Placed.resetIndex (h : Placed c) (t : UInt8) (handle : UInt32) :
    Placed (c.resetIndex t handle) := by
  rcases resetIndex_cases c t handle with heq | ⟨key, i, -, hi, heq⟩
  · rw [heq]
    exact h
  · rw [heq]
    have hkeep : ∀ k j, Function.update c.mapIndex key none k = some j →
        c.mapIndex k = some j ∧ k ≠ key := fun k j hk => by
      by_cases he : k = key
      · rw [he, Function.update_self] at hk
        cases hk
      · rw [Function.update_of_ne he] at hk
        exact ⟨hk, he⟩
    refine ⟨fun k k' j hk hk' => h.inj k k' j (hkeep k j hk).1 (hkeep k' j hk').1, fun k j hk => ?_⟩
    obtain ⟨hk, hne⟩ := hkeep k j hk
    have hj : j ≠ i := fun he => hne (h.inj k key i (he ▸ hk) hi)
    dsimp only
    rw [Function.update_of_ne hj]
    exact h.taken k j hk

end CacheIndex

open CacheIndex

theorem placed_turn {c : Calls} (h : Placed c.cache) (t : CallTurn) : Placed (c.turn t).cache := by
  cases t with
  | enter t handle =>
    unfold Calls.turn
    dsimp only
    repeat' split
    all_goals exact h
  | take n =>
    unfold Calls.turn
    dsimp only
    split
    · exact h
    · exact h.takeIndex _
  | resetIndex t handle => exact h.resetIndex t handle

theorem placed_run {c : Calls} (h : Placed c.cache) (ts : List CallTurn) :
    Placed (c.run ts).cache := by
  induction ts generalizing c with
  | nil => exact h
  | cons t ts ih => exact ih (placed_turn h t)

/-- **Different LiDARs have different places**, however the calls overlap. -/
theorem places_distinct (ts : List CallTurn) (t t' : UInt8) (handle handle' : UInt32) (i i' : Index)
    (h : (({} : Calls).run ts).cache.getIndex t handle = some i)
    (h' : (({} : Calls).run ts).cache.getIndex t' handle' = some i') (hne : handle ≠ handle') :
    i ≠ i' := by
  have hplaced : Placed (({} : Calls).run ts).cache := placed_run placed_empty ts
  rintro rfl
  exact hne (hplaced.getIndex_inj h h')

/-- Two calls for one LiDAR overlap, and another one comes. -/
def overlapped : List CallTurn :=
  [.enter kLivoxLidarType 1, .enter kLivoxLidarType 1, .enter kLivoxLidarType 2, .take 0, .take 0,
    .take 0]

theorem places_distinct_overlap :
    ∃ i i', (({} : Calls).run overlapped).cache.getIndex kLivoxLidarType 1 = some i ∧
      (({} : Calls).run overlapped).cache.getIndex kLivoxLidarType 2 = some i' ∧ i ≠ i' := by
  have hfirst : (({} : Calls).run overlapped).cache.getIndex kLivoxLidarType 1 = some 1 := by
    decide +kernel
  have hother : (({} : Calls).run overlapped).cache.getIndex kLivoxLidarType 2 = some 2 := by
    decide +kernel
  exact ⟨1, 2, hfirst, hother, places_distinct overlapped _ _ 1 2 1 2 hfirst hother (by decide)⟩

/-! ## Calls that do not overlap -/

/-- No call for a key begins while another one for it is pending. -/
def Apart : Calls → List CallTurn → Prop
  | _, [] => True
  | c, t :: ts =>
    (∀ livoxLidarType handle, t = .enter livoxLidarType handle →
      ∀ key ∈ generateIndexKey livoxLidarType handle, key ∉ c.pending) ∧ Apart (c.turn t) ts

theorem apart_append {c : Calls} {ts ts' : List CallTurn} :
    Apart c (ts ++ ts') ↔ Apart c ts ∧ Apart (c.run ts) ts' := by
  induction ts generalizing c with
  | nil => simp [Apart, Calls.run]
  | cons t ts ih => simp [Apart, Calls.run, ih, and_assoc]

structure Exact (c : Calls) : Prop where
  placed : Placed c.cache
  nodup : c.pending.Nodup
  fresh : ∀ key ∈ c.pending, c.cache.mapIndex key = none
  keyed : ∀ key ∈ c.pending, ∃ handle, generateIndexKey kLivoxLidarType handle = some key
  held : ∀ i, c.cache.indexCache i = true → ∃ handle, c.cache.getIndex kLivoxLidarType handle = some i

theorem exact_empty : Exact {} :=
  ⟨placed_empty, List.nodup_nil, fun _ h => absurd h List.not_mem_nil,
    fun _ h => absurd h List.not_mem_nil, fun _ h => nomatch h⟩

theorem generateIndexKey_type {t : UInt8} {handle : UInt32} {key : String}
    (h : generateIndexKey t handle = some key) : t = kLivoxLidarType := by
  unfold generateIndexKey at h
  split at h
  · assumption
  · cases h

theorem getIndex_update {c : CacheIndex} {t : UInt8} {handle : UInt32} {i : Index} {key : String}
    (h : c.getIndex t handle = some i) (hkey : generateIndexKey t handle ≠ some key)
    (v : Option Index) (taken : Index → Bool) :
    CacheIndex.getIndex { mapIndex := Function.update c.mapIndex key v, indexCache := taken } t handle =
      some i := by
  obtain ⟨k, hk, hi⟩ := Option.bind_eq_some_iff.1 h
  have hne : k ≠ key := fun he => hkey (he ▸ hk)
  unfold CacheIndex.getIndex
  rw [hk, Option.bind_some]
  dsimp only
  rw [Function.update_of_ne hne]
  exact hi

namespace Exact

variable {c : Calls}

/-- A key that is pending has no place, so what has one is of another key. -/
theorem key_ne (h : Exact c) {key : String} (hkey : key ∈ c.pending) {t : UInt8} {handle : UInt32}
    {i : Index} (hi : c.cache.getIndex t handle = some i) : generateIndexKey t handle ≠ some key := by
  intro he
  unfold CacheIndex.getIndex at hi
  rw [he, Option.bind_some, h.fresh key hkey] at hi
  cases hi

theorem take (h : Exact c) (n : Nat) : Exact (c.turn (.take n)) := by
  unfold Calls.turn
  dsimp only
  split
  · exact h
  · rename_i key hn
    obtain ⟨hlt, hget⟩ := List.getElem?_eq_some_iff.1 hn
    have hmem : key ∈ c.pending := List.mem_of_getElem? hn
    have hsub : (c.pending.eraseIdx n).Sublist c.pending := List.eraseIdx_sublist _ _
    rcases takeIndex_cases c.cache key with ⟨heq, -⟩ | ⟨i, -, heq⟩
    · rw [heq]
      exact ⟨h.placed, h.nodup.sublist hsub, fun k hk => h.fresh k (hsub.subset hk),
        fun k hk => h.keyed k (hsub.subset hk), h.held⟩
    · have hplaced := h.placed.takeIndex key
      rw [heq] at hplaced ⊢
      refine ⟨hplaced, h.nodup.sublist hsub, fun k hk => ?_, fun k hk => h.keyed k (hsub.subset hk),
        fun j hj => ?_⟩
      · have hne : k ≠ key := by
          obtain ⟨m, hm, hmn, hmk⟩ := List.mem_eraseIdx_iff_getElem.1 hk
          rintro rfl
          exact hmn ((h.nodup.getElem_inj_iff).1 (hmk.trans hget.symm))
        dsimp only
        rw [Function.update_of_ne hne]
        exact h.fresh k (hsub.subset hk)
      · dsimp only at hj ⊢
        by_cases hji : j = i
        · obtain ⟨handle, hhandle⟩ := h.keyed key hmem
          refine ⟨handle, ?_⟩
          unfold CacheIndex.getIndex
          rw [hhandle, Option.bind_some, hji]
          exact Function.update_self ..
        · rw [Function.update_of_ne hji] at hj
          obtain ⟨handle, hhandle⟩ := h.held j hj
          exact ⟨handle, getIndex_update hhandle (h.key_ne hmem hhandle) _ _⟩

theorem enter (h : Exact c) {t : UInt8} {handle : UInt32}
    (hapart : ∀ key ∈ generateIndexKey t handle, key ∉ c.pending) :
    Exact (c.turn (.enter t handle)) := by
  unfold Calls.turn
  dsimp only
  split
  · exact h
  · rename_i key hkey
    split
    · exact h
    · rename_i hnone
      have hnew := hapart key hkey
      refine ⟨h.placed, ?_, fun k hk => ?_, fun k hk => ?_, h.held⟩
      · exact List.nodup_append.2 ⟨h.nodup, List.nodup_singleton key, fun a ha b hb he =>
          hnew (by rw [← List.mem_singleton.1 hb, ← he]; exact ha)⟩
      · rcases List.mem_append.1 hk with hk | hk
        · exact h.fresh k hk
        · rw [List.mem_singleton.1 hk]
          exact hnone
      · rcases List.mem_append.1 hk with hk | hk
        · exact h.keyed k hk
        · rw [List.mem_singleton.1 hk]
          exact ⟨handle, generateIndexKey_type hkey ▸ hkey⟩

theorem resetIndex (h : Exact c) (t : UInt8) (handle : UInt32) :
    Exact (c.turn (.resetIndex t handle)) := by
  unfold Calls.turn
  dsimp only
  have hplaced := h.placed.resetIndex t handle
  rcases resetIndex_cases c.cache t handle with heq | ⟨key, i, -, hi, heq⟩
  · rw [heq]
    exact h
  · rw [heq] at hplaced ⊢
    refine ⟨hplaced, h.nodup, fun k hk => ?_, h.keyed, fun j hj => ?_⟩
    · dsimp only
      by_cases he : k = key
      · rw [he, Function.update_self]
      · rw [Function.update_of_ne he]
        exact h.fresh k hk
    · dsimp only at hj ⊢
      by_cases hji : j = i
      · rw [hji, Function.update_self] at hj
        cases hj
      · rw [Function.update_of_ne hji] at hj
        obtain ⟨handle', hhandle'⟩ := h.held j hj
        refine ⟨handle', getIndex_update hhandle' (fun he => ?_) _ _⟩
        unfold CacheIndex.getIndex at hhandle'
        rw [he, Option.bind_some, hi] at hhandle'
        exact hji (Option.some_inj.1 hhandle').symm

theorem turn (h : Exact c) {t : CallTurn}
    (hapart : ∀ livoxLidarType handle, t = .enter livoxLidarType handle →
      ∀ key ∈ generateIndexKey livoxLidarType handle, key ∉ c.pending) : Exact (c.turn t) := by
  cases t with
  | enter t handle => exact h.enter (hapart t handle rfl)
  | take n => exact h.take n
  | resetIndex t handle => exact h.resetIndex t handle

theorem run (h : Exact c) {ts : List CallTurn} (hapart : Apart c ts) : Exact (c.run ts) := by
  induction ts generalizing c with
  | nil => exact h
  | cons t ts ih => exact ih (h.turn hapart.1) hapart.2

/-- Only its own reset takes a LiDAR's place away. -/
theorem keep_turn (h : Exact c) {t : UInt8} {handle : UInt32} {i : Index} {ct : CallTurn}
    (hi : c.cache.getIndex t handle = some i) (hreset : ∀ t', ct ≠ .resetIndex t' handle) :
    (c.turn ct).cache.getIndex t handle = some i := by
  cases ct with
  | enter t' handle' =>
    unfold Calls.turn
    dsimp only
    repeat' split
    all_goals exact hi
  | take n =>
    unfold Calls.turn
    dsimp only
    split
    · exact hi
    · rename_i key hn
      rcases takeIndex_cases c.cache key with ⟨heq, -⟩ | ⟨j, -, heq⟩
      · rw [heq]
        exact hi
      · rw [heq]
        exact getIndex_update hi (h.key_ne (List.mem_of_getElem? hn) hi) _ _
  | resetIndex t' handle' =>
    unfold Calls.turn
    dsimp only
    rcases resetIndex_cases c.cache t' handle' with heq | ⟨key, j, hkey, -, heq⟩
    · rw [heq]
      exact hi
    · rw [heq]
      refine getIndex_update hi (fun he => hreset t' ?_) _ _
      rw [generateIndexKey_inj he hkey]

theorem keep_run (h : Exact c) {t : UInt8} {handle : UInt32} {i : Index} {ts : List CallTurn}
    (hapart : Apart c ts) (hi : c.cache.getIndex t handle = some i)
    (hreset : ∀ t', .resetIndex t' handle ∉ ts) : (c.run ts).cache.getIndex t handle = some i := by
  induction ts generalizing c with
  | nil => exact hi
  | cons ct ts ih =>
    exact ih (h.turn hapart.1) hapart.2
      (h.keep_turn hi fun t' he => hreset t' (he ▸ List.mem_cons_self))
      fun t' ht' => hreset t' (List.mem_cons_of_mem _ ht')

end Exact

/-- **Where no two calls for one key overlap**, a place is taken exactly while a LiDAR has it, a call
fails only when LiDARs have all 32, and a LiDAR keeps its place until its own reset. -/
theorem places (ts ts' : List CallTurn) (hapart : Apart {} (ts ++ ts')) :
    let c := ({} : Calls).run ts
    (∀ i, c.cache.indexCache i = true ↔
        ∃ handle, c.cache.getIndex kLivoxLidarType handle = some i) ∧
      (∀ key, (c.cache.takeIndex key).1 = none →
        ∀ i, ∃ handle, c.cache.getIndex kLivoxLidarType handle = some i) ∧
      ∀ t handle i, c.cache.getIndex t handle = some i → (∀ t', .resetIndex t' handle ∉ ts') →
        (({} : Calls).run (ts ++ ts')).cache.getIndex t handle = some i := by
  intro c
  obtain ⟨hbefore, hafter⟩ := apart_append.1 hapart
  have h : Exact c := exact_empty.run hbefore
  refine ⟨fun i => ⟨h.held i, fun ⟨handle, hi⟩ => ?_⟩, fun key hnone i => ?_,
    fun t handle i hi hreset => ?_⟩
  · obtain ⟨key, -, hkey⟩ := Option.bind_eq_some_iff.1 hi
    exact h.placed.taken key i hkey
  · rcases takeIndex_cases c.cache key with ⟨-, hall⟩ | ⟨j, -, heq⟩
    · exact h.held i (hall i)
    · rw [heq] at hnone
      cases hnone
  · have hrun : ({} : Calls).run (ts ++ ts') = c.run ts' := List.foldl_append
    rw [hrun]
    exact h.keep_run hafter hi hreset

theorem places_two :
    (({} : Calls).run [.enter kLivoxLidarType 1, .take 0, .enter kLivoxLidarType 2,
      .take 0]).cache.getIndex kLivoxLidarType 1 = some 0 :=
  (places [.enter kLivoxLidarType 1, .take 0] [.enter kLivoxLidarType 2, .take 0]
    ⟨fun _ _ _ _ _ h => absurd h List.not_mem_nil, fun _ _ h => (nomatch h),
      fun _ _ _ _ _ h => absurd h List.not_mem_nil, fun _ _ h => (nomatch h), trivial⟩).2.2
    kLivoxLidarType 1 0 (by decide +kernel) (by simp)

end Livox
