import Kratos.Waypoint.Proof.Registry
import Kratos.Waypoint.Proof.Resolve
import Mathlib.Algebra.Group.TypeTags.Basic
import Mathlib.Algebra.GroupWithZero.Nat
import Mathlib.Algebra.Ring.Int.Defs
import Mathlib.Order.Defs.PartialOrder
import Mathlib.Order.Nat

/-!
# Tags and submaps in time

Histories in which frame stamps never decrease and submaps come in stamp order with disjoint
ranges (`Ordered`). There the two lists of the manager are in tag order (`tagOrder_run`), and a tag
that a later submap has left behind is settled iff its stamp is in a range (`tag_settled_iff`):
ranges are closed stamp intervals of whole submaps, and a stamp between two of them is in neither.
-/

namespace Waypoint

open History WaypointManager

variable {S P : Type}

theorem onUpdateSubmaps_lists (m : WaypointManager S P) (submaps : List (Option (SubMap S P))) :
    (m.onUpdateSubmaps submaps).waypoints = m.waypoints ∧
      (m.onUpdateSubmaps submaps).pendingWaypoints = m.pendingWaypoints := by
  unfold onUpdateSubmaps
  induction submaps generalizing m with
  | nil => exact ⟨rfl, rfl⟩
  | cons submap submaps ih =>
    have hrest := ih (m.onInsertSubmap submap)
    cases submap <;> exact hrest

variable [Preorder S]

/-! ## Ordered histories -/

structure Ordered (h : List (Call S P)) : Prop where
  /-- Frame stamps never decrease. -/
  frames : (h.filterMap Call.frame?).Pairwise fun f g => f.stamp ≤ g.stamp
  /-- Submaps are finalized in stamp order, with disjoint ranges. -/
  submaps : (finalized h).Pairwise fun s t => s.lastStamp < t.firstStamp

theorem Ordered.left {h k : List (Call S P)} (ho : Ordered (h ++ k)) : Ordered h where
  frames := (List.pairwise_append.1 (List.filterMap_append ▸ ho.frames)).1
  submaps := (List.pairwise_append.1 (finalized_append h k ▸ ho.submaps)).1

/-- The latest frame is no older than the one before. -/
theorem Ordered.latestFrame_le {h k : List (Call S P)} (ho : Ordered (h ++ k))
    {f g : EstimationFrame S P} (hf : latestFrame h = some f)
    (hg : latestFrame (h ++ k) = some g) : f.stamp ≤ g.stamp := by
  have hall := ho.frames
  rw [latestFrame, List.filterMap_append] at hg
  rw [List.filterMap_append] at hall
  have hfmem : f ∈ h.filterMap Call.frame? := List.mem_of_getLast? hf
  rw [List.getLast?_append] at hg
  cases hk : (k.filterMap Call.frame?).getLast? with
  | none =>
    rw [hk, Option.none_or] at hg
    obtain rfl : f = g := Option.some.inj (hf.symm.trans hg)
    exact le_refl _
  | some g' =>
    obtain rfl : g' = g := by simpa [hk] using hg
    exact (List.pairwise_append.1 hall).2.2 f hfmem g' (List.mem_of_getLast? hk)

/-- A submap finalized later starts after the earlier ones have ended. -/
theorem Ordered.last_lt_first {h : List (Call S P)} {c : Call S P} (ho : Ordered (h ++ [c]))
    {ref s : SubmapReference S P} (hc : c.finalized? = some ref) (hs : s ∈ finalized h) :
    s.lastStamp < ref.firstStamp := by
  have hsub := ho.submaps
  rw [finalized_snoc, hc] at hsub
  exact (List.pairwise_append.1 hsub).2.2 s hs ref (by simp)

section
variable [DecidableLE S] [Mul P] [Inv P] [Zero S] [One P]
variable {h h₁ h₂ k₁ k₂ : List (Call S P)} {a b name : String} {f g : EstimationFrame S P}

/-! ## The order of tags -/

/-- The last successful `add_waypoint` for `a` came before that for `b`. -/
def TaggedBefore (h : List (Call S P)) (a b : String) : Prop :=
  ∃ h₁ h₂ k₁ k₂, LastAdd a h h₁ h₂ ∧ LastAdd b h k₁ k₂ ∧ h₁.length < k₁.length

/-- Of two tags, the later one has the later frame. -/
theorem LastAdd.stamp_le (ho : Ordered h) (ha : LastAdd a h h₁ h₂) (hb : LastAdd b h k₁ k₂)
    (hf : latestFrame h₁ = some f) (hg : latestFrame k₁ = some g)
    (hlen : h₁.length ≤ k₁.length) : f.stamp ≤ g.stamp := by
  have ha₁ : h₁ <+: h := ⟨_, ha.split.symm⟩
  have hb₁ : k₁ <+: h := ⟨_, hb.split.symm⟩
  obtain ⟨l, rfl⟩ := List.prefix_of_prefix_length_le ha₁ hb₁ hlen
  obtain ⟨m, rfl⟩ := hb₁
  exact ho.left.latestFrame_le hf hg

/-- A successful tag followed by no other tag of the name is the last one. -/
theorem lastAdd_of_split (hname : name ≠ "") (hf : latestFrame h₁ = some f)
    (hlast : ∀ c ∈ h₂, c ≠ .add name) : LastAdd name (h₁ ++ .add name :: h₂) h₁ h₂ where
  split := rfl
  hit := acceptedAdd_iff.2 ⟨rfl, hname, f, hf⟩
  last := fun _ b _ he hb => hlast b (he ▸ by simp) hb.1

/-- The tag with the earlier stamp came first. -/
theorem taggedBefore_of_lt (ho : Ordered h) (ha : LastAdd a h h₁ h₂) (hb : LastAdd b h k₁ k₂)
    (hf : latestFrame h₁ = some f) (hg : latestFrame k₁ = some g) (hlt : f.stamp < g.stamp) :
    TaggedBefore h a b := by
  refine ⟨h₁, h₂, k₁, k₂, ha, hb, ?_⟩
  by_contra hlen
  have hle := LastAdd.stamp_le ho hb ha hg hf (Nat.le_of_not_lt hlen)
  exact absurd hlt hle.not_gt

/-- No name's last tag is before itself, nor are two before each other. -/
instance (h : List (Call S P)) : Std.Asymm (TaggedBefore h) where
  asymm := fun a b hab hba => by
    obtain ⟨h₁, h₂, k₁, k₂, ha, hb, hlt⟩ := hab
    obtain ⟨l₁, l₂, m₁, m₂, hb', ha', hlt'⟩ := hba
    obtain ⟨rfl, -⟩ := ha.unique ha'
    obtain ⟨rfl, -⟩ := hb.unique hb'
    exact absurd hlt hlt'.not_gt

theorem acceptedAdd_name {c : Call S P} (h1 : AcceptedAdd a h c) (h2 : AcceptedAdd b h c) :
    a = b := by
  have he : Call.add a = (Call.add b : Call S P) := h1.1.symm.trans h2.1
  exact Call.add.inj he

/-- A tag of another name does not change the order. -/
theorem TaggedBefore.skip (ht : TaggedBefore h a b) {c : Call S P} (ha : ¬ AcceptedAdd a h c)
    (hb : ¬ AcceptedAdd b h c) : TaggedBefore (h ++ [c]) a b := by
  obtain ⟨h₁, h₂, k₁, k₂, hla, hlb, hlt⟩ := ht
  exact ⟨h₁, _, k₁, _, hla.snoc_skip ha, hlb.snoc_skip hb, hlt⟩

/-- A tag made now is the last one. -/
theorem LastAdd.taggedBefore (hl : LastAdd a h h₁ h₂) (hc : AcceptedAdd name h (.add name))
    (hne : a ≠ name) : TaggedBefore (h ++ [.add name]) a name := by
  have hskip : ¬ AcceptedAdd a h (.add name) := fun ha => hne (acceptedAdd_name ha hc)
  refine ⟨h₁, _, h, [], hl.snoc_skip hskip, .snoc_hit hc, ?_⟩
  have hlen := congrArg List.length hl.split
  simp only [List.length_append, List.length_cons] at hlen
  omega

/-- The names in the two lists are those with a successful tag. -/
theorem mem_names_iff (h : List (Call S P)) (name : String) :
    name ∈ (run h).waypoints.map (·.name) ++ (run h).pendingWaypoints.map (·.name) ↔
      ∃ h₁ h₂, LastAdd name h h₁ h₂ := by
  have hok := registryOk_run h
  refine ⟨fun hm => ?_, fun hl => ?_⟩
  · rcases List.mem_append.1 hm with hm | hm
    · obtain ⟨e, he, rfl⟩ := List.mem_map.1 hm
      obtain ⟨h₁, h₂, -, hl, -⟩ := hok.bound e he
      exact ⟨h₁, h₂, hl⟩
    · obtain ⟨p, hp, rfl⟩ := List.mem_map.1 hm
      obtain ⟨h₁, h₂, -, hl, -⟩ := hok.pending p hp
      exact ⟨h₁, h₂, hl⟩
  · obtain ⟨h₁, h₂, hl⟩ := hl
    exact (hok.names name).2 ⟨h₁, _, h₂, hl.split, hl.hit⟩

/-! ## The lists are in tag order -/

/-- Both lists are in tag order. -/
structure TagOrder (h : List (Call S P)) (m : WaypointManager S P) : Prop where
  bound : m.waypoints.Pairwise fun e e' => TaggedBefore h e.name e'.name
  pending : m.pendingWaypoints.Pairwise fun p p' => TaggedBefore h p.name p'.name

/-- Erasing the name being tagged keeps a list of tagged names in tag order. -/
theorem pairwise_erase {α : Type} {key : α → String} {l : List α}
    (hp : l.Pairwise fun x y => TaggedBefore h (key x) (key y))
    (hc : AcceptedAdd name h (.add name)) :
    (l.filter fun x => key x ≠ name).Pairwise fun x y =>
      TaggedBefore (h ++ [.add name]) (key x) (key y) := by
  have hother : ∀ x ∈ l.filter fun x => decide (key x ≠ name),
      ¬ AcceptedAdd (key x) h (.add name) := fun x hx ha => by
    have hne : key x ≠ name := by simpa using (List.mem_filter.1 hx).2
    exact hne (acceptedAdd_name ha hc)
  exact (hp.sublist List.filter_sublist).imp_of_mem fun hx hy ht =>
    ht.skip (hother _ hx) (hother _ hy)

/-- And so does appending it. -/
theorem pairwise_tag {α : Type} {key : α → String} {l : List α} {new : α}
    (hp : l.Pairwise fun x y => TaggedBefore h (key x) (key y))
    (hl : ∀ x ∈ l, ∃ h₁ h₂, LastAdd (key x) h h₁ h₂)
    (hc : AcceptedAdd name h (.add name)) (hnew : key new = name) :
    ((l.filter fun x => key x ≠ name) ++ [new]).Pairwise fun x y =>
      TaggedBefore (h ++ [.add name]) (key x) (key y) := by
  refine List.pairwise_append.2 ⟨pairwise_erase hp hc, List.pairwise_singleton _ _,
    fun x hx y hy => ?_⟩
  obtain rfl := List.mem_singleton.1 hy
  obtain ⟨hx, hne⟩ := List.mem_filter.1 hx
  obtain ⟨h₁, h₂, hla⟩ := hl x hx
  rw [hnew]
  exact hla.taggedBefore hc (by simpa using hne)

variable {m m' : WaypointManager S P} {c : Call S P}

/-- A call that is no accepted tag and leaves the lists alone. -/
theorem TagOrder.keep (ht : TagOrder h m) (hc : ∀ n, ¬ AcceptedAdd n h c)
    (hw : m'.waypoints = m.waypoints) (hp : m'.pendingWaypoints = m.pendingWaypoints) :
    TagOrder (h ++ [c]) m' where
  bound := hw ▸ ht.bound.imp fun hb => hb.skip (hc _) (hc _)
  pending := hp ▸ ht.pending.imp fun hb => hb.skip (hc _) (hc _)

/-- Only accepted tags and submaps touch the lists. -/
theorem lists_unchanged (hc : ∀ n, ¬ AcceptedAdd n h c) (hfin : c.finalized? = none) :
    (run (h ++ [c])).waypoints = (run h).waypoints ∧
      (run (h ++ [c])).pendingWaypoints = (run h).pendingWaypoints := by
  rw [run_snoc]
  cases c with
  | newFrame frame => cases frame <;> exact ⟨rfl, rfl⟩
  | newSubmap submap =>
    have hnone : submap.bind SubMap.reference? = none := hfin
    simp [WaypointManager.step, onNewSubmap, hnone]
  | insertSubmap submap => cases submap <;> exact ⟨rfl, rfl⟩
  | updateSubmaps submaps => exact onUpdateSubmaps_lists _ _
  | add name =>
    have hno : (run h).hasFrame = false ∨ name = "" := by
      by_contra hno
      push Not at hno
      rw [(run_refines h).hasFrame, frame_run, ne_eq, Bool.not_eq_false,
        Option.isSome_iff_exists] at hno
      exact hc name (acceptedAdd_iff.2 ⟨rfl, hno.2, hno.1⟩)
    rw [WaypointManager.step, (addWaypointCb_rejected hno).2]
    exact ⟨rfl, rfl⟩
  | _ => exact ⟨rfl, rfl⟩

theorem tagOrder_add (ht : TagOrder h (run h)) (hname : name ≠ "")
    (hf : latestFrame h = some f) : TagOrder (h ++ [.add name]) (run (h ++ [.add name])) := by
  have hc : AcceptedAdd name h (.add name) := acceptedAdd_iff.2 ⟨rfl, hname, f, hf⟩
  have hframe : (Registry.run h).frame = some f := (frame_run h).trans hf
  have hbound : ∀ e ∈ (run h).waypoints, ∃ h₁ h₂, LastAdd e.name h h₁ h₂ := fun e he =>
    (mem_names_iff h _).1 (List.mem_append_left _ (List.mem_map_of_mem he))
  have hpending : ∀ p ∈ (run h).pendingWaypoints, ∃ h₁ h₂, LastAdd p.name h h₁ h₂ := fun p hp =>
    (mem_names_iff h _).1 (List.mem_append_right _ (List.mem_map_of_mem hp))
  rw [run_snoc, WaypointManager.step, (addWaypointCb_eq (run_refines h) hframe hname).2]
  cases hst : (Registry.run h).statusNow f with
  | bound s g =>
    exact ⟨pairwise_tag ht.bound hbound hc rfl, pairwise_erase ht.pending hc⟩
  | pending g =>
    exact ⟨pairwise_erase ht.bound hc, pairwise_tag ht.pending hpending hc rfl⟩

/-- A new submap appends the queued tags in its range, which are all later than those bound. -/
theorem tagOrder_finalize (ht : TagOrder h (run h)) {submap : Option (SubMap S P)}
    {ref : SubmapReference S P} (href : submap.bind SubMap.reference? = some ref)
    (ho : Ordered (h ++ [.newSubmap submap])) :
    TagOrder (h ++ [.newSubmap submap]) (run (h ++ [.newSubmap submap])) := by
  have hok := registryOk_run h
  have hskip : ∀ n, ¬ AcceptedAdd n h (.newSubmap submap) := fun n ha => by cases ha.1
  rw [run_snoc, WaypointManager.step, onNewSubmap, href]
  dsimp only
  rw [bindPending_eq (run h) ref hok.uncovered]
  have hkept : TagOrder (h ++ [.newSubmap submap]) (run h) := ht.keep hskip rfl rfl
  refine ⟨List.pairwise_append.2 ⟨hkept.bound, ?_, fun e he e' he' => ?_⟩,
    hkept.pending.sublist List.filter_sublist⟩
  · exact List.pairwise_map.2 (hkept.pending.sublist List.filter_sublist)
  · obtain ⟨p, hp, rfl⟩ := List.mem_map.1 he'
    obtain ⟨hp, hcov⟩ := List.mem_filter.1 hp
    have hcov : ref.Covers p.stamp := by simpa using hcov
    obtain ⟨h₁, h₂, f, hla, hf, s, hs, hsf, -⟩ := hok.bound e he
    obtain ⟨k₁, k₂, g, hlb, hg, hstamp, -⟩ := hok.pending p hp
    have hlt : f.stamp < g.stamp := calc
      f.stamp ≤ s.lastStamp := hsf.2
      _ < ref.firstStamp := ho.last_lt_first href (hok.refs ▸ hs)
      _ ≤ g.stamp := hstamp ▸ hcov.1
    exact (taggedBefore_of_lt ho.left hla hlb hf hg hlt).skip (hskip _) (hskip _)

/-- **Both lists are in tag order** after every ordered history. -/
theorem tagOrder_run (h : List (Call S P)) (ho : Ordered h) : TagOrder h (run h) := by
  induction h using List.reverseRecOn with
  | nil => exact ⟨List.Pairwise.nil, List.Pairwise.nil⟩
  | append_singleton h c ih =>
    have ht := ih ho.left
    by_cases hc : ∃ n, AcceptedAdd n h c
    · obtain ⟨n, hn⟩ := hc
      obtain ⟨rfl, hname, f, hf⟩ := acceptedAdd_iff.1 hn
      exact tagOrder_add ht hname hf
    · push Not at hc
      cases hfin : c.finalized? with
      | some ref =>
        cases c with
        | newSubmap submap => exact tagOrder_finalize ht hfin ho
        | _ => cases hfin
      | none =>
        obtain ⟨hw, hp⟩ := lists_unchanged hc hfin
        exact ht.keep hc hw hp

/-- Every tagged stamp no later than a finalized `last_stamp` is in a finalized range. -/
def Gapless (h : List (Call S P)) : Prop :=
  ∀ name h₁ h₂ f, LastAdd name h h₁ h₂ → latestFrame h₁ = some f →
    (∃ s ∈ finalized h, f.stamp ≤ s.lastStamp) → ∃ s ∈ finalized h, s.Covers f.stamp

/-- Without gaps between the submaps, what is bound was tagged before what is pending. -/
theorem bound_before_pending (ho : Ordered h) (hg : Gapless h) {e : WaypointEntry P}
    (he : e ∈ (run h).waypoints) {p : PendingWaypoint S P}
    (hp : p ∈ (run h).pendingWaypoints) : TaggedBefore h e.name p.name := by
  have hok := registryOk_run h
  obtain ⟨h₁, h₂, f, hla, hf, s, hs, hsf, -⟩ := hok.bound e he
  obtain ⟨k₁, k₂, g, hlb, hgf, hstamp, -⟩ := hok.pending p hp
  refine ⟨h₁, h₂, k₁, k₂, hla, hlb, ?_⟩
  by_contra hlen
  have hle : g.stamp ≤ f.stamp := LastAdd.stamp_le ho hlb hla hgf hf (Nat.le_of_not_lt hlen)
  -- then the pending stamp is no later than the bound one's submap, and so in a range
  obtain ⟨t, ht, htg⟩ := hg _ k₁ k₂ g hlb hgf ⟨s, hok.refs ▸ hs, le_trans hle hsf.2⟩
  exact hok.uncovered p hp t (hok.refs ▸ ht) (hstamp ▸ htg)

/-! ## Settled tags -/

/-- The last tag of `name` is not pending, and `get_waypoint` finds it once its submap has a
pose. -/
def Settled (h : List (Call S P)) (name : String) : Prop :=
  (∀ p ∈ (run h).pendingWaypoints, p.name ≠ name) ∧
    ∃ e ∈ (run h).waypoints, e.name = name ∧
      ((run h).submapWorldPose e.submapId ≠ none → ((run h).getWaypointCb name).found = true)

/-- A tag is settled iff its stamp is in a range. -/
theorem tag_settled_iff (hl : LastAdd name h h₁ h₂) (hf : latestFrame h₁ = some f) :
    Settled h name ↔ ∃ s ∈ finalized h, s.Covers f.stamp := by
  have hr := run_refines h
  have hwf := Registry.wf_run h
  obtain ⟨f', hf', hst⟩ := hl.status
  obtain rfl : f = f' := Option.some.inj (hf.symm.trans hf')
  refine ⟨fun hs => ?_, fun hcov => ?_⟩
  · obtain ⟨-, e, he, rfl, -⟩ := hs
    obtain ⟨s, g, hsg, -⟩ := (hr.bound e).1 he
    rw [hst, Option.some.injEq] at hsg
    obtain rfl := statusOf_frame.2 s hsg
    have hb := hwf.bound (hst.trans (congrArg some hsg))
    exact ⟨s, refs_run h ▸ hb.1, hb.2⟩
  · obtain ⟨t, ht, htc⟩ := hcov
    cases hs : statusOf f h₁ h₂ with
    | pending g =>
      obtain rfl := statusOf_frame.1 hs
      exact absurd htc (hwf.pending (hst.trans (congrArg some hs)) t (refs_run h ▸ ht))
    | bound s g =>
      rw [hs] at hst
      refine ⟨fun p hp hn => ?_, entryOf name s g, (hr.bound _).2 ⟨s, g, hst, rfl⟩, rfl,
        fun hW => ?_⟩
      · have hpend := (hr.pending p).1 hp
        rw [hn, hst] at hpend
        cases hpend
      · obtain ⟨W, hW⟩ := Option.ne_none_iff_exists'.1 hW
        rw [hr.world] at hW
        rw [hr.answer, hst]
        simp only [entryOf] at hW
        simp [answer, hW]

theorem pending_of_uncovered (hl : LastAdd name h h₁ h₂) (hf : latestFrame h₁ = some f)
    (hno : ∀ s ∈ finalized h, ¬ s.Covers f.stamp) :
    name ∈ (run h).pendingWaypoints.map (·.name) := by
  have hname := (mem_names_iff h name).2 ⟨h₁, h₂, hl⟩
  refine (List.mem_append.1 hname).resolve_left fun hm => ?_
  obtain ⟨e, he, rfl⟩ := List.mem_map.1 hm
  obtain ⟨k₁, k₂, g, hl', hg, s, hs, hcov, -⟩ := (registryOk_run h).bound e he
  obtain ⟨rfl, -⟩ := hl.unique hl'
  obtain rfl : f = g := Option.some.inj (hf.symm.trans hg)
  exact hno s ((registryOk_run h).refs ▸ hs) hcov

/-- **What becomes of a tag that a submap has left behind**: it is settled iff its stamp is in
the range of a finalized submap; otherwise it stays pending however far the run goes on. -/
theorem tag_left_behind (hl : LastAdd name h h₁ h₂) (hf : latestFrame h₁ = some f)
    {t : SubmapReference S P} (ht : t ∈ finalized h) (hlt : f.stamp < t.firstStamp) :
    (Settled h name ↔ ∃ s ∈ finalized h, s.Covers f.stamp) ∧
    ((∀ s ∈ finalized h, ¬ s.Covers f.stamp) → t.firstStamp ≤ t.lastStamp →
      ∀ k, Ordered (h ++ k) → (∀ c ∈ k, c ≠ .add name) →
        name ∈ (run (h ++ k)).pendingWaypoints.map (·.name)) := by
  refine ⟨tag_settled_iff hl hf, fun hno hrange k hok hk => ?_⟩
  refine pending_of_uncovered (hl.append_skip fun k₁ c k₂ he hc => ?_) hf fun s hs => ?_
  · exact hk c (he ▸ by simp) hc.1
  · rw [finalized_append] at hs
    rcases List.mem_append.1 hs with hs | hs
    · exact hno s hs
    · -- a submap that comes after `t` starts even later
      have hsub := finalized_append h k ▸ hok.submaps
      have hlast := (List.pairwise_append.1 hsub).2.2 t ht s hs
      refine fun hc => lt_irrefl f.stamp ?_
      calc
        f.stamp < t.firstStamp := hlt
        _ ≤ t.lastStamp := hrange
        _ ≤ s.firstStamp := le_of_lt hlast
        _ ≤ f.stamp := hc.1

end

/-- A tag at a stamp, then submaps over the stamps 0 to 5 and 7 to 9. -/
def drivenPast (stamp : Nat) : List (Call Nat (Multiplicative Int)) :=
  [.newFrame (some ⟨stamp, 1⟩), .add "wp",
    .newSubmap (some ⟨0, [some ⟨0, 1⟩, some ⟨5, 1⟩], some ⟨0, 1⟩, 1⟩),
    .newSubmap (some ⟨1, [some ⟨7, 1⟩, some ⟨9, 1⟩], some ⟨7, 1⟩, 1⟩)]

theorem drivenPast_lastAdd (stamp : Nat) :
    LastAdd "wp" (drivenPast stamp) [.newFrame (some ⟨stamp, 1⟩)] ((drivenPast stamp).drop 2) := by
  show LastAdd "wp" ([_] ++ .add "wp" :: (drivenPast stamp).drop 2) _ _
  exact lastAdd_of_split (by decide) rfl (by simp [drivenPast])

theorem tag_left_behind_inside : Settled (drivenPast 3) "wp" := by
  have h := tag_left_behind (h := drivenPast 3) (f := ⟨3, 1⟩) (t := ⟨1, 7, 9, 1⟩)
    (drivenPast_lastAdd 3) rfl (by decide) (by decide)
  exact h.1.2 (by decide)

/-- A tag at stamp 6, between the two submaps. -/
theorem tag_stranded :
    ∃ (h h₁ h₂ : List (Call Nat (Multiplicative Int))) (f : EstimationFrame _ _)
      (t : SubmapReference _ _), Ordered h ∧ LastAdd "wp" h h₁ h₂ ∧ latestFrame h₁ = some f ∧
        t ∈ finalized h ∧ f.stamp < t.firstStamp ∧
        ∃ p ∈ (run h).pendingWaypoints, p.name = "wp" := by
  refine ⟨drivenPast 6, _, _, ⟨6, 1⟩, ⟨1, 7, 9, 1⟩, ⟨by decide, by decide⟩,
    drivenPast_lastAdd 6, rfl, by decide, by decide, ?_⟩
  exact ⟨⟨"wp", 6, 1⟩, by decide, rfl⟩

end Waypoint
