import Kratos.Waypoint.Output
import Mathlib.Algebra.Ring.Int.Defs
import Mathlib.Data.List.TakeDrop

/-!
# What a save leaves in the file

`write_yaml` truncates the file and then writes into it, and it answers before the stream is closed.
So the file holds as much of the new document as has reached it (`writeFile_content`), and the
answer is only whether the file could be opened (`writeFile_answer`). `save_keeps_iff` says when
this keeps a complete document in the file.
-/

namespace Waypoint

variable {S P F : Type}

/-! ## One write -/

namespace Faults

/-- What was in the file is gone. -/
def truncates (faults : Faults) : Bool :=
  match faults.opening with
  | .done => true
  | .fails => false
  | .dies truncated => truncated

def dies (faults : Faults) : Bool :=
  match faults.opening, faults.writing, faults.closing with
  | .fails, _, _ => false
  | .dies _, _, _ | .done, .dies _, _ | .done, _, .dies _ => true
  | .done, _, _ => false

/-- How many bytes of a text of this size reach the file. -/
def reached (faults : Faults) (size : Nat) : Nat :=
  match faults.opening, faults.writing, faults.closing with
  | .done, .dies n, _ => n
  | .done, .done _, .done _ => size
  | .done, .done n, .fails k | .done, .done n, .dies k | .done, .fails n, .done k
  | .done, .fails n, .fails k | .done, .fails n, .dies k => n + k
  | _, _, _ => 0

end Faults

variable {disk : Disk} {path other : String} {text : List UInt8} {faults : Faults}

theorem append_self {bytes bytes' : List UInt8} (h : disk path = some bytes) :
    disk.append path bytes' path = some (bytes ++ bytes') := by
  rw [Disk.append, Function.update_self, h]
  rfl

theorem append_other (hne : other ≠ path) (bytes : List UInt8) :
    disk.append path bytes other = disk other := Function.update_of_ne hne _ _

theorem closeStream_content {n : Nat} (h : disk path = some (text.take n))
    (ho : faults.opening = .done)
    (hw : faults.writing = .done n ∨ faults.writing = .fails n) :
    (closeStream disk path (text.drop n) faults).1 path =
      some (text.take (faults.reached text.length)) := by
  have htake : ∀ k, text.take n ++ (text.drop n).take k = text.take (n + k) :=
    fun k => (List.take_add ..).symm
  unfold closeStream Faults.reached
  rcases hw with hw | hw <;> rw [ho, hw] <;> cases faults.closing <;> dsimp only <;>
    rw [append_self h]
  · rw [List.take_append_drop, List.take_length]
  all_goals rw [htake]

/-- **As much of the text as reaches the file is there**, once it has been truncated. -/
theorem writeFile_content (disk : Disk) (path : String) (text : List UInt8) (faults : Faults) :
    (writeFile disk path text faults).1 path =
      if faults.truncates then some (text.take (faults.reached text.length)) else disk path := by
  have hnew : ∀ n, Disk.append (Function.update disk path (some [])) path (text.take n) path =
      some (text.take n) := fun n => append_self (Function.update_self path (some []) disk)
  unfold writeFile
  cases ho : faults.opening with
  | fails => simp [Faults.truncates, ho]
  | dies truncated =>
    cases truncated with
    | false => simp [Faults.truncates, ho]
    | true => simp [Faults.truncates, Faults.reached, ho]
  | done =>
    have htrunc : faults.truncates = true := by rw [Faults.truncates, ho]
    rw [if_pos htrunc]
    cases hw : faults.writing with
    | dies n =>
      dsimp only
      rw [hnew, Faults.reached, ho, hw]
    | done n => exact closeStream_content (hnew n) ho (.inl hw)
    | fails n => exact closeStream_content (hnew n) ho (.inr hw)

/-- **A process that lives answers that the file could be opened.** -/
theorem writeFile_answer (disk : Disk) (path : String) (text : List UInt8) (faults : Faults) :
    (writeFile disk path text faults).2 =
      if faults.dies then none else some faults.truncates := by
  unfold writeFile Faults.dies Faults.truncates
  cases faults.opening with
  | fails | dies => rfl
  | done =>
    unfold closeStream
    cases faults.writing <;> cases faults.closing <;> rfl

theorem closeStream_other (hne : other ≠ path) (rest : List UInt8) :
    (closeStream disk path rest faults).1 other = disk other := by
  unfold closeStream
  split <;> exact append_other hne _

/-- Only the file that is saved to is written. -/
theorem writeFile_other (hne : other ≠ path) :
    (writeFile disk path text faults).1 other = disk other := by
  have hnew : ∀ n, Disk.append (Function.update disk path (some [])) path (text.take n) other =
      disk other := fun n => (append_other hne _).trans (Function.update_of_ne hne _ _)
  unfold writeFile
  cases faults.opening with
  | fails => rfl
  | dies truncated =>
    cases truncated with
    | false => rfl
    | true => exact Function.update_of_ne hne _ _
  | done =>
    cases faults.writing with
    | dies n => exact hnew n
    | done n | fails n => exact (closeStream_other hne _).trans (hnew n)

/-! ## Saves -/

/-- The file holds what it held before, or the whole new text. -/
def Complete (text : List UInt8) (before after : Option (List UInt8)) : Prop :=
  after = before ∨ after = some text

theorem complete_iff {before : Option (List UInt8)} {n : Nat} :
    Complete text before (some (text.take n)) ↔
      text.length ≤ n ∨ before = some (text.take n) := by
  unfold Complete
  rw [Option.some_inj, List.take_eq_self_iff, or_comm, eq_comm (a := some _)]

section
variable [Add F] [Sub F] [Mul F] [OfScientific F] [Mul P]

open WaypointManager

/-- The write of a save, with its answer. -/
theorem writeFile_keeps_iff :
    (Complete text (disk path) ((writeFile disk path text faults).1 path) ∧
        ((writeFile disk path text faults).2 = some true →
          (writeFile disk path text faults).1 path = some text)) ↔
      (faults.truncates = true → text.length ≤ faults.reached text.length ∨
        faults.dies = true ∧ disk path = some (text.take (faults.reached text.length))) := by
  rw [writeFile_content, writeFile_answer]
  cases faults.truncates with
  | false => simp [Complete]
  | true =>
    rw [if_pos rfl, complete_iff, Option.some_inj, List.take_eq_self_iff]
    cases faults.dies with
    | false => simpa using Or.inl
    | true => simp

/-- **When a save keeps a complete document in the file**, and answers success for the new one
only. An autosave has no answer. -/
theorem save_keeps_iff (E : Eigen P F) (emit : Yaml S F → List UInt8) (m : WaypointManager S P)
    (disk : Disk) (path : String) (faults : Faults) :
    let text := emit (m.document E)
    ((Complete text (disk (savePath path))
          ((m.saveWaypoints E emit disk path faults).1 (savePath path)) ∧
        ∀ res, (m.saveWaypoints E emit disk path faults).2 = some res → res.success = true →
          (m.saveWaypoints E emit disk path faults).1 (savePath path) = some text) ↔
      (faults.truncates = true → text.length ≤ faults.reached text.length ∨
        faults.dies = true ∧
          disk (savePath path) = some (text.take (faults.reached text.length)))) ∧
    (Complete text (disk autosavePath) (m.autosave E emit disk faults autosavePath) ↔
      (m.waypoints = [] ∧ m.pendingWaypoints = []) ∨
      (faults.truncates = true → text.length ≤ faults.reached text.length ∨
        disk autosavePath = some (text.take (faults.reached text.length)))) := by
  intro text
  constructor
  · rw [← writeFile_keeps_iff]
    refine and_congr_right fun _ => ?_
    show (∀ res, (writeFile disk (savePath path) text faults).2.map (m.saveWaypointsCb path) =
      some res → res.success = true → _) ↔ _
    cases (writeFile disk (savePath path) text faults).2 with
    | none => simp
    | some ok =>
      refine ⟨fun h hok => h _ rfl (Option.some.inj hok), fun h res hres hsuccess => h ?_⟩
      cases hres
      exact congrArg some hsuccess
  · unfold autosave
    by_cases hempty : m.waypoints = [] ∧ m.pendingWaypoints = []
    · rw [hempty.1, hempty.2]
      simp [Complete]
    · have hno : (m.waypoints.isEmpty && m.pendingWaypoints.isEmpty) = false := by
        simpa using hempty
      rw [hno, or_iff_right hempty]
      show Complete text _ ((writeFile disk autosavePath text faults).1 autosavePath) ↔ _
      rw [writeFile_content]
      cases faults.truncates with
      | false => simp [Complete]
      | true =>
        rw [if_pos rfl, complete_iff]
        simp

/-- yaml-cpp's text of the document without waypoints. -/
def freshText : List UInt8 :=
  "waypoints:\n  []\npending_waypoints:\n  []".toList.map fun c => UInt8.ofNat c.toNat

/-- The disk is full: the file that was there is gone, nothing is in its place, and the answer is
success. -/
theorem save_truncates :
    let before : List UInt8 := [109, 97, 112]
    let disk : Disk := Function.update (fun _ => none) "/maps/waypoints.yaml" (some before)
    let saved := (init : WaypointManager Int HalfTurn).saveWaypoints Eigen.halfTurn
      (fun _ => freshText) disk "/maps/waypoints.yaml" ⟨.done, .fails 0, .fails 0⟩
    ¬ Complete freshText (disk "/maps/waypoints.yaml") (saved.1 "/maps/waypoints.yaml") ∧
      saved.2.map (·.success) = some true ∧ saved.1 "/maps/waypoints.yaml" ≠ some freshText := by
  unfold Complete
  decide +kernel

end

end Waypoint
