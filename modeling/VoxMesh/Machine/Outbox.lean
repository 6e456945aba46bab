import Mathlib.Data.List.Nodup
import Mathlib.Data.List.Perm.Subperm
import Mathlib.Logic.Function.Basic

/-! # Delivery outside the lock

Each entry is committed to a log under a lock, with a number above those before it. The thread that committed it holds
it until it delivers it, which it does outside the lock, so that another thread may come first. What is delivered is
each entry once, and in the order of the log exactly if a thread only ever delivers when no other thread holds an
earlier entry (`Tracked.deliver_prefix_iff`).
-/

namespace Machine

structure Outbox (T α : Type*) where
  log : List (ℕ × α) := []
  held : T → Option (ℕ × α) := fun _ => none
  delivered : List (ℕ × α) := []

namespace Outbox

variable {T α : Type*}

section Operations

variable [DecidableEq T]

def commit (outbox : Outbox T α) (thread : T) (entry : ℕ × α) : Outbox T α :=
  { outbox with log := outbox.log ++ [entry], held := Function.update outbox.held thread (some entry) }

/-- The thread no longer holds its entry. -/
def release (outbox : Outbox T α) (thread : T) : Outbox T α :=
  { outbox with held := Function.update outbox.held thread none }

def deliver (outbox : Outbox T α) (thread : T) (entry : ℕ × α) : Outbox T α :=
  { outbox.release thread with delivered := outbox.delivered ++ [entry] }

theorem commit_held {outbox : Outbox T α} {thread other : T} {entry held : ℕ × α} :
    (outbox.commit thread entry).held other = some held ↔
      other = thread ∧ entry = held ∨ other ≠ thread ∧ outbox.held other = some held := by
  change Function.update outbox.held thread (some entry) other = some held ↔ _
  rw [Function.update_apply]
  split
  next same => simp [same]
  next different => simp [different]

theorem deliver_held {outbox : Outbox T α} {thread other : T} {entry held : ℕ × α} :
    (outbox.deliver thread entry).held other = some held ↔ other ≠ thread ∧ outbox.held other = some held := by
  change Function.update outbox.held thread none other = some held ↔ _
  rw [Function.update_apply]
  split
  next same => simp [same]
  next different => simp [different]

end Operations

/-- No other thread holds an entry from before the one that the thread holds. -/
def Earliest (outbox : Outbox T α) (thread : T) : Prop :=
  ∀ entry, outbox.held thread = some entry → ∀ other later, outbox.held other = some later → entry.1 ≤ later.1

/-- The entries of the log are those delivered and those held, each in one place. -/
structure Tracked (outbox : Outbox T α) : Prop where
  sorted : outbox.log.Pairwise (·.1 < ·.1)
  distinct : outbox.delivered.Nodup
  mem_log_iff : ∀ entry, entry ∈ outbox.log ↔ entry ∈ outbox.delivered ∨ ∃ thread, outbox.held thread = some entry
  undelivered : ∀ thread entry, outbox.held thread = some entry → entry ∉ outbox.delivered
  holder : ∀ thread other entry, outbox.held thread = some entry → outbox.held other = some entry → thread = other

namespace Tracked

variable {outbox : Outbox T α} {thread : T} {entry : ℕ × α}

theorem empty : Tracked ({} : Outbox T α) where
  sorted := .nil
  distinct := .nil
  mem_log_iff := by simp
  undelivered := by simp
  holder := by simp

theorem mem_log_of_held (tracked : outbox.Tracked) (held : outbox.held thread = some entry) : entry ∈ outbox.log :=
  (tracked.mem_log_iff entry).mpr (.inr ⟨thread, held⟩)

theorem mem_log_of_delivered (tracked : outbox.Tracked) (delivered : entry ∈ outbox.delivered) : entry ∈ outbox.log :=
  (tracked.mem_log_iff entry).mpr (.inl delivered)

theorem nodup_log (tracked : outbox.Tracked) : outbox.log.Nodup :=
  tracked.sorted.imp fun below same => Nat.ne_of_lt below (congrArg Prod.fst same)

theorem eq_of_number (tracked : outbox.Tracked) {other : ℕ × α} (member : entry ∈ outbox.log)
    (also : other ∈ outbox.log) (same : entry.1 = other.1) : entry = other := by
  have numbers : (outbox.log.map Prod.fst).Nodup := List.pairwise_map.mpr (tracked.sorted.imp Nat.ne_of_lt)
  exact List.inj_on_of_nodup_map numbers member also same

theorem commit [DecidableEq T] (tracked : outbox.Tracked) (idle : outbox.held thread = none)
    (fresh : ∀ earlier ∈ outbox.log, earlier.1 < entry.1) : (outbox.commit thread entry).Tracked := by
  have absent : entry ∉ outbox.log := fun member => Nat.lt_irrefl _ (fresh entry member)
  constructor
  · refine List.pairwise_append.mpr ⟨tracked.sorted, List.pairwise_singleton .., fun earlier member last same => ?_⟩
    rw [List.mem_singleton.mp same]
    exact fresh earlier member
  · exact tracked.distinct
  · intro other
    simp only [commit_held]
    change other ∈ outbox.log ++ [entry] ↔ other ∈ outbox.delivered ∨ _
    rw [List.mem_append, tracked.mem_log_iff other, List.mem_singleton, or_assoc]
    apply or_congr_right
    constructor
    · rintro (⟨holder, held⟩ | rfl)
      · refine ⟨holder, .inr ⟨?_, held⟩⟩
        rintro rfl
        rw [idle] at held
        cases held
      · exact ⟨thread, .inl ⟨rfl, rfl⟩⟩
    · rintro ⟨holder, ⟨-, rfl⟩ | ⟨-, held⟩⟩
      · exact .inr rfl
      · exact .inl ⟨holder, held⟩
  · intro holder held taken delivered
    rcases commit_held.mp taken with ⟨-, rfl⟩ | ⟨-, before⟩
    · exact absent (tracked.mem_log_of_delivered delivered)
    · exact tracked.undelivered holder held before delivered
  · intro first second held left right
    rcases commit_held.mp left with ⟨mine, rfl⟩ | ⟨-, before⟩
    · rcases commit_held.mp right with ⟨also, -⟩ | ⟨-, before⟩
      · exact mine.trans also.symm
      · exact absurd (tracked.mem_log_of_held before) absent
    · rcases commit_held.mp right with ⟨-, rfl⟩ | ⟨-, also⟩
      · exact absurd (tracked.mem_log_of_held before) absent
      · exact tracked.holder first second held before also

theorem deliver [DecidableEq T] (tracked : outbox.Tracked) (held : outbox.held thread = some entry) :
    (outbox.deliver thread entry).Tracked := by
  have fresh := tracked.undelivered thread entry held
  constructor
  · exact tracked.sorted
  · exact tracked.distinct.append (List.nodup_singleton entry) (List.disjoint_singleton.mpr fresh)
  · intro other
    simp only [deliver_held]
    change other ∈ outbox.log ↔ other ∈ outbox.delivered ++ [entry] ∨ _
    rw [tracked.mem_log_iff other, List.mem_append, List.mem_singleton, or_assoc]
    apply or_congr_right
    constructor
    · rintro ⟨holder, taken⟩
      by_cases same : holder = thread
      · rw [same, held] at taken
        exact .inl (Option.some.inj taken).symm
      · exact .inr ⟨holder, same, taken⟩
    · rintro (rfl | ⟨holder, -, taken⟩)
      · exact ⟨thread, held⟩
      · exact ⟨holder, taken⟩
  · intro holder other taken delivered
    obtain ⟨different, before⟩ := deliver_held.mp taken
    rcases List.mem_append.mp delivered with delivered | last
    · exact tracked.undelivered holder other before delivered
    · rw [List.mem_singleton.mp last] at before
      exact different (tracked.holder holder thread entry before held)
  · intro first second other left right
    exact tracked.holder first second other (deliver_held.mp left).2 (deliver_held.mp right).2

/-- Once no thread holds an entry, each is delivered once. -/
theorem delivered_perm (tracked : outbox.Tracked) (rest : ∀ thread, outbox.held thread = none) :
    outbox.delivered.Perm outbox.log := by
  refine (List.perm_ext_iff_of_nodup tracked.distinct tracked.nodup_log).mpr fun entry => ?_
  simp [tracked.mem_log_iff entry, rest]

/-- What is delivered under the number of an entry is that entry, once. -/
theorem filter_delivered (tracked : outbox.Tracked) (member : entry ∈ outbox.delivered) :
    outbox.delivered.filter (·.1 == entry.1) = [entry] := by
  refine List.perm_singleton.mp ((List.perm_ext_iff_of_nodup (tracked.distinct.filter _)
    (List.nodup_singleton entry)).mpr fun other => ?_)
  rw [List.mem_filter, beq_iff_eq, List.mem_singleton]
  constructor
  · rintro ⟨delivered, same⟩
    exact tracked.eq_of_number (tracked.mem_log_of_delivered delivered) (tracked.mem_log_of_delivered member) same
  · rintro rfl
    exact ⟨member, rfl⟩

theorem length_le (tracked : outbox.Tracked) : outbox.delivered.length ≤ outbox.log.length :=
  (List.subperm_of_subset tracked.distinct fun _ => tracked.mem_log_of_delivered).length_le

/-- What is delivered next follows the order of the log exactly if it is the earliest entry held. -/
theorem deliver_prefix_iff (tracked : outbox.Tracked) (held : outbox.held thread = some entry)
    (ordered : outbox.delivered <+: outbox.log) :
    outbox.delivered ++ [entry] <+: outbox.log ↔ outbox.Earliest thread := by
  obtain ⟨remaining, split⟩ := ordered
  have sorted : remaining.Pairwise (·.1 < ·.1) := by
    have whole := tracked.sorted
    rw [← split] at whole
    exact (List.pairwise_append.mp whole).2.1
  have remains : ∀ {other : T} {later : ℕ × α}, outbox.held other = some later → later ∈ remaining := by
    intro other later held
    have member := tracked.mem_log_of_held held
    rw [← split] at member
    exact (List.mem_append.mp member).resolve_left (tracked.undelivered other later held)
  rw [← split, List.prefix_append_right_inj]
  cases remaining with
  | nil => exact absurd (remains held) List.not_mem_nil
  | cons next rest =>
    rw [List.singleton_prefix_cons_iff]
    have above := (List.pairwise_cons.mp sorted).1
    constructor
    · rintro rfl mine held' other later heldLater
      obtain rfl := Option.some.inj (held.symm.trans held')
      rcases List.mem_cons.mp (remains heldLater) with rfl | member
      · exact Nat.le_refl _
      · exact Nat.le_of_lt (above _ member)
    · intro earliest
      rcases List.mem_cons.mp (remains held) with same | member
      · exact same
      · have logged : next ∈ outbox.log := by rw [← split]; simp
        rcases (tracked.mem_log_iff next).mp logged with delivered | ⟨other, heldNext⟩
        · have disjoint := tracked.nodup_log
          rw [← split] at disjoint
          exact absurd List.mem_cons_self (List.disjoint_of_nodup_append disjoint delivered)
        · exact absurd (above _ member) (Nat.not_lt.mpr (earliest entry held other next heldNext))

end Tracked

end Outbox

end Machine
