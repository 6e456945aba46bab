import VoxMesh.Machine.Run
import Mathlib.Data.List.Chain
import Mathlib.Data.List.Induction

/-! # Losses in a numbered stream

A source numbers its items and offers each one to a sink that may refuse it. Items are also lost before they
are offered, and the source may be interrupted. The `Ledger` is all that a source has to remember to make every
loss visible: the next number, and whether the next item must be flagged. `FlagsEveryLoss` is what a consumer
may rely on when it sees only the items that were taken.
-/

namespace Machine

inductive LossEvent where
  /-- An item is offered; the device may have reported a loss along with it. -/
  | offered (number : ℕ) (flagged reported accepted : Bool)
  /-- Items are lost before they are offered. -/
  | lost (count : ℕ)
  | interrupted
deriving DecidableEq, Repr

/-- The number and the flag of an item that the sink took. -/
def LossEvent.delivered : LossEvent → Option (ℕ × Bool)
  | .offered number flagged _ true => some (number, flagged)
  | _ => none

structure LossLedger where
  next : ℕ := 0
  pending : Bool := false
deriving DecidableEq, Repr

namespace LossLedger

/-- An item carries the next number, and the flag when it is pending or the device reports a loss. -/
def step (ledger : LossLedger) : LossEvent → Option LossLedger
  | .offered number flagged reported accepted =>
      if number = ledger.next ∧ flagged = (ledger.pending || reported) then some ⟨ledger.next + 1, !accepted⟩ else none
  | .lost count => if count = 0 then none else some ⟨ledger.next + count, true⟩
  | .interrupted => some ⟨ledger.next, true⟩

theorem of_step_offered {ledger next : LossLedger} {number : ℕ} {flagged reported accepted : Bool}
    (taken : ledger.step (.offered number flagged reported accepted) = some next) :
    number = ledger.next ∧ flagged = (ledger.pending || reported) ∧ next = ⟨ledger.next + 1, !accepted⟩ := by
  rw [step] at taken
  split at taken
  next same => exact ⟨same.1, same.2, (Option.some.inj taken).symm⟩
  next => contradiction

/-- Whatever is not delivered leaves the flag pending, and the number does not fall. -/
theorem of_step_undelivered {ledger next : LossLedger} {event : LossEvent} (silent : event.delivered = none)
    (taken : ledger.step event = some next) : next.pending = true ∧ ledger.next ≤ next.next := by
  cases event with
  | offered number flagged reported accepted =>
    obtain ⟨-, -, rfl⟩ := of_step_offered taken
    cases accepted with
    | false => exact ⟨rfl, Nat.le_succ _⟩
    | true => cases silent
  | lost count =>
    rw [step] at taken
    split at taken
    next => contradiction
    next =>
      obtain rfl := Option.some.inj taken
      exact ⟨rfl, Nat.le_add_right ..⟩
  | interrupted =>
    obtain rfl := Option.some.inj taken
    exact ⟨rfl, Nat.le_refl _⟩

/-- The items that the sink took. -/
def delivered (events : List LossEvent) : List (ℕ × Bool) := events.filterMap LossEvent.delivered

theorem delivered_append (first second : List LossEvent) :
    delivered (first ++ second) = delivered first ++ delivered second := List.filterMap_append

/-- After a stretch without delivery the flag is pending. -/
theorem pending_of_silent {ledger last : LossLedger} {events : List LossEvent} (silent : delivered events = [])
    (some : events ≠ []) (run : Run step ledger events last) : last.pending = true := by
  induction events using List.reverseRecOn with
  | nil => exact absurd rfl some
  | append_singleton earlier event _ =>
    obtain ⟨middle, -, taken⟩ := Run.snoc_iff.mp run
    rw [delivered_append, List.append_eq_nil_iff] at silent
    refine (of_step_undelivered ?_ taken).1
    simpa [delivered] using silent.2

/-- What the delivered items say about the losses, and the losses about them. -/
structure FlagsEveryLoss (events : List LossEvent) : Prop where
  increasing : (delivered events).Pairwise (·.1 < ·.1)
  /-- The first delivered item is flagged unless it is the very first. -/
  first : ∀ item ∈ (delivered events).head?, item.1 ≠ 0 → item.2 = true
  /-- A delivered item is flagged unless it continues the numbers of the one before. -/
  gap : (delivered events).IsChain fun earlier later => later.1 ≠ earlier.1 + 1 → later.2 = true
  /-- A loss reported with a refused item is carried by the next delivered one. -/
  reported : ∀ before number flagged between event after,
    events = before ++ .offered number flagged true false :: (between ++ event :: after) →
      delivered between = [] → ∀ item ∈ event.delivered, item.2 = true
  /-- Nothing happened between an unflagged item and the delivered one before, or the start. -/
  seamless : ∀ before number reported after, events = before ++ .offered number false reported true :: after →
    reported = false ∧ ∀ event ∈ before.getLast?, ∃ earlier flagged reported,
      event = .offered earlier flagged reported true ∧ number = earlier + 1

/-- The ledger knows the last delivered item. -/
private structure Tracks (events : List LossEvent) (ledger : LossLedger) : Prop where
  increasing : (delivered events).Pairwise (·.1 < ·.1)
  first : ∀ item ∈ (delivered events).head?, item.1 ≠ 0 → item.2 = true
  gap : (delivered events).IsChain fun earlier later => later.1 ≠ earlier.1 + 1 → later.2 = true
  below : ∀ item ∈ delivered events, item.1 < ledger.next
  fresh : delivered events = [] → ledger.pending = false → ledger.next = 0
  continues : ∀ item ∈ (delivered events).getLast?, ledger.pending = false → ledger.next = item.1 + 1

private theorem Tracks.next {events : List LossEvent} {ledger next : LossLedger} {event : LossEvent}
    (tracks : Tracks events ledger) (taken : ledger.step event = some next) : Tracks (events ++ [event]) next := by
  have grown : delivered (events ++ [event]) = delivered events ++ event.delivered.toList := by
    rw [delivered_append]
    cases shown : event.delivered <;> simp [delivered, shown]
  cases shown : event.delivered with
  | none =>
    obtain ⟨pending, bound⟩ := of_step_undelivered shown taken
    rw [shown, Option.toList_none, List.append_nil] at grown
    refine ⟨grown ▸ tracks.increasing, grown ▸ tracks.first, grown ▸ tracks.gap, ?_, ?_, ?_⟩
    · exact fun item member => Nat.lt_of_lt_of_le (tracks.below item (grown ▸ member)) bound
    · exact fun _ idle => absurd (pending.symm.trans idle) (by decide)
    · exact fun _ _ idle => absurd (pending.symm.trans idle) (by decide)
  | some item =>
    cases event with
    | lost | interrupted => cases shown
    | offered number flagged reported accepted =>
      cases accepted with
      | false => cases shown
      | true =>
        obtain rfl := Option.some.inj shown
        obtain ⟨rfl, flags, rfl⟩ := of_step_offered taken
        rw [shown, Option.toList_some] at grown
        refine ⟨?_, ?_, ?_, ?_, ?_, ?_⟩
        · rw [grown, List.pairwise_append]
          refine ⟨tracks.increasing, List.pairwise_singleton .., fun earlier member later here => ?_⟩
          rw [List.mem_singleton.mp here]
          exact tracks.below earlier member
        · rw [grown]
          intro item member nonzero
          cases already : delivered events with
          | nil =>
            rw [already] at member
            obtain rfl : (ledger.next, flagged) = item := Option.some.inj member
            cases waiting : ledger.pending with
            | true => exact flags.trans (by rw [waiting]; rfl)
            | false => exact absurd (tracks.fresh already waiting) nonzero
          | cons head rest =>
            rw [already] at member
            exact tracks.first item (by rw [already]; exact member) nonzero
        · rw [grown]
          apply tracks.gap.append (.singleton _)
          intro last lastMember item here apart
          obtain rfl : (ledger.next, flagged) = item := Option.some.inj here
          cases waiting : ledger.pending with
          | true => exact flags.trans (by rw [waiting]; rfl)
          | false => exact absurd (tracks.continues last lastMember waiting) apart
        · rw [grown]
          intro item member
          rcases List.mem_append.mp member with earlier | here
          · exact Nat.lt_succ_of_lt (tracks.below item earlier)
          · rw [List.mem_singleton.mp here]
            exact Nat.lt_succ_self _
        · rw [grown]
          intro empty
          simp at empty
        · rw [grown]
          intro item member _
          obtain rfl : (ledger.next, flagged) = item := by simpa using member
          rfl

private theorem run_tracks {events : List LossEvent} {ledger : LossLedger} (run : Run step {} events ledger) :
    Tracks events ledger := by
  induction events using List.reverseRecOn generalizing ledger with
  | nil =>
    obtain rfl := Run.nil_iff.mp run
    exact ⟨.nil, by simp [delivered], .nil, by simp [delivered], fun _ _ => rfl, by simp [delivered]⟩
  | append_singleton earlier event ih =>
    obtain ⟨middle, run, taken⟩ := Run.snoc_iff.mp run
    exact (ih run).next taken

/-- Every source that keeps such a ledger makes its losses visible. -/
theorem run_flags {events : List LossEvent} {ledger : LossLedger} (run : Run step {} events ledger) :
    FlagsEveryLoss events := by
  have tracks := run_tracks run
  refine ⟨tracks.increasing, tracks.first, tracks.gap, ?_, ?_⟩
  · rintro before number flagged between event after rfl silent item shown
    obtain ⟨first, -, later⟩ := Run.append_iff.mp run
    rw [← List.cons_append] at later
    obtain ⟨second, idle, later⟩ := Run.append_iff.mp later
    obtain ⟨third, taken, -⟩ := Run.cons_iff.mp later
    have pending := pending_of_silent (by simpa [delivered, LossEvent.delivered] using silent) (by simp) idle
    cases event with
    | lost | interrupted => cases shown
    | offered number flagged reported accepted =>
      obtain ⟨-, flags, -⟩ := of_step_offered taken
      cases accepted with
      | false => cases shown
      | true =>
        obtain rfl := Option.some.inj shown
        exact flags.trans (by rw [pending]; rfl)
  · rintro before number reported after rfl
    obtain ⟨first, reached, later⟩ := Run.append_iff.mp run
    obtain ⟨second, taken, -⟩ := Run.cons_iff.mp later
    obtain ⟨rfl, flags, -⟩ := of_step_offered taken
    obtain ⟨idle, quiet⟩ := Bool.or_eq_false_iff.mp flags.symm
    refine ⟨quiet, fun event member => ?_⟩
    obtain ⟨earlier, rfl⟩ := List.getLast?_eq_some_iff.mp member
    obtain ⟨middle, -, last⟩ := Run.snoc_iff.mp reached
    cases shown : event.delivered with
    | none => exact absurd ((of_step_undelivered shown last).1.symm.trans idle) (by decide)
    | some item =>
      cases event with
      | lost | interrupted => cases shown
      | offered number flagged reported accepted =>
        cases accepted with
        | false => cases shown
        | true =>
          obtain ⟨rfl, -, rfl⟩ := of_step_offered last
          exact ⟨_, flagged, reported, rfl, rfl⟩

end LossLedger

end Machine
