import VoxMesh.Model.SessionListener

/-! # What the listener of a session sees

Calls of `handle` commit one after the other, so their changes are a path of the transition table from `idle` to the
state (`Path`). The listener is called outside the mutex: it is told every change once, but in the order of the path
exactly if no call notifies while one that committed before it has still to. Two calls that overtake each other leave
the listener with a state that the session is no longer in.
-/

namespace VoxMesh.Audio

open Machine

/-- The changes lead through the transition table from the one state to the other. -/
def Path : SessionState → List StateChange → SessionState → Prop
  | first, [], last => first = last
  | first, change :: rest, last =>
      change.fromState = first ∧ RecordingSession.transition first change.event = some change.toState ∧
        Path change.toState rest last

theorem Path.snoc {first last : SessionState} {changes : List StateChange} {change : StateChange}
    (path : Path first changes last) (here : change.fromState = last)
    (allowed : RecordingSession.transition last change.event = some change.toState) :
    Path first (changes ++ [change]) change.toState := by
  induction changes generalizing first with
  | nil =>
    obtain rfl : first = last := path
    exact ⟨here, allowed, rfl⟩
  | cons earlier rest ih => exact ⟨path.1, path.2.1, ih path.2.2⟩

/-- The last change of a path leads to its end. -/
theorem Path.last {first last : SessionState} {changes : List StateChange} (path : Path first changes last) :
    (changes.getLast?.map (·.toState)).getD first = last := by
  induction changes generalizing first with
  | nil => exact path
  | cons change rest ih =>
    rw [← ih path.2.2]
    cases rest with
    | nil => rfl
    | cons next more =>
      rw [List.getLast?_cons_cons, List.getLast?_eq_some_getLast (List.cons_ne_nil next more)]
      rfl

namespace SharedSession

variable {T : Type*}

/-- What the calls have committed, told the listener and returned, where there is a listener. -/
structure Observed (session : SharedSession T) : Prop where
  tracked : session.changes.Tracked
  path : Path .idle (session.changes.log.map Prod.snd) session.state
  numbered : ∀ entry ∈ session.changes.log, entry.1 < session.calls
  begun : ∀ result ∈ session.returned, result.1 < session.calls
  once : (session.returned.map Prod.fst).Nodup
  accounted : ∀ call < session.calls, call ∈ session.returned.map Prod.fst ∨
    ∃ thread change, session.changes.held thread = some (call, change)
  running : ∀ thread entry, session.changes.held thread = some entry → entry.1 ∉ session.returned.map Prod.fst
  notified : ∀ call, (call, true) ∈ session.returned → ∃ change, (call, change) ∈ session.changes.delivered
  refused : ∀ call, (call, false) ∈ session.returned → ∀ entry ∈ session.changes.log, entry.1 ≠ call

/-- A listener call is made in the order of the commits. -/
def InOrder (session : SharedSession T) : SessionLabel T → Prop
  | .handle _ _ => True
  | .notify thread => session.changes.Earliest thread

/-- No call of `handle` is under way. -/
def AtRest (session : SharedSession T) : Prop := ∀ thread, session.changes.held thread = none

theorem Observed.init : Observed ({} : SharedSession T) where
  tracked := .empty
  path := rfl
  numbered := by simp
  begun := by simp
  once := .nil
  accounted := by simp
  running := by simp
  notified := by simp
  refused := by simp

/-- An illegal event changes nothing but what the call returns. -/
theorem Observed.refuse {session : SharedSession T} (observed : session.Observed) :
    Observed { session with
      calls := session.calls + 1, returned := session.returned ++ [(session.calls, false)] } where
  tracked := observed.tracked
  path := observed.path
  numbered entry member := Nat.lt_succ_of_lt (observed.numbered entry member)
  begun result member := by
    rcases List.mem_append.mp member with before | now
    · exact Nat.lt_succ_of_lt (observed.begun result before)
    · rw [List.mem_singleton.mp now]
      exact Nat.lt_succ_self _
  once := by
    rw [List.map_append]
    refine observed.once.append (List.nodup_singleton _) (List.disjoint_singleton.mpr fun member => ?_)
    obtain ⟨result, before, same⟩ := List.mem_map.mp member
    exact Nat.lt_irrefl _ (same ▸ observed.begun result before)
  accounted call begun := by
    rw [List.map_append, List.mem_append]
    rcases Nat.lt_succ_iff_lt_or_eq.mp begun with before | rfl
    · exact (observed.accounted call before).imp_left .inl
    · exact .inl (.inr (List.mem_singleton_self _))
  running thread entry held member := by
    rw [List.map_append] at member
    rcases List.mem_append.mp member with before | now
    · exact observed.running thread entry held before
    · have fresh := observed.numbered entry (observed.tracked.mem_log_of_held held)
      exact Nat.ne_of_lt fresh (List.mem_singleton.mp now)
  notified call member := by
    rcases List.mem_append.mp member with before | now
    · exact observed.notified call before
    · cases List.mem_singleton.mp now
  refused call member entry logged := by
    rcases List.mem_append.mp member with before | now
    · exact observed.refused call before entry logged
    · cases List.mem_singleton.mp now
      exact Nat.ne_of_lt (observed.numbered entry logged)

variable [DecidableEq T]

/-- What a step does. -/
theorem step_cases {listener : Bool} {session next : SharedSession T} {label : SessionLabel T}
    (taken : step listener session label = some next) :
    (∃ thread event, label = .handle thread event ∧ RecordingSession.transition session.state event = none ∧
        next = { session with
          calls := session.calls + 1, returned := session.returned ++ [(session.calls, false)] }) ∨
      (∃ thread event target, label = .handle thread event ∧ session.changes.held thread = none ∧
        RecordingSession.transition session.state event = some target ∧
        next = { session with
          state := target, calls := session.calls + 1,
          changes := session.changes.commit thread (session.calls, ⟨session.state, target, event⟩) }) ∨
      ∃ thread entry, label = .notify thread ∧ session.changes.held thread = some entry ∧
        next = { session with
          changes := if listener then session.changes.deliver thread entry else session.changes.release thread
          returned := session.returned ++ [(entry.1, true)] } := by
  cases label with
  | handle thread event =>
    unfold step at taken
    simp only at taken
    split at taken
    · cases taken
    · rename_i idle
      have free : session.changes.held thread = none := by simpa using idle
      cases found : RecordingSession.transition session.state event with
      | none =>
        rw [found] at taken
        exact .inl ⟨thread, event, rfl, found, (Option.some.inj taken).symm⟩
      | some target =>
        rw [found] at taken
        exact .inr (.inl ⟨thread, event, target, rfl, free, found, (Option.some.inj taken).symm⟩)
  | notify thread =>
    obtain ⟨entry, held, rfl⟩ := Option.map_eq_some_iff.mp taken
    exact .inr (.inr ⟨thread, entry, rfl, held, rfl⟩)

/-- A legal event extends the path. -/
theorem Observed.commit {session : SharedSession T} (observed : session.Observed) {thread : T} {event : SessionEvent}
    {target : SessionState} (idle : session.changes.held thread = none)
    (allowed : RecordingSession.transition session.state event = some target) :
    Observed { session with
      state := target, calls := session.calls + 1,
      changes := session.changes.commit thread (session.calls, ⟨session.state, target, event⟩) } where
  tracked := observed.tracked.commit idle observed.numbered
  path := by
    change Path .idle ((session.changes.log ++ [_]).map Prod.snd) target
    rw [List.map_append]
    exact observed.path.snoc rfl allowed
  numbered entry member := by
    rcases List.mem_append.mp member with before | now
    · exact Nat.lt_succ_of_lt (observed.numbered entry before)
    · rw [List.mem_singleton.mp now]
      exact Nat.lt_succ_self _
  begun result member := Nat.lt_succ_of_lt (observed.begun result member)
  once := observed.once
  accounted call begun := by
    rcases Nat.lt_succ_iff_lt_or_eq.mp begun with before | rfl
    · refine (observed.accounted call before).imp_right ?_
      rintro ⟨other, change, held⟩
      refine ⟨other, change, Outbox.commit_held.mpr (.inr ⟨?_, held⟩)⟩
      rintro rfl
      rw [idle] at held
      cases held
    · exact .inr ⟨thread, _, Outbox.commit_held.mpr (.inl ⟨rfl, rfl⟩)⟩
  running other entry held member := by
    rcases Outbox.commit_held.mp held with ⟨-, rfl⟩ | ⟨-, before⟩
    · obtain ⟨result, returned, same⟩ := List.mem_map.mp member
      exact Nat.lt_irrefl _ (same ▸ observed.begun result returned)
    · exact observed.running other entry before member
  notified := observed.notified
  refused call member entry logged := by
    rcases List.mem_append.mp logged with before | now
    · exact observed.refused call member entry before
    · rw [List.mem_singleton.mp now]
      exact (Nat.ne_of_lt (observed.begun _ member)).symm

/-- The listener is told the change of the call that returns. -/
theorem Observed.notify {session : SharedSession T} (observed : session.Observed) {thread : T}
    {entry : ℕ × StateChange} (held : session.changes.held thread = some entry) :
    Observed { session with
      changes := session.changes.deliver thread entry, returned := session.returned ++ [(entry.1, true)] } where
  tracked := observed.tracked.deliver held
  path := observed.path
  numbered := observed.numbered
  begun result member := by
    rcases List.mem_append.mp member with before | now
    · exact observed.begun result before
    · rw [List.mem_singleton.mp now]
      exact observed.numbered entry (observed.tracked.mem_log_of_held held)
  once := by
    rw [List.map_append]
    exact observed.once.append (List.nodup_singleton _)
      (List.disjoint_singleton.mpr (observed.running thread entry held))
  accounted call begun := by
    rw [List.map_append, List.mem_append]
    rcases observed.accounted call begun with returned | ⟨other, change, before⟩
    · exact .inl (.inl returned)
    · by_cases same : other = thread
      · rw [same, held] at before
        obtain rfl := Option.some.inj before
        exact .inl (.inr (List.mem_singleton_self _))
      · exact .inr ⟨other, change, Outbox.deliver_held.mpr ⟨same, before⟩⟩
  running other later heldOther member := by
    obtain ⟨different, before⟩ := Outbox.deliver_held.mp heldOther
    rw [List.map_append] at member
    rcases List.mem_append.mp member with returned | now
    · exact observed.running other later before returned
    · have same := observed.tracked.eq_of_number (observed.tracked.mem_log_of_held before)
        (observed.tracked.mem_log_of_held held) (List.mem_singleton.mp now)
      exact different (observed.tracked.holder other thread entry (same ▸ before) held)
  notified call member := by
    rcases List.mem_append.mp member with before | now
    · obtain ⟨change, delivered⟩ := observed.notified call before
      exact ⟨change, List.mem_append_left _ delivered⟩
    · cases List.mem_singleton.mp now
      exact ⟨entry.2, List.mem_append_right _ (List.mem_singleton_self entry)⟩
  refused call member other logged := by
    rcases List.mem_append.mp member with before | now
    · exact observed.refused call before other logged
    · cases List.mem_singleton.mp now

theorem Observed.after {session next : SharedSession T} {label : SessionLabel T} (observed : session.Observed)
    (taken : step true session label = some next) : next.Observed := by
  obtain ⟨thread, event, -, -, rfl⟩ | ⟨thread, event, target, -, idle, allowed, rfl⟩ |
    ⟨thread, entry, -, held, rfl⟩ := step_cases taken
  · exact observed.refuse
  · exact observed.commit idle allowed
  · exact observed.notify held

omit [DecidableEq T] in
/-- The calls that have taken the mutex are those that have returned and those that a thread is still in. -/
theorem Observed.call_iff {session : SharedSession T} (observed : session.Observed) (call : ℕ) :
    call < session.calls ↔ call ∈ session.returned.map Prod.fst ∨
      ∃ thread change, session.changes.held thread = some (call, change) := by
  constructor
  · exact observed.accounted call
  · rintro (returned | ⟨thread, change, held⟩)
    · obtain ⟨result, member, rfl⟩ := List.mem_map.mp returned
      exact observed.begun result member
    · exact observed.numbered _ (observed.tracked.mem_log_of_held held)

omit [DecidableEq T] in
/-- Once no call is under way, each has returned once. -/
theorem Observed.returned_perm {session : SharedSession T} (observed : session.Observed) (atRest : session.AtRest) :
    (session.returned.map Prod.fst).Perm (List.range session.calls) := by
  refine (List.perm_ext_iff_of_nodup observed.once List.nodup_range).mpr fun call => ?_
  rw [List.mem_range, observed.call_iff call]
  simp [atRest _]

omit [DecidableEq T] in
/-- A call that has committed a change returns true, or is still to tell the listener. -/
theorem Observed.returned_true {session : SharedSession T} (observed : session.Observed) {entry : ℕ × StateChange}
    (committed : entry ∈ session.changes.log) :
    (entry.1, true) ∈ session.returned ∨ ∃ thread, session.changes.held thread = some entry := by
  rcases observed.accounted entry.1 (observed.numbered entry committed) with returned | ⟨thread, change, held⟩
  · obtain ⟨⟨call, result⟩, member, rfl⟩ := List.mem_map.mp returned
    cases result with
    | true => exact .inl member
    | false => exact absurd rfl (observed.refused entry.1 member entry committed)
  · have same := observed.tracked.eq_of_number (observed.tracked.mem_log_of_held held) committed rfl
    exact .inr ⟨thread, same ▸ held⟩

theorem observed_of_run {labels : List (SessionLabel T)} {session : SharedSession T}
    (run : Run (step true) {} labels session) : session.Observed :=
  run.invariant (fun _ _ _ observed taken => observed.after taken) .init

/-- What was committed and what was told stays. -/
private theorem step_extends {session next : SharedSession T} {label : SessionLabel T}
    (taken : step true session label = some next) :
    session.changes.log <+: next.changes.log ∧ session.changes.delivered <+: next.changes.delivered := by
  obtain ⟨thread, event, -, -, rfl⟩ | ⟨thread, event, target, -, -, -, rfl⟩ |
    ⟨thread, entry, -, -, rfl⟩ := step_cases taken
  · exact ⟨List.prefix_refl _, List.prefix_refl _⟩
  · exact ⟨List.prefix_append .., List.prefix_refl _⟩
  · exact ⟨List.prefix_refl _, List.prefix_append ..⟩

private theorem run_extends {labels : List (SessionLabel T)} {session next : SharedSession T}
    (run : Run (step true) session labels next) :
    session.changes.log <+: next.changes.log ∧ session.changes.delivered <+: next.changes.delivered := by
  refine run.invariant (I := fun now => session.changes.log <+: now.changes.log ∧
    session.changes.delivered <+: now.changes.delivered) ?_ ⟨List.prefix_refl _, List.prefix_refl _⟩
  rintro now label later ⟨log, delivered⟩ taken
  obtain ⟨moreLog, moreDelivered⟩ := step_extends taken
  exact ⟨log.trans moreLog, delivered.trans moreDelivered⟩

/-- The listener has been told the path so far. -/
def Faithful (session : SharedSession T) : Prop := session.changes.delivered <+: session.changes.log

/-- Steps in order keep what the listener has seen a piece of the path. -/
theorem Faithful.after {session next : SharedSession T} {label : SessionLabel T} (faithful : session.Faithful)
    (observed : session.Observed) (inOrder : session.InOrder label) (taken : step true session label = some next) :
    next.Faithful := by
  obtain ⟨thread, event, -, -, rfl⟩ | ⟨thread, event, target, -, -, -, rfl⟩ |
    ⟨thread, entry, rfl, held, rfl⟩ := step_cases taken
  · exact faithful
  · exact List.prefix_append_of_prefix faithful
  · exact (observed.tracked.deliver_prefix_iff held faithful).mpr inOrder

/-- A step that keeps it so is in order. -/
theorem Faithful.inOrder {session next : SharedSession T} {label : SessionLabel T} (faithful : session.Faithful)
    (observed : session.Observed) (taken : step true session label = some next) (still : next.Faithful) :
    session.InOrder label := by
  obtain ⟨thread, event, rfl, -, rfl⟩ | ⟨thread, event, target, rfl, -, -, rfl⟩ |
    ⟨thread, entry, rfl, held, rfl⟩ := step_cases taken
  · trivial
  · trivial
  · exact (observed.tracked.deliver_prefix_iff held faithful).mp still

/-- The listener is told a piece of the path at every moment of a run exactly if every listener call is in order. -/
theorem along_inOrder_iff {labels : List (SessionLabel T)} {session : SharedSession T}
    (run : Run (step true) {} labels session) : Along (step true) InOrder {} labels ↔
      ∀ first rest seen, labels = first ++ rest → Run (step true) {} first seen → seen.Faithful := by
  refine run.along_iff_prefixes (I := fun now => now.Observed ∧ now.Faithful) (Q := Faithful) ?_
    (fun _ both => both.2) ?_ ⟨.init, List.prefix_refl _⟩
  · rintro now label next ⟨observed, faithful⟩ inOrder taken
    exact ⟨observed.after taken, faithful.after observed inOrder taken⟩
  · rintro now label next ⟨observed, faithful⟩ taken still
    exact faithful.inOrder observed taken still

/-- Once all calls have returned, the listener was told the path exactly if every listener call was in order. -/
theorem delivered_eq_log_iff {labels : List (SessionLabel T)} {session : SharedSession T}
    (run : Run (step true) {} labels session) (atRest : session.AtRest) :
    Along (step true) InOrder {} labels ↔ session.changes.delivered = session.changes.log := by
  have length := ((observed_of_run run).tracked.delivered_perm atRest).length_eq
  rw [along_inOrder_iff run]
  constructor
  · intro faithful
    exact (faithful labels [] session (List.append_nil _).symm run).eq_of_length length
  · rintro same first rest seen rfl begun
    obtain ⟨middle, before, after⟩ := Run.append_iff.mp run
    obtain rfl := begun.unique before
    obtain ⟨log, delivered⟩ := run_extends after
    exact List.prefix_of_prefix_length_le (same ▸ delivered) log (observed_of_run begun).tracked.length_le

/-- What two threads and the listener have seen. -/
private def seen (session : SharedSession Bool) :=
  (session.changes.held false, session.changes.held true, session.changes.log, session.changes.delivered, session.state,
    session.returned)

private theorem atRest_of_two {session : SharedSession Bool} (one : session.changes.held false = none)
    (other : session.changes.held true = none) : session.AtRest := by
  intro thread
  cases thread with
  | false => exact one
  | true => exact other

/-- Two threads start and stop the session, and the listener is told of the stop first: what it is told is no path, and
its last notification is not of the state. -/
theorem notifications_overtake :
    ∃ session : SharedSession Bool,
      Run (step true) {} [.handle false .start, .handle true .stop, .notify true, .notify false] session ∧
        session.AtRest ∧ session.state = .stopping ∧
        (∀ last, ¬ Path .idle (session.changes.delivered.map Prod.snd) last) ∧
        (session.changes.delivered.map Prod.snd).getLast?.map (·.toState) = some .recording := by
  have outcome :
      (exec (step true) {} [.handle false .start, .handle true .stop, .notify true, .notify false]).map seen =
        some (none, none, [(0, ⟨.idle, .recording, .start⟩), (1, ⟨.recording, .stopping, .stop⟩)],
          [(1, ⟨.recording, .stopping, .stop⟩), (0, ⟨.idle, .recording, .start⟩)], .stopping,
          [(1, true), (0, true)]) := rfl
  obtain ⟨session, run, same⟩ := Option.map_eq_some_iff.mp outcome
  simp only [seen, Prod.mk.injEq] at same
  obtain ⟨one, other, -, delivered, state, -⟩ := same
  refine ⟨session, run, atRest_of_two one other, state, fun last path => ?_, ?_⟩
  · rw [delivered] at path
    cases path.1
  · rw [delivered]
    rfl

/-- Each call returns once, true exactly if it commits a change. The listener is told each committed change once, and
the committed changes are one path of the table to the state. It is told them in the order of that path exactly if no
call notifies while one that committed before it has still to. -/
theorem notifications_of_run {labels : List (SessionLabel T)} {session : SharedSession T}
    (run : Run (step true) {} labels session) :
    (session.returned.map Prod.fst).Nodup ∧
      (∀ call, call < session.calls ↔ call ∈ session.returned.map Prod.fst ∨
        ∃ thread change, session.changes.held thread = some (call, change)) ∧
      (∀ entry ∈ session.changes.log,
        (entry.1, true) ∈ session.returned ∨ ∃ thread, session.changes.held thread = some entry) ∧
      (∀ thread entry, session.changes.held thread = some entry →
        ∃ next, step true session (.notify thread) = some next ∧ (entry.1, true) ∈ next.returned) ∧
      (∀ call, (call, true) ∈ session.returned → ∃ change, (call, change) ∈ session.changes.log ∧
        session.changes.delivered.filter (·.1 == call) = [(call, change)]) ∧
      (∀ call, (call, false) ∈ session.returned →
        ∀ entry ∈ session.changes.log ++ session.changes.delivered, entry.1 ≠ call) ∧
      (∀ thread event next, step true session (.handle thread event) = some next →
        (session.calls, false) ∈ next.returned → next.state = session.state ∧ next.changes = session.changes) ∧
      Path .idle (session.changes.log.map Prod.snd) session.state ∧
      (Along (step true) InOrder {} labels → session.changes.delivered <+: session.changes.log) ∧
      (session.AtRest → (session.returned.map Prod.fst).Perm (List.range session.calls) ∧
        session.changes.delivered.Perm session.changes.log ∧
        (Along (step true) InOrder {} labels ↔ session.changes.delivered = session.changes.log) ∧
        (Along (step true) InOrder {} labels → Path .idle (session.changes.delivered.map Prod.snd) session.state ∧
          ((session.changes.delivered.map Prod.snd).getLast?.map (·.toState)).getD .idle = session.state)) := by
  have observed := observed_of_run run
  refine ⟨observed.once, observed.call_iff, fun entry => observed.returned_true, fun thread entry held => ?_,
    fun call returned => ?_, fun call returned entry member => ?_, fun thread event next taken returned => ?_,
    observed.path, fun inOrder => ?_, fun atRest => ?_⟩
  · exact ⟨_, congrArg (Option.map _) held, List.mem_append_right _ (List.mem_singleton_self _)⟩
  · obtain ⟨change, delivered⟩ := observed.notified call returned
    exact ⟨change, observed.tracked.mem_log_of_delivered delivered, observed.tracked.filter_delivered delivered⟩
  · rcases List.mem_append.mp member with logged | delivered
    · exact observed.refused call returned entry logged
    · exact observed.refused call returned entry (observed.tracked.mem_log_of_delivered delivered)
  · obtain ⟨_, _, -, -, rfl⟩ | ⟨_, _, target, -, -, -, rfl⟩ | ⟨_, _, label, -⟩ := step_cases taken
    · exact ⟨rfl, rfl⟩
    · exact absurd (observed.begun _ returned) (Nat.lt_irrefl _)
    · cases label
  · exact (along_inOrder_iff run).mp inOrder labels [] session (List.append_nil _).symm run
  · have exactly := delivered_eq_log_iff run atRest
    refine ⟨observed.returned_perm atRest, observed.tracked.delivered_perm atRest, exactly, fun inOrder => ?_⟩
    rw [exactly.mp inOrder]
    exact ⟨observed.path, observed.path.last⟩

/-- The listener calls of a start and a stop, where a second start was refused, in order. -/
theorem notifications_of_run_in_order :
    let labels := [.handle false .start, .handle true .start, .notify false, .handle true .stop, .notify true]
    ∃ session : SharedSession Bool, Run (step true) {} labels session ∧ session.AtRest ∧
      Along (step true) InOrder {} labels ∧ session.state = .stopping ∧
      session.returned = [(1, false), (0, true), (2, true)] ∧
      (session.returned.map Prod.fst).Perm (List.range session.calls) ∧
      Path .idle (session.changes.delivered.map Prod.snd) session.state := by
  intro labels
  have outcome : (exec (step true) {} labels).map seen =
      some (none, none, [(0, ⟨.idle, .recording, .start⟩), (2, ⟨.recording, .stopping, .stop⟩)],
        [(0, ⟨.idle, .recording, .start⟩), (2, ⟨.recording, .stopping, .stop⟩)], .stopping,
        [(1, false), (0, true), (2, true)]) := rfl
  obtain ⟨session, run, same⟩ := Option.map_eq_some_iff.mp outcome
  simp only [seen, Prod.mk.injEq] at same
  obtain ⟨one, other, log, delivered, state, returned⟩ := same
  have atRest := atRest_of_two one other
  obtain ⟨-, -, -, -, -, -, -, -, -, rested⟩ := notifications_of_run run
  obtain ⟨all, -, exactly, path⟩ := rested atRest
  have inOrder := exactly.mpr (delivered.trans log.symm)
  exact ⟨session, run, atRest, inOrder, state, returned, all, (path inOrder).1⟩

end SharedSession

end VoxMesh.Audio
