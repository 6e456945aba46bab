import VoxMesh.Model.MockSttServer
import Mathlib.Data.List.Infix
import Mathlib.Data.List.Pairwise

/-! # The transcript of the scripted server

The `script` says what the update of every number is: the segment and the revision are the quotient and the remainder
of the number, and the audio of an update ends one step after that of the update before. The loop of the server
writes a beginning of the script, whatever frames it reads. So the responses keep the transcript contract.
-/

namespace VoxMesh.Stt.Testing

open FixedWidth

variable (options : MockSttServerOptions)

/-- The duration of the audio of one update. -/
def updateMs : ℤ := options.framesPerUpdate * 100

/-- The words of a segment, as far as its text is settled. -/
def scriptedText (segment count : ℕ) : String := stableWords (uint64 (segment * options.revisionsPerSegment)) count

/-- The update of the given number, in exact integers. -/
def script (k : ℕ) : TranscriptSegment :=
  let segment := k / options.revisionsPerSegment
  let revision := k % options.revisionsPerSegment
  let isFinal := revision + 1 = options.revisionsPerSegment
  { segmentId := segmentId segment
    revision := revision + 1
    status := if isFinal then .statusFinal else .statusPartial
    stableText := scriptedText options segment (if isFinal then revision + 1 else revision)
    mutableText := if isFinal then ""
      else scriptedWord (uint64 (uint64 (segment * options.revisionsPerSegment) + revision))
    audioStartMs := (segment * options.revisionsPerSegment : ℕ) * updateMs options
    audioEndMs := (k + 1 : ℕ) * updateMs options }

/-- The variables of the loop before the update of the given number. -/
structure ServerSession.Before (session : ServerSession) (k : ℕ) : Prop where
  segmentIndex : session.segmentIndex = k / options.revisionsPerSegment
  revision : session.revision = k % options.revisionsPerSegment
  segmentStartMs : session.segmentStartMs =
    (k / options.revisionsPerSegment * options.revisionsPerSegment : ℕ) * updateMs options

namespace ServerSession

variable {options} {session : ServerSession} {k : ℕ}

theorem Before.isFinal_iff (before : session.Before options k) (some : 1 ≤ options.revisionsPerSegment) :
    session.isFinal options = true ↔ k % options.revisionsPerSegment + 1 = options.revisionsPerSegment := by
  have bound := Nat.mod_lt k some
  rw [isFinal, before.revision, decide_eq_true_eq]
  omega

/-- Durations up to the end of an update are in range when that end is. -/
theorem inInt64_mul (fits : (k + 1 : ℕ) * updateMs options < 2 ^ 63) {count : ℕ} (earlier : count ≤ k + 1) :
    InInt64 (count * updateMs options) := by
  have step : 0 ≤ updateMs options := by
    rw [updateMs]
    omega
  have low : 0 ≤ (count : ℤ) * updateMs options := Int.mul_nonneg (Int.natCast_nonneg count) step
  have high : (count : ℤ) * updateMs options ≤ (k + 1 : ℕ) * updateMs options :=
    Int.mul_le_mul_of_nonneg_right (Int.ofNat_le.mpr earlier) step
  exact ⟨by omega, by omega⟩

theorem frameMs_eq (fits : (k + 1 : ℕ) * updateMs options < 2 ^ 63) : frameMs options = updateMs options := by
  have range : InInt64 (updateMs options) := by
    have once := inInt64_mul fits (Nat.le_add_left 1 k)
    rwa [Nat.cast_one, Int.one_mul] at once
  have frames : InInt64 options.framesPerUpdate := by
    obtain ⟨-, high⟩ := range
    rw [updateMs] at high
    exact ⟨by omega, by omega⟩
  rw [frameMs, int64_of_inInt64 frames]
  exact int64_of_inInt64 range

/-- The positions of consecutive updates. -/
theorem next_position (some : 1 ≤ options.revisionsPerSegment) :
    if k % options.revisionsPerSegment + 1 = options.revisionsPerSegment then
      (k + 1) / options.revisionsPerSegment = k / options.revisionsPerSegment + 1 ∧
        (k + 1) % options.revisionsPerSegment = 0
    else (k + 1) / options.revisionsPerSegment = k / options.revisionsPerSegment ∧
      (k + 1) % options.revisionsPerSegment = k % options.revisionsPerSegment + 1 := by
  have position := Nat.div_add_mod k options.revisionsPerSegment
  have bound := Nat.mod_lt k some
  split
  next last =>
    refine (Nat.div_mod_unique some).mpr ⟨?_, some⟩
    rw [Nat.mul_add, Nat.mul_one]
    omega
  next => exact (Nat.div_mod_unique some).mpr ⟨by omega, by omega⟩

/-- The end of the update, computed from the start of its segment. -/
theorem end_eq (fits : (k + 1 : ℕ) * updateMs options < 2 ^ 63) {count : ℕ} (narrow : count < 2 ^ 32) (start : ℕ)
    (within : start + count = k + 1) :
    int64 (start * updateMs options + int64 (int64 count * frameMs options)) = (k + 1 : ℕ) * updateMs options := by
  have word : InInt64 (count : ℤ) := ⟨by omega, by omega⟩
  rw [frameMs_eq fits, int64_of_inInt64 word, int64_of_inInt64 (inInt64_mul fits (by omega)), ← Int.add_mul,
    ← Int.natCast_add, within]
  exact int64_of_inInt64 (inInt64_mul fits (Nat.le_refl _))

/-- Under these bounds the loop follows the script. -/
theorem Before.follows (before : session.Before options k) (some : 1 ≤ options.revisionsPerSegment)
    (narrow : options.revisionsPerSegment < 2 ^ 32) (fits : (k + 1 : ℕ) * updateMs options < 2 ^ 63) :
    (∀ frame unixMs, (session.segment options frame unixMs).toTranscriptSegment = script options k) ∧
      (session.advance options).Before options (k + 1) := by
  have last := before.isFinal_iff some
  have next := @next_position options k some
  have bound := Nat.mod_lt k some
  have position := Nat.div_add_mod' k options.revisionsPerSegment
  obtain ⟨frames, index, revision, start⟩ := session
  obtain ⟨rfl, rfl, rfl⟩ := before
  have small : k % options.revisionsPerSegment + 1 < 2 ^ 32 := by omega
  have ended := end_eq fits small (k / options.revisionsPerSegment * options.revisionsPerSegment) (by omega)
  rw [Nat.cast_add (k % options.revisionsPerSegment), Nat.cast_one] at ended
  cases isFinal : ServerSession.isFinal options ⟨frames, _, _, _⟩ with
  | false =>
    have more := mt last.mpr (Bool.eq_false_iff.mp isFinal)
    rw [if_neg more] at next
    refine ⟨fun frame unixMs => ?_, ?_⟩
    · simp only [segment, script, isFinal, ended, Nat.mod_eq_of_lt small, more, if_false, Bool.false_eq_true,
        scriptedText]
    · rw [advance, isFinal]
      exact ⟨next.1.symm, next.2.symm, by rw [next.1]; rfl⟩
  | true =>
    have done := last.mp isFinal
    rw [if_pos done] at next
    refine ⟨fun frame unixMs => ?_, ?_⟩
    · simp only [segment, script, isFinal, ended, Nat.mod_eq_of_lt small, if_pos done, if_true, scriptedText,
        stableWords]
    · have wholeSegment := end_eq fits narrow (k / options.revisionsPerSegment * options.revisionsPerSegment) (by omega)
      rw [advance, isFinal, if_pos rfl]
      refine ⟨next.1.symm, next.2.symm, ?_⟩
      have ends :
          k / options.revisionsPerSegment * options.revisionsPerSegment + options.revisionsPerSegment = k + 1 := by
        omega
      rw [wholeSegment, next.1, Nat.add_mul, Nat.one_mul, ends]

end ServerSession

/-- What the loop writes is a part of the script. -/
theorem serve_eq_script {session : ServerSession} {k : ℕ} (before : session.Before options k)
    (some : 1 ≤ options.revisionsPerSegment) (narrow : options.revisionsPerSegment < 2 ^ 32)
    (stats : MockSttServerStats) (receptions : List Reception)
    (fits : (k + (serve options session stats receptions).1.length : ℕ) * updateMs options < 2 ^ 63) :
    (serve options session stats receptions).1.map (·.toTranscriptSegment) =
      (List.range' k (serve options session stats receptions).1.length).map (script options) := by
  induction receptions generalizing session k stats with
  | nil => rfl
  | cons reception rest ih =>
    rw [serve] at fits ⊢
    dsimp only at fits ⊢
    have counted : ({ session with framesInSession := uint64 (session.framesInSession + 1) } : ServerSession).Before
        options k := ⟨before.segmentIndex, before.revision, before.segmentStartMs⟩
    split at fits
    next invalid =>
      rw [if_pos invalid]
      exact ih counted _ fits
    next valid =>
      rw [if_neg valid]
      split at fits
      next idle =>
        rw [if_pos idle]
        exact ih counted _ fits
      next due =>
        rw [if_neg due]
        split at fits
        next broken =>
          rw [if_pos broken]
          rfl
        next written =>
          rw [if_neg written]
          rw [List.length_cons, ← Nat.add_assoc, Nat.add_right_comm] at fits
          have first : (k + 1 : ℕ) * updateMs options < 2 ^ 63 := by
            refine Int.lt_of_le_of_lt (Int.mul_le_mul_of_nonneg_right ?_ ?_) fits
            · exact Int.ofNat_le.mpr (Nat.le_add_right ..)
            · rw [updateMs]
              omega
          obtain ⟨same, advanced⟩ := counted.follows some narrow first
          rw [List.map_cons, List.length_cons, List.range'_succ, List.map_cons, same, ih advanced _ fits]

/-- Ids of up to eleven digits are not cut off, and differ. -/
theorem segmentId_inj {first second : ℕ} (small : first < 10 ^ 11) (alsoSmall : second < 10 ^ 11)
    (same : segmentId first = segmentId second) : first = second := by
  have whole {index : ℕ} (small : index < 10 ^ 11) : (segmentId index).toList =
      "seg-".toList ++ (List.replicate (4 - (Nat.toDigits 10 index).length) '0' ++ Nat.toDigits 10 index) := by
    have digits := (Nat.length_toDigits_le_iff (b := 10) (by decide) (by decide)).mpr small
    rw [segmentId, String.toList_ofList, List.take_of_length_le]
    simp only [List.length_append, List.length_replicate]
    have four : "seg-".toList.length = 4 := by decide
    omega
  have value (index : ℕ) : Nat.ofDigitChars 10
      (List.replicate (4 - (Nat.toDigits 10 index).length) '0' ++ Nat.toDigits 10 index) 0 = index := by
    rw [Nat.ofDigitChars_append, Nat.ofDigitChars_replicate_zero, Nat.mul_zero, Nat.ofDigitChars_ten_toDigits]
  have lists := congrArg String.toList same
  rw [whole small, whole alsoSmall, List.append_cancel_left_eq] at lists
  rw [← value first, lists, value second]

theorem scriptedWord_ne_empty (index : ℕ) : scriptedWord index ≠ "" := by
  have inside : index % kWords.length < kWords.length := Nat.mod_lt _ (by decide)
  have every : ∀ word ∈ kWords, word ≠ "" := by decide
  rw [scriptedWord, List.getD_eq_getElem?_getD, List.getElem?_eq_getElem inside, Option.getD_some]
  exact every _ (List.getElem_mem inside)

/-- More words make a longer text with the same beginning. -/
theorem stableWords_grow (wordBase : ℕ) {count longer : ℕ} (le : count ≤ longer) :
    ∃ more, stableWords wordBase longer = stableWords wordBase count ++ more := by
  induction longer, le using Nat.le_induction with
  | base => exact ⟨"", String.append_empty.symm⟩
  | succ longer _ ih =>
    obtain ⟨more, same⟩ := ih
    rw [stableWords, appendWord]
    split
    next => exact ⟨more ++ _, by rw [same, String.append_assoc]⟩
    next => exact ⟨more ++ (" " ++ _), by rw [same, String.append_assoc, String.append_assoc]⟩

/-- The revisions of a segment among the first updates. -/
theorem revisions_range (R : ℕ) (some : 1 ≤ R) (segment n : ℕ) :
    ((List.range n).filter (· / R = segment)).map (· % R + 1) = List.range' 1 (min (n - segment * R) R) := by
  induction n with
  | zero => simp
  | succ n ih =>
    have position := Nat.div_add_mod' n R
    have bound := Nat.mod_lt n some
    rw [List.range_succ, List.filter_append, List.map_append, ih]
    by_cases here : n / R = segment
    · obtain rfl := here
      have grown : min (n + 1 - n / R * R) R = min (n - n / R * R) R + 1 := by omega
      have last : n % R + 1 = 1 + min (n - n / R * R) R := by omega
      rw [grown, List.range'_concat, Nat.one_mul, ← last]
      simp
    · have same : min (n + 1 - segment * R) R = min (n - segment * R) R := by
        rcases Nat.lt_or_gt_of_ne here with before | after
        · have := Nat.mul_le_mul_right R before
          rw [Nat.succ_mul] at this
          omega
        · have := Nat.mul_le_mul_right R after
          rw [Nat.succ_mul] at this
          omega
      rw [same]
      simp [here]

/-- The transcript contract for a list of responses. -/
structure KeepsContract (revisionsPerSegment : ℕ) (segments : List TranscriptSegment) : Prop where
  /-- The revisions of a segment count from one, and only those of the last segment may be unfinished. -/
  revisions : ∀ segment ∈ segments, ∃ count ≤ revisionsPerSegment,
    (segments.filter (·.segmentId = segment.segmentId)).map (·.revision) = List.range' 1 count ∧
      (count = revisionsPerSegment ∨ ∀ last ∈ segments.getLast?, last.segmentId = segment.segmentId)
  /-- The settled text only grows. -/
  stable : ∀ earlier ∈ segments, ∀ later ∈ segments, later.segmentId = earlier.segmentId →
    later.revision = earlier.revision + 1 → ∃ more, later.stableText = earlier.stableText ++ more
  mutableText : ∀ segment ∈ segments, segment.mutableText = "" ↔ segment.status = .statusFinal
  /-- Nothing follows the final revision of a segment. -/
  ended : segments.Pairwise fun earlier later => earlier.status = .statusFinal → later.segmentId ≠ earlier.segmentId
  /-- After a final revision comes a new segment, which starts where the final one ends. -/
  fresh : ∀ (k : ℕ) (bound : k + 1 < segments.length), segments[k].status = .statusFinal →
    (∀ (earlier : ℕ) (before : earlier ≤ k), segments[earlier].segmentId ≠ segments[k + 1].segmentId) ∧
      segments[k + 1].audioStartMs = segments[k].audioEndMs
  increasing : segments.Pairwise fun earlier later => earlier.audioEndMs < later.audioEndMs

theorem script_status_iff (k : ℕ) : (script options k).status = .statusFinal ↔
    k % options.revisionsPerSegment + 1 = options.revisionsPerSegment := by
  by_cases last : k % options.revisionsPerSegment + 1 = options.revisionsPerSegment <;> simp [script, last]

variable {options} {n : ℕ}

theorem script_segmentId_inj (few : n ≤ 10 ^ 11 * options.revisionsPerSegment) {first second : ℕ} (one : first < n)
    (other : second < n) : (script options first).segmentId = (script options second).segmentId ↔
      first / options.revisionsPerSegment = second / options.revisionsPerSegment := by
  refine ⟨fun same => segmentId_inj ?_ ?_ same, fun same => congrArg segmentId same⟩
  · exact Nat.div_lt_of_lt_mul (by omega)
  · exact Nat.div_lt_of_lt_mul (by omega)

theorem updateMs_pos (audible : 1 ≤ options.framesPerUpdate) : 0 < updateMs options := by
  rw [updateMs]
  omega

/-- A final update is the last one of its segment. -/
theorem final_before {first second : ℕ} (some : 1 ≤ options.revisionsPerSegment)
    (final : first % options.revisionsPerSegment + 1 = options.revisionsPerSegment) (later : first < second) :
    first / options.revisionsPerSegment < second / options.revisionsPerSegment := by
  have next := @ServerSession.next_position options first some
  rw [if_pos final] at next
  have risen : (first + 1) / options.revisionsPerSegment ≤ _ := Nat.div_le_div_right later
  omega

/-- Every beginning of the script keeps the contract. -/
theorem script_keepsContract (some : 1 ≤ options.revisionsPerSegment)
    (few : n ≤ 10 ^ 11 * options.revisionsPerSegment) (audible : 1 ≤ options.framesPerUpdate) :
    KeepsContract options.revisionsPerSegment ((List.range n).map (script options)) := by
  have inj {first second : ℕ} := @script_segmentId_inj options n few first second
  refine ⟨?_, ?_, ?_, ?_, ?_, ?_⟩
  · simp only [List.forall_mem_map, List.mem_range]
    intro k inside
    refine ⟨_, Nat.min_le_right (n - k / options.revisionsPerSegment * options.revisionsPerSegment) _, ?_, ?_⟩
    · rw [← revisions_range _ some, List.filter_map, List.map_map]
      refine congrArg (List.map _) (List.filter_congr fun other member => ?_)
      exact decide_eq_decide.mpr (inj (List.mem_range.mp member) inside)
    · by_cases whole : options.revisionsPerSegment ≤ n - k / options.revisionsPerSegment * options.revisionsPerSegment
      · exact .inl (Nat.min_eq_right whole)
      · refine .inr fun last member => ?_
        obtain ⟨m, rfl⟩ : ∃ m, n = m + 1 := Nat.exists_eq_succ_of_ne_zero (by omega)
        rw [List.range_succ, List.map_append, List.map_singleton, List.getLast?_concat] at member
        obtain rfl := Option.some.inj member
        rw [inj (Nat.lt_succ_self m) inside, Nat.div_eq_iff some]
        have start := Nat.div_mul_le_self k options.revisionsPerSegment
        omega
  · simp only [List.forall_mem_map, List.mem_range]
    intro first one second other same next
    rw [inj other one] at same
    have bound := Nat.mod_lt second some
    have step : second % options.revisionsPerSegment = first % options.revisionsPerSegment + 1 := Nat.succ.inj next
    have early : ¬ first % options.revisionsPerSegment + 1 = options.revisionsPerSegment := by omega
    simp only [script, if_neg early, same, scriptedText]
    refine stableWords_grow _ ?_
    split <;> omega
  · simp only [List.forall_mem_map, List.mem_range]
    intro k _
    rw [script_status_iff]
    by_cases last : k % options.revisionsPerSegment + 1 = options.revisionsPerSegment
    · simp [script, last]
    · simp [script, last, scriptedWord_ne_empty]
  · rw [List.pairwise_map]
    refine List.pairwise_lt_range.imp_of_mem fun one other later final => ?_
    rw [ne_eq, inj (List.mem_range.mp other) (List.mem_range.mp one)]
    exact (final_before some ((script_status_iff options _).mp final) later).ne'
  · intro k bound
    rw [List.length_map, List.length_range] at bound
    simp only [List.getElem_map, List.getElem_range, script_status_iff]
    intro final
    refine ⟨fun earlier before => ?_, ?_⟩
    · rw [ne_eq, inj (by omega) bound]
      have reached := Nat.div_le_div_right (c := options.revisionsPerSegment) before
      have risen := final_before some final (Nat.lt_add_one k)
      omega
    · have next := @ServerSession.next_position options k some
      have position := Nat.div_add_mod' k options.revisionsPerSegment
      rw [if_pos final] at next
      have starts : (k + 1) / options.revisionsPerSegment * options.revisionsPerSegment = k + 1 := by
        rw [next.1, Nat.add_mul]
        omega
      simp only [script, starts]
  · rw [List.pairwise_map]
    refine List.pairwise_lt_range.imp fun later => ?_
    exact Int.mul_lt_mul_of_pos_right (by omega) (updateMs_pos audible)

/-- Whatever frames the server reads, its responses keep the transcript contract. Their number bounds the ids, which
must fit into sixteen bytes, and the times. -/
theorem responses_keep_contract (options : MockSttServerOptions) (stats : MockSttServerStats)
    (receptions : List Reception) (audible : 1 ≤ options.framesPerUpdate) (some : 1 ≤ options.revisionsPerSegment)
    (narrow : options.revisionsPerSegment < 2 ^ 32)
    (segments : (streamTranscription options stats receptions).1.length ≤ 10 ^ 11 * options.revisionsPerSegment)
    (times : (streamTranscription options stats receptions).1.length * updateMs options < 2 ^ 63) :
    KeepsContract options.revisionsPerSegment
      ((streamTranscription options stats receptions).1.map (·.toTranscriptSegment)) := by
  have start : ({} : ServerSession).Before options 0 := ⟨by simp, by simp, by simp⟩
  have followed := serve_eq_script options start some narrow
    { stats with sessionsServed := stats.sessionsServed + 1 } receptions (by rw [Nat.zero_add]; exact times)
  rw [streamTranscription, followed, ← List.range_eq_range']
  exact script_keepsContract some segments audible

/-- A valid frame. -/
private def speech : Reception where
  request := ⟨{
    tenantId := "local", meetingId := "", sessionId := "s", trackId := "stt", provider := "desktop"
    sequence := 0, capturedAtUnixMs := 0, monotonicTimestampNs := 0, sampleRateHz := 16000, channels := 1
    encoding := .pcmS16le, payload := [], discontinuity := false }⟩

private def answered : List TranscriptSegment :=
  (streamTranscription {} {} (List.replicate 25 speech)).1.map (·.toTranscriptSegment)

/-- Five updates of segments with three revisions. -/
theorem responses_keep_contract_default :
    answered.map (fun segment => (segment.segmentId, segment.stableText, segment.mutableText)) =
      [("seg-0000", "", "voxmesh"), ("seg-0000", "voxmesh", "records"), ("seg-0000", "voxmesh records meetings", ""),
        ("seg-0001", "", "and"), ("seg-0001", "and", "transcribes")] ∧ KeepsContract 3 answered := by
  have count : (streamTranscription {} {} (List.replicate 25 speech)).1.length = 5 := by decide +kernel
  exact ⟨by decide +kernel, responses_keep_contract {} {} (List.replicate 25 speech) (by decide) (by decide) (by decide)
    (by rw [count]; decide) (by rw [count]; decide)⟩

end VoxMesh.Stt.Testing
