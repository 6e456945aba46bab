import VoxMesh.Soundness.ScriptedTranscript
import VoxMesh.Soundness.Transcript
import VoxMesh.Soundness.TranscriptionLink

/-! # What is on the screen

The updates that the callback is given are posted to the UI thread and applied in order. So at any time the screen shows
a beginning of the script, however the client, the transport, the handler and the UI thread take turns: one line for
each segment begun, the final text of those finished, and the latest revision of the last one.
-/

namespace VoxMesh.Stt.Testing

/-- The segments that the first updates belong to. -/
def segmentsBegun (options : MockSttServerOptions) (k : ℕ) : ℕ :=
  k / options.revisionsPerSegment + if k % options.revisionsPerSegment = 0 then 0 else 1

/-- The line of a segment after the first updates: that of its last update among them. -/
def lineAfter (options : MockSttServerOptions) (k segment : ℕ) : String :=
  (toUpdate (script options (min ((segment + 1) * options.revisionsPerSegment) k - 1))).line

variable {options : MockSttServerOptions}

theorem pass_framesInSession (options : MockSttServerOptions) (session : ServerSession) (stats : MockSttServerStats)
    (reception : Reception) : (pass options session stats reception).session.framesInSession =
      FixedWidth.uint64 (session.framesInSession + 1) := by
  unfold pass
  dsimp only
  split
  next => rfl
  next =>
    split
    next => rfl
    next =>
      split
      next => rfl
      next =>
        dsimp only [ServerSession.advance]
        split <;> rfl

/-- Only every `framesPerUpdate`-th frame is answered. -/
theorem pass_response_le (options : MockSttServerOptions) (session : ServerSession) (stats : MockSttServerStats)
    (reception : Reception) : (pass options session stats reception).response.toList.length ≤
      if options.framesPerUpdate ∣ FixedWidth.uint64 (session.framesInSession + 1) then 1 else 0 := by
  unfold pass
  dsimp only
  split
  next => exact Nat.zero_le _
  next =>
    split
    next => exact Nat.zero_le _
    next due =>
      rw [if_pos (Nat.dvd_of_mod_eq_zero (not_ne_iff.mp due))]
      split <;> simp

/-- So the number of answers is bounded by the number of frames. -/
theorem answers_le (options : MockSttServerOptions) (session : ServerSession) (stats : MockSttServerStats)
    (receptions : List Reception) (few : session.framesInSession + receptions.length < 2 ^ 64) :
    (serve options session stats receptions).1.length + session.framesInSession / options.framesPerUpdate ≤
      (session.framesInSession + receptions.length) / options.framesPerUpdate := by
  induction receptions generalizing session stats with
  | nil => simp [serve]
  | cons reception rest ih =>
    rw [List.length_cons] at few ⊢
    have counted := pass_framesInSession options session stats reception
    have answered := pass_response_le options session stats reception
    rw [FixedWidth.uint64_of_lt (by omega)] at counted answered
    have step : (session.framesInSession + 1) / options.framesPerUpdate = _ := Nat.succ_div
    have later := ih (pass options session stats reception).session (pass options session stats reception).stats
      (by omega)
    rw [counted, Nat.add_assoc, Nat.add_comm 1] at later
    rw [serve_cons]
    dsimp only
    split
    next =>
      rw [List.length_append]
      omega
    next =>
      rw [List.length_nil, Nat.zero_add]
      exact Nat.div_le_div_right (Nat.le_add_right ..)

/-- After an update its segment is the last one begun. -/
theorem segmentsBegun_succ (some : 1 ≤ options.revisionsPerSegment) (k : ℕ) :
    segmentsBegun options (k + 1) = k / options.revisionsPerSegment + 1 := by
  have next := @ServerSession.next_position options k some
  rw [segmentsBegun]
  split at next
  next => rw [next.1, next.2, if_pos rfl]
  next => rw [next.1, next.2, if_neg (Nat.succ_ne_zero _)]

/-- The update's own line is the new one of its segment. -/
theorem lineAfter_last (some : 1 ≤ options.revisionsPerSegment) (k : ℕ) :
    lineAfter options (k + 1) (k / options.revisionsPerSegment) = (toUpdate (script options k)).line := by
  have bound := Nat.lt_div_mul_add some (a := k)
  rw [lineAfter, Nat.add_mul, Nat.one_mul, Nat.min_eq_right (by omega), Nat.add_sub_cancel]

/-- The lines of the segments before stay. -/
theorem lineAfter_succ {k segment : ℕ} (some : 1 ≤ options.revisionsPerSegment)
    (before : segment < k / options.revisionsPerSegment) :
    lineAfter options (k + 1) segment = lineAfter options k segment := by
  have ended : (segment + 1) * options.revisionsPerSegment ≤ k := (Nat.le_div_iff_mul_le some).mp before
  rw [lineAfter, lineAfter, Nat.min_eq_left ended, Nat.min_eq_left (Nat.le_succ_of_le ended)]

/-- The line of a finished segment is its final text. -/
theorem lineAfter_of_finished {k segment : ℕ} (some : 1 ≤ options.revisionsPerSegment)
    (finished : (segment + 1) * options.revisionsPerSegment ≤ k) :
    lineAfter options k segment = scriptedText options segment options.revisionsPerSegment := by
  have last : (segment + 1) * options.revisionsPerSegment - 1 =
      segment * options.revisionsPerSegment + (options.revisionsPerSegment - 1) := by
    rw [Nat.add_mul, Nat.one_mul]
    omega
  have index : (segment * options.revisionsPerSegment + (options.revisionsPerSegment - 1)) /
      options.revisionsPerSegment = segment ∧
        (segment * options.revisionsPerSegment + (options.revisionsPerSegment - 1)) % options.revisionsPerSegment =
          options.revisionsPerSegment - 1 :=
    (Nat.div_mod_unique some).mpr ⟨by rw [Nat.mul_comm, Nat.add_comm], Nat.sub_lt some Nat.one_pos⟩
  rw [lineAfter, Nat.min_eq_left finished, last]
  have final : options.revisionsPerSegment - 1 + 1 = options.revisionsPerSegment := Nat.sub_add_cancel some
  simp [TranscriptUpdate.line_eq, toUpdate, script, index.1, index.2, final]

end VoxMesh.Stt.Testing

namespace VoxMesh.App.RecorderController

open VoxMesh.Stt VoxMesh.Stt.Testing

variable {options : MockSttServerOptions}

/-- The first updates of the script are shown, one line for each segment begun. -/
structure ShowsScript (options : MockSttServerOptions) (k : ℕ) (controller : RecorderController) : Prop where
  ids : controller.transcriptSegmentIds = (List.range (segmentsBegun options k)).map segmentId
  lines : controller.transcriptLines = (List.range (segmentsBegun options k)).map (lineAfter options k)

namespace ShowsScript

variable {controller : RecorderController} {k : ℕ}

theorem mem_ids (shows : ShowsScript options k controller) {id : String} :
    id ∈ controller.transcriptSegmentIds ↔ ∃ segment < segmentsBegun options k, segmentId segment = id := by
  rw [shows.ids]
  simp

theorem nodup (shows : ShowsScript options k controller) (few : segmentsBegun options k ≤ 10 ^ 11) :
    controller.transcriptSegmentIds.Nodup := by
  rw [shows.ids]
  refine List.nodup_range.map_on fun one inside other also same => ?_
  exact segmentId_inj ((List.mem_range.mp inside).trans_le few) ((List.mem_range.mp also).trans_le few) same

/-- The first update of a segment begins its line. -/
theorem begins (some : 1 ≤ options.revisionsPerSegment) (shows : ShowsScript options k controller)
    (first : k % options.revisionsPerSegment = 0) (few : k / options.revisionsPerSegment < 10 ^ 11) :
    ShowsScript options (k + 1) (controller.applyTranscript (toUpdate (script options k))) := by
  have begun : segmentsBegun options k = k / options.revisionsPerSegment := by rw [segmentsBegun, if_pos first]; rfl
  have named : (toUpdate (script options k)).segmentId = segmentId (k / options.revisionsPerSegment) := rfl
  have fresh : (toUpdate (script options k)).segmentId ∉ controller.transcriptSegmentIds := by
    rw [named, shows.mem_ids, begun]
    rintro ⟨earlier, before, same⟩
    exact before.ne (segmentId_inj (before.trans few) few same)
  obtain ⟨newIds, newLines⟩ := applyTranscript_new fresh
  refine ⟨?_, ?_⟩
  · rw [newIds, shows.ids, named, begun, segmentsBegun_succ some, List.range_succ, List.map_append]
    rfl
  · rw [newLines, shows.lines, begun, segmentsBegun_succ some, List.range_succ, List.map_append, List.map_singleton,
      lineAfter_last some]
    refine congrArg (· ++ _) (List.map_congr_left fun segment inside => ?_)
    exact (lineAfter_succ some (List.mem_range.mp inside)).symm

/-- A later update of the segment revises its line, which is the last one. -/
theorem revises (some : 1 ≤ options.revisionsPerSegment) (shows : ShowsScript options k controller)
    (later : k % options.revisionsPerSegment ≠ 0) (few : k / options.revisionsPerSegment < 10 ^ 11) :
    ShowsScript options (k + 1) (controller.applyTranscript (toUpdate (script options k))) := by
  have begun : segmentsBegun options k = k / options.revisionsPerSegment + 1 := by rw [segmentsBegun, if_neg later]
  have named : (toUpdate (script options k)).segmentId = segmentId (k / options.revisionsPerSegment) := rfl
  have inside : k / options.revisionsPerSegment < controller.transcriptSegmentIds.length := by
    rw [shows.ids, begun]
    simp
  have here : controller.transcriptSegmentIds[k / options.revisionsPerSegment] =
      (toUpdate (script options k)).segmentId := by
    rw [named]
    simp [shows.ids]
  obtain ⟨sameIds, newLines⟩ := applyTranscript_known (here ▸ List.getElem_mem inside)
  have index := (shows.nodup (begun ▸ few)).idxOf_getElem _ inside
  rw [here] at index
  refine ⟨?_, ?_⟩
  · rw [sameIds, shows.ids, begun, segmentsBegun_succ some]
  rw [newLines, index, shows.lines, begun, segmentsBegun_succ some]
  refine List.ext_getElem (by simp) fun segment inside _ => ?_
  rw [List.getElem_set, List.getElem_map, List.getElem_map, List.getElem_range]
  split
  next same => rw [← same, lineAfter_last some]
  next apart =>
    have within : segment < k / options.revisionsPerSegment + 1 := by simpa using inside
    rw [lineAfter_succ some (by omega)]

end ShowsScript

/-- Applied from empty lists, the first updates of the script show each segment begun with its line. -/
theorem lines_of_script (some : 1 ≤ options.revisionsPerSegment) {controller : RecorderController}
    (noIds : controller.transcriptSegmentIds = []) (noLines : controller.transcriptLines = []) (k : ℕ)
    (few : k ≤ 10 ^ 11 * options.revisionsPerSegment) :
    ShowsScript options k
      (((List.range k).map fun i => toUpdate (script options i)).foldl applyTranscript controller) := by
  induction k with
  | zero => exact ⟨by simp [noIds, segmentsBegun], by simp [noLines, segmentsBegun]⟩
  | succ k ih =>
    have shows := ih (Nat.le_of_succ_le few)
    have small : k / options.revisionsPerSegment < 10 ^ 11 := Nat.div_lt_of_lt_mul (by rw [Nat.mul_comm]; exact few)
    rw [List.range_succ, List.map_append, List.foldl_append, List.map_singleton, List.foldl_cons, List.foldl_nil]
    by_cases first : k % options.revisionsPerSegment = 0
    · exact shows.begins some first small
    · exact shows.revises some first small

end VoxMesh.App.RecorderController

namespace VoxMesh.Stt.Link

open Testing Machine
open App (RecorderController)

/-- The handler answers with the script. -/
theorem Standing.answers_eq_script {options : MockSttServerOptions} {link : Link} (standing : Standing options link)
    (nonempty : 1 ≤ options.revisionsPerSegment) (narrow : options.revisionsPerSegment < 2 ^ 32)
    (fits : link.written.length * updateMs options < 2 ^ 63) :
    link.answers options = (List.range link.written.length).map fun i => toUpdate (script options i) := by
  have written := standing.served.written_eq
  have before : ServerSession.Before options {} 0 := ⟨by simp, by simp, by simp⟩
  have scripted := serve_eq_script options before nonempty narrow { sessionsServed := 1 } link.receptions (by
    rw [Nat.zero_add]
    exact written ▸ fits)
  have updates := congrArg (List.map toUpdate) scripted
  rw [List.map_map, List.map_map] at updates
  rw [List.range_eq_range', written]
  exact updates

/-- In every run, what the UI thread has shown of the session after any number of its updates is one line for each
segment begun, with the final text of those finished, and it took at least `framesPerUpdate` accepted frames for each
update. -/
theorem displayed_transcript (options : MockSttServerOptions) (nonempty : 1 ≤ options.revisionsPerSegment)
    (narrow : options.revisionsPerSegment < 2 ^ 32) (config : GrpcSttClientConfig) (labels : List Label) (link : Link)
    (run : Run (step options) (initial config) labels link)
    (few : link.written.length ≤ 10 ^ 11 * options.revisionsPerSegment)
    (fits : link.written.length * updateMs options < 2 ^ 63) (controller : RecorderController)
    (noIds : controller.transcriptSegmentIds = []) (noLines : controller.transcriptLines = [])
    (processed : List TranscriptUpdate) (arrived : processed <+: link.client.log.session.delivered) :
    let shown := processed.foldl RecorderController.applyTranscript controller
    let begun := segmentsBegun options processed.length
    shown.transcriptSegmentIds = (List.range begun).map segmentId ∧
      shown.transcriptLines = (List.range begun).map (lineAfter options processed.length) ∧
      (∀ segment, (segment + 1) * options.revisionsPerSegment ≤ processed.length →
        shown.transcriptLines[segment]? = some (scriptedText options segment options.revisionsPerSegment)) ∧
      (link.client.log.session.accepted.length < 2 ^ 64 →
        processed.length ≤ link.client.log.session.accepted.length / options.framesPerUpdate) := by
  intro shown begun
  have standing := standing_of_run run
  have arrived := arrived.trans standing.given_prefix
  have written := standing.served.written_eq
  have whole := standing.answers_eq_script nonempty narrow fits
  have short : processed.length ≤ link.written.length := by
    simpa [whole] using arrived.length_le
  have shownFrom : processed = (List.range processed.length).map fun i => toUpdate (script options i) := by
    rw [whole] at arrived
    have taken := List.prefix_iff_eq_take.mp arrived
    rwa [← List.map_take, List.take_range, Nat.min_eq_left short] at taken
  have shows := RecorderController.lines_of_script nonempty noIds noLines processed.length (short.trans few)
  rw [← shownFrom] at shows
  obtain ⟨ids, lines⟩ := shows
  refine ⟨ids, lines, fun segment finished => ?_, fun small => ?_⟩
  · have within : segment < begun := by
      have before : segment + 1 ≤ processed.length / options.revisionsPerSegment :=
        (Nat.le_div_iff_mul_le nonempty).mpr finished
      exact before.trans (Nat.le_add_right ..)
    rw [lines, List.getElem?_map, List.getElem?_range within, Option.map_some, lineAfter_of_finished nonempty finished]
  · have counted := standing.read_prefix.length_le
    rw [List.length_map] at counted
    have bound := answers_le options {} { sessionsServed := 1 } link.receptions (by
      rw [Nat.zero_add]
      omega)
    rw [Nat.zero_add, Nat.zero_div, Nat.add_zero] at bound
    exact (short.trans_eq (congrArg List.length written)).trans (bound.trans (Nat.div_le_div_right counted))

/-- The options of the example, with segments of two revisions. -/
private def prompt : MockSttServerOptions where
  framesPerUpdate := 1
  revisionsPerSegment := 2

/-- A frame is sent, written, answered, and its answer received. -/
private def exchange (update : ℕ) : List Label :=
  ([.send { sampleRate := 16000, channels := 1 }, .sender 0, .sender 0, .writer true, .writer true,
      .writer true] : List Streaming.Label).map .client ++
    [.handle 0 true, .client (.reader (Option.some (script prompt update)))]

/-- After three updates the screen shows a finished segment and the beginning of the next one. -/
theorem displayed_transcript_prompt : ∃ link : Link,
    Run (step prompt) (initial {}) (([.start true .opened, .control, .control, .control] : List Streaming.Label).map
      .client ++ exchange 0 ++ exchange 1 ++ exchange 2) link ∧
    (link.client.log.session.delivered.foldl RecorderController.applyTranscript
      { outputDirectory := "" }).transcriptLines = ["voxmesh records", "meetings…"] := by
  have outcome : (exec (step prompt) (initial {}) (([.start true .opened, .control, .control, .control] :
      List Streaming.Label).map .client ++ exchange 0 ++ exchange 1 ++ exchange 2)).map (fun link =>
        (link.written.length, link.client.log.session.delivered.length)) = Option.some (3, 3) := by decide +kernel
  obtain ⟨link, run, same⟩ := Option.map_eq_some_iff.mp outcome
  obtain ⟨written, delivered⟩ := Prod.mk.inj same
  obtain ⟨-, lines, -⟩ := displayed_transcript prompt (by decide) (by decide) {} _ link run (by rw [written]; decide)
    (by rw [written]; decide) { outputDirectory := "" } rfl rfl _ (List.prefix_refl _)
  refine ⟨link, run, lines.trans ?_⟩
  rw [delivered]
  decide +kernel

end VoxMesh.Stt.Link
