import VoxMesh.Model.Config

/-! # What the configuration parser accepts

The checked items of a configuration form a table: for each a path into the document and a requirement. A
document is valid when it is an object and meets every requirement whose item is present. The parser returns what
a valid document says, with the defaults for what it leaves out, and for an invalid one complains about the first
item of the table that does not meet its requirement.
-/

namespace VoxMesh.Audio

/-- The value that the path leads to. -/
def Json.at (root : Json) : List String → Option Json
  | [] => some root
  | key :: rest => (root.find? key).bind (·.at rest)

/-- What is required of an item that is present. -/
inductive Requirement where
  | object
  | integer (low high : ℕ)
  | format
deriving DecidableEq

namespace Requirement

def Accepts : Requirement → Json → Prop
  | .object, value => value.isObject = true
  | .integer low high, .unsigned value => low ≤ value ∧ value ≤ high
  | .format, .string text => text = "pcm_s16le" ∨ text = "float32le"
  | _, _ => False

instance (requirement : Requirement) (value : Json) : Decidable (requirement.Accepts value) := by
  unfold Accepts
  split <;> infer_instance

/-- What a message says that the item must be. -/
def demand : Requirement → Json → String
  | .object, _ => "an object"
  | .integer low high, _ => "an integer in [" ++ toString low ++ ", " ++ toString high ++ "]"
  | .format, .string _ => "\"pcm_s16le\" or \"float32le\""
  | .format, _ => "a string"

end Requirement

structure Item where
  path : List String
  requirement : Requirement
deriving DecidableEq

/-- The keys of a path, separated by dots. -/
def dotted : List String → String
  | [] => ""
  | [key] => key
  | key :: rest => key ++ "." ++ dotted rest

namespace Item

def name (item : Item) : String := dotted item.path

def Valid (root : Json) (item : Item) : Prop :=
  ∀ value, root.at item.path = some value → item.requirement.Accepts value

/-- The message about an item that does not meet its requirement. -/
def complaint (root : Json) (item : Item) : Option String :=
  match root.at item.path with
  | none => none
  | some value =>
      if item.requirement.Accepts value then none
      else some (item.name ++ (" must be " ++ item.requirement.demand value))

theorem complaint_eq_none_iff {root : Json} {item : Item} : item.complaint root = none ↔ item.Valid root := by
  rw [complaint, Valid]
  cases root.at item.path <;> simp

end Item

/-- The items of a track format. -/
def trackItems (path : List String) : List Item :=
  [⟨path, .object⟩, ⟨path ++ ["sample_rate_hz"], .integer 4000 384000⟩, ⟨path ++ ["channels"], .integer 1 8⟩,
    ⟨path ++ ["format"], .format⟩]

def archivalItems : List Item :=
  ⟨["archival"], .object⟩ :: (trackItems ["archival", "microphone"] ++ trackItems ["archival", "system_output"])

def sttItems : List Item := trackItems ["stt"] ++ [⟨["stt", "frame_duration_ms"], .integer 1 1000⟩]

def captureItems : List Item :=
  [⟨["capture"], .object⟩, ⟨["capture", "frame_duration_ms"], .integer 1 1000⟩,
    ⟨["capture", "ring_buffer_capacity_frames"], .integer 1 65536⟩]

/-- The items in the order in which they are checked. -/
def configItems : List Item := archivalItems ++ sttItems ++ captureItems

namespace Json

/-- The number that the path leads to, or the default. -/
def number (root : Json) (path : List String) (default : ℕ) : ℕ :=
  match root.at path with
  | some (.unsigned value) => value
  | _ => default

def sampleFormat (root : Json) (path : List String) (default : SampleFormat) : SampleFormat :=
  match root.at path with
  | some (.string text) => (parseFormat text).getD default
  | _ => default

/-- The track format that the document states, with the defaults for what it leaves out. -/
def trackFormat (root : Json) (path : List String) (default : TrackFormat) : TrackFormat where
  sampleRate := root.number (path ++ ["sample_rate_hz"]) default.sampleRate
  channels := root.number (path ++ ["channels"]) default.channels
  format := root.sampleFormat (path ++ ["format"]) default.format

/-- The configuration that the document states, with the defaults for what it leaves out. -/
def recorderConfig (root : Json) : RecorderConfig where
  archivalMicrophone := root.trackFormat ["archival", "microphone"] ({} : RecorderConfig).archivalMicrophone
  archivalSystemOutput := root.trackFormat ["archival", "system_output"] ({} : RecorderConfig).archivalSystemOutput
  sttStream := root.trackFormat ["stt"] ({} : RecorderConfig).sttStream
  sttFrameDuration := root.number ["stt", "frame_duration_ms"] ({} : RecorderConfig).sttFrameDuration
  captureFrameDuration := root.number ["capture", "frame_duration_ms"] ({} : RecorderConfig).captureFrameDuration
  ringBufferCapacityFrames :=
    root.number ["capture", "ring_buffer_capacity_frames"] ({} : RecorderConfig).ringBufferCapacityFrames

end Json

/-- The documented ranges. -/
def TrackFormat.InRange (format : TrackFormat) : Prop :=
  4000 ≤ format.sampleRate ∧ format.sampleRate ≤ 384000 ∧ 1 ≤ format.channels ∧ format.channels ≤ 8

instance (format : TrackFormat) : Decidable format.InRange := inferInstanceAs (Decidable (_ ∧ _))

structure RecorderConfig.InRange (config : RecorderConfig) : Prop where
  archivalMicrophone : config.archivalMicrophone.InRange
  archivalSystemOutput : config.archivalSystemOutput.InRange
  sttStream : config.sttStream.InRange
  sttFrameDuration : 1 ≤ config.sttFrameDuration ∧ config.sttFrameDuration ≤ 1000
  captureFrameDuration : 1 ≤ config.captureFrameDuration ∧ config.captureFrameDuration ≤ 1000
  ringBufferCapacityFrames : 1 ≤ config.ringBufferCapacityFrames ∧ config.ringBufferCapacityFrames ≤ 65536

/-- The two documents say the same about every item. A section only has to be an object. -/
def Json.Agrees (first second : Json) : Prop := first.isObject = second.isObject ∧ ∀ item ∈ configItems,
  if item.requirement = .object then (first.at item.path).map Json.isObject = (second.at item.path).map Json.isObject
  else first.at item.path = second.at item.path

namespace Json

variable {root node : Json} {path : List String}

theorem at_snoc (here : root.at path = some node) (key : String) : root.at (path ++ [key]) = node.find? key := by
  induction path generalizing root with
  | nil =>
    obtain rfl := Option.some.inj here
    change (root.find? key).bind Option.some = _
    exact Option.bind_fun_some _
  | cons first rest ih =>
    obtain ⟨next, found, here⟩ := Option.bind_eq_some_iff.mp here
    rw [List.cons_append, Json.at, found]
    exact ih here

theorem at_snoc_of_none (absent : root.at path = none) (key : String) : root.at (path ++ [key]) = none := by
  induction path generalizing root with
  | nil => contradiction
  | cons first rest ih =>
    rw [List.cons_append, Json.at]
    rcases found : root.find? first with _ | next
    · rfl
    · rw [Json.at, found] at absent
      exact ih absent

theorem at_singleton (root : Json) (key : String) : root.at [key] = root.find? key := @at_snoc root root [] rfl key

end Json

theorem dotted_snoc {path : List String} (some : path ≠ []) (key : String) :
    dotted (path ++ [key]) = dotted path ++ ("." ++ key) := by
  induction path with
  | nil => contradiction
  | cons first rest ih =>
    cases rest with
    | nil => exact String.append_assoc
    | cons second rest =>
      calc dotted (first :: ((second :: rest) ++ [key]))
        _ = first ++ "." ++ dotted ((second :: rest) ++ [key]) := rfl
        _ = first ++ "." ++ (dotted (second :: rest) ++ ("." ++ key)) := by rw [ih (List.cons_ne_nil second rest)]
        _ = dotted (first :: second :: rest) ++ ("." ++ key) := String.append_assoc.symm

/-- The first complaint about the items. -/
def firstComplaint (root : Json) (items : List Item) : Option String := items.findSome? (·.complaint root)

@[simp] theorem firstComplaint_nil (root : Json) : firstComplaint root [] = none := rfl

@[simp] theorem firstComplaint_cons (root : Json) (item : Item) (rest : List Item) :
    firstComplaint root (item :: rest) = (item.complaint root).or (firstComplaint root rest) := by
  rw [firstComplaint, List.findSome?_cons]
  cases item.complaint root <;> rfl

@[simp] theorem firstComplaint_append (root : Json) (first second : List Item) :
    firstComplaint root (first ++ second) = (firstComplaint root first).or (firstComplaint root second) := by
  rw [firstComplaint, List.findSome?_append]
  rfl

@[simp] theorem firstComplaint_singleton (root : Json) (item : Item) :
    firstComplaint root [item] = item.complaint root := by
  rw [firstComplaint_cons, firstComplaint_nil, Option.or_none]

theorem firstComplaint_eq_none_iff {root : Json} {items : List Item} :
    firstComplaint root items = none ↔ ∀ item ∈ items, item.Valid root := by
  rw [firstComplaint, List.findSome?_eq_none_iff]
  exact forall₂_congr fun item _ => Item.complaint_eq_none_iff

/-- What a part of the parser does when the first complaint about its items is given: without one it returns the
value and leaves the validator, otherwise it fails. -/
def Reads {α : Type} (result : α × Validator) (v : Validator) (value : α) : Option String → Prop
  | none => result = (value, v)
  | some error => result.2 = v.fail error

namespace Item

variable {root value : Json} {path : List String} {requirement : Requirement}

theorem complaint_of_absent (absent : root.at path = none) : complaint root ⟨path, requirement⟩ = none := by
  rw [complaint, absent]

theorem complaint_of_accepts (present : root.at path = some value) (accepts : requirement.Accepts value) :
    complaint root ⟨path, requirement⟩ = none := by
  rw [complaint, present]
  exact if_pos accepts

theorem complaint_of_rejects (present : root.at path = some value) (rejects : ¬ requirement.Accepts value) :
    complaint root ⟨path, requirement⟩ = some (dotted path ++ (" must be " ++ requirement.demand value)) := by
  rw [complaint, present]
  exact if_neg rejects

end Item

namespace Json

/-- An unsigned number in the range is what the requirement accepts. -/
theorem unsignedIn_eq {low high : ℕ} {value : Json} : (∃ number, value = .unsigned number ∧
      value.unsignedIn low high = some number ∧ low ≤ number ∧ number ≤ high) ∨
    (value.unsignedIn low high = none ∧ ¬ (Requirement.integer low high).Accepts value) := by
  cases value with
  | unsigned number =>
    by_cases inside : low ≤ number ∧ number ≤ high
    · refine .inl ⟨number, rfl, if_neg ?_, inside⟩
      simp only [Bool.or_eq_true, decide_eq_true_eq]
      omega
    · refine .inr ⟨if_pos ?_, inside⟩
      simp only [Bool.or_eq_true, decide_eq_true_eq]
      omega
  | _ => exact .inr ⟨rfl, id⟩

end Json

section Members

variable {root node : Json} {path : List String}

/-- The complaint about a member, in the words of the parser. -/
theorem complaint_member (here : root.at path = some node) (named : path ≠ []) {key literal : String} {value : Json}
    {requirement : Requirement} (found : node.find? key = some value) (rejects : ¬ requirement.Accepts value)
    (same : "." ++ key ++ (" must be " ++ requirement.demand value) = literal) :
    Item.complaint root ⟨path ++ [key], requirement⟩ = some (dotted path ++ literal) := by
  have present : root.at (path ++ [key]) = some value := (Json.at_snoc here key).trans found
  have complaint : Item.complaint root ⟨path ++ [key], requirement⟩ =
      some (dotted (path ++ [key]) ++ (" must be " ++ requirement.demand value)) :=
    Item.complaint_of_rejects present rejects
  rw [complaint, dotted_snoc named, String.append_assoc, same]

/-- What an optional integer comes to: it is absent, in its range, or complained about. -/
theorem integer_member (here : root.at path = some node) (named : path ≠ []) (key : String) (low high default : ℕ)
    {literal : String} (same : "." ++ key ++ (" must be " ++ (Requirement.integer low high).demand .null) = literal) :
    (node.find? key = none ∧ root.number (path ++ [key]) default = default ∧
      Item.complaint root ⟨path ++ [key], .integer low high⟩ = none) ∨
    (∃ value number, node.find? key = some value ∧ value.unsignedIn low high = some number ∧ low ≤ number ∧
      number ≤ high ∧ root.number (path ++ [key]) default = number ∧
      Item.complaint root ⟨path ++ [key], .integer low high⟩ = none) ∨
    (∃ value, node.find? key = some value ∧ value.unsignedIn low high = none ∧
      Item.complaint root ⟨path ++ [key], .integer low high⟩ = some (dotted path ++ literal)) := by
  have present := Json.at_snoc here key
  cases found : node.find? key with
  | none =>
    rw [found] at present
    exact .inl ⟨rfl, by rw [Json.number, present], Item.complaint_of_absent present⟩
  | some value =>
    rw [found] at present
    rcases @Json.unsignedIn_eq low high value with ⟨number, rfl, inside, bounds⟩ | ⟨outside, rejects⟩
    · exact .inr (.inl ⟨_, number, rfl, inside, bounds.1, bounds.2, by rw [Json.number, present],
        Item.complaint_of_accepts present bounds⟩)
    · exact .inr (.inr ⟨value, rfl, outside, complaint_member here named found rejects same⟩)

variable (out : TrackFormat) (v : Validator)

theorem readFormat_reads (here : root.at path = some node) (named : path ≠ []) :
    Reads (readFormat node (dotted path) out v) v
      { out with format := root.sampleFormat (path ++ ["format"]) out.format }
      (Item.complaint root ⟨path ++ ["format"], .format⟩) := by
  have present := Json.at_snoc here "format"
  rw [readFormat]
  cases found : node.find? "format" with
  | none =>
    rw [found] at present
    rw [Item.complaint_of_absent present, Json.sampleFormat, present]
    rfl
  | some value =>
    rw [found] at present
    cases value with
    | string text =>
      dsimp only
      cases parsed : parseFormat text with
      | none =>
        have rejects : ¬ Requirement.format.Accepts (.string text) := by
          rintro (rfl | rfl) <;> cases parsed
        rw [complaint_member here named found rejects rfl]
        rfl
      | some format =>
        have accepts : Requirement.format.Accepts (.string text) := by
          rw [parseFormat] at parsed
          split at parsed
          next same => exact .inl (beq_iff_eq.mp same)
          next =>
            split at parsed
            next same => exact .inr (beq_iff_eq.mp same)
            next => contradiction
        rw [Item.complaint_of_accepts present accepts, Json.sampleFormat, present]
        dsimp only
        rw [parsed]
        rfl
    | _ =>
      rw [complaint_member here named found id rfl]
      rfl

theorem readChannels_reads (here : root.at path = some node) (named : path ≠ []) :
    Reads (readChannels node (dotted path) out v) v
      { out with
        channels := root.number (path ++ ["channels"]) out.channels
        format := root.sampleFormat (path ++ ["format"]) out.format }
      (firstComplaint root [⟨path ++ ["channels"], .integer 1 8⟩, ⟨path ++ ["format"], .format⟩]) := by
  have rest (out : TrackFormat) := readFormat_reads out v here named
  rw [readChannels, firstComplaint_cons, firstComplaint_cons, firstComplaint_nil, Option.or_none]
  rcases integer_member here named "channels" 1 8 out.channels rfl with ⟨found, same, fine⟩ |
    ⟨value, number, found, inside, low, high, same, fine⟩ | ⟨value, found, outside, complaint⟩
  · rw [found, fine, same, Option.none_or]
    exact rest out
  · rw [found, fine, same, Option.none_or]
    dsimp only
    rw [inside]
    dsimp only
    rw [Nat.mod_eq_of_lt (by omega)]
    exact rest { out with channels := number }
  · rw [found, complaint, Option.some_or]
    dsimp only
    rw [outside]
    rfl

/-- Reading a track format complains about the first of its items that is wrong. -/
theorem readTrackFormat_reads (here : root.at path = some node) (named : path ≠ []) :
    Reads (readTrackFormat node (dotted path) out v) v (root.trackFormat path out)
      (firstComplaint root (trackItems path)) := by
  have rest (out : TrackFormat) := readChannels_reads out v here named
  rw [readTrackFormat, trackItems, firstComplaint_cons, firstComplaint_cons]
  cases isObject : node.isObject with
  | false =>
    have rejects : ¬ Requirement.object.Accepts node := by simp [Requirement.Accepts, isObject]
    rw [Item.complaint_of_rejects here rejects]
    rfl
  | true =>
    have fine : Item.complaint root ⟨path, .object⟩ = none := Item.complaint_of_accepts here isObject
    rw [fine, Option.none_or, Bool.not_true, if_neg Bool.false_ne_true]
    rcases integer_member here named "sample_rate_hz" 4000 384000 out.sampleRate rfl with ⟨found, same, fine⟩ |
      ⟨value, number, found, inside, low, high, same, fine⟩ | ⟨value, found, outside, complaint⟩
    · rw [found, fine, Json.trackFormat, same, Option.none_or]
      exact rest out
    · rw [found, fine, Json.trackFormat, same, Option.none_or]
      dsimp only
      rw [inside]
      dsimp only
      rw [Nat.mod_eq_of_lt (by omega)]
      exact rest { out with sampleRate := number }
    · rw [found, complaint, Option.some_or]
      dsimp only
      rw [outside]
      rfl

theorem readDurationMs_reads (here : root.at path = some node) (named : path ≠ []) (key : String) (out : ℕ)
    {name : String} (known : dotted path ++ ("." ++ key) = name) :
    Reads (readDurationMs node key name out v) v (root.number (path ++ [key]) out)
      (Item.complaint root ⟨path ++ [key], .integer 1 1000⟩) := by
  rw [readDurationMs]
  rcases integer_member here named key 1 1000 out rfl with ⟨found, same, fine⟩ |
    ⟨value, number, found, inside, low, high, same, fine⟩ | ⟨value, found, outside, complaint⟩
  · rw [found, fine, same]
    rfl
  · rw [found, fine, same]
    dsimp only
    rw [inside]
    rfl
  · rw [found, complaint, ← String.append_assoc, known]
    dsimp only
    rw [outside]
    rfl

/-- Where there is no track, there is nothing to complain about. -/
theorem trackItems_absent (absent : root.at path = none) :
    firstComplaint root (trackItems path) = none ∧ root.trackFormat path out = out := by
  have none (key : String) := Json.at_snoc_of_none absent key
  have fine (key : String) (requirement : Requirement) : Item.complaint root ⟨path ++ [key], requirement⟩ = .none :=
    Item.complaint_of_absent (none key)
  constructor
  · rw [trackItems, firstComplaint_cons, firstComplaint_cons, firstComplaint_cons, firstComplaint_cons,
      fine, fine, fine, Item.complaint_of_absent absent]
    rfl
  · rw [Json.trackFormat, Json.number, Json.number, Json.sampleFormat, none, none, none]

theorem readTrackMember_reads (here : root.at path = some node) (key : String) {name : String}
    (known : dotted (path ++ [key]) = name) : Reads (readTrackMember node key name out v) v
      (root.trackFormat (path ++ [key]) out) (firstComplaint root (trackItems (path ++ [key]))) := by
  have present := Json.at_snoc here key
  rw [readTrackMember, ← known]
  cases found : node.find? key with
  | none =>
    obtain ⟨fine, same⟩ := trackItems_absent out (present.trans found)
    rw [fine, same]
    rfl
  | some track => exact readTrackFormat_reads out v (present.trans found) (by simp)

end Members

theorem firstComplaint_ne_empty {root : Json} {items : List Item} {error : String}
    (first : firstComplaint root items = some error) : error ≠ "" := by
  obtain ⟨item, -, complaint⟩ := List.exists_of_findSome?_eq_some first
  rw [Item.complaint] at complaint
  split at complaint
  next => contradiction
  next =>
    split at complaint
    next => contradiction
    next =>
      obtain rfl := Option.some.inj complaint
      simp

namespace Validator

/-- The first failure stays. -/
theorem fail_failed {error : String} (some : error ≠ "") (later : String) : Validator.fail ⟨error⟩ later = ⟨error⟩ := by
  rw [fail, if_neg]
  simpa using some

theorem ok_failed {error : String} (some : error ≠ "") : Validator.ok ⟨error⟩ = false := by
  simpa [ok] using some

end Validator

namespace Reads

variable {α β γ : Type} {a : α} {b : β} {root : Json} {items more : List Item} {first : α × Validator}

/-- What is read becomes part of a greater whole. -/
theorem map {v : Validator} {complaint : Option String} (combine : α → γ) (reads : Reads first v a complaint) :
    Reads (combine first.1, first.2) v (combine a) complaint := by
  cases complaint with
  | none =>
    obtain rfl : first = (a, v) := reads
    rfl
  | some error => exact reads

/-- Another part is read whether or not the first one failed. -/
theorem andThen (combine : α → β → γ) {second : Validator → β × Validator}
    (left : Reads first {} a (firstComplaint root items))
    (right : ∀ v, Reads (second v) v b (firstComplaint root more)) :
    Reads (combine first.1 (second first.2).1, (second first.2).2) {} (combine a b)
      (firstComplaint root (items ++ more)) := by
  rw [firstComplaint_append]
  cases complaint : firstComplaint root items with
  | none =>
    rw [complaint] at left
    obtain rfl : first = (a, {}) := left
    rw [Option.none_or]
    have right := right {}
    cases later : firstComplaint root more with
    | none =>
      rw [later] at right
      rw [show second {} = (b, {}) from right]
      rfl
    | some error =>
      rw [later] at right
      exact right
  | some error =>
    rw [complaint] at left
    have failed : first.2 = ⟨error⟩ := left
    have right := right ⟨error⟩
    rw [Option.some_or, failed]
    cases later : firstComplaint root more with
    | none =>
      rw [later] at right
      exact congrArg Prod.snd right
    | some ignored =>
      rw [later] at right
      exact right.trans (Validator.fail_failed (firstComplaint_ne_empty complaint) ignored)

/-- Another part is read unless the first one failed. -/
theorem andGuarded (second : α → Validator → α × Validator) (left : Reads first {} a (firstComplaint root items))
    {a' : α} (right : Reads (second a {}) {} a' (firstComplaint root more)) :
    Reads (if first.2.ok then second first.1 first.2 else first) {} a' (firstComplaint root (items ++ more)) := by
  rw [firstComplaint_append]
  cases complaint : firstComplaint root items with
  | none =>
    rw [complaint] at left
    obtain rfl : first = (a, {}) := left
    exact right
  | some error =>
    rw [complaint] at left
    have failed : first.2 = ⟨error⟩ := left
    rw [Option.some_or, failed, Validator.ok_failed (firstComplaint_ne_empty complaint), if_neg Bool.false_ne_true]
    exact left

end Reads

section Sections

variable (root : Json) (config : RecorderConfig)

theorem readArchival_reads : Reads (readArchival root config {}) {}
    { config with
      archivalMicrophone := root.trackFormat ["archival", "microphone"] config.archivalMicrophone
      archivalSystemOutput := root.trackFormat ["archival", "system_output"] config.archivalSystemOutput }
    (firstComplaint root archivalItems) := by
  have present := root.at_singleton "archival"
  rw [readArchival, archivalItems, firstComplaint_cons]
  cases found : root.find? "archival" with
  | none =>
    rw [found] at present
    have microphone := trackItems_absent config.archivalMicrophone (Json.at_snoc_of_none present "microphone")
    have systemOutput := trackItems_absent config.archivalSystemOutput (Json.at_snoc_of_none present "system_output")
    rw [List.singleton_append] at microphone systemOutput
    rw [firstComplaint_append, microphone.1, systemOutput.1, microphone.2, systemOutput.2,
      Item.complaint_of_absent present]
    rfl
  | some archival =>
    rw [found] at present
    cases isObject : archival.isObject with
    | false =>
      have rejects : ¬ Requirement.object.Accepts archival := by simp [Requirement.Accepts, isObject]
      rw [Item.complaint_of_rejects present rejects]
      dsimp only
      rw [isObject]
      rfl
    | true =>
      have fine : Item.complaint root ⟨["archival"], .object⟩ = none := Item.complaint_of_accepts present isObject
      dsimp only
      rw [isObject, fine, Option.none_or, Bool.not_true, if_neg Bool.false_ne_true]
      exact (readTrackMember_reads config.archivalMicrophone {} present "microphone" rfl).andThen
        (fun microphone systemOutput =>
          { config with archivalMicrophone := microphone, archivalSystemOutput := systemOutput })
        (fun v => readTrackMember_reads config.archivalSystemOutput v present "system_output" rfl)

theorem readStt_reads : Reads (readStt root config {}) {}
    { config with
      sttStream := root.trackFormat ["stt"] config.sttStream
      sttFrameDuration := root.number ["stt", "frame_duration_ms"] config.sttFrameDuration }
    (firstComplaint root sttItems) := by
  have present := root.at_singleton "stt"
  rw [readStt, sttItems]
  cases found : root.find? "stt" with
  | none =>
    rw [found] at present
    have track := trackItems_absent config.sttStream present
    have duration : root.at ["stt", "frame_duration_ms"] = none := Json.at_snoc_of_none present "frame_duration_ms"
    rw [firstComplaint_append, track.1, track.2, firstComplaint_cons, Item.complaint_of_absent duration, Json.number,
      duration]
    rfl
  | some stt =>
    rw [found] at present
    have first : Reads (readTrackFormat stt "stt" config.sttStream {}) {} _ _ :=
      readTrackFormat_reads config.sttStream {} present (by simp)
    have second := readDurationMs_reads {} present (by simp) "frame_duration_ms" config.sttFrameDuration rfl
    rw [← firstComplaint_singleton] at second
    exact (first.map fun format => { config with sttStream := format }).andGuarded
      (fun config v => ({ config with sttFrameDuration :=
          (readDurationMs stt "frame_duration_ms" "stt.frame_duration_ms" config.sttFrameDuration v).1 },
        (readDurationMs stt "frame_duration_ms" "stt.frame_duration_ms" config.sttFrameDuration v).2))
      (second.map fun duration => { config with
        sttStream := root.trackFormat ["stt"] config.sttStream
        sttFrameDuration := duration })

variable {root} in
theorem readCapacity_reads {capture : Json} (present : root.at ["capture"] = some capture) :
    Reads (readCapacity capture config {}) {}
      { config with ringBufferCapacityFrames :=
          root.number ["capture", "ring_buffer_capacity_frames"] config.ringBufferCapacityFrames }
      (Item.complaint root ⟨["capture", "ring_buffer_capacity_frames"], .integer 1 65536⟩) := by
  rw [readCapacity]
  rcases integer_member present (by simp) "ring_buffer_capacity_frames" 1 65536 config.ringBufferCapacityFrames rfl with
    ⟨found, same, fine⟩ | ⟨value, number, found, inside, low, high, same, fine⟩ | ⟨value, found, outside, complaint⟩ <;>
    rw [List.singleton_append] at *
  · rw [found, fine, same]
    rfl
  · rw [found, fine, same]
    dsimp only
    rw [inside]
    rfl
  · rw [found, complaint]
    dsimp only
    rw [outside]
    rfl

theorem readCapture_reads : Reads (readCapture root config {}) {}
    { config with
      captureFrameDuration := root.number ["capture", "frame_duration_ms"] config.captureFrameDuration
      ringBufferCapacityFrames :=
        root.number ["capture", "ring_buffer_capacity_frames"] config.ringBufferCapacityFrames }
    (firstComplaint root captureItems) := by
  have present := root.at_singleton "capture"
  rw [readCapture, captureItems, firstComplaint_cons]
  cases found : root.find? "capture" with
  | none =>
    rw [found] at present
    have duration : root.at ["capture", "frame_duration_ms"] = none := Json.at_snoc_of_none present "frame_duration_ms"
    have capacity : root.at ["capture", "ring_buffer_capacity_frames"] = none :=
      Json.at_snoc_of_none present "ring_buffer_capacity_frames"
    rw [firstComplaint_cons, firstComplaint_cons, Item.complaint_of_absent present, Item.complaint_of_absent duration,
      Item.complaint_of_absent capacity, Json.number, duration, Json.number, capacity]
    rfl
  | some capture =>
    rw [found] at present
    cases isObject : capture.isObject with
    | false =>
      have rejects : ¬ Requirement.object.Accepts capture := by simp [Requirement.Accepts, isObject]
      rw [Item.complaint_of_rejects present rejects]
      dsimp only
      rw [isObject]
      rfl
    | true =>
      have fine : Item.complaint root ⟨["capture"], .object⟩ = none := Item.complaint_of_accepts present isObject
      have first := readDurationMs_reads {} present (by simp) "frame_duration_ms" config.captureFrameDuration rfl
      rw [← firstComplaint_singleton] at first
      dsimp only
      rw [isObject, fine, Option.none_or, Bool.not_true, if_neg Bool.false_ne_true]
      refine (first.map fun duration => { config with captureFrameDuration := duration }).andGuarded
        (readCapacity capture) ?_
      rw [firstComplaint_singleton]
      exact readCapacity_reads _ present

end Sections

/-- The whole parser: it returns what the document states, or the first complaint. -/
theorem parseRecorderConfig_eq (root : Json) (isObject : root.isObject = true) : parseRecorderConfig (some root) =
    match firstComplaint root configItems with
    | none => ⟨some root.recorderConfig, ""⟩
    | some error => ⟨none, error⟩ := by
  have archival := readArchival_reads root {}
  have both := archival.andGuarded (fun config v => readStt root config v) (readStt_reads root _)
  have all := both.andGuarded (fun config v => readCapture root config v) (readCapture_reads root _)
  have ended (result : RecorderConfig × Validator)
      (reads : Reads result {} root.recorderConfig (firstComplaint root configItems)) :
      (if !result.2.ok then (⟨none, result.2.error⟩ : ConfigParseResult) else ⟨some result.1, ""⟩) =
        match firstComplaint root configItems with
        | none => ⟨some root.recorderConfig, ""⟩
        | some error => ⟨none, error⟩ := by
    cases first : firstComplaint root configItems with
    | none =>
      rw [first] at reads
      rw [show result = (root.recorderConfig, {}) from reads]
      rfl
    | some error =>
      rw [first] at reads
      rw [show result.2 = ⟨error⟩ from reads, Validator.ok_failed (firstComplaint_ne_empty first)]
      rfl
  rw [parseRecorderConfig, isObject, Bool.not_true, if_neg Bool.false_ne_true]
  exact ended _ all

theorem parseRecorderConfig_of_not_object {root : Json} (other : root.isObject = false) :
    parseRecorderConfig (some root) = ⟨none, "top-level JSON value must be an object"⟩ := by
  rw [parseRecorderConfig, other]
  rfl

/-- A valid document states a configuration within the documented ranges. -/
theorem inRange_of_valid {root : Json} (valid : ∀ item ∈ configItems, item.Valid root) :
    root.recorderConfig.InRange := by
  have bounded {path : List String} {low high : ℕ} (checked : ⟨path, .integer low high⟩ ∈ configItems) {default : ℕ}
      (between : low ≤ default ∧ default ≤ high) :
      low ≤ root.number path default ∧ root.number path default ≤ high := by
    rw [Json.number]
    split
    next value present => exact valid _ checked _ present
    next => exact between
  have track {path : List String} (rate : ⟨path ++ ["sample_rate_hz"], .integer 4000 384000⟩ ∈ configItems)
      (channels : ⟨path ++ ["channels"], .integer 1 8⟩ ∈ configItems) {default : TrackFormat}
      (between : default.InRange) : (root.trackFormat path default).InRange := by
    obtain ⟨low, high, few, many⟩ := between
    obtain ⟨low, high⟩ := bounded rate ⟨low, high⟩
    exact ⟨low, high, bounded channels ⟨few, many⟩⟩
  exact ⟨track (by decide) (by decide) (by decide), track (by decide) (by decide) (by decide),
    track (by decide) (by decide) (by decide), bounded (by decide) (by decide), bounded (by decide) (by decide),
    bounded (by decide) (by decide)⟩

namespace Json.Agrees

variable {first second : Json}

theorem complaint (agrees : first.Agrees second) {item : Item} (checked : item ∈ configItems) :
    item.complaint first = item.complaint second := by
  have same := agrees.2 item checked
  obtain ⟨path, requirement⟩ := item
  split at same
  next object =>
    obtain rfl : requirement = .object := object
    cases one : first.at path with
    | none =>
      rw [one, Option.map_none] at same
      have absent : second.at path = none := Option.map_eq_none_iff.mp same.symm
      rw [Item.complaint_of_absent one, Item.complaint_of_absent absent]
    | some value =>
      rw [one, Option.map_some] at same
      obtain ⟨other, present, alike⟩ := Option.map_eq_some_iff.mp same.symm
      have same : Requirement.object.Accepts other ↔ Requirement.object.Accepts value := by
        rw [Requirement.Accepts, Requirement.Accepts, alike]
      by_cases accepts : Requirement.object.Accepts value
      · rw [Item.complaint_of_accepts one accepts, Item.complaint_of_accepts present (same.mpr accepts)]
      · rw [Item.complaint_of_rejects one accepts, Item.complaint_of_rejects present (accepts ∘ same.mp)]
        rfl
  next => rw [Item.complaint, Item.complaint, same]

theorem firstComplaint (agrees : first.Agrees second) :
    firstComplaint first configItems = firstComplaint second configItems := by
  have alike (items : List Item) (checked : items ⊆ configItems) :
      Audio.firstComplaint first items = Audio.firstComplaint second items := by
    induction items with
    | nil => rfl
    | cons item rest ih =>
      obtain ⟨here, later⟩ := List.cons_subset.mp checked
      rw [firstComplaint_cons, firstComplaint_cons, agrees.complaint here, ih later]
  exact alike configItems (List.Subset.refl _)

theorem recorderConfig (agrees : first.Agrees second) : first.recorderConfig = second.recorderConfig := by
  have same {path : List String} {requirement : Requirement} (checked : ⟨path, requirement⟩ ∈ configItems)
      (leaf : requirement ≠ .object) : first.at path = second.at path := by
    have same := agrees.2 _ checked
    rwa [if_neg leaf] at same
  have number {path : List String} (low high : ℕ) (checked : ⟨path, .integer low high⟩ ∈ configItems)
      (default : ℕ) : first.number path default = second.number path default := by
    rw [number, number, same checked (by simp)]
  have track {path : List String} (rate : ⟨path ++ ["sample_rate_hz"], .integer 4000 384000⟩ ∈ configItems)
      (channels : ⟨path ++ ["channels"], .integer 1 8⟩ ∈ configItems)
      (format : ⟨path ++ ["format"], .format⟩ ∈ configItems) (default : TrackFormat) :
      first.trackFormat path default = second.trackFormat path default := by
    rw [trackFormat, trackFormat, number _ _ rate, number _ _ channels, sampleFormat, sampleFormat,
      same format (by simp)]
  rw [Json.recorderConfig, Json.recorderConfig, track (by decide) (by decide) (by decide),
    track (by decide) (by decide) (by decide), track (by decide) (by decide) (by decide),
    number 1 1000 (by decide), number 1 1000 (by decide), number 1 65536 (by decide)]

/-- The parser's result depends on the recognised items only. -/
theorem parseRecorderConfig (agrees : first.Agrees second) :
    parseRecorderConfig (some first) = parseRecorderConfig (some second) := by
  cases isObject : first.isObject with
  | false => rw [parseRecorderConfig_of_not_object isObject, parseRecorderConfig_of_not_object (agrees.1 ▸ isObject)]
  | true =>
    rw [parseRecorderConfig_eq first isObject, parseRecorderConfig_eq second (agrees.1 ▸ isObject),
      agrees.firstComplaint, agrees.recorderConfig]

end Json.Agrees

/-- The configuration parser accepts exactly the valid documents; it returns what they state, with the defaults for
what they leave out, and complains about the first invalid item of an invalid one. What is not an item has no
effect. -/
theorem parser_accepts_valid (root : Json) :
    ((parseRecorderConfig (some root)).config.isSome ↔ root.isObject ∧ ∀ item ∈ configItems, item.Valid root) ∧
    (∀ config, (parseRecorderConfig (some root)).config = some config →
      (parseRecorderConfig (some root)).error = "" ∧ config = root.recorderConfig ∧ config.InRange) ∧
    ((parseRecorderConfig (some root)).config = none → (parseRecorderConfig (some root)).error ≠ "" ∧
      (root.isObject = false → (parseRecorderConfig (some root)).error = "top-level JSON value must be an object") ∧
      (root.isObject = true → ∃ before item after value, configItems = before ++ item :: after ∧
        (∀ earlier ∈ before, earlier.Valid root) ∧
        root.at item.path = some value ∧ ¬ item.requirement.Accepts value ∧
        (parseRecorderConfig (some root)).error = item.name ++ (" must be " ++ item.requirement.demand value))) ∧
    ∀ other, root.Agrees other → parseRecorderConfig (some other) = parseRecorderConfig (some root) := by
  cases isObject : root.isObject with
  | false =>
    have outcome := parseRecorderConfig_of_not_object isObject
    exact ⟨by simp [outcome], by simp [outcome], by simp [outcome], fun other agrees => agrees.parseRecorderConfig.symm⟩
  | true =>
    have outcome := parseRecorderConfig_eq root isObject
    cases first : firstComplaint root configItems with
    | none =>
      rw [first] at outcome
      have valid := firstComplaint_eq_none_iff.mp first
      refine ⟨by simpa [outcome] using valid, ?_, by simp [outcome],
        fun other agrees => agrees.parseRecorderConfig.symm⟩
      intro config here
      rw [outcome] at here ⊢
      obtain rfl := Option.some.inj here
      exact ⟨rfl, rfl, inRange_of_valid valid⟩
    | some error =>
      rw [first] at outcome
      obtain ⟨before, item, after, split, complaint, earlier⟩ := List.findSome?_eq_some_iff.mp first
      refine ⟨?_, by simp [outcome], ?_, fun other agrees => agrees.parseRecorderConfig.symm⟩
      · rw [outcome]
        refine iff_of_false (by simp) fun valid => ?_
        rw [firstComplaint_eq_none_iff.mpr valid.2] at first
        contradiction
      · rw [outcome]
        refine fun _ => ⟨firstComplaint_ne_empty first, by simp, fun _ => ?_⟩
        have valid (other : Item) (member : other ∈ before) := Item.complaint_eq_none_iff.mp (earlier other member)
        rw [Item.complaint] at complaint
        split at complaint
        next => contradiction
        next value present =>
          split at complaint
          next => contradiction
          next rejects =>
            exact ⟨before, item, after, value, split, valid, present, rejects, (Option.some.inj complaint).symm⟩

/-- Only the given key is touched. -/
example : parseRecorderConfig (some (.object [("stt", .object [("sample_rate_hz", .unsigned 24000)])])) =
    ⟨some { sttStream := { sampleRate := 24000, format := .pcmS16Le } }, ""⟩ := by decide +kernel

end VoxMesh.Audio
