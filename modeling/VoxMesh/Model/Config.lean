import VoxMesh.Model.Types

/-! # The recorder's configuration

The configuration file is a JSON document whose keys are all optional. The parser walks it section by section;
its validator keeps the first failure, and what it has read by then is thrown away. JSON values are those of the
source's library, which keeps three types of numbers apart.
-/

namespace VoxMesh.Audio

structure RecorderConfig where
  archivalMicrophone : TrackFormat := { sampleRate := 48000, channels := 1, format := .float32Le }
  archivalSystemOutput : TrackFormat := { sampleRate := 48000, channels := 2, format := .float32Le }
  sttStream : TrackFormat := { sampleRate := 16000, format := .pcmS16Le }
  sttFrameDuration : ℕ := 100
  captureFrameDuration : ℕ := 10
  ringBufferCapacityFrames : ℕ := 512
deriving DecidableEq, Repr

/-- A JSON value. A number is unsigned when it is written without a sign, a fraction or an exponent. -/
inductive Json where
  | null
  | boolean (value : Bool)
  | unsigned (value : ℕ)
  | integer (value : ℤ)
  | float (value : ℚ)
  | string (text : String)
  | array (elements : List Json)
  | object (members : List (String × Json))

namespace Json

def isObject : Json → Bool
  | .object _ => true
  | _ => false

/-- The member of an object, if there is one of the key. -/
def find? : Json → String → Option Json
  | .object members, key => members.lookup key
  | _, _ => none

/-- The value of an unsigned number in the range. -/
def unsignedIn (low high : ℕ) : Json → Option ℕ
  | .unsigned value => if value < low || value > high then none else some value
  | _ => none

end Json

/-- The first validation failure. -/
structure Validator where
  error : String := ""
deriving DecidableEq, Repr

namespace Validator

def ok (v : Validator) : Bool := v.error.isEmpty

def fail (v : Validator) (message : String) : Validator := if v.error.isEmpty then ⟨message⟩ else v

end Validator

def parseFormat (text : String) : Option SampleFormat :=
  if text == "pcm_s16le" then some .pcmS16Le
  else if text == "float32le" then some .float32Le
  else none

def readFormat (node : Json) (name : String) (out : TrackFormat) (v : Validator) : TrackFormat × Validator :=
  match node.find? "format" with
  | none => (out, v)
  | some (.string text) =>
      match parseFormat text with
      | none => (out, v.fail (name ++ ".format must be \"pcm_s16le\" or \"float32le\""))
      | some format => ({ out with format := format }, v)
  | some _ => (out, v.fail (name ++ ".format must be a string"))

def readChannels (node : Json) (name : String) (out : TrackFormat) (v : Validator) : TrackFormat × Validator :=
  match node.find? "channels" with
  | none => readFormat node name out v
  | some channels =>
      match channels.unsignedIn 1 8 with
      | none => (out, v.fail (name ++ ".channels must be an integer in [1, 8]"))
      | some channels => readFormat node name { out with channels := channels % 2 ^ 16 } v

/-- A failure ends the reading; what was read before it stays. -/
def readTrackFormat (node : Json) (name : String) (out : TrackFormat) (v : Validator) : TrackFormat × Validator :=
  if !node.isObject then (out, v.fail (name ++ " must be an object"))
  else
    match node.find? "sample_rate_hz" with
    | none => readChannels node name out v
    | some rate =>
        match rate.unsignedIn 4000 384000 with
        | none => (out, v.fail (name ++ ".sample_rate_hz must be an integer in [4000, 384000]"))
        | some rate => readChannels node name { out with sampleRate := rate % 2 ^ 32 } v

def readDurationMs (node : Json) (key name : String) (out : ℕ) (v : Validator) : ℕ × Validator :=
  match node.find? key with
  | none => (out, v)
  | some value =>
      match value.unsignedIn 1 1000 with
      | none => (out, v.fail (name ++ " must be an integer in [1, 1000]"))
      | some duration => (duration, v)

/-- The configuration, or the reason why there is none. -/
structure ConfigParseResult where
  config : Option RecorderConfig
  error : String
deriving DecidableEq, Repr

/-- The track format of a member, if there is one. -/
def readTrackMember (node : Json) (key name : String) (out : TrackFormat) (v : Validator) : TrackFormat × Validator :=
  match node.find? key with
  | none => (out, v)
  | some member => readTrackFormat member name out v

/-- The part of the parser that reads the section `archival`. -/
def readArchival (root : Json) (config : RecorderConfig) (v : Validator) : RecorderConfig × Validator :=
  match root.find? "archival" with
  | none => (config, v)
  | some archival =>
      if !archival.isObject then (config, v.fail "archival must be an object")
      else
        let (microphone, v) :=
          readTrackMember archival "microphone" "archival.microphone" config.archivalMicrophone v
        let (systemOutput, v) :=
          readTrackMember archival "system_output" "archival.system_output" config.archivalSystemOutput v
        ({ config with archivalMicrophone := microphone, archivalSystemOutput := systemOutput }, v)

/-- The part of the parser that reads the section `stt`. -/
def readStt (root : Json) (config : RecorderConfig) (v : Validator) : RecorderConfig × Validator :=
  match root.find? "stt" with
  | none => (config, v)
  | some stt =>
      let (format, v) := readTrackFormat stt "stt" config.sttStream v
      let config := { config with sttStream := format }
      if v.ok then
        let (duration, v) := readDurationMs stt "frame_duration_ms" "stt.frame_duration_ms" config.sttFrameDuration v
        ({ config with sttFrameDuration := duration }, v)
      else (config, v)

def readCapacity (capture : Json) (config : RecorderConfig) (v : Validator) : RecorderConfig × Validator :=
  match capture.find? "ring_buffer_capacity_frames" with
  | none => (config, v)
  | some capacity =>
      match capacity.unsignedIn 1 65536 with
      | none => (config, v.fail "capture.ring_buffer_capacity_frames must be an integer in [1, 65536]")
      | some capacity => ({ config with ringBufferCapacityFrames := capacity }, v)

/-- The part of the parser that reads the section `capture`. -/
def readCapture (root : Json) (config : RecorderConfig) (v : Validator) : RecorderConfig × Validator :=
  match root.find? "capture" with
  | none => (config, v)
  | some capture =>
      if !capture.isObject then (config, v.fail "capture must be an object")
      else
        let (duration, v) :=
          readDurationMs capture "frame_duration_ms" "capture.frame_duration_ms" config.captureFrameDuration v
        let config := { config with captureFrameDuration := duration }
        if v.ok then readCapacity capture config v else (config, v)

/-- The argument is what the JSON library makes of the text, none when it is not JSON. -/
def parseRecorderConfig : Option Json → ConfigParseResult
  | none => ⟨none, "invalid JSON"⟩
  | some root =>
      if !root.isObject then ⟨none, "top-level JSON value must be an object"⟩
      else
        let (config, v) := readArchival root {} {}
        let (config, v) := if v.ok then readStt root config v else (config, v)
        let (config, v) := if v.ok then readCapture root config v else (config, v)
        if !v.ok then ⟨none, v.error⟩ else ⟨some config, ""⟩

end VoxMesh.Audio
