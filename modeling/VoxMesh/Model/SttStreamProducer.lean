import VoxMesh.Math.FixedWidth
import VoxMesh.Model.Types
import Mathlib.Algebra.Order.Floor.Ring
import Mathlib.Data.Rat.Floor

/-! # Deriving the transcription stream

`FirDecimator` reduces the sample rate by an integer factor through a circular history of input samples,
and `SttStreamProducer` reframes its output into frames of fixed length. Coefficients and filter sums are
rationals. The source designs the low-pass coefficients in floating point; here `designLowPass` is a
parameter. The elapsed time and the timestamp of an output frame are computed in the source's 64-bit words.
-/

namespace VoxMesh.Dsp

open VoxMesh.Audio FixedWidth

/-- Nearest integer, halves away from zero. -/
def lround (value : ℚ) : ℤ := if 0 ≤ value then ⌊value + 1 / 2⌋ else ⌈value - 1 / 2⌉

def clampToS16 (value : ℚ) : Sample := BitVec.ofInt 16 (max (-32768) (min (lround value) 32767))

structure FirDecimator where
  factor : ℕ
  coefficients : List ℚ
  history : List ℚ
  historyPos : ℕ := 0
  phase : ℕ := 0
deriving DecidableEq

namespace FirDecimator

/-- The constructor; `designLowPass` is given the number of taps and the cutoff. -/
def create (designLowPass : ℕ → ℚ → List ℚ) (factor : ℕ) (taps : ℕ := 63) : FirDecimator :=
  let factor := if factor = 0 then 1 else factor
  let coefficients := if factor = 1 then [1]
    else designLowPass (if taps % 2 = 0 then taps + 1 else taps) (4 / 5 / factor)
  { factor := factor, coefficients := coefficients, history := List.replicate coefficients.length 0 }

/-- The convolution loop from the given history index backwards. -/
def convolve (history : List ℚ) : List ℚ → ℕ → ℚ
  | [], _ => 0
  | coefficient :: rest, index =>
      coefficient * history.getD index 0 +
        convolve history rest (if index = 0 then history.length - 1 else index - 1)

def feed (decimator : FirDecimator) (sample : Sample) : FirDecimator × List Sample :=
  let taps := decimator.coefficients.length
  let history := decimator.history.set decimator.historyPos sample.toInt
  ({ decimator with
      history := history
      phase := (decimator.phase + 1) % decimator.factor
      historyPos := (decimator.historyPos + 1) % taps },
    if decimator.phase = 0 then [clampToS16 (convolve history decimator.coefficients decimator.historyPos)] else [])

/-- The samples appended to the output. -/
def process (decimator : FirDecimator) : List Sample → FirDecimator × List Sample
  | [] => (decimator, [])
  | sample :: rest =>
      let (decimator, output) := decimator.feed sample
      let (decimator, outputs) := decimator.process rest
      (decimator, output ++ outputs)

def reset (decimator : FirDecimator) : FirDecimator :=
  { decimator with history := decimator.history.map fun _ => 0, historyPos := 0, phase := 0 }

end FirDecimator

structure SttStreamConfig where
  input : TrackFormat := { format := .pcmS16Le }
  output : TrackFormat := { sampleRate := 16000, format := .pcmS16Le }
  frameDuration : ℕ := 100
deriving DecidableEq, Repr

structure SttStreamStats where
  framesIn : ℕ := 0
  framesOut : ℕ := 0
  rejectedFrames : ℕ := 0
deriving DecidableEq, Repr

structure SttStreamProducer where
  config : SttStreamConfig
  decimator : FirDecimator
  samplesPerOutputFrame : ℕ
  pending : List Sample := []
  nextSequence : ℕ := 0
  anchor : Option ℤ := none
  samplesEmitted : ℕ := 0
  pendingDiscontinuity : Bool := false
  stats : SttStreamStats := {}
deriving DecidableEq

namespace SttStreamProducer

def create (designLowPass : ℕ → ℚ → List ℚ) (config : SttStreamConfig) : Option SttStreamProducer :=
  let integerPcm := config.input.format == .pcmS16Le && config.output.format == .pcmS16Le
  let channelsSupported := (config.input.channels == 1 || config.input.channels == 2) && config.output.channels == 1
  let ratesSupported := 0 < config.input.sampleRate && 0 < config.output.sampleRate &&
    config.input.sampleRate % config.output.sampleRate == 0
  let frameSamples := samplesPerChannel config.output.sampleRate config.frameDuration
  if !integerPcm || !channelsSupported || !ratesSupported || frameSamples == 0 then none
  else some {
    config := config
    decimator := FirDecimator.create designLowPass (config.input.sampleRate / config.output.sampleRate)
    samplesPerOutputFrame := frameSamples }

/-- Mean of the two channels, rounded toward zero. -/
def downmix : List Sample → List Sample
  | left :: right :: rest => BitVec.ofInt 16 ((left.toInt + right.toInt).tdiv 2) :: downmix rest
  | _ => []

/-- The frame's samples as one channel. -/
def mono (config : SttStreamConfig) (frame : AudioFrame) : List Sample :=
  let samplesPerChannel := frame.sampleCountPerChannel
  let interleaved := pcmSamples frame.payload
  if config.input.channels = 2 then downmix (interleaved.take (2 * samplesPerChannel))
  else interleaved.take samplesPerChannel

/-- One pass of the output loop. -/
def emit (producer : SttStreamProducer) (anchor : ℤ) : SttStreamProducer × AudioFrame :=
  let elapsed := int64 (uint64 (producer.samplesEmitted * kNanosPerSecond) / producer.config.output.sampleRate : ℕ)
  ({ producer with
      nextSequence := producer.nextSequence + 1
      pendingDiscontinuity := false
      pending := producer.pending.drop producer.samplesPerOutputFrame
      samplesEmitted := producer.samplesEmitted + producer.samplesPerOutputFrame
      stats := { producer.stats with framesOut := producer.stats.framesOut + 1 } },
    { track := .sttStream
      sequence := producer.nextSequence
      timestamp := int64 (anchor + elapsed)
      sampleRate := producer.config.output.sampleRate
      channels := producer.config.output.channels
      format := .pcmS16Le
      discontinuity := producer.pendingDiscontinuity
      payload := pcmBytes (producer.pending.take producer.samplesPerOutputFrame) })

/-- The output loop; every pass consumes samples, so their number bounds the passes. -/
def emitAll (anchor : ℤ) : ℕ → SttStreamProducer → SttStreamProducer × List AudioFrame
  | 0, producer => (producer, [])
  | fuel + 1, producer =>
      if producer.pending.length < producer.samplesPerOutputFrame then (producer, [])
      else
        let (producer, output) := producer.emit anchor
        let (producer, outputs) := emitAll anchor fuel producer
        (producer, output :: outputs)

/-- Whether the frame has the configured input format. -/
def accepts (producer : SttStreamProducer) (frame : AudioFrame) : Bool :=
  frame.format == producer.config.input.format && frame.sampleRate == producer.config.input.sampleRate &&
    frame.channels == producer.config.input.channels

/-- The producer once it has taken note of an accepted frame's timestamp and flag. -/
def receive (producer : SttStreamProducer) (frame : AudioFrame) : SttStreamProducer :=
  let producer := { producer with
    stats := { producer.stats with framesIn := producer.stats.framesIn + 1 }
    anchor := some (producer.anchor.getD frame.timestamp) }
  if frame.discontinuity then
    -- Unrelated audio must not smear through the filter.
    { producer with decimator := producer.decimator.reset, pendingDiscontinuity := true }
  else producer

def process (producer : SttStreamProducer) (frame : AudioFrame) : SttStreamProducer × List AudioFrame :=
  if !producer.accepts frame then
    ({ producer with stats := { producer.stats with rejectedFrames := producer.stats.rejectedFrames + 1 } }, [])
  else
    let received := producer.receive frame
    let (decimator, samples) := received.decimator.process (mono producer.config frame)
    let filled := { received with decimator := decimator, pending := received.pending ++ samples }
    emitAll (filled.anchor.getD 0) filled.pending.length filled

end SttStreamProducer

end VoxMesh.Dsp
