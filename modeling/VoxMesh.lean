import VoxMesh.Soundness.RingBuffer
import VoxMesh.Soundness.AlignedStream
import VoxMesh.Soundness.MasterTimeline
import VoxMesh.Soundness.DiscontinuityFlags
import VoxMesh.Soundness.DriftMeasurement
import VoxMesh.Soundness.SttStream
import VoxMesh.Soundness.SttTimestamps
import VoxMesh.Soundness.RecordingWriter
import VoxMesh.Soundness.EncodedRecording
import VoxMesh.Soundness.CapturePipeline
import VoxMesh.Soundness.SttAccounting
import VoxMesh.Soundness.SttUploadOrder
import VoxMesh.Soundness.SttSequenceGaps
import VoxMesh.Soundness.RecorderLifecycle
import VoxMesh.Soundness.SavedRecording
import VoxMesh.Soundness.KeptRecordings
import VoxMesh.Soundness.PausedStream
import VoxMesh.Soundness.CaptureLosses
import VoxMesh.Soundness.FailedWrite
import VoxMesh.Soundness.Transcript
import VoxMesh.Soundness.TranscriptSessions
import VoxMesh.Soundness.RecorderConfig
import VoxMesh.Soundness.ScriptedTranscript
import VoxMesh.Soundness.RejectedFrames
import VoxMesh.Soundness.LongRuns
import VoxMesh.Soundness.VisibleDrops
import VoxMesh.Soundness.MatchedPipelines
import VoxMesh.Soundness.Decimation
import VoxMesh.Soundness.Realignment
import VoxMesh.Soundness.Version
import VoxMesh.Soundness.SessionListener
import VoxMesh.Soundness.TrackAlignment
import VoxMesh.Soundness.TranscriptionLink
import VoxMesh.Soundness.DisplayedTranscript
import VoxMesh.Soundness.LockWait
import VoxMesh.Soundness.EncodedSession
import VoxMesh.Soundness.FinishedFiles
import VoxMesh.Soundness.WriterHandles
import VoxMesh.Soundness.TranscribedSession
import VoxMesh.Soundness.ClosedSession
import VoxMesh.Soundness.ExplainedFailure
import VoxMesh.Soundness.WasapiThreads
