import ScreenEffects.CommandLine.MemoryDisk
import ScreenEffects.Main
import ScreenEffects.Pass.Labelled
import ScreenEffects.Probe.Bench
import ScreenEffects.Probe.Pass
import ScreenEffects.Selection
import ScreenEffects.Trace.Basic
import ScreenEffects.Trace.Device
import ScreenEffects.Trace.Effect
import ScreenEffects.Trace.Pass
import ScreenEffects.Proofs.Merge.Acceptance
import ScreenEffects.Proofs.Merge.Marks
import ScreenEffects.Proofs.Merge.Isolation
import ScreenEffects.Proofs.Merge.Sections
import ScreenEffects.Proofs.Act
import ScreenEffects.Proofs.Pass.Coherence
import ScreenEffects.Proofs.Pipeline.Frames
import ScreenEffects.Proofs.Pass.DepthBuffer
import ScreenEffects.Proofs.Pipeline.Operations
import ScreenEffects.Proofs.Device.Recording
import ScreenEffects.Proofs.Pass.Drawing
import ScreenEffects.Proofs.Pipeline.CurrentImage
import ScreenEffects.Proofs.Pipeline.Masks
import ScreenEffects.Proofs.Pipeline.SharedDepth
import ScreenEffects.Proofs.Pipeline.DepthRuns
import ScreenEffects.Proofs.Pipeline.DepthDraws
import ScreenEffects.Proofs.Pipeline.OpenMasks
import ScreenEffects.Proofs.Pass.Any
import ScreenEffects.Proofs.Pass.Refusal
import ScreenEffects.Proofs.Merge.Order
import ScreenEffects.Proofs.Merge.Symbols
import ScreenEffects.Proofs.Merge.Filling
import ScreenEffects.Proofs.Pipeline.DepthFeedback
import ScreenEffects.Proofs.Device.Account
import ScreenEffects.Proofs.Device.Untouched
import ScreenEffects.Proofs.Pass.Kept
import ScreenEffects.Proofs.Pass.Account
import ScreenEffects.Proofs.Pass.Issued
import ScreenEffects.Proofs.Pipeline.Account
import ScreenEffects.Proofs.Pipeline.AccountRuns
import ScreenEffects.Proofs.Pipeline.ColourFeedback
import ScreenEffects.Proofs.Effect.Noted
import ScreenEffects.Proofs.Pass.Told
import ScreenEffects.Proofs.Pass.Preparation
import ScreenEffects.Proofs.Pipeline.Presented
import ScreenEffects.Proofs.Device.Sizes
import ScreenEffects.Proofs.Pass.Sizes
import ScreenEffects.Proofs.Pipeline.Sizes
import ScreenEffects.Proofs.Pipeline.SizeRuns
import ScreenEffects.Proofs.Glsl.Renaming
import ScreenEffects.Proofs.Device.Layers
import ScreenEffects.Proofs.Selection.DefaultLayer
import ScreenEffects.Proofs.Blend.Agreement
import ScreenEffects.Proofs.Resolution
import ScreenEffects.Proofs.Glsl.Partition
import ScreenEffects.Proofs.Glsl.References
import ScreenEffects.Proofs.Glsl.Functions
import ScreenEffects.Proofs.Pipeline.Routine
import ScreenEffects.Proofs.Pass.Hookless
import ScreenEffects.Proofs.CommandLine.Simulation
import ScreenEffects.Proofs.OrderedMap.History
