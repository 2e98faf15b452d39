import ScreenEffects.Json.Read
import ScreenEffects.Pass.Blur
import ScreenEffects.Pass.Effects
import ScreenEffects.Pipeline.Basic

/-!
# Pipelines and passes in settings

The settings of a pipeline and of an effect pass. Every field may be left out.
-/

namespace ScreenEffects

open Json

def Precision.ofTree? (t : Tree) : Option Precision :=
  t.oneOf? [("unsignedByte", .byte), ("halfFloat", .half)]

def KernelSize.ofTree? (t : Tree) : Option KernelSize :=
  t.oneOf? (KernelSize.all.map fun k => (k.name, k))

/-- The settings of a pipeline in a settings tree. -/
def PipelineConfig.ofTree? (t : Tree) : Option PipelineConfig := do
  let fields ← t.record? ["depthBuffer", "stencilBuffer", "alpha", "multisampling",
    "frameBufferType", "autoRenderToScreen"]
  return {
    depthBuffer := ← Tree.optional? fields "depthBuffer" Tree.bool? true
    stencilBuffer := ← Tree.optional? fields "stencilBuffer" Tree.bool? false
    alpha := ← Tree.optional? fields "alpha" Tree.bool? true
    multisampling := ← Tree.optional? fields "multisampling" Tree.uint32? 0
    precision := ← Tree.optional? fields "frameBufferType" Precision.ofTree? .byte
    autoToScreen := ← Tree.optional? fields "autoRenderToScreen" Tree.bool? true }

/-- The settings of an effect pass in a settings tree. -/
def EffectPassConfig.ofTree? (t : Tree) : Option EffectPassConfig := do
  let fields ← t.record? ["dithering", "minTime", "maxTime"]
  let d : EffectPassConfig := {}
  return {
    dithering := ← Tree.optional? fields "dithering" Tree.bool? d.dithering
    minTime := ← Tree.optional? fields "minTime" Tree.float32? d.minTime
    maxTime := ← Tree.optional? fields "maxTime" Tree.float32? d.maxTime }

end ScreenEffects
