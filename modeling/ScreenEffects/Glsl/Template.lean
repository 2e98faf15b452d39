import ScreenEffects.Text.Replace

/-!
# Programs with gaps

The fixed programs of the library. Two of them have gaps, marked by a name in capitals, which the
merged text of a list of effects fills: the head of the fragment program, the lines that move the
coordinates and the lines that shade the colour, and the head and the support lines of the vertex
program. The others are whole.
-/

namespace ScreenEffects.Glsl

/-- A text of the given lines, each closed by a line end. -/
def textOfLines (lines : List String) : String := String.join (lines.map (· ++ "\n"))

/-! ## Gaps -/

def fragmentHeadGap : String := "FRAGMENT_HEAD"

def mainUvGap : String := "FRAGMENT_MAIN_UV"

def mainImageGap : String := "FRAGMENT_MAIN_IMAGE"

def vertexHeadGap : String := "VERTEX_HEAD"

def mainSupportGap : String := "VERTEX_MAIN_SUPPORT"

/-- The template with each gap filled, one gap after the other: a text filled in is searched for
the gaps that come later. -/
def fill (template : String) (sections : List (String × String)) : String :=
  sections.foldl (fun text s => replaceText s.1 s.2 text) template

/-! ## Merged effects -/

/-- The fragment program around merged effects. -/
def effectFragment : String := textOfLines [
  "#ifdef FRAMEBUFFER_PRECISION_HIGH",
  "\tuniform mediump sampler2D inputBuffer;",
  "#else",
  "\tuniform lowp sampler2D inputBuffer;",
  "#endif",
  "",
  "#if DEPTH_PACKING == 3201",
  "\tuniform lowp sampler2D depthBuffer;",
  "#elif defined(GL_FRAGMENT_PRECISION_HIGH)",
  "\tuniform highp sampler2D depthBuffer;",
  "#else",
  "\tuniform mediump sampler2D depthBuffer;",
  "#endif",
  "",
  "uniform vec2 resolution;",
  "uniform vec2 texelSize;",
  "uniform float cameraNear;",
  "uniform float cameraFar;",
  "uniform float aspect;",
  "uniform float time;",
  "",
  "varying vec2 vUv;",
  "",
  "float unpackRGBAToDepth(const in vec4 v) \x7b",
  "\treturn dot(v, vec4(1.0, 1.0 / 255.0, 1.0 / 65025.0, 1.0 / 16581375.0));",
  "\x7d",
  "",
  "float readDepth(const in vec2 uv) \x7b",
  "#if DEPTH_PACKING == 3201",
  "\treturn unpackRGBAToDepth(texture2D(depthBuffer, uv));",
  "#else",
  "\treturn texture2D(depthBuffer, uv).r;",
  "#endif",
  "\x7d",
  "",
  "#ifdef DITHERING",
  "vec3 ditherNoise(const in vec3 color) \x7b",
  "\tfloat grid = fract(dot(vec2(171.0, 231.0), gl_FragCoord.xy) / 103.0);",
  "\tvec3 dither = vec3(grid, 1.0 - grid, grid * 0.5) / 255.0;",
  "\treturn color + dither - 0.5 / 255.0;",
  "\x7d",
  "#endif",
  "",
  "FRAGMENT_HEAD",
  "",
  "void main() \x7b",
  "\tFRAGMENT_MAIN_UV",
  "",
  "\tvec4 color0 = texture2D(inputBuffer, UV);",
  "\tvec4 color1 = vec4(0.0);",
  "",
  "\tFRAGMENT_MAIN_IMAGE",
  "",
  "\tgl_FragColor = color0;",
  "",
  "#ifdef DITHERING",
  "\tgl_FragColor.rgb = ditherNoise(gl_FragColor.rgb);",
  "#endif",
  "\x7d"]

/-- The vertex program around merged effects. -/
def effectVertex : String := textOfLines [
  "uniform vec2 resolution;",
  "uniform vec2 texelSize;",
  "uniform float cameraNear;",
  "uniform float cameraFar;",
  "uniform float aspect;",
  "uniform float time;",
  "",
  "attribute vec3 position;",
  "",
  "varying vec2 vUv;",
  "",
  "VERTEX_HEAD",
  "",
  "void main() \x7b",
  "\tvUv = position.xy * 0.5 + 0.5;",
  "",
  "\tVERTEX_MAIN_SUPPORT",
  "",
  "\tgl_Position = vec4(position.xy, 1.0, 1.0);",
  "\x7d"]

/-! ## Whole programs -/

/-- Copies a texture, scaled by an opacity. -/
def copyFragment : String := textOfLines [
  "#ifdef FRAMEBUFFER_PRECISION_HIGH",
  "\tuniform mediump sampler2D inputBuffer;",
  "#else",
  "\tuniform lowp sampler2D inputBuffer;",
  "#endif",
  "",
  "uniform float opacity;",
  "",
  "varying vec2 vUv;",
  "",
  "void main() \x7b",
  "\tvec4 texel = texture2D(inputBuffer, vUv);",
  "\tgl_FragColor = opacity * texel;",
  "\x7d"]

/-- Covers the screen and hands the coordinates on. -/
def screenVertex : String := textOfLines [
  "attribute vec3 position;",
  "",
  "varying vec2 vUv;",
  "",
  "void main() \x7b",
  "\tvUv = position.xy * 0.5 + 0.5;",
  "\tgl_Position = vec4(position.xy, 1.0, 1.0);",
  "\x7d"]

/-- One step of a Kawase blur; `kernel` is the distance of the samples in texels. -/
def kawaseFragment : String := textOfLines [
  "#ifdef FRAMEBUFFER_PRECISION_HIGH",
  "\tuniform mediump sampler2D inputBuffer;",
  "#else",
  "\tuniform lowp sampler2D inputBuffer;",
  "#endif",
  "",
  "uniform vec2 texelSize;",
  "uniform float kernel;",
  "",
  "varying vec2 vUv;",
  "",
  "void main() \x7b",
  "\tvec2 h = texelSize * 0.5;",
  "\tvec2 d = texelSize * kernel + h;",
  "\tvec4 sum = texture2D(inputBuffer, vUv + vec2(-d.x, d.y));",
  "\tsum += texture2D(inputBuffer, vUv + d);",
  "\tsum += texture2D(inputBuffer, vUv - d);",
  "\tsum += texture2D(inputBuffer, vUv + vec2(d.x, -d.y));",
  "\tgl_FragColor = sum * 0.25;",
  "\x7d"]

end ScreenEffects.Glsl
