import Projector.Shader.Params

/-!
# Fragment programs

The text of a program is put together from the pixel type's sampling and
from the effects of its key. It has four parts. `fetch` reads one sample
from the slots, `sample_at` may spread over the samples around it,
`adjust` applies the colour properties, and `fs_main` the filters.

Which component of a texel is luma and which is chroma is said once, by
`Sampling.lumaChannel` and `Sampling.chromaChannels`; the text spells
their letters.
-/

namespace Projector

/-- **One component of a texel.** -/
inductive Channel where
  /-- The first. -/
  | r
  /-- The second. -/
  | g
  /-- The third. -/
  | b
  /-- The fourth. -/
  | a
  deriving DecidableEq, Repr

/-- The letter of a component. -/
def Channel.letter : Channel → String
  | r => "r"
  | g => "g"
  | b => "b"
  | a => "a"

/-- The component of the first slot that is luma. -/
def Sampling.lumaChannel : Sampling → Channel
  | packed false => .g
  | _ => .r

/-- **The components of the second slot that are the blue and the red
difference.** Planar types have them in two slots, as the first component
of each. -/
def Sampling.chromaChannels : Sampling → Channel × Channel
  | semiPlanar false => (.r, .g)
  | semiPlanar true => (.g, .r)
  | packed true => (.g, .a)
  | packed false => (.r, .b)
  | planar => (.r, .r)
  | rgb => (.r, .g)

namespace Program

/-- Lines as a text. -/
def text (lines : List String) : String := String.join (lines.map (· ++ "\n"))

/-- What every program begins with: the uniforms, the textures, and the
vertex stage. -/
def prelude : List String :=
  ["struct VideoUniforms \x7b",
   "    yuv_matrix: mat3x3<f32>,",
   "    yuv_offset: vec4<f32>,",
   "    adjust: vec4<f32>,",
   "    rgb_c: vec4<f32>,",
   "    fx: vec4<f32>,",
   "    kern: vec4<f32>,",
   "    dxy: vec4<f32>,",
   "    sc: vec4<f32>,",
   "\x7d",
   "",
   "struct VertexOutput \x7b",
   "    @builtin(position) position: vec4<f32>,",
   "    @location(0) tex: vec2<f32>,",
   "\x7d",
   "",
   "@group(0) @binding(0) var p1: texture_2d<f32>;",
   "@group(0) @binding(1) var p2: texture_2d<f32>;",
   "@group(0) @binding(2) var p3: texture_2d<f32>;",
   "@group(0) @binding(3) var samp: sampler;",
   "@group(0) @binding(4) var<uniform> u: VideoUniforms;",
   "",
   "@vertex",
   "fn vs_main(@location(0) position: vec2<f32>, @location(1) tex: vec2<f32>) -> VertexOutput \x7b",
   "    var out: VertexOutput;",
   "    out.position = vec4<f32>(position, 0.0, 1.0);",
   "    out.tex = tex;",
   "    return out;",
   "\x7d"]

/-- The program of the overlay, which shows one texture as it is. -/
def overlaySource : String :=
  text (prelude ++
    ["",
     "@fragment",
     "fn fs_main(v: VertexOutput) -> @location(0) vec4<f32> \x7b",
     "    return textureSample(p1, samp, v.tex);",
     "\x7d"])

/-- How one sample is read. -/
def fetchBody (sampling : Sampling) : List String :=
  let luma := sampling.lumaChannel.letter
  let chroma := sampling.chromaChannels.1.letter ++ sampling.chromaChannels.2.letter
  match sampling with
  | .planar =>
    ["    let cb = textureSample(p2, samp, vec2<f32>(tc.x * u.sc.x, tc.y)).r;",
     "    let cr = textureSample(p3, samp, vec2<f32>(tc.x * u.sc.y, tc.y)).r;",
     "    return vec3<f32>(textureSample(p1, samp, tc).r, cb, cr);"]
  | .semiPlanar _ =>
    ["    let c = textureSample(p2, samp, vec2<f32>(tc.x * u.sc.x, tc.y))." ++ chroma ++ ";",
     "    return vec3<f32>(textureSample(p1, samp, tc)." ++ luma ++ ", c.x, c.y);"]
  | .packed _ =>
    ["    let c = textureSample(p2, samp, tc)." ++ chroma ++ ";",
     "    return vec3<f32>(textureSample(p1, samp, tc)." ++ luma ++ ", c.x, c.y);"]
  | .rgb => ["    return textureSample(p1, samp, tc).rgb;"]

/-- How a sample is taken: alone, or with those around it. -/
def sampleBody (effects : Effects) : List String :=
  if effects.meets .kernels then
    ["    let d = u.dxy;",
     "    var c = fetch(tc) * u.kern.x;",
     "    c += (fetch(tc + vec2<f32>(d.x, 0.0)) + fetch(tc - vec2<f32>(d.x, 0.0))",
     "        + fetch(tc + vec2<f32>(0.0, d.y)) + fetch(tc - vec2<f32>(0.0, d.y))) * u.kern.y;",
     "    c += (fetch(tc + d.xy) + fetch(tc - d.xy) + " ++
       "fetch(tc + d.zy) + fetch(tc - d.zy)) * u.kern.z;",
     "    return c;"]
  else ["    return fetch(tc);"]

/-- How the colour properties are applied to luma and chroma. -/
def adjustYuv (grayscale : Bool) : List String :=
  ["    let y = c.x * u.adjust.y + u.adjust.x;"] ++
    (if grayscale then ["    let uv = vec2<f32>(0.0, 0.0);"]
    else
      ["    let d = c.yz - vec2<f32>(128.0 / 255.0);",
       "    let uv = vec2<f32>(d.x * u.adjust.z - d.y * u.adjust.w, " ++
         "d.x * u.adjust.w + d.y * u.adjust.z);"]) ++
    ["    let yuv = vec3<f32>(y, uv + vec2<f32>(128.0 / 255.0));",
     "    return u.yuv_matrix * yuv + u.yuv_offset.xyz;"]

/-- How the colour properties are applied to a colour. -/
def adjustRgb (grayscale : Bool) : List String :=
  ["    let luma = dot(c, vec3<f32>(0.299, 0.587, 0.114));",
   if grayscale then "    let rgb = vec3<f32>(luma);"
   else "    let rgb = mix(vec3<f32>(luma), c, length(u.adjust.zw));",
   "    return rgb * u.adjust.y + vec3<f32>(u.adjust.x);"]

/-- How the filters are applied. -/
def filterBody (effects : Effects) : List String :=
  if effects.meets ⟨Effects.filters.bits ||| Effects.kernels.bits⟩ then
    ["    rgb = u.rgb_c.xyz * rgb + vec3<f32>(u.fx.x);"] ++
      if effects.contains .remapLuma then ["    rgb = rgb * u.fx.y + vec3<f32>(u.fx.z);"] else []
  else []

/-- A function of the program. -/
def function (head : String) (body : List String) : List String :=
  ["", head ++ " \x7b"] ++ body ++ ["\x7d"]

/-- The lines of the program of a key. -/
def lines (key : ProgramKey) : List String :=
  let sampling := key.pixelType.layout.sampling
  let grayscale := key.effects.contains .grayscale
  [s!"// {key.pixelType.longName} {key.effects.describe}"] ++ prelude ++
    function "fn fetch(tc: vec2<f32>) -> vec3<f32>" (fetchBody sampling) ++
    function "fn sample_at(tc: vec2<f32>) -> vec3<f32>" (sampleBody key.effects) ++
    function "fn adjust(c: vec3<f32>) -> vec3<f32>"
      (if sampling = .rgb then adjustRgb grayscale else adjustYuv grayscale) ++
    ["", "@fragment"] ++
    ["fn fs_main(v: VertexOutput) -> @location(0) vec4<f32> \x7b",
     "    var rgb = adjust(sample_at(v.tex));"] ++
    filterBody key.effects ++
    ["    return vec4<f32>(clamp(rgb, vec3<f32>(0.0), vec3<f32>(1.0)), 1.0);", "\x7d"]

/-- **The program of a key.** A type without a picture has none. -/
def source? (key : ProgramKey) : Option String :=
  if key.pixelType = .empty then none else some (text (lines key))

end Program

/-- The program for a pixel type with the effects in force. -/
def ShaderParams.fragmentSource (p : ShaderParams) (type : PixelType) : Option String :=
  Program.source? (p.programKey type)

end Projector
