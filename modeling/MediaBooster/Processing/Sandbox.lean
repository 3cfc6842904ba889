/-
# Processing.Sandbox -- the sandbox process and its client

The sandbox is a process of its own.  It refuses a source by exiting unsuccessfully or by leaving
an empty output, and its client says what that means: a refusal to probe a source, or to render an
image without a watermark, is blamed on the source; a refusal to render with a watermark, and any
refusal to make a video's thumbnail, is blamed on the renderer or the trusted policy
(`inspect_refused`, `image_refused`, `thumbnail_refused`).
-/
import MediaBooster.Service.Worker

namespace MediaBooster.Processing

set_option autoImplicit false

open MediaBooster.Domain MediaBooster.Media MediaBooster.Service MediaBooster.Storage

/-! ## The sandbox process -/

/-- What became of a process: its exit status and the lengths of what it wrote. -/
inductive ProcessRun
  | timedOut
  | notSpawned
  | exited (success : Bool) (stdout stderr : Nat)

/-- The metadata of an output file: whether it is a regular file, and its length. -/
structure OutputFile where
  isFile : Bool
  length : Nat

/-- The client of the sandbox. -/
structure ProcessSandboxProbe where
  maxOutputBytes : Nat

namespace ProcessSandboxProbe

variable (probe : ProcessSandboxProbe)

/-- A process that ran to its end, with what an unsuccessful exit means. -/
def finished (refusal : SandboxProbeError) : ProcessRun → Except SandboxProbeError Unit
  | .timedOut => .error .timeout
  | .notSpawned => .error .spawn
  | .exited success stdout stderr =>
      if !success then .error refusal
      else if probe.maxOutputBytes < stdout ∨ probe.maxOutputBytes < stderr then
        .error .outputTooLarge
      else .ok ()

/-- The output a process left, with what an empty one means. -/
def written (empty : SandboxProbeError) : Option OutputFile → Except SandboxProbeError Unit
  | none => .error .output
  | some file => if !file.isFile || file.length == 0 then .error empty else .ok ()

/-- `inspect`, with what the output parses to. -/
def inspect (run : ProcessRun) (parsed : Option MediaInspection) :
    Except SandboxProbeError MediaInspection := do
  probe.finished .rejected run
  match parsed with
  | none => .error .invalidJson
  | some inspection => .ok inspection

/-- `render_image`. -/
def renderImage (watermark : Option WatermarkPolicy) (run : ProcessRun)
    (output : Option OutputFile) : Except SandboxProbeError Unit := do
  probe.finished (if watermark.isSome then .operational else .rejected) run
  written (if watermark.isSome then .operational else .invalidOutput) output

/-- `thumbnail`. -/
def thumbnail (inspection : MediaInspection) (watermark : Option WatermarkPolicy)
    (run : ProcessRun) (output : Option OutputFile) : Except SandboxProbeError Unit :=
  let usesWatermark := watermark.isSome
  let isVideo := match inspection with
    | .video _ _ => true
    | .image _ _ => false
  match inspection with
  | .image _ _ => probe.renderImage watermark run output
  | .video _ _ => do
      probe.finished (if usesWatermark || isVideo then .operational else .rejected) run
      written (if usesWatermark || isVideo then .operational else .invalidOutput) output

/-! ## Refusals -/

/-- The process exits unsuccessfully, or in good order with nothing written for its answer. -/
inductive RefusesProbe : ProcessRun → Option MediaInspection → Prop
  | exited {stdout stderr : Nat} {parsed : Option MediaInspection} :
      RefusesProbe (.exited false stdout stderr) parsed
  | empty {stderr : Nat} (quiet : stderr ≤ probe.maxOutputBytes) :
      RefusesProbe (.exited true 0 stderr) none

/-- The process exits unsuccessfully, or in good order with an empty output. -/
inductive RefusesRender : ProcessRun → Option OutputFile → Prop
  | exited {stdout stderr : Nat} {output : Option OutputFile} :
      RefusesRender (.exited false stdout stderr) output
  | empty {stdout stderr : Nat} {output : OutputFile} (short : stdout ≤ probe.maxOutputBytes)
      (quiet : stderr ≤ probe.maxOutputBytes) (nothing : output.isFile = false ∨ output.length = 0) :
      RefusesRender (.exited true stdout stderr) (some output)

/-- The answer to a request to the sandbox, and whether it refused. -/
inductive Answers : (request : HostRequest) → request.Output → Bool → Prop
  | inspected {kind : MediaKind} (inspection : MediaInspection) :
      Answers (.inspect kind) (.ok inspection) false
  | uninspected {kind : MediaKind} {run : ProcessRun} {parsed : Option MediaInspection}
      (refuses : probe.RefusesProbe run parsed) :
      Answers (.inspect kind) (probe.inspect run parsed) true
  | mastered {watermark : Option WatermarkPolicy} : Answers (.imageMaster watermark) (.ok ()) false
  | unmastered {watermark : Option WatermarkPolicy} {run : ProcessRun} {output : Option OutputFile}
      (refuses : probe.RefusesRender run output) :
      Answers (.imageMaster watermark) (probe.renderImage watermark run output) true
  | pictured {inspection : MediaInspection} {watermark : Option WatermarkPolicy} :
      Answers (.renderThumbnail inspection watermark) (.ok ()) false
  | unpictured {inspection : MediaInspection} {watermark : Option WatermarkPolicy}
      {run : ProcessRun} {output : Option OutputFile} (refuses : probe.RefusesRender run output) :
      Answers (.renderThumbnail inspection watermark)
        (probe.thumbnail inspection watermark run output) true

end ProcessSandboxProbe

/-- Refusals the client blames on the renderer or the trusted policy. -/
def blamesRenderer : HostRequest → Bool
  | .imageMaster watermark | .renderThumbnail (.image _ _) watermark => watermark.isSome
  | .renderThumbnail (.video _ _) _ => true
  | _ => false

/-- A failure that is the source's, or passes. -/
def Spares : ProcessingFailure → Prop
  | .operational _ => False
  | .permanent _ | .transient _ => True

/-- What the refusal of a request has to come to. -/
def BlamedFor (request : HostRequest) (failure : ProcessingFailure) : Prop :=
  if blamesRenderer request then failure = .operational "MEDIA_RENDERER_UNAVAILABLE"
  else Spares failure

section Refusals

variable {probe : ProcessSandboxProbe} {run : ProcessRun} {output : Option OutputFile}
  {watermark : Option WatermarkPolicy} {inspection : MediaInspection} {kind : MediaKind}

theorem finished_quiet {refusal : SandboxProbeError} {stdout stderr : Nat}
    (short : stdout ≤ probe.maxOutputBytes) (quiet : stderr ≤ probe.maxOutputBytes) :
    probe.finished refusal (.exited true stdout stderr) = .ok () := by
  simp only [ProcessSandboxProbe.finished]
  rw [if_neg (by decide), if_neg (by omega)]

/-- A refusal to render is one of the two errors it can be. -/
theorem render_refused (refuses : probe.RefusesRender run output)
    (refusal empty : SandboxProbeError) :
    (do probe.finished refusal run; ProcessSandboxProbe.written empty output) = .error refusal ∨
      (do probe.finished refusal run; ProcessSandboxProbe.written empty output) = .error empty := by
  cases refuses with
  | exited => exact .inl rfl
  | @empty stdout stderr file short quiet nothing =>
      right
      have missing : (!file.isFile || file.length == 0) = true := by
        rcases nothing with irregular | zero
        · simp [irregular]
        · simp [zero]
      rw [finished_quiet short quiet]
      show ProcessSandboxProbe.written empty (some file) = _
      rw [ProcessSandboxProbe.written, if_pos missing]

theorem inspect_refused {parsed : Option MediaInspection} (refuses : probe.RefusesProbe run parsed) :
    ∃ error, probe.inspect run parsed = .error error ∧
      BlamedFor (.inspect kind) (classifySandboxError error) := by
  cases refuses with
  | exited => exact ⟨.rejected, rfl, trivial⟩
  | empty quiet =>
      refine ⟨.invalidJson, ?_, trivial⟩
      rw [ProcessSandboxProbe.inspect, finished_quiet (Nat.zero_le _) quiet]
      rfl

/-- A watermark decides whom a refused image is blamed on. -/
theorem image_refused (refuses : probe.RefusesRender run output) {request : HostRequest}
    (blames : blamesRenderer request = watermark.isSome) :
    ∃ error, probe.renderImage watermark run output = .error error ∧
      BlamedFor request (classifySandboxError error) := by
  unfold BlamedFor ProcessSandboxProbe.renderImage
  rw [blames]
  cases watermark with
  | none =>
      obtain refused | refused := render_refused refuses .rejected .invalidOutput
      · exact ⟨_, refused, trivial⟩
      · exact ⟨_, refused, trivial⟩
  | some watermark =>
      obtain refused | refused := render_refused refuses .operational .operational
      · exact ⟨_, refused, rfl⟩
      · exact ⟨_, refused, rfl⟩

theorem thumbnail_refused (refuses : probe.RefusesRender run output) :
    ∃ error, probe.thumbnail inspection watermark run output = .error error ∧
      BlamedFor (.renderThumbnail inspection watermark) (classifySandboxError error) := by
  cases inspection with
  | image contentType heavy => exact image_refused refuses rfl
  | video format contentType =>
      have thumbnail : probe.thumbnail (.video format contentType) watermark run output =
          (do probe.finished .operational run
              ProcessSandboxProbe.written .operational output) := by
        cases watermark <;> rfl
      rw [thumbnail]
      obtain refused | refused := render_refused refuses .operational .operational
      · exact ⟨_, refused, rfl⟩
      · exact ⟨_, refused, rfl⟩

end Refusals

end MediaBooster.Processing
