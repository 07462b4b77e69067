import ShoalBuild.World

/-!
# Shoal build automation - running one command

{lit}`BuildRunner.run_command` is the one place where the script starts a process.
It catches {lit}`FileNotFoundError` and turns it into the triple
{lit}`(1, "", "Command not found: <cmd[0]>")`; every other exception that
{lit}`subprocess.run` raises (an executable that cannot be run, an interrupt, output
that does not decode in the locale's encoding) reaches the caller.

Main results:

- Theorem {lit}`runCommand_eq`: what {lit}`run_command` returns or raises, by how the
  process start ends.
- Theorems {lit}`runCommand_returns_iff` and {lit}`runCommand_value`: it returns
  exactly when the executable is missing or the process ran and both pipes decode,
  and the return code is then the process's own.
- Theorem {lit}`runCommand_error`: otherwise it raises the start's
  {lit}`PermissionError`, {lit}`OSError` or {lit}`KeyboardInterrupt`, or a
  {lit}`UnicodeDecodeError` from a pipe that does not decode.
- Theorems {lit}`runCommand_status` and {lit}`runCommand_world`: the status is {lit}`0`
  exactly when the process exited with {lit}`0`, and a return leaves the machine as it
  was, one more process started, and the filesystem as the process left it.
-/

namespace Shoal
namespace Build

/-! ## The runner and its output -/

/-- The fields of a {lit}`BuildRunner` the script reads.  The build directory is
{lit}`root_dir / "build"` by construction. -/
structure BuildRunner where
  rootDir : Path
  binaryName : String

/-- {lit}`self.build_dir`. -/
def BuildRunner.buildDir (r : BuildRunner) : Path := r.rootDir / "build"

/-- The runner {lit}`BuildRunner.__init__` builds on a machine. -/
def BuildRunner.onHost (h : Host) : BuildRunner :=
  ⟨h.scriptDir, if h.system = "Windows" then "shoal.exe" else "shoal"⟩

/-- {lit}`BuildRunner.__init__`; the start time only feeds the printed elapsed time. -/
def BuildRunner.new : Py BuildRunner := fun w => .ok (BuildRunner.onHost w.host) w

/-- {lit}`BuildRunner.print_header`. -/
def printHeader (title : String) : Py Unit := emit .header title

/-- {lit}`BuildRunner.print_step`. -/
def printStep (step : String) : Py Unit := emit .step step

/-- {lit}`BuildRunner.print_success`. -/
def printSuccess (message : String) : Py Unit := emit .success message

/-- {lit}`BuildRunner.print_error`. -/
def printError (message : String) : Py Unit := emit .error message

/-- {lit}`BuildRunner.print_warning`. -/
def printWarning (message : String) : Py Unit := emit .warning message

/-- The built-in {lit}`print`. -/
def print (text : String) : Py Unit := emit .plain text

/-! ## run_command -/

/-- The text {lit}`run_command` prints and returns for a missing executable. -/
def notFoundText (cmd : List String) : String := "Command not found: " ++ cmd.headD ""

/-- The report {lit}`run_command` prints when a checked command fails. -/
def reportFailure (cmd : List String) (check : Bool) (result : Int × String × String) :
    Py Unit :=
  if check && result.1 != 0 then do
    printError ("Command failed: " ++ " ".intercalate cmd)
    if result.2.1 != "" then print ("STDOUT:\n" ++ result.2.1)
    if result.2.2 != "" then print ("STDERR:\n" ++ result.2.2)
  else pure ()

/-- {lit}`BuildRunner.run_command`: run a command and return
{lit}`(returncode, stdout, stderr)`, catching only {lit}`FileNotFoundError`. -/
def runCommand (r : BuildRunner) (cmd : List String) (cwd : Option Path) (check : Bool) :
    Py (Int × String × String) :=
  tryExcept
    (do
      let result ← subprocessRun cmd (cwd.getD r.rootDir)
      reportFailure cmd check result
      pure result)
    Exc.isFileNotFound
    (fun _ => do
      printError (notFoundText cmd)
      pure (1, "", notFoundText cmd))

/-- The lines {lit}`reportFailure` prints. -/
def failureLines (cmd : List String) (check : Bool) (result : Int × String × String) :
    List (Mark × String) :=
  if check && result.1 != 0 then
    [(.error, "Command failed: " ++ " ".intercalate cmd)] ++
      (if result.2.1 != "" then [(.plain, "STDOUT:\n" ++ result.2.1)] else []) ++
      (if result.2.2 != "" then [(.plain, "STDERR:\n" ++ result.2.2)] else [])
  else []

/-- Append several events to the trace. -/
def World.logAll (w : World) (evs : List Event) : World := { w with trace := w.trace ++ evs }

/-- Print several lines. -/
def World.sayAll (w : World) (lines : List (Mark × String)) : World :=
  w.logAll (lines.map fun line => .say line.1 line.2)

@[simp]
theorem World.logAll_fs (w : World) (evs : List Event) : (w.logAll evs).fs = w.fs := rfl

@[simp]
theorem World.logAll_host (w : World) (evs : List Event) : (w.logAll evs).host = w.host := rfl

@[simp]
theorem World.logAll_spawned (w : World) (evs : List Event) :
    (w.logAll evs).spawned = w.spawned := rfl

/-- The failure report only prints. -/
theorem reportFailure_eq (cmd : List String) (check : Bool) (result : Int × String × String)
    (w : World) :
    reportFailure cmd check result w = .ok () (w.sayAll (failureLines cmd check result)) := by
  obtain ⟨code, out, err⟩ := result
  unfold reportFailure failureLines
  by_cases hc : (check && code != 0) = true
  · simp only [hc, if_true]
    by_cases ho : (out != "") = true <;> by_cases he : (err != "") = true <;>
      simp [ho, he, bind_apply, printError, print, emit, World.sayAll, World.logAll, World.log]
  · simp [hc, World.sayAll, World.logAll]

/-- How the process start for {lit}`cmd` in {lit}`cwd` ends in world {lit}`w`. -/
def spawnOf (w : World) (cmd : List String) (cwd : Path) : Spawn :=
  (w.host.tools w.spawned ⟨cmd, cwd, w.host.environ⟩ w.fs).1

/-- Whether a process start exited with status {lit}`0`. -/
def Spawn.succeeded : Spawn → Bool
  | .exited code _ _ => code == 0
  | .raised _ => false

/-- What {lit}`run_command` returns or raises, by how the process start ends. -/
theorem runCommand_eq (r : BuildRunner) (cmd : List String) (cwd : Option Path)
    (check : Bool) (w : World) :
    runCommand r cmd cwd check w =
      let w₁ := w.afterSpawn cmd (cwd.getD r.rootDir)
      match spawnOf w cmd (cwd.getD r.rootDir) with
      | .raised err =>
        if err.toExc.isFileNotFound then
          .ok (1, "", notFoundText cmd) (w₁.log (.say .error (notFoundText cmd)))
        else .error err.toExc w₁
      | .exited code out err =>
        match decodeText w.host.codec out, decodeText w.host.codec err with
        | .ok o, .ok e => .ok (code, o, e) (w₁.sayAll (failureLines cmd check (code, o, e)))
        | .error x, _ => .error x w₁
        | .ok _, .error x => .error x w₁ := by
  simp only [runCommand, spawnOf]
  unfold tryExcept
  rw [bind_apply, subprocessRun_eq]
  cases (w.host.tools w.spawned ⟨cmd, cwd.getD r.rootDir, w.host.environ⟩ w.fs).1 with
  | raised err =>
    by_cases he : err.toExc.isFileNotFound = true <;> simp [he, bind_apply, printError, emit]
  | exited code out err =>
    dsimp only
    unfold decodeText
    cases w.host.codec out <;> cases w.host.codec err <;>
      simp [bind_apply, reportFailure_eq, Exc.isFileNotFound]

/-- {lit}`run_command` returns exactly when the executable is missing, or when the
process ran and both of its outputs decode. -/
theorem runCommand_returns_iff (r : BuildRunner) (cmd : List String) (cwd : Option Path)
    (check : Bool) (w : World) :
    (∃ v w', runCommand r cmd cwd check w = .ok v w') ↔
      (∃ msg, spawnOf w cmd (cwd.getD r.rootDir) = .raised (.notFound msg)) ∨
      ∃ code out err, spawnOf w cmd (cwd.getD r.rootDir) = .exited code out err ∧
        (∃ s, w.host.codec out = .ok s) ∧ ∃ s, w.host.codec err = .ok s := by
  rw [runCommand_eq]
  cases spawnOf w cmd (cwd.getD r.rootDir) with
  | raised err => cases err <;> simp [SpawnError.toExc, Exc.isFileNotFound]
  | exited code out err =>
    dsimp only
    unfold decodeText
    cases h₁ : w.host.codec out <;> cases h₂ : w.host.codec err <;> simp [h₁, h₂]
    exact ⟨code, out, err, ⟨rfl, rfl, rfl⟩, ⟨_, h₁⟩, _, h₂⟩

/-- What {lit}`run_command` returns: the return code of the process when it ran, and
{lit}`(1, "", "Command not found: <cmd[0]>")` when the executable is missing. -/
theorem runCommand_value {r : BuildRunner} {cmd : List String} {cwd : Option Path}
    {check : Bool} {w w' : World} {v : Int × String × String}
    (h : runCommand r cmd cwd check w = .ok v w') :
    (∃ msg, spawnOf w cmd (cwd.getD r.rootDir) = .raised (.notFound msg) ∧
        v = (1, "", notFoundText cmd)) ∨
      ∃ code out err, spawnOf w cmd (cwd.getD r.rootDir) = .exited code out err ∧ v.1 = code := by
  rw [runCommand_eq] at h
  cases hs : spawnOf w cmd (cwd.getD r.rootDir) with
  | raised err =>
    rw [hs] at h
    cases err <;> simp [SpawnError.toExc, Exc.isFileNotFound] at h
    exact .inl ⟨_, rfl, h.1.symm⟩
  | exited code out err =>
    rw [hs] at h
    dsimp only at h
    unfold decodeText at h
    cases h₁ : w.host.codec out <;> cases h₂ : w.host.codec err <;> simp [h₁, h₂] at h
    exact .inr ⟨code, out, err, rfl, by rw [← h.1]⟩

/-- What {lit}`run_command` raises when it does not return: the
{lit}`PermissionError` or {lit}`OSError` of a process that cannot be started, the
{lit}`KeyboardInterrupt` of an interrupted one, or the {lit}`UnicodeDecodeError` of an
output or error stream that the locale's encoding does not decode. -/
theorem runCommand_error {r : BuildRunner} {cmd : List String} {cwd : Option Path}
    {check : Bool} {w w' : World} {e : Exc} (h : runCommand r cmd cwd check w = .error e w') :
    (∃ msg, spawnOf w cmd (cwd.getD r.rootDir) = .raised (.permission msg) ∧
        e = ⟨.permissionError, msg⟩) ∨
      (∃ msg, spawnOf w cmd (cwd.getD r.rootDir) = .raised (.os msg) ∧ e = ⟨.osError, msg⟩) ∨
      (spawnOf w cmd (cwd.getD r.rootDir) = .raised .interrupted ∧
        e.cls = .keyboardInterrupt) ∨
      ∃ code out err, spawnOf w cmd (cwd.getD r.rootDir) = .exited code out err ∧
        e.cls = .unicodeDecodeError ∧
        ((∃ m, w.host.codec out = .error m) ∨ ∃ m, w.host.codec err = .error m) := by
  rw [runCommand_eq] at h
  cases hs : spawnOf w cmd (cwd.getD r.rootDir) with
  | raised err =>
    rw [hs] at h
    cases err <;> simp [SpawnError.toExc, Exc.isFileNotFound] at h <;> simp [← h.1]
  | exited code out err =>
    rw [hs] at h
    dsimp only at h
    unfold decodeText at h
    refine .inr (.inr (.inr ⟨code, out, err, rfl, ?_⟩))
    cases h₁ : w.host.codec out <;> cases h₂ : w.host.codec err <;> simp [h₁, h₂] at h <;>
      obtain ⟨rfl, -⟩ := h <;> simp

/-- {lit}`run_command` returns status {lit}`0` exactly when its process ran and exited
with {lit}`0`. -/
theorem runCommand_status {r : BuildRunner} {cmd : List String} {cwd : Option Path}
    {check : Bool} {w w' : World} {v : Int × String × String}
    (h : runCommand r cmd cwd check w = .ok v w') :
    v.1 = 0 ↔ (spawnOf w cmd (cwd.getD r.rootDir)).succeeded = true := by
  rcases runCommand_value h with ⟨msg, hs, rfl⟩ | ⟨code, out, err, hs, hv⟩ <;> rw [hs]
  · simp [Spawn.succeeded]
  · simp [Spawn.succeeded, hv]

/-- A {lit}`run_command` that returns leaves the machine as it was, counts its one
process start, and leaves the filesystem as its process left it. -/
theorem runCommand_world {r : BuildRunner} {cmd : List String} {cwd : Option Path}
    {check : Bool} {w w' : World} {v : Int × String × String}
    (h : runCommand r cmd cwd check w = .ok v w') :
    w'.host = w.host ∧ w'.spawned = w.spawned + 1 ∧
      w'.fs = (w.afterSpawn cmd (cwd.getD r.rootDir)).fs := by
  have hhost : (w.afterSpawn cmd (cwd.getD r.rootDir)).host = w.host := rfl
  have hspawned : (w.afterSpawn cmd (cwd.getD r.rootDir)).spawned = w.spawned + 1 := rfl
  rw [runCommand_eq] at h
  generalize w.afterSpawn cmd (cwd.getD r.rootDir) = w₁ at h hhost hspawned ⊢
  generalize spawnOf w cmd (cwd.getD r.rootDir) = sp at h
  cases sp with
  | raised err =>
    dsimp only at h
    split at h
    · cases h
      exact ⟨hhost, hspawned, rfl⟩
    · cases h
  | exited code out err =>
    dsimp only at h
    split at h
    · cases h
      exact ⟨hhost, hspawned, rfl⟩
    · cases h
    · cases h

end Build
end Shoal
