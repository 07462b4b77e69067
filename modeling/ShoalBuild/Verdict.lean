import ShoalBuild.Matrix

/-!
# Shoal build automation - what decides a step

A step of the runner returns a boolean, and the tools it starts decide it only through
how their starts end.  Several steps also start tools that the script treats as
optional: the coverage tool after the tests, the built binary's execution test, the
security scanner when it is installed, and {lit}`golangci-lint` with {lit}`go vet` in
its place.  This module says, for each of these steps, for every behaviour of the
tools and for every run that returns, which starts decide the boolean it returns, and
so which never do.  A run can also end with the exception of any of its starts, an
optional one included: that outcome is the one {lit}`runCommand_error` describes.

A start is named by the world it happens in: {lit}`spawnOf w cmd cwd` is how it ends,
and {lit}`w.afterSpawn cmd cwd` is the world it leaves, whose filesystem the next
start sees.  Printing changes neither.

Main results:

- Theorem {lit}`runTests_verdict`: {lit}`run_tests` returns whether {lit}`go test`
  exited with {lit}`0`; the coverage report never decides it.
- Theorem {lit}`buildBinary_verdict`: {lit}`build_binary` returns whether
  {lit}`go build` exited with {lit}`0` and left the binary; the execution test never
  decides it.
- Theorem {lit}`runSecurityChecks_verdict`: {lit}`run_security_checks` fails exactly
  when {lit}`gosec` answered its version probe and its scan did not pass.
- Theorem {lit}`lintCode_verdict`: {lit}`lint_code` returns the linter's verdict when
  {lit}`golangci-lint` answered its version probe, and {lit}`go vet`'s otherwise.
-/

namespace Shoal
namespace Build

/-! ## Starts in equal worlds -/

section Congr

variable {w₁ w₂ : World}

/-- How a start ends depends on the machine, the number of starts before and the
filesystem only. -/
theorem spawnOf_congr (hh : w₁.host = w₂.host) (hs : w₁.spawned = w₂.spawned)
    (hf : w₁.fs = w₂.fs) (cmd : List String) (cwd : Path) :
    spawnOf w₁ cmd cwd = spawnOf w₂ cmd cwd := by
  simp only [spawnOf, hh, hs, hf]

/-- So does the filesystem a start leaves. -/
theorem afterSpawn_fs_congr (hh : w₁.host = w₂.host) (hs : w₁.spawned = w₂.spawned)
    (hf : w₁.fs = w₂.fs) (cmd : List String) (cwd : Path) :
    (w₁.afterSpawn cmd cwd).fs = (w₂.afterSpawn cmd cwd).fs := by
  simp only [World.afterSpawn, World.log, hh, hs, hf]

end Congr

/-- After a {lit}`run_command` that returns, the next start is the one that follows
its process start. -/
theorem runCommand_next {r : BuildRunner} {cmd : List String} {cwd : Option Path}
    {check : Bool} {w w' : World} {v : Int × String × String}
    (h : runCommand r cmd cwd check w = .ok v w') (cmd' : List String) (cwd' : Path) :
    spawnOf w' cmd' cwd' = spawnOf (w.afterSpawn cmd (cwd.getD r.rootDir)) cmd' cwd' ∧
      (w'.afterSpawn cmd' cwd').fs =
        ((w.afterSpawn cmd (cwd.getD r.rootDir)).afterSpawn cmd' cwd').fs := by
  obtain ⟨hh, hs, hf⟩ := runCommand_world h
  exact ⟨@spawnOf_congr w' (w.afterSpawn cmd (cwd.getD r.rootDir)) hh hs hf cmd' cwd',
    @afterSpawn_fs_congr w' (w.afterSpawn cmd (cwd.getD r.rootDir)) hh hs hf cmd' cwd'⟩

/-- A {lit}`mkdir` that returns leaves the directory in the filesystem and the rest of
the world as it was. -/
theorem mkdir_ok {p : Path} {w w' : World} (h : mkdir p w = .ok () w') :
    w'.host = w.host ∧ w'.spawned = w.spawned ∧ w'.fs = w.fs.put p (some .dir) := by
  unfold mkdir at h
  split at h
  next hd =>
    cases h
    refine ⟨rfl, rfl, funext fun q => ?_⟩
    by_cases hq : q = p
    · subst hq
      rw [FS.put_same, hd]
    · rw [FS.put_other _ _ hq]
  next => cases h
  next =>
    split at h
    · cases h
    · cases h
      exact ⟨rfl, rfl, rfl⟩

@[simp]
theorem spawnOf_log (w : World) (ev : Event) (cmd : List String) (cwd : Path) :
    spawnOf (w.log ev) cmd cwd = spawnOf w cmd cwd := rfl

@[simp]
theorem spawnOf_afterSpawn_log (w : World) (ev : Event) (cmd cmd' : List String) (cwd cwd' : Path) :
    spawnOf ((w.log ev).afterSpawn cmd cwd) cmd' cwd' = spawnOf (w.afterSpawn cmd cwd) cmd' cwd' :=
  rfl

/-- The status {lit}`run_command` returns is {lit}`0` exactly when its start succeeded,
as a boolean. -/
theorem runCommand_status_eq {r : BuildRunner} {cmd : List String} {cwd : Option Path}
    {check : Bool} {w w' : World} {v : Int × String × String}
    (h : runCommand r cmd cwd check w = .ok v w') :
    decide (v.1 = 0) = (spawnOf w cmd (cwd.getD r.rootDir)).succeeded := by
  rw [Bool.eq_iff_iff, decide_eq_true_iff]
  exact runCommand_status h

/-! ## Tests -/

/-- {lit}`run_tests` returns whether {lit}`go test` exited with {lit}`0`: the coverage
report it makes afterwards, the statuses of the coverage tool and the files it leaves,
never decides the step. -/
theorem runTests_verdict {r : BuildRunner} {withCoverage : Bool} {w w' : World} {b : Bool}
    (h : runTests r withCoverage w = .ok b w') :
    b = (spawnOf w (testCmd withCoverage) r.rootDir).succeeded := by
  unfold runTests at h
  obtain ⟨⟨⟩, _, h₀, h⟩ := bind_eq_ok h
  cases h₀
  obtain ⟨⟨code, _, _⟩, _, h₁, h⟩ := bind_eq_ok h
  have hs := runCommand_status_eq h₁
  simp only [spawnOf_log, Option.getD_none] at hs
  rw [← hs]
  dsimp only at h
  split at h
  next hc =>
    cases h
    simp [hc]
  next hc =>
    repeat (first
      | obtain ⟨_, _, -, h⟩ := bind_eq_ok h
      | split at h
      | dsimp only at h)
    all_goals
      cases h
      simpa using hc

/-! ## Optional tools -/

/-- {lit}`run_security_checks` fails exactly when {lit}`gosec` answered its version
probe and its scan then did not pass: a scanner that is missing, or that does not
answer the probe, never fails the step. -/
theorem runSecurityChecks_verdict {r : BuildRunner} {w w' : World} {b : Bool}
    (h : runSecurityChecks r w = .ok b w') :
    b = (!(spawnOf w ["gosec", "-version"] r.rootDir).succeeded ||
      (spawnOf (w.afterSpawn ["gosec", "-version"] r.rootDir) ["gosec", "./..."]
        r.rootDir).succeeded) := by
  unfold runSecurityChecks at h
  obtain ⟨⟨⟩, _, h₀, h⟩ := bind_eq_ok h
  cases h₀
  obtain ⟨⟨code, _, _⟩, _, h₁, h⟩ := bind_eq_ok h
  have hs₁ := runCommand_status_eq h₁
  simp only [spawnOf_log, Option.getD_none] at hs₁
  rw [← hs₁]
  dsimp only at h
  split at h
  next hc =>
    obtain ⟨⟨code₂, _, _⟩, _, h₂, h⟩ := bind_eq_ok h
    have hs₂ := runCommand_status_eq h₂
    simp only [(runCommand_next h₁ _ _).1, spawnOf_afterSpawn_log, Option.getD_none] at hs₂
    rw [← hs₂]
    dsimp only at h
    split at h
    next hc₂ =>
      obtain ⟨_, _, -, h⟩ := bind_eq_ok h
      cases h
      simp [hc, hc₂]
    next hc₂ =>
      obtain ⟨_, _, -, h⟩ := bind_eq_ok h
      cases h
      simpa [hc] using hc₂
  next hc =>
    obtain ⟨_, _, -, h⟩ := bind_eq_ok h
    cases h
    simp [hc]

/-- {lit}`lint_code` returns {lit}`golangci-lint`'s verdict when it answered its
version probe, and {lit}`go vet`'s otherwise. -/
theorem lintCode_verdict {r : BuildRunner} {w w' : World} {b : Bool}
    (h : lintCode r w = .ok b w') :
    b = if (spawnOf w ["golangci-lint", "--version"] r.rootDir).succeeded then
        (spawnOf (w.afterSpawn ["golangci-lint", "--version"] r.rootDir) ["golangci-lint", "run"]
          r.rootDir).succeeded
      else
        (spawnOf (w.afterSpawn ["golangci-lint", "--version"] r.rootDir) ["go", "vet", "./..."]
          r.rootDir).succeeded := by
  unfold lintCode at h
  obtain ⟨⟨⟩, _, h₀, h⟩ := bind_eq_ok h
  cases h₀
  obtain ⟨⟨code, _, _⟩, _, h₁, h⟩ := bind_eq_ok h
  have hs₁ := runCommand_status_eq h₁
  simp only [spawnOf_log, Option.getD_none] at hs₁
  rw [← hs₁]
  dsimp only at h
  split at h <;> rename_i hc <;>
  · obtain ⟨⟨code₂, _, _⟩, _, h₂, h⟩ := bind_eq_ok h
    have hs₂ := runCommand_status_eq h₂
    simp only [(runCommand_next h₁ _ _).1, spawnOf_afterSpawn_log, Option.getD_none] at hs₂
    rw [← hs₂]
    dsimp only at h
    split at h <;> rename_i hc₂
    · cases h
      simp [hc, hc₂]
    · obtain ⟨_, _, -, h⟩ := bind_eq_ok h
      cases h
      simpa [hc] using hc₂

/-! ## Compiling -/

/-- {lit}`build_binary` returns whether {lit}`go build`, started once the build
directory exists, exited with {lit}`0` and left the binary: the execution test of the
binary never decides the step. -/
theorem buildBinary_verdict {r : BuildRunner} {w w' : World} {b : Bool}
    (h : buildBinary r w = .ok b w') :
    b = ((spawnOf (w.modifyFS fun fs => fs.put r.buildDir (some .dir))
        (goBuildCmd (r.buildDir / r.binaryName)) r.rootDir).succeeded &&
      (((w.modifyFS fun fs => fs.put r.buildDir (some .dir)).afterSpawn
        (goBuildCmd (r.buildDir / r.binaryName)) r.rootDir).fs
          (r.buildDir / r.binaryName)).isSome) := by
  unfold buildBinary at h
  obtain ⟨⟨⟩, _, h₀, h⟩ := bind_eq_ok h
  cases h₀
  obtain ⟨⟨⟩, w₁, h₁, h⟩ := bind_eq_ok h
  obtain ⟨hh₁, hs₁, hf₁⟩ := mkdir_ok h₁
  have e₁ := @spawnOf_congr w₁ (w.modifyFS fun fs => fs.put r.buildDir (some .dir)) hh₁ hs₁ hf₁
  have e₁' := @afterSpawn_fs_congr w₁ (w.modifyFS fun fs => fs.put r.buildDir (some .dir))
    hh₁ hs₁ hf₁
  obtain ⟨⟨code, _, _⟩, w₂, h₂, h⟩ := bind_eq_ok h
  have hs := runCommand_status_eq h₂
  have hfs₂ := (runCommand_world h₂).2.2
  simp only [Option.getD_none, e₁] at hs
  simp only [Option.getD_none, e₁'] at hfs₂
  rw [← hs, ← hfs₂]
  dsimp only at h
  split at h
  next hc =>
    cases h
    simp [hc]
  next hc =>
    obtain ⟨_, _, h₃, h⟩ := bind_eq_ok h
    cases h₃
    cases hx : (w₂.fs (r.buildDir / r.binaryName)).isSome <;>
      simp only [hx, Bool.not_true, Bool.not_false, Bool.false_eq_true, if_true, if_false] at h
    · obtain ⟨_, _, -, h⟩ := bind_eq_ok h
      cases h
      simp
    · repeat (first
        | obtain ⟨_, _, -, h⟩ := bind_eq_ok h
        | split at h
        | dsimp only at h)
      all_goals
        cases h
        simpa using hc

/-! ## The optional tools -/

/-- A machine without the optional tools: {lit}`golangci-lint` and {lit}`gosec` are
missing, the coverage tool and the built binary fail, {lit}`go build` writes its
output, and every other command succeeds silently. -/
def withoutOptionalTools : Tools := fun _ l fs =>
  match l.argv with
  | "golangci-lint" :: _ =>
    (.raised (.notFound "[Errno 2] No such file or directory: 'golangci-lint'"), fs)
  | "gosec" :: _ => (.raised (.notFound "[Errno 2] No such file or directory: 'gosec'"), fs)
  | "go" :: "tool" :: _ => (.exited 1 [] [], fs)
  | ["go", "build", _, _, _, _, "-o", out, _] =>
    (.exited 0 [] [], fun q => if q.str = out then some (.file 1048576) else fs q)
  | [_, "-h"] => (.exited 2 [] [], fs)
  | _ => (.exited 0 [] [], fs)

/-- A checkout with a module file and a coverage profile on that machine. -/
def withoutOptionalToolsCheckout : World :=
  ⟨linuxHost withoutOptionalTools, fsOf [⟨[]⟩, ⟨["src"]⟩, ⟨["src", "build"]⟩]
    [⟨["src", "go.mod"]⟩, ⟨["src", "coverage.out"]⟩], 0, []⟩

end Build
end Shoal
