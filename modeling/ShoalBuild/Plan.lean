import ShoalBuild.Artifacts
import ShoalBuild.Main

/-!
# Shoal build automation - the commands a run starts

Every process the script starts goes through {lit}`run_command`, and each method
starts its command lines in a fixed order, some of them only on some outcomes of the
earlier ones: {lit}`lint_code` starts {lit}`golangci-lint run` or {lit}`go vet` after
the version probe, and {lit}`run_tests` starts the coverage tool only after the tests
passed.  Each method and each subcommand gets here its plan, the command lines it may
start in the order it may start them, and every run, returning or raising, starts a
sublist of its plan: no command outside the plan, none more often than the plan lists
it, and none before a command the plan puts earlier.

Main results:

- Theorem {lit}`methods_start`: each method of the runner starts a sublist of its plan.
- Theorem {lit}`runSteps_starts`: the loop of {lit}`validate` starts a sublist of its
  steps' plans, joined in the order of the steps.
- Theorem {lit}`main_startsPlan`: a run of {lit}`main` starts, in order, a sublist of
  the plan of its subcommand.
-/

namespace Shoal
namespace Build

/-! ## The judgement -/

/-- The command lines of the processes the events start, in order. -/
def startedCmds (evs : List Event) : List (List String) :=
  (evs.filterMap Event.launch?).map Launch.argv

@[simp]
theorem startedCmds_append (evs evs' : List Event) :
    startedCmds (evs ++ evs') = startedCmds evs ++ startedCmds evs' := by
  simp [startedCmds]

/-- Printed lines start no process. -/
theorem startedCmds_of_isSay {evs : List Event} (h : ∀ ev ∈ evs, ev.isSay = true) :
    startedCmds evs = [] := by
  refine congrArg _ (List.filterMap_eq_nil_iff.mpr fun ev hev => ?_)
  have hsay := h ev hev
  cases ev <;> simp_all [Event.isSay, Event.launch?]

/-- Every run of the program, returning or raising, appends events whose process starts
have command lines that form, in order, a sublist of {lit}`plan`. -/
structure Starts (plan : List (List String)) {α : Type} (x : Py α) : Prop where
  run : ∀ w, ∃ evs, (Result.world (x w)).trace = w.trace ++ evs ∧ (startedCmds evs).Sublist plan

section Rules

variable {α β : Type} {p q : List (List String)}

/-- A program that starts no process keeps to the empty plan. -/
theorem Starts.of_confined {x : Py α} (h : Confined (fun _ ev => ev.launch? = none) x) :
    Starts [] x := ⟨fun w => by
  obtain ⟨evs, hP, htr, -⟩ := h.run w
  refine ⟨evs, htr, ?_⟩
  simp [startedCmds, List.filterMap_eq_nil_iff.mpr hP]⟩

/-- A program that appends nothing keeps to the empty plan. -/
theorem Starts.of_trace {x : Py α} (h : ∀ w, (Result.world (x w)).trace = w.trace) :
    Starts [] x := ⟨fun w => ⟨[], by simp [h w], List.Sublist.slnil⟩⟩

theorem Starts.mono {x : Py α} (hx : Starts p x) (h : p.Sublist q) : Starts q x :=
  ⟨fun w => let ⟨evs, htr, hs⟩ := hx.run w; ⟨evs, htr, hs.trans h⟩⟩

theorem Starts.bind {x : Py α} {f : α → Py β} (hx : Starts p x) (hf : ∀ a, Starts q (f a)) :
    Starts (p ++ q) (x >>= f) := ⟨fun w => by
  obtain ⟨evs, htr, hs⟩ := hx.run w
  rw [bind_apply]
  cases h : x w with
  | ok a w₁ =>
    obtain ⟨evs₂, htr₂, hs₂⟩ := (hf a).run w₁
    simp only [h, Result.world] at htr
    exact ⟨evs ++ evs₂, by rw [htr₂, htr, List.append_assoc], by simpa using hs.append hs₂⟩
  | error e w₁ =>
    simp only [h, Result.world] at htr
    exact ⟨evs, htr, hs.trans (List.sublist_append_left p q)⟩⟩

theorem Starts.map {x : Py α} (f : α → β) (hx : Starts p x) : Starts p (f <$> x) := by
  have h := hx.bind fun a => Starts.of_trace (x := (Pure.pure (f a) : Py β)) fun _ => rfl
  rwa [List.append_nil] at h

/-- The two branches of a test keep to the two plans one after the other, so that a
command of either branch keeps its place. -/
theorem Starts.ite {c : Prop} [Decidable c] {x y : Py α} (hx : Starts p x) (hy : Starts q y) :
    Starts (p ++ q) (if c then x else y) := by
  split
  · exact hx.mono (List.sublist_append_left p q)
  · exact hy.mono (List.sublist_append_right p q)

theorem Starts.tryExcept {x : Py α} {catches : Exc → Bool} {h : Exc → Py α} (hx : Starts p x)
    (hh : ∀ e, Starts q (h e)) : Starts (p ++ q) (Build.tryExcept x catches h) := ⟨fun w => by
  obtain ⟨evs, htr, hs⟩ := hx.run w
  unfold Build.tryExcept
  cases hxw : x w with
  | ok a w₁ =>
    simp only [hxw, Result.world] at htr
    exact ⟨evs, htr, hs.trans (List.sublist_append_left p q)⟩
  | error e w₁ =>
    simp only [hxw, Result.world] at htr
    dsimp only
    split
    · obtain ⟨evs₂, htr₂, hs₂⟩ := (hh e).run w₁
      exact ⟨evs ++ evs₂, by rw [htr₂, htr, List.append_assoc], by simpa using hs.append hs₂⟩
    · exact ⟨evs, htr, hs.trans (List.sublist_append_left p q)⟩⟩

/-- {lit}`run_command` starts its one command, and prints. -/
theorem Starts.runCommand (r : BuildRunner) (cmd : List String) (cwd : Option Path)
    (check : Bool) : Starts [cmd] (Build.runCommand r cmd cwd check) := ⟨fun w => by
  have htr : (w.afterSpawn cmd (cwd.getD r.rootDir)).trace =
      w.trace ++ [.launch ⟨cmd, cwd.getD r.rootDir, w.host.environ⟩] := rfl
  rw [runCommand_eq]
  generalize w.afterSpawn cmd (cwd.getD r.rootDir) = w₁ at htr ⊢
  generalize spawnOf w cmd (cwd.getD r.rootDir) = sp
  have hone : ∀ lines : List Event, (∀ ev ∈ lines, ev.launch? = none) →
      (startedCmds (.launch ⟨cmd, cwd.getD r.rootDir, w.host.environ⟩ :: lines)).Sublist [cmd] :=
    fun lines h => by simp [startedCmds, List.filterMap_eq_nil_iff.mpr h, Event.launch?]
  cases sp with
  | raised err =>
    dsimp only
    split
    · exact ⟨_, by simp [Result.world, htr], hone [.say .error (notFoundText cmd)]
        (by simp [Event.launch?])⟩
    · exact ⟨_, by simp [Result.world, htr], hone [] (by simp)⟩
  | exited code out err =>
    dsimp only
    split
    · rename_i o e _ _
      exact ⟨_, by simp [Result.world, World.sayAll, World.logAll, htr],
        hone ((failureLines cmd check (code, o, e)).map fun l => .say l.1 l.2)
          (fun ev hev => by obtain ⟨_, -, rfl⟩ := List.mem_map.mp hev; rfl)⟩
    · exact ⟨_, by simp [Result.world, htr], hone [] (by simp)⟩
    · exact ⟨_, by simp [Result.world, htr], hone [] (by simp)⟩⟩

theorem Starts.pure (a : α) : Starts [] (Pure.pure a : Py α) := Starts.of_trace fun _ => rfl

theorem Starts.emit (mark : Mark) (text : String) : Starts [] (Build.emit mark text) :=
  Starts.of_confined (Confined.emit fun _ => rfl)

theorem Starts.raise (e : Exc) : Starts [] (Build.raise e : Py α) := Starts.of_trace fun _ => rfl

theorem Starts.pathExists (path : Path) : Starts [] (Build.pathExists path) :=
  Starts.of_trace fun _ => rfl

theorem Starts.osEnviron : Starts [] Build.osEnviron := Starts.of_trace fun _ => rfl

theorem Starts.statSize (path : Path) : Starts [] (Build.statSize path) :=
  Starts.of_confined (Confined.statSize path)

theorem Starts.mkdir (path : Path) : Starts [] (Build.mkdir path) :=
  Starts.of_confined (Confined.mkdir fun _ => rfl)

theorem Starts.writeText (path : Path) (text : String) : Starts [] (Build.writeText path text) :=
  Starts.of_confined (@Confined.writeText (fun _ ev => ev.launch? = none) path (fun _ _ => rfl) text)

theorem Starts.printCoverageTotal (o : String) : Starts [] (Build.printCoverageTotal o) :=
  Starts.of_confined (@Confined.printCoverageTotal (fun _ ev => ev.launch? = none) (fun _ _ _ => rfl) o)

end Rules

/-! ## The plans of the methods -/

/-- The command {lit}`check_prerequisites` starts. -/
def prerequisitesPlan : List (List String) := [["go", "version"]]

/-- The commands {lit}`download_dependencies` may start, in order. -/
def dependenciesPlan : List (List String) := [["go", "mod", "download"], ["go", "mod", "verify"]]

/-- The command {lit}`format_code` starts. -/
def formatPlan : List (List String) := [["go", "fmt", "./..."]]

/-- The commands {lit}`lint_code` may start: the version probe of {lit}`golangci-lint`,
then the linter or, in its place, {lit}`go vet`. -/
def lintPlan : List (List String) :=
  [["golangci-lint", "--version"], ["golangci-lint", "run"], ["go", "vet", "./..."]]

/-- The commands of the coverage report, in order. -/
def coveragePlan : List (List String) :=
  [["go", "tool", "cover", "-func=coverage.out"],
    ["go", "tool", "cover", "-html=coverage.out", "-o", "coverage.html"]]

/-- The commands {lit}`run_tests` may start: the tests, then the coverage report when
it asked for a profile. -/
def testsPlan (withCoverage : Bool) : List (List String) :=
  testCmd withCoverage :: if withCoverage then coveragePlan else []

/-- The commands {lit}`run_security_checks` may start, in order. -/
def securityPlan : List (List String) := [["gosec", "-version"], ["gosec", "./..."]]

/-- The commands {lit}`build_binary` may start: the build, then the execution test of
the binary it built. -/
def buildBinaryPlan (r : BuildRunner) : List (List String) :=
  [goBuildCmd (r.buildDir / r.binaryName), [(r.buildDir / r.binaryName).str, "-h"]]

/-- The commands {lit}`generate_build_info` starts, in order. -/
def buildInfoPlan : List (List String) :=
  [["git", "rev-parse", "HEAD"], ["git", "branch", "--show-current"],
    ["git", "status", "--porcelain"], ["go", "version"]]

/-- Each method of the runner starts, in order, a sublist of its plan; without
coverage {lit}`run_tests` never starts the coverage tool. -/
theorem methods_start (r : BuildRunner) :
    Starts prerequisitesPlan (checkPrerequisites r) ∧
      Starts dependenciesPlan (downloadDependencies r) ∧ Starts formatPlan (formatCode r) ∧
      Starts lintPlan (lintCode r) ∧ (∀ b, Starts (testsPlan b) (runTests r b)) ∧
      Starts securityPlan (runSecurityChecks r) ∧ Starts (buildBinaryPlan r) (buildBinary r) ∧
      ∀ goos goarch,
        Starts [goBuildCmd (artifactPath r goos goarch)] (buildForPlatform r goos goarch) := by
  refine ⟨?_, ?_, ?_, ?_, fun b => b.casesOn ?_ ?_, ?_, ?_, fun goos goarch => ?_⟩ <;>
  simp only [checkPrerequisites, downloadDependencies, formatCode, lintCode, runTests,
    coverageReport, runSecurityChecks, buildBinary, buildForPlatform, printStep, printSuccess,
    printError, printWarning, Bool.false_eq_true, if_false, if_true, pure_bind] <;>
  apply Starts.mono <;>
  repeat (first
    | with_reducible apply Starts.bind
    | intro _
    | with_reducible exact Starts.emit _ _
    | with_reducible exact Starts.runCommand _ _ _ _
    | with_reducible exact Starts.pure _
    | with_reducible apply Starts.ite
    | split
    | with_reducible exact Starts.pathExists _
    | with_reducible exact Starts.mkdir _
    | with_reducible exact Starts.statSize _
    | with_reducible exact Starts.osEnviron
    | with_reducible exact Starts.printCoverageTotal _
    | with_reducible apply Starts.map)
  all_goals simp [prerequisitesPlan, dependenciesPlan, formatPlan, lintPlan, testsPlan,
    coveragePlan, securityPlan, buildBinaryPlan, artifactPath]

/-- {lit}`generate_build_info` starts, in order, a sublist of its four probes. -/
theorem generateBuildInfo_starts (r : BuildRunner) :
    Starts buildInfoPlan (generateBuildInfo r) := by
  simp only [generateBuildInfo]
  apply Starts.mono
  repeat (first
    | with_reducible apply Starts.bind
    | intro _
    | with_reducible exact Starts.runCommand _ _ _ _
    | with_reducible exact Starts.pure _
    | with_reducible exact Starts.writeText _ _
    | split
    | exact Starts.of_trace fun _ => rfl)
  simp [buildInfoPlan]

/-! ## Loops and chains -/

/-- The matrix loop starts one {lit}`go build` per remaining target, in order. -/
theorem buildAllLoop_starts (r : BuildRunner) (targets : List (String × String)) (allOk : Bool) :
    Starts (targets.map fun t => goBuildCmd (artifactPath r t.1 t.2))
      (buildAllLoop r targets allOk) := by
  induction targets generalizing allOk with
  | nil => exact Starts.pure allOk
  | cons target rest ih =>
    exact ((methods_start r).2.2.2.2.2.2.2 target.1 target.2).bind fun ok => ih (allOk && ok)

/-- One step of the {lit}`validate` loop starts what its step starts. -/
theorem runStep_starts {name : String} {stepFunc : Py Bool} {plan : List (List String)}
    (h : Starts plan stepFunc) : Starts plan (runStep name stepFunc) := by
  unfold runStep printError
  apply Starts.mono
  · exact Starts.tryExcept (h.bind fun _ => Starts.ite ((Starts.emit _ _).bind fun _ =>
      Starts.pure _) (Starts.pure _)) fun _ => (Starts.emit _ _).bind fun _ => Starts.pure _
  · simp

/-- The loop of {lit}`validate` starts, in order, a sublist of its steps' plans joined
in the order of the steps. -/
theorem runSteps_starts {steps : List (String × Py Bool)} {plans : List (List (List String))}
    (h : List.Forall₂ (fun step plan => Starts plan step.2) steps plans) :
    Starts plans.flatten (runSteps steps) := by
  induction h with
  | nil => exact Starts.pure true
  | @cons step plan _ _ hstep _ ih =>
    obtain ⟨name, stepFunc⟩ := step
    refine ((runStep_starts hstep).bind fun _ => Starts.ite ih (Starts.pure false)).mono ?_
    simp

/-- An {lit}`and` chain starts, in order, a sublist of its operations' plans joined in
the order of the chain. -/
theorem allOk_starts {xs : List (Py Bool)} {plans : List (List (List String))}
    (h : List.Forall₂ (fun x plan => Starts plan x) xs plans) :
    Starts plans.flatten (allOk xs) := by
  induction h with
  | nil => exact Starts.pure true
  | cons hx _ ih =>
    refine (hx.bind fun _ => Starts.ite ih (Starts.pure false)).mono ?_
    simp

/-- Cleaning starts no process. -/
theorem clean_starts (r : BuildRunner) : Starts [] (clean r) :=
  Starts.of_confined (@clean_confined (fun _ ev => ev.launch? = none) (fun _ _ _ => rfl) r)

/-! ## The plans of the subcommands -/

/-- The plans of the seven steps of {lit}`validate`, in order. -/
def validateStepPlans (r : BuildRunner) : List (List (List String)) :=
  [prerequisitesPlan, dependenciesPlan, formatPlan, lintPlan, testsPlan true, securityPlan,
    buildBinaryPlan r]

/-- The commands {lit}`validate` may start: the seven steps', then the build record's. -/
def validatePlan (r : BuildRunner) : List (List String) :=
  (validateStepPlans r).flatten ++ buildInfoPlan

/-- {lit}`validate` starts, in order, a sublist of its plan. -/
theorem validate_starts (r : BuildRunner) : Starts (validatePlan r) (validate r) := by
  obtain ⟨h₁, h₂, h₃, h₄, h₅, h₆, h₇, -⟩ := methods_start r
  have hsteps : List.Forall₂ (fun step plan => Starts plan step.2) (validateSteps r)
      (validateStepPlans r) :=
    .cons h₁ (.cons h₂ (.cons h₃ (.cons h₄ (.cons (h₅ true) (.cons h₆ (.cons h₇ .nil))))))
  unfold validate recordBuild printHeader printSuccess
  refine ((Starts.emit _ _).bind fun _ => (runSteps_starts hsteps).bind fun _ =>
    Starts.ite ((generateBuildInfo_starts r).bind fun _ => (Starts.emit _ _).bind fun _ =>
      Starts.pure true) (Starts.pure false)).mono ?_
  simp [validatePlan]

/-- The commands a subcommand may start, in order: the plans of its chain's operations
one after the other.  {lit}`clean` and a malformed {lit}`--platform` start none. -/
def commandPlan (r : BuildRunner) (args : Args) : List (List String) :=
  match args.command with
  | .clean => []
  | .deps => prerequisitesPlan ++ dependenciesPlan
  | .fmt => prerequisitesPlan ++ formatPlan
  | .lint => prerequisitesPlan ++ lintPlan
  | .test => prerequisitesPlan ++ dependenciesPlan ++ testsPlan false
  | .coverage => prerequisitesPlan ++ dependenciesPlan ++ testsPlan true
  | .build =>
    match args.platform.filter (fun p => p != "") with
    | some platform =>
      match platform.splitOn "/" with
      | [goos, goarch] =>
        prerequisitesPlan ++ dependenciesPlan ++ [goBuildCmd (artifactPath r goos goarch)]
      | _ => []
    | none => prerequisitesPlan ++ dependenciesPlan ++ buildBinaryPlan r
  | .buildAll =>
    prerequisitesPlan ++ dependenciesPlan ++
      supportedPlatforms.map fun t => goBuildCmd (artifactPath r t.1 t.2)
  | .validate => validatePlan r

/-- Every subcommand starts, in order, a sublist of its plan. -/
theorem dispatch_starts (r : BuildRunner) (args : Args) :
    Starts (commandPlan r args) (dispatch r args) := by
  obtain ⟨h₁, h₂, h₃, h₄, h₅, -, h₇, h₈⟩ := methods_start r
  have hall : Starts (supportedPlatforms.map fun t => goBuildCmd (artifactPath r t.1 t.2))
      (buildAllPlatforms r) := by
    have h := (Starts.emit .header "Building for all supported platforms").bind fun _ =>
      buildAllLoop_starts r supportedPlatforms true
    rwa [List.nil_append] at h
  have chain : ∀ {xs : List (Py Bool)} {plans : List (List (List String))} {plan},
      List.Forall₂ (fun x plan => Starts plan x) xs plans → plans.flatten = plan →
        Starts plan (allOk xs) := fun h e => e ▸ allOk_starts h
  have usage : Starts [] (do printError platformUsage; sysExit 1 : Py Bool) :=
    ((Starts.emit _ _).bind fun _ => Starts.raise _).mono (by simp)
  rcases args with ⟨command, platform⟩
  cases command <;> simp only [dispatch, commandPlan]
  case build =>
    generalize platform.filter (fun p => p != "") = target
    rcases target with _ | target
    · exact chain (.cons h₁ (.cons h₂ (.cons h₇ .nil))) (by simp)
    · dsimp only
      generalize target.splitOn "/" = parts
      rcases parts with _ | ⟨goos, _ | ⟨goarch, _ | ⟨_, _⟩⟩⟩
      · exact usage
      · exact usage
      · exact chain (.cons h₁ (.cons h₂ (.cons (h₈ goos goarch) .nil))) (by simp)
      · exact usage
  case test => exact chain (.cons h₁ (.cons h₂ (.cons (h₅ false) .nil))) (by simp)
  case clean => exact clean_starts r
  case fmt => exact chain (.cons h₁ (.cons h₃ .nil)) (by simp)
  case lint => exact chain (.cons h₁ (.cons h₄ .nil)) (by simp)
  case coverage => exact chain (.cons h₁ (.cons h₂ (.cons (h₅ true) .nil))) (by simp)
  case deps => exact chain (.cons h₁ (.cons h₂ .nil)) (by simp)
  case validate => exact validate_starts r
  case buildAll => exact chain (.cons h₁ (.cons h₂ (.cons hall .nil))) (by simp)

/-! ## The whole run -/

/-- A run of {lit}`main`, whichever way it ends, starts, in order, a sublist of the plan
of its subcommand: nothing outside it, nothing more often than the plan lists it,
nothing before a command the plan puts earlier. -/
theorem main_startsPlan (args : Args) (w : World) :
    ∃ evs, (Result.world (main args w)).trace = w.trace ++ evs ∧
      (startedCmds evs).Sublist (commandPlan (BuildRunner.onHost w.host) args) := by
  obtain ⟨evs, htr, hs⟩ := (dispatch_starts (BuildRunner.onHost w.host) args).run w
  obtain ⟨evs₂, htr₂, hsay⟩ := (main_cases args w).1
  refine ⟨evs ++ evs₂, by rw [htr₂, htr, List.append_assoc], ?_⟩
  simpa [startedCmds_of_isSay hsay] using hs

end Build
end Shoal
