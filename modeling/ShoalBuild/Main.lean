import ShoalBuild.Clean
import ShoalBuild.Matrix

/-!
# Shoal build automation - the command line

{lit}`main` builds a runner, dispatches on the subcommand inside one {lit}`try`
that turns a {lit}`KeyboardInterrupt` or any {lit}`Exception` into failure, prints
the summary and exits with {lit}`0` on success and {lit}`1` otherwise.  A
{lit}`--platform` that is not of the form {lit}`os/arch` exits with {lit}`1`
before anything runs.  Parsing the command line itself is left to
{lit}`argparse`: an argument list is one of the values below.

Main results:

- Theorem {lit}`allOk_cases`: an {lit}`and` chain either returns {lit}`True` after
  every operation did, or stops at the first operation that returns {lit}`False`
  or raises, with that operation's result.
- Theorem {lit}`dispatch_platform`: a non-empty {lit}`--platform` with exactly one
  slash builds for the target it names; any other non-empty value prints the usage
  line and exits with {lit}`1`.
- Theorem {lit}`main_exitStatus`: {lit}`main` exits with {lit}`0` exactly when the
  dispatched operation returned {lit}`True`, and with {lit}`1` otherwise.
-/

namespace Shoal
namespace Build

/-! ## Arguments and dispatch -/

/-- The {lit}`command` choices of the argument parser. -/
inductive Subcommand where
  | build
  | test
  | clean
  | fmt
  | lint
  | coverage
  | deps
  | validate
  | buildAll
deriving DecidableEq, Repr

/-- The parsed command line. -/
structure Args where
  command : Subcommand
  platform : Option String

/-- {lit}`a() and b() and ...` on operations returning a boolean. -/
def allOk : List (Py Bool) → Py Bool
  | [] => pure true
  | x :: rest => do if ← x then allOk rest else pure false

/-- What {lit}`main` prints for a malformed {lit}`--platform`. -/
def platformUsage : String := "--platform must be in the form os/arch, e.g., linux/amd64"

/-- {lit}`sys.exit(code)`. -/
def sysExit (code : Nat) : Py α := raise ⟨.systemExit code, toString code⟩

/-- The {lit}`if/elif` chain of {lit}`main` on the subcommand. -/
def dispatch (r : BuildRunner) (args : Args) : Py Bool :=
  match args.command with
  | .clean => clean r
  | .deps => allOk [checkPrerequisites r, downloadDependencies r]
  | .fmt => allOk [checkPrerequisites r, formatCode r]
  | .lint => allOk [checkPrerequisites r, lintCode r]
  | .test => allOk [checkPrerequisites r, downloadDependencies r, runTests r false]
  | .coverage => allOk [checkPrerequisites r, downloadDependencies r, runTests r true]
  | .build =>
    match args.platform.filter (fun p => p != "") with
    | some platform =>
      match platform.splitOn "/" with
      | [goos, goarch] =>
        allOk [checkPrerequisites r, downloadDependencies r, buildForPlatform r goos goarch]
      | _ => do
        printError platformUsage
        sysExit 1
    | none => allOk [checkPrerequisites r, downloadDependencies r, buildBinary r]
  | .buildAll => allOk [checkPrerequisites r, downloadDependencies r, buildAllPlatforms r]
  | .validate => validate r

/-- {lit}`BuildRunner.print_summary`; the elapsed wall-clock time it also prints is
not modelled. -/
def printSummary (r : BuildRunner) (success : Bool) : Py Unit := do
  printHeader "Build Summary"
  let status := if success then "SUCCESS" else "FAILED"
  print s!"Status: {status}"
  if success then
    if ← pathExists r.buildDir then
      let binaryPath := r.buildDir / r.binaryName
      if ← pathExists binaryPath then
        print ("Binary: " ++ binaryPath.str)

/-- Whether {lit}`main` catches the exception: {lit}`KeyboardInterrupt` or an
{lit}`Exception`. -/
def mainCatches (e : Exc) : Bool := e.cls == .keyboardInterrupt || e.isException

/-- The handlers of {lit}`main`. -/
def mainHandler (e : Exc) : Py Bool := do
  if e.cls == .keyboardInterrupt then printError "Build interrupted by user"
  else printError ("Build failed with exception: " ++ e.msg)
  pure false

/-- {lit}`main`. -/
def main (args : Args) : Py Unit := do
  let r ← BuildRunner.new
  let success ← tryExcept (dispatch r args) mainCatches mainHandler
  printSummary r success
  sysExit (if success then 0 else 1)

/-- The status the process ends with: the code of {lit}`SystemExit`, {lit}`1` for
any other uncaught exception, {lit}`0` when the script runs off its end. -/
def exitStatus {α : Type} : EStateM.Result Exc World α → Nat
  | .error ⟨.systemExit code, _⟩ _ => code
  | .error _ _ => 1
  | .ok _ _ => 0

/-! ## The --platform argument -/

/-- {lit}`goos, goarch = args.platform.split("/")`: a non-empty value with exactly
one slash names the target on either side of it, and the build goes ahead for that
target; a non-empty value with no slash or with several leaves {lit}`split` with a
number of pieces other than two, and the usage line is printed before
{lit}`sys.exit(1)`. -/
theorem dispatch_platform (r : BuildRunner) (p : String) (hp : p ≠ "") :
    (p.data.count '/' = 1 → ∃ goos goarch : String,
      p = goos ++ "/" ++ goarch ∧ '/' ∉ goos.data ∧ '/' ∉ goarch.data ∧
        dispatch r ⟨.build, some p⟩ =
          allOk [checkPrerequisites r, downloadDependencies r, buildForPlatform r goos goarch]) ∧
    (p.data.count '/' ≠ 1 →
      dispatch r ⟨.build, some p⟩ = (do printError platformUsage; sysExit 1)) := by
  have hfilter : (some p).filter (fun p => p != "") = some p := by simpa using hp
  refine ⟨fun h => ?_, fun h => ?_⟩
  · obtain ⟨goos, goarch, rfl, h₁, h₂⟩ := eq_slash_of_count h
    exact ⟨goos, goarch, rfl, h₁, h₂, by simp only [dispatch, hfilter, splitOn_slash_pair h₁ h₂]⟩
  · have hlen := splitOn_slash_length p
    simp only [dispatch, hfilter]
    split
    · next hs => simp [hs] at hlen; omega
    · rfl

/-- {lit}`linux/arm64` names a target; {lit}`linux/arm/v7` prints the usage line. -/
theorem dispatch_platform_linux :
    (∃ goos goarch : String, "linux/arm64" = goos ++ "/" ++ goarch ∧ '/' ∉ goos.data ∧
      '/' ∉ goarch.data ∧ dispatch srcRunner ⟨.build, some "linux/arm64"⟩ =
        allOk [checkPrerequisites srcRunner, downloadDependencies srcRunner,
          buildForPlatform srcRunner goos goarch]) ∧
    dispatch srcRunner ⟨.build, some "linux/arm/v7"⟩ = (do printError platformUsage; sysExit 1) :=
  ⟨(dispatch_platform srcRunner "linux/arm64" (by decide)).1 (by decide),
    (dispatch_platform srcRunner "linux/arm/v7" (by decide)).2 (by decide)⟩

/-! ## And-chains -/

/-- An {lit}`and` chain either has every operation return {lit}`True` in turn, or
stops at the first that does not, with that operation's own result: the operations
after it never run. -/
theorem allOk_cases (xs : List (Py Bool)) (w : World) :
    (∃ w', AllTrue xs w w' ∧ allOk xs w = .ok true w') ∨
      ∃ pre x post w₁, xs = pre ++ x :: post ∧ AllTrue pre w w₁ ∧
        (∀ w', x w₁ ≠ .ok true w') ∧ allOk xs w = x w₁ := by
  induction xs generalizing w with
  | nil => exact .inl ⟨w, .nil w, rfl⟩
  | cons x rest ih =>
    simp only [allOk]
    rw [bind_apply]
    cases hx : x w with
    | ok b w₁ =>
      cases b
      · exact .inr ⟨[], x, rest, w, rfl, .nil w, by simp [hx], by rw [hx]; rfl⟩
      · rcases ih w₁ with ⟨w', hall, hres⟩ | ⟨pre, y, post, w₂, rfl, hall, hne, hres⟩
        · exact .inl ⟨w', .cons hx hall, hres⟩
        · exact .inr ⟨x :: pre, y, post, w₂, rfl, .cons hx hall, hne, hres⟩
    | error e w₁ => exact .inr ⟨[], x, rest, w, rfl, .nil w, by simp [hx], by rw [hx]⟩

/-! ## What main does around the dispatched operation -/

section Effects

variable {P : Host → Event → Prop}

theorem Confined.allOk {xs : List (Py Bool)} (h : ∀ x ∈ xs, Confined P x) : Confined P (allOk xs) := by
  induction xs with
  | nil => exact Confined.pure true
  | cons x rest ih =>
    exact (h x (List.mem_cons_self _ _)).bind fun _ =>
      Confined.ite (ih fun y hy => h y (List.mem_cons_of_mem _ hy)) (Confined.pure false)

/-- {lit}`validate` appends the steps' events and the build record's. -/
theorem validate_confined (hP : Allows P) (r : BuildRunner)
    (hw : ∀ h text, P h (.write (r.buildDir / "build-info.json") text)) :
    Confined P (validate r) := by
  obtain ⟨h₁, h₂, h₃, h₄, h₅, h₆, h₇, -⟩ := methods_confined hP r
  refine (Confined.emit fun h => hP.say h _ _).bind fun _ =>
    (runSteps_confined hP ?_).bind fun _ => Confined.ite ?_ (Confined.pure false)
  · simp only [validateSteps, List.mem_cons, List.mem_singleton, List.not_mem_nil, or_false]
    rintro step (rfl | rfl | rfl | rfl | rfl | rfl | rfl)
    exacts [h₁, h₂, h₃, h₄, h₅ true, h₆, h₇]
  · exact (generateBuildInfo_confined hP r hw).bind fun _ =>
      (Confined.emit fun h => hP.say h _ _).bind fun _ => Confined.pure true

/-- Every subcommand but a malformed {lit}`build --platform` runs confined; that one
prints the usage line and exits with {lit}`1`. -/
theorem dispatch_cases (hP : Allows P) (r : BuildRunner)
    (hw : ∀ h text, P h (.write (r.buildDir / "build-info.json") text)) (args : Args) :
    Confined P (dispatch r args) ∨ dispatch r args = (do printError platformUsage; sysExit 1) := by
  obtain ⟨h₁, h₂, h₃, h₄, h₅, -, h₇, h₈⟩ := methods_confined hP r
  unfold dispatch
  split
  · exact .inl (clean_confined hP.say r)
  · exact .inl (Confined.allOk (by simp [h₁, h₂]))
  · exact .inl (Confined.allOk (by simp [h₁, h₃]))
  · exact .inl (Confined.allOk (by simp [h₁, h₄]))
  · exact .inl (Confined.allOk (by simp [h₁, h₂, h₅]))
  · exact .inl (Confined.allOk (by simp [h₁, h₂, h₅]))
  · split
    · split
      · exact .inl (Confined.allOk (by simp [h₁, h₂, h₈]))
      · exact .inr rfl
    · exact .inl (Confined.allOk (by simp [h₁, h₂, h₇]))
  · exact .inl (Confined.allOk (by simp [h₁, h₂, buildAllPlatforms_confined hP r]))
  · exact .inl (validate_confined hP r hw)

end Effects

/-- The summary only prints, and returns. -/
theorem printSummary_ok (r : BuildRunner) (success : Bool) (w : World) :
    ∃ w', printSummary r success w = .ok () w' ∧ Appends (fun ev => ev.isSay = true) w w' := by
  have hc : Confined (fun _ ev => ev.isSay = true) (printSummary r success) := by
    simp only [printSummary, printHeader, print]
    repeat (first
      | apply Confined.bind
      | intro _
      | exact Confined.emit fun _ => rfl
      | exact Confined.pure _
      | apply Confined.ite
      | exact Confined.pathExists _)
  have hok : ∃ w', printSummary r success w = .ok () w' := by
    cases success <;> simp only [printSummary, bind_apply, printHeader, print, emit, pathExists,
      pure_apply, if_true, if_false, Bool.false_eq_true]
    · exact ⟨_, rfl⟩
    · split
      · simp only [bind_apply, pathExists]
        split <;> exact ⟨_, rfl⟩
      · exact ⟨_, rfl⟩
  obtain ⟨w', hw'⟩ := hok
  exact ⟨w', hw', by simpa [hw', Result.world] using hc.appends w⟩

/-- {lit}`main`'s handlers print one line and make the run a failure. -/
theorem mainHandler_eq (e : Exc) (w : World) :
    ∃ text, mainHandler e w = .ok false (w.log (.say .error text)) := by
  unfold mainHandler
  split <;> exact ⟨_, rfl⟩

/-- {lit}`main`'s handlers catch everything but {lit}`SystemExit`. -/
theorem mainCatches_of_exits {e : Exc} (h : e.exits = false) : mainCatches e = true := by
  rcases e with ⟨cls, msg⟩
  cases cls <;> simp_all [mainCatches, Exc.exits, Exc.isException]

/-- After the dispatched operation {lit}`main` only prints, and it exits with
{lit}`0` exactly when the operation returned {lit}`True`, with {lit}`1` otherwise. -/
theorem main_cases (args : Args) (w : World) :
    Appends (fun ev => ev.isSay = true) (Result.world (dispatch (BuildRunner.onHost w.host) args w))
        (Result.world (main args w)) ∧
      exitStatus (main args w) =
        if Result.isTrue (dispatch (BuildRunner.onHost w.host) args w) then 0 else 1 := by
  let r := BuildRunner.onHost w.host
  let finish (success : Bool) : Py Unit := do
    printSummary r success
    sysExit (if success then 0 else 1)
  have hrun : main args w = (tryExcept (dispatch r args) mainCatches mainHandler >>= finish) w :=
    rfl
  have hfinish : ∀ b w₁, Appends (fun ev => ev.isSay = true) w₁ (Result.world (finish b w₁)) ∧
      exitStatus (finish b w₁) = if b then 0 else 1 := by
    intro b w₁
    obtain ⟨w₂, hs, happ⟩ := printSummary_ok r b w₁
    have hf : finish b w₁ = sysExit (if b then 0 else 1) w₂ := by
      show (printSummary r b >>= _) w₁ = _
      rw [bind_apply, hs]
    rw [hf]
    exact ⟨happ, by cases b <;> rfl⟩
  rw [hrun, bind_apply]
  cases hd : dispatch r args w with
  | ok b w₁ =>
    rw [tryExcept_ok _ _ hd]
    exact hfinish b w₁
  | error e w₁ =>
    rw [tryExcept_error _ _ hd]
    rcases dispatch_cases allows_true r (fun _ _ => trivial) args with hc | hu
    · obtain ⟨text, hh⟩ := mainHandler_eq e w₁
      simp only [mainCatches_of_exits (hc.not_exits hd), if_true, hh]
      obtain ⟨happ, hexit⟩ := hfinish false (w₁.log (.say .error text))
      exact ⟨(Appends.log_say _ _ _).trans happ, hexit⟩
    · rw [hu] at hd
      simp only [bind_apply, printError, emit, sysExit, raise] at hd
      cases hd
      exact ⟨Appends.refl _ _, rfl⟩

/-! ## Failing fast -/

/-- A printed line is no file write. -/
theorem Event.isWrite_of_isSay {ev : Event} (h : ev.isSay = true) : ev.isWrite = false := by
  cases ev <;> simp_all [Event.isSay, Event.isWrite]

/-- A run that does not return {lit}`True` has {lit}`isTrue` false. -/
theorem Result.isTrue_of_ne {t : EStateM.Result Exc World Bool} (h : ∀ w, t ≠ .ok true w) :
    Result.isTrue t = false := by
  cases ht : Result.isTrue t
  · rfl
  · obtain ⟨w, hw⟩ := (Result.isTrue_iff t).mp ht
    exact absurd hw (h w)

/-- A {lit}`validate` run either passes the seven steps in their declared order, and
then exits with {lit}`0` exactly when {lit}`generate_build_info` returns; or it stops
at the first step that does not return {lit}`True`, exits with {lit}`1`, only prints
after that step and writes no file.  Every subcommand that runs an {lit}`and` chain
stops at its first operation that does not return {lit}`True`, and exits with
{lit}`0` exactly when all of them returned {lit}`True`. -/
theorem main_failFast :
    (∀ (platform : Option String) (w : World),
      (∃ w₁, AllTrue ((validateSteps (BuildRunner.onHost w.host)).map Prod.snd)
          (w.log (.say .header "Shoal Build & Test Validation")) w₁ ∧
        (exitStatus (main ⟨.validate, platform⟩ w) = 0 ↔
          ∃ info w₂, generateBuildInfo (BuildRunner.onHost w.host) w₁ = .ok info w₂)) ∨
      ∃ pre name stepFunc post w₁,
        validateSteps (BuildRunner.onHost w.host) = pre ++ (name, stepFunc) :: post ∧
        AllTrue (pre.map Prod.snd) (w.log (.say .header "Shoal Build & Test Validation")) w₁ ∧
        (∀ w', stepFunc w₁ ≠ .ok true w') ∧ exitStatus (main ⟨.validate, platform⟩ w) = 1 ∧
        Appends (fun ev => ev.isSay = true) (Result.world (stepFunc w₁))
          (Result.world (main ⟨.validate, platform⟩ w)) ∧
        Appends (fun ev => ev.isWrite = false) w (Result.world (main ⟨.validate, platform⟩ w))) ∧
    ∀ (args : Args) (w : World) (xs : List (Py Bool)),
      dispatch (BuildRunner.onHost w.host) args = allOk xs →
      (∃ w', AllTrue xs w w' ∧ exitStatus (main args w) = 0) ∨
      ∃ pre x post w₁, xs = pre ++ x :: post ∧ AllTrue pre w w₁ ∧ (∀ w', x w₁ ≠ .ok true w') ∧
        exitStatus (main args w) = 1 ∧
        Appends (fun ev => ev.isSay = true) (Result.world (x w₁)) (Result.world (main args w)) := by
  refine ⟨fun platform w => ?_, fun args w xs hd => ?_⟩
  · obtain ⟨happ, hexit⟩ := main_cases ⟨.validate, platform⟩ w
    change Appends _ (Result.world (validate _ w)) _ at happ
    change _ = if Result.isTrue (validate _ w) then 0 else 1 at hexit
    rcases validate_cases (BuildRunner.onHost w.host) w with
      ⟨w₁, hall, hv⟩ | ⟨pre, name, f, post, w₁, hsteps, hall, hne, hstop⟩
    · refine .inl ⟨w₁, hall, ?_⟩
      rw [hexit, hv, ← recordBuild_isTrue]
      cases Result.isTrue (recordBuild _ w₁) <;> simp
    · refine .inr ⟨pre, name, f, post, w₁, hsteps, hall, hne,
        by rw [hexit, hstop.isTrue]; rfl, hstop.appends.trans happ, ?_⟩
      -- the header, the passed steps and the stopping step write nothing; then only lines
      have hconf := validateSteps_confined (BuildRunner.onHost w.host)
      have hpre : ∀ x ∈ pre.map Prod.snd, Confined (fun _ ev => ev.isWrite = false) x := by
        intro x hx
        obtain ⟨step, hs, rfl⟩ := List.mem_map.mp hx
        exact hconf step (hsteps ▸ List.mem_append_left _ hs)
      have hf : Confined (fun _ ev => ev.isWrite = false) f :=
        hconf (name, f) (hsteps ▸ List.mem_append_right _ (List.mem_cons_self _ _))
      exact (((Appends.log_say _ _ w).mono fun _ => Event.isWrite_of_isSay).trans
        (AllTrue.appends hpre hall)).trans ((hf.appends w₁).trans
          ((hstop.appends.trans happ).mono fun _ => Event.isWrite_of_isSay))
  · obtain ⟨happ, hexit⟩ := main_cases args w
    rw [hd] at happ hexit
    rcases allOk_cases xs w with ⟨w', hall, hres⟩ | ⟨pre, x, post, w₁, hxs, hall, hne, hres⟩
    · exact .inl ⟨w', hall, by rw [hexit, hres]; rfl⟩
    · refine .inr ⟨pre, x, post, w₁, hxs, hall, hne, ?_, by rwa [hres] at happ⟩
      rw [hexit, hres, Result.isTrue_of_ne hne]
      rfl

/-- A checkout at {lit}`/src` with its module file and a built binary. -/
def checkout : FS :=
  fsOf [⟨[]⟩, ⟨["src"]⟩, ⟨["src", "build"]⟩] [⟨["src", "go.mod"]⟩, ⟨["src", "build", "shoal"]⟩]

/-- On the checkout, {lit}`deps` runs the chain of two operations. -/
theorem main_failFast_deps :
    dispatch (BuildRunner.onHost (linuxHost silentTools)) ⟨.deps, none⟩ =
        allOk [checkPrerequisites srcRunner, downloadDependencies srcRunner] ∧
      ((∃ w', AllTrue [checkPrerequisites srcRunner, downloadDependencies srcRunner]
          ⟨linuxHost silentTools, checkout, 0, []⟩ w' ∧
          exitStatus (main ⟨.deps, none⟩ ⟨linuxHost silentTools, checkout, 0, []⟩) = 0) ∨
        ∃ pre x post w₁, [checkPrerequisites srcRunner, downloadDependencies srcRunner] =
            pre ++ x :: post ∧ AllTrue pre ⟨linuxHost silentTools, checkout, 0, []⟩ w₁ ∧
          (∀ w', x w₁ ≠ .ok true w') ∧
          exitStatus (main ⟨.deps, none⟩ ⟨linuxHost silentTools, checkout, 0, []⟩) = 1 ∧
          Appends (fun ev => ev.isSay = true) (Result.world (x w₁))
            (Result.world (main ⟨.deps, none⟩ ⟨linuxHost silentTools, checkout, 0, []⟩))) :=
  ⟨rfl, main_failFast.2 ⟨.deps, none⟩ ⟨linuxHost silentTools, checkout, 0, []⟩ _ rfl⟩

/-- Tools that all succeed silently, except that git names the current branch
{lit}`café` in Latin-1. -/
def latin1Branch : Tools := fun _ l fs =>
  (if l.argv = ["git", "branch", "--show-current"] then .exited 0 [99, 97, 102, 233, 10] []
    else .exited 0 [] [], fs)

/-- All seven steps of {lit}`validate` return {lit}`True`, and {lit}`main` exits with
{lit}`1`: the branch name does not decode, so {lit}`generate_build_info` raises
{lit}`UnicodeDecodeError` outside the steps' {lit}`try`. -/
theorem main_validate_latin1Branch :
    ∃ w₁, AllTrue ((validateSteps srcRunner).map Prod.snd)
        ((⟨linuxHost latin1Branch, checkout, 0, []⟩ : World).log
          (.say .header "Shoal Build & Test Validation")) w₁ ∧
      exitStatus (main ⟨.validate, none⟩ ⟨linuxHost latin1Branch, checkout, 0, []⟩) = 1 :=
  ⟨_, (runSteps_ok_true_iff _ _ _).mp rfl, rfl⟩

end Build
end Shoal
