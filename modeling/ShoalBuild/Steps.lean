import ShoalBuild.Command
import ShoalBuild.Text

/-!
# Shoal build automation - the build steps

Each method of {lit}`BuildRunner` that runs tools is written here as the script
has it: the commands it starts, the files it asks about, the lines it prints and
the boolean it returns.  Only the return code of a command decides a step; the text
a tool prints is printed again, or stored in the build record.

Main results:

- Theorem {lit}`printCoverageTotal_eq`: the coverage summary never raises, so a step
  that reads tool output still decides only by return codes.
-/

namespace Shoal
namespace Build

/-! ## Reading the host -/

/-- {lit}`platform.system()`. -/
def platformSystem : Py String := fun w => .ok w.host.system w

/-- {lit}`platform.machine()`. -/
def platformMachine : Py String := fun w => .ok w.host.machine w

/-- {lit}`time.strftime("%Y-%m-%d %H:%M:%S UTC", time.gmtime())`. -/
def utcTimestamp : Py String := fun w => .ok w.host.utcNow w

/-! ## Prerequisites, dependencies, format and lint -/

/-- {lit}`BuildRunner.check_prerequisites`. -/
def checkPrerequisites (r : BuildRunner) : Py Bool := do
  printStep "Checking prerequisites"
  let (code, stdout, _) ← runCommand r ["go", "version"] none false
  if code ≠ 0 then do
    printError "Go is not installed or not in PATH"
    pure false
  else do
    let goVersion := pyStrip stdout
    printSuccess s!"Found {goVersion}"
    let hasModule ← pathExists (r.rootDir / "go.mod")
    if !hasModule then do
      printError "go.mod not found - not in a Go module directory"
      pure false
    else do
      printSuccess "All prerequisites met"
      pure true

/-- {lit}`BuildRunner.download_dependencies`. -/
def downloadDependencies (r : BuildRunner) : Py Bool := do
  printStep "Downloading dependencies"
  let (code, _, _) ← runCommand r ["go", "mod", "download"] none true
  if code ≠ 0 then pure false
  else do
    let (code, _, _) ← runCommand r ["go", "mod", "verify"] none true
    if code ≠ 0 then do
      printError "Dependency verification failed"
      pure false
    else do
      printSuccess "Dependencies downloaded and verified"
      pure true

/-- {lit}`BuildRunner.format_code`. -/
def formatCode (r : BuildRunner) : Py Bool := do
  printStep "Formatting Go code"
  let (code, _, _) ← runCommand r ["go", "fmt", "./..."] none true
  if code ≠ 0 then pure false
  else do
    printSuccess "Code formatted"
    pure true

/-- {lit}`BuildRunner.lint_code`: {lit}`golangci-lint` when it answers its version
probe, {lit}`go vet` otherwise. -/
def lintCode (r : BuildRunner) : Py Bool := do
  printStep "Linting code"
  let (code, _, _) ← runCommand r ["golangci-lint", "--version"] none false
  if code = 0 then do
    let (code, _, _) ← runCommand r ["golangci-lint", "run"] none true
    if code ≠ 0 then pure false
    else do
      printSuccess "Linting passed (golangci-lint)"
      pure true
  else do
    let (code, _, _) ← runCommand r ["go", "vet", "./..."] none true
    if code ≠ 0 then pure false
    else do
      printSuccess "Static analysis passed (go vet)"
      pure true

/-! ## Tests and coverage -/

/-- The {lit}`go test` command line. -/
def testCmd (withCoverage : Bool) : List String :=
  ["go", "test"] ++ (if withCoverage then ["-coverprofile=coverage.out"] else []) ++
    ["-v", "./..."]

/-- The loop over the coverage summary: the last word of the first line that
contains {lit}`total:`, if any. -/
def printCoverageTotal (coverageOutput : String) : Py Unit :=
  match ((pyStrip coverageOutput).splitOn "\n").find? (fun line => hasSub "total:" line) with
  | none => pure ()
  | some line =>
    match (pySplit line).getLast? with
    | some coverage => printSuccess s!"Test coverage: {coverage}"
    | none => raise ⟨.indexError, "list index out of range"⟩

/-- The coverage report that {lit}`run_tests` makes when a profile was written. -/
def coverageReport (r : BuildRunner) : Py Unit := do
  let (code, coverageOutput, _) ←
    runCommand r ["go", "tool", "cover", "-func=coverage.out"] none false
  if code = 0 then do
    printCoverageTotal coverageOutput
    let _ ← runCommand r ["go", "tool", "cover", "-html=coverage.out", "-o", "coverage.html"]
      none false
    if ← pathExists (r.rootDir / "coverage.html") then
      printSuccess "Coverage report generated: coverage.html"

/-- {lit}`BuildRunner.run_tests`. -/
def runTests (r : BuildRunner) (withCoverage : Bool) : Py Bool := do
  printStep "Running tests"
  let (code, _, _) ← runCommand r (testCmd withCoverage) none true
  if code ≠ 0 then pure false
  else do
    printSuccess "All tests passed"
    let profiled ← if withCoverage then pathExists (r.rootDir / "coverage.out") else pure false
    if profiled then coverageReport r
    pure true

/-- The coverage summary never raises: it prints the last word of a line that
contains {lit}`total:`, which has one, or nothing. -/
theorem printCoverageTotal_eq (coverageOutput : String) (w : World) :
    printCoverageTotal coverageOutput w = .ok () w ∨
      ∃ text, printCoverageTotal coverageOutput w = .ok () (w.log (.say .success text)) := by
  unfold printCoverageTotal
  cases hf : ((pyStrip coverageOutput).splitOn "\n").find? (fun line => hasSub "total:" line) with
  | none => exact .inl rfl
  | some line =>
    have htotal : hasSub "total:" line = true := List.find?_some hf
    dsimp only
    cases hlast : (pySplit line).getLast? with
    | none => exact absurd (List.getLast?_eq_none_iff.mp hlast) (pySplit_ne_nil_of_total htotal)
    | some coverage => exact .inr ⟨_, rfl⟩

/-! ## Compiling -/

/-- The {lit}`go build` command line of both build methods. -/
def goBuildCmd (binaryPath : Path) : List String :=
  ["go", "build", "-ldflags", "-s -w -extldflags=-static", "-tags", "netgo,osusergo",
    "-o", binaryPath.str, "./cmd/shoal"]

/-- {lit}`BuildRunner.build_binary`. -/
def buildBinary (r : BuildRunner) : Py Bool := do
  printStep "Building application"
  mkdir r.buildDir
  let binaryPath := r.buildDir / r.binaryName
  let (code, _, _) ← runCommand r (goBuildCmd binaryPath) none true
  if code ≠ 0 then pure false
  else do
    let built ← pathExists binaryPath
    if !built then do
      printError "Binary was not created"
      pure false
    else do
      let size ← statSize binaryPath
      printSuccess ("Binary built: " ++ binaryPath.str ++ " (" ++ formatMB size ++ " MB)")
      let (code, _, _) ← runCommand r [binaryPath.str, "-h"] none false
      if code = 0 then printSuccess "Binary execution test passed"
      else printWarning "Binary execution test failed (may be normal)"
      pure true

/-- {lit}`BuildRunner.run_security_checks`: {lit}`gosec` when it answers its version
probe, a warning otherwise. -/
def runSecurityChecks (r : BuildRunner) : Py Bool := do
  printStep "Running security checks"
  let (code, _, _) ← runCommand r ["gosec", "-version"] none false
  if code = 0 then do
    let (code, _, _) ← runCommand r ["gosec", "./..."] none true
    if code ≠ 0 then do
      printWarning "Security scan found issues"
      pure false
    else do
      printSuccess "Security scan passed"
      pure true
  else do
    printWarning "gosec not available - skipping security scan"
    pure true

/-- The name of the artifact {lit}`build_for_platform` writes. -/
def platformBinaryName (goos goarch : String) : String :=
  let ext := if goos = "windows" then ".exe" else ""
  "shoal-" ++ goos ++ "-" ++ goarch ++ ext

/-- {lit}`BuildRunner.build_for_platform`.  The script computes a copy of the
environment with {lit}`GOOS` and {lit}`GOARCH` set, and then starts {lit}`go build`
through {lit}`run_command`, which takes no environment. -/
def buildForPlatform (r : BuildRunner) (goos goarch : String) : Py Bool := do
  printStep s!"Building for {goos}/{goarch}"
  mkdir r.buildDir
  let binaryPath := r.buildDir / platformBinaryName goos goarch
  let env ← osEnviron
  let _crossEnv := (env.set "GOOS" goos).set "GOARCH" goarch
  let (code, _, _) ← runCommand r (goBuildCmd binaryPath) none true
  let failed ← if code ≠ 0 then pure true else (fun b => !b) <$> pathExists binaryPath
  if failed then do
    printError s!"Failed to build for {goos}/{goarch}"
    pure false
  else do
    let size ← statSize binaryPath
    printSuccess ("Built: " ++ binaryPath.str ++ " (" ++ formatMB size ++ " MB)")
    pure true

/-- {lit}`BuildRunner.SUPPORTED_PLATFORMS`, in declaration order. -/
def supportedPlatforms : List (String × String) :=
  [("linux", "amd64"), ("windows", "amd64"), ("darwin", "amd64"), ("linux", "arm64"),
    ("darwin", "arm64")]

/-- The loop of {lit}`build_all_platforms` over the remaining targets, with
{lit}`all_ok` so far. -/
def buildAllLoop (r : BuildRunner) : List (String × String) → Bool → Py Bool
  | [], allOk => pure allOk
  | (goos, goarch) :: rest, allOk => do
    let ok ← buildForPlatform r goos goarch
    buildAllLoop r rest (allOk && ok)

/-- {lit}`BuildRunner.build_all_platforms`. -/
def buildAllPlatforms (r : BuildRunner) : Py Bool := do
  printHeader "Building for all supported platforms"
  buildAllLoop r supportedPlatforms true

/-! ## The build record -/

/-- The dictionary {lit}`generate_build_info` returns and writes. -/
structure BuildInfo where
  timestamp : String
  goVersion : String
  gitCommit : String
  gitBranch : String
  gitDirty : Bool
  platform : String
  architecture : String

/-- {lit}`json.dumps(build_info, indent=2)`. -/
def BuildInfo.dumps (info : BuildInfo) : String :=
  let item (key value : String) := "  " ++ jsonString key ++ ": " ++ value
  "\x7b\n" ++ ",\n".intercalate
    [item "timestamp" (jsonString info.timestamp),
      item "go_version" (jsonString info.goVersion),
      item "git_commit" (jsonString info.gitCommit),
      item "git_branch" (jsonString info.gitBranch),
      item "git_dirty" (if info.gitDirty then "true" else "false"),
      item "platform" (jsonString info.platform),
      item "architecture" (jsonString info.architecture)] ++ "\n\x7d"

/-- {lit}`BuildRunner.generate_build_info`: every probe whose command fails leaves
its placeholder. -/
def generateBuildInfo (r : BuildRunner) : Py BuildInfo := do
  let (code, stdout, _) ← runCommand r ["git", "rev-parse", "HEAD"] none false
  let gitCommit := if code = 0 then (pyStrip stdout).take 8 else "unknown"
  let (code, stdout, _) ← runCommand r ["git", "branch", "--show-current"] none false
  let gitBranch := if code = 0 then pyStrip stdout else "unknown"
  let (code, stdout, _) ← runCommand r ["git", "status", "--porcelain"] none false
  let gitDirty := if code = 0 then pyStrip stdout != "" else false
  let (code, goVersion, _) ← runCommand r ["go", "version"] none false
  let goVersion := if code = 0 then pyStrip goVersion else "unknown"
  let timestamp ← utcTimestamp
  let platform ← platformSystem
  let architecture ← platformMachine
  let info : BuildInfo :=
    { timestamp, goVersion, gitCommit, gitBranch, gitDirty, platform, architecture }
  writeText (r.buildDir / "build-info.json") info.dumps
  pure info

end Build
end Shoal
