import ShoalBuild.Effects

/-!
# Shoal build automation - the cross-compilation matrix

{lit}`build_all_platforms` calls {lit}`build_for_platform` on each entry of
{lit}`SUPPORTED_PLATFORMS` in turn and and-s the results, so a target that returns
{lit}`False` does not stop the loop.  A target whose build raises does: nothing in
the loop catches, so the exception leaves {lit}`build_all_platforms` and the
remaining targets are never attempted.

{lit}`build_for_platform` computes a copy of the environment with {lit}`GOOS` and
{lit}`GOARCH` set, but {lit}`run_command` takes no environment, so {lit}`go build`
runs in the script's own environment: it compiles for whatever platform that
environment selects, under the target's file name.

Main results:

- Theorem {lit}`buildAllLoop_cases`: the loop either runs every remaining target to
  its return, or runs a prefix and ends with the exception of the next target.
- Theorem {lit}`buildAllPlatforms_cases`: the same for the whole matrix build, whose
  result without an exception is the conjunction of the per-target results.
-/

namespace Shoal
namespace Build

/-! ## The matrix loop -/

/-- The per-target builds ran in order from one world to the next, each returning. -/
inductive EachReturns (r : BuildRunner) : List (String × String) → World → List Bool → World → Prop
  | nil (w : World) : EachReturns r [] w [] w
  | cons {goos goarch : String} {rest : List (String × String)} {w w₁ w₂ : World} {b : Bool}
      {bs : List Bool} :
      buildForPlatform r goos goarch w = .ok b w₁ → EachReturns r rest w₁ bs w₂ →
      EachReturns r ((goos, goarch) :: rest) w (b :: bs) w₂

/-- The loop either has every remaining target return in turn, and returns
{lit}`all_ok` and-ed with their results, or has a prefix return and ends with the
exception, and in the world, of the first target that raises. -/
theorem buildAllLoop_cases (r : BuildRunner) (targets : List (String × String)) (allOk : Bool)
    (w : World) :
    (∃ bs w', EachReturns r targets w bs w' ∧
        buildAllLoop r targets allOk w = .ok (allOk && bs.all id) w') ∨
      ∃ pre goos goarch post bs w₁ e w₂, targets = pre ++ (goos, goarch) :: post ∧
        EachReturns r pre w bs w₁ ∧ buildForPlatform r goos goarch w₁ = .error e w₂ ∧
        buildAllLoop r targets allOk w = .error e w₂ := by
  induction targets generalizing allOk w with
  | nil => exact .inl ⟨[], w, .nil w, by simp [buildAllLoop]⟩
  | cons target rest ih =>
    obtain ⟨goos, goarch⟩ := target
    simp only [buildAllLoop]
    rw [bind_apply]
    cases hb : buildForPlatform r goos goarch w with
    | ok b w₁ =>
      rcases ih (allOk && b) w₁ with
        ⟨bs, w', h, hres⟩ | ⟨pre, o, a, post, bs, w₂, e, w₃, rfl, h, he, hres⟩
      · exact .inl ⟨b :: bs, w', .cons hb h, by simpa [Bool.and_assoc] using hres⟩
      · exact .inr ⟨(goos, goarch) :: pre, o, a, post, b :: bs, w₂, e, w₃, rfl, .cons hb h, he,
          hres⟩
    | error e w₁ => exact .inr ⟨[], goos, goarch, rest, [], w, e, w₁, rfl, .nil w, hb, rfl⟩

/-- {lit}`build_all_platforms` attempts the supported targets in declaration order.
A target that returns, with either result, lets the next one run, and when all five
return the result is {lit}`True` exactly when all five returned {lit}`True`.  A
target that raises ends the matrix build with its exception: no later target runs. -/
theorem buildAllPlatforms_cases (r : BuildRunner) (w : World) :
    (∃ bs w', EachReturns r supportedPlatforms
        (w.log (.say .header "Building for all supported platforms")) bs w' ∧
        buildAllPlatforms r w = .ok (bs.all id) w') ∨
      ∃ pre goos goarch post bs w₁ e w₂, supportedPlatforms = pre ++ (goos, goarch) :: post ∧
        EachReturns r pre (w.log (.say .header "Building for all supported platforms")) bs w₁ ∧
        buildForPlatform r goos goarch w₁ = .error e w₂ ∧ buildAllPlatforms r w = .error e w₂ := by
  have hrun : buildAllPlatforms r w =
      buildAllLoop r supportedPlatforms true
        (w.log (.say .header "Building for all supported platforms")) := rfl
  rw [hrun]
  simpa only [Bool.true_and] using buildAllLoop_cases r supportedPlatforms true _

/-! ## Two machines

Both run the script from {lit}`/src` on Linux with an empty environment and decode
output as ASCII. -/

/-- Strict ASCII decoding. -/
def asciiCodec : Codec := fun b =>
  if b.all (· < 128) then .ok ⟨b.map fun x => Char.ofNat x.toNat⟩
  else .error "'ascii' codec can't decode byte: ordinal not in range(128)"

/-- A Linux host with an empty environment and the given tools. -/
def linuxHost (tools : Tools) : Host :=
  ⟨tools, asciiCodec, fun _ => none, ⟨["src"]⟩, "Linux", "x86_64", "2026-01-01 00:00:00 UTC"⟩

/-- A filesystem holding the given directories and files of one MiB each. -/
def fsOf (dirs files : List Path) : FS := fun p =>
  if p ∈ dirs then some .dir else if p ∈ files then some (.file 1048576) else none

/-- The runner {lit}`main` builds on {lit}`linuxHost`. -/
def srcRunner : BuildRunner := ⟨⟨["src"]⟩, "shoal"⟩

/-- A {lit}`go` that is present but cannot be executed; every other tool succeeds. -/
def unrunnableGo : Tools := fun _ l fs =>
  (if l.argv.head? = some "go" then .raised (.permission "[Errno 13] Permission denied: 'go'")
    else .exited 0 [] [], fs)

/-- On a machine where {lit}`go` cannot be executed, the matrix build raises
{lit}`PermissionError` after one process start: four of the five targets are
never attempted. -/
theorem buildAllPlatforms_unrunnableGo :
    ∃ w', buildAllPlatforms srcRunner ⟨linuxHost unrunnableGo, fsOf [⟨[]⟩, ⟨["src"]⟩] [], 0, []⟩ =
        .error ⟨.permissionError, "[Errno 13] Permission denied: 'go'"⟩ w' ∧
      (w'.trace.filterMap Event.launch?).length = 1 :=
  ⟨_, rfl, rfl⟩

/-- Tools that all exit with {lit}`0` and print nothing. -/
def silentTools : Tools := fun _ _ fs => (.exited 0 [] [], fs)

/-- On Linux with no {lit}`GOOS` in the environment, {lit}`build_for_platform`
reports the Windows artifact built, while the one {lit}`go build` it started saw
neither {lit}`GOOS` nor {lit}`GOARCH`. -/
theorem buildForPlatform_windows_from_linux :
    ∃ w', buildForPlatform srcRunner "windows" "amd64"
        ⟨linuxHost silentTools, fsOf [⟨[]⟩, ⟨["src"]⟩, ⟨["src", "build"]⟩]
          [⟨["src", "build", "shoal-windows-amd64.exe"]⟩], 0, []⟩ = .ok true w' ∧
      (w'.trace.filterMap Event.launch?).map (fun l => (l.env "GOOS", l.env "GOARCH")) =
        [(none, none)] :=
  ⟨_, rfl, rfl⟩

end Build
end Shoal
