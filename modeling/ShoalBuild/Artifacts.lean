import Mathlib.Data.List.Nodup
import ShoalBuild.Matrix

/-!
# Shoal build automation - the artifacts of a matrix build

Each target of {lit}`build_all_platforms` runs {lit}`go build` with
{lit}`-o build/shoal-<goos>-<goarch>[.exe]` and returns {lit}`True` when the build
exits with {lit}`0` and the file is there.  Which files exist afterwards depends on
what the compiler does, which the script does not control, so the results below
assume an honest compiler: in the directory of its output it changes no other file,
it writes that output when it exits with {lit}`0`, and it leaves the output as it was
when it fails.  What it does elsewhere, in its build cache or its temporary files, is
left open.

Main results:

- Theorem {lit}`buildForPlatform_artifact`: one target's build changes no other file
  in the build directory, and its artifact is there afterwards exactly when the build
  returned {lit}`True` or it was there before.
- Theorem {lit}`buildAllPlatforms_artifacts`: a matrix build that returns, started with
  no artifact, leaves target by target an artifact exactly for the targets whose build
  returned {lit}`True`, however many others failed, and returns their conjunction.
-/

namespace Shoal
namespace Build

/-! ## An honest compiler -/

/-- Tools whose {lit}`go build -o p` changes no other file in the directory of
{lit}`p`, leaves a file at {lit}`p` when it exits with {lit}`0`, and leaves {lit}`p`
as it was when it fails.  Paths outside that directory, where the compiler keeps its
build cache and temporary files, are unconstrained. -/
structure HonestGo (tools : Tools) : Prop where
  frame : ∀ n l fs p q, l.argv = goBuildCmd p → q.parent = p.parent → q.str ≠ p.str →
    (tools n l fs).2 q = fs q
  output : ∀ n l fs p, l.argv = goBuildCmd p → (tools n l fs).1.succeeded = true →
    ((tools n l fs).2 p).isSome = true
  failure : ∀ n l fs p, l.argv = goBuildCmd p → (tools n l fs).1.succeeded = false →
    (tools n l fs).2 p = fs p

/-- The artifact {lit}`build_for_platform` builds, its {lit}`binary_path`. -/
def artifactPath (r : BuildRunner) (goos goarch : String) : Path :=
  r.buildDir / platformBinaryName goos goarch

/-- An artifact is not the build directory itself. -/
theorem artifactPath_ne (r : BuildRunner) (goos goarch : String) :
    artifactPath r goos goarch ≠ r.buildDir :=
  Path.div_ne _ _

/-- A path in the build directory is not the build directory itself. -/
theorem ne_buildDir_of_parent {r : BuildRunner} {q : Path} (h : q.parent = r.buildDir) :
    q ≠ r.buildDir := fun hq => by
  rw [hq, BuildRunner.buildDir, Path.div_parent] at h
  exact Path.div_ne _ _ h.symm

/-- A {lit}`run_command` of {lit}`go build -o p` that returns leaves the machine as it
was, changes no other file in the directory of {lit}`p`, leaves a file at {lit}`p`
when the status is {lit}`0`, and leaves {lit}`p` as it was when it is not. -/
theorem runCommand_goBuild {r : BuildRunner} {p : Path} {cwd : Option Path} {check : Bool}
    {w w' : World} {v : Int × String × String} (hgo : HonestGo w.host.tools)
    (h : runCommand r (goBuildCmd p) cwd check w = .ok v w') :
    w'.host = w.host ∧ (∀ q, q.parent = p.parent → q.str ≠ p.str → w'.fs q = w.fs q) ∧
      (v.1 = 0 → (w'.fs p).isSome = true) ∧ (v.1 ≠ 0 → w'.fs p = w.fs p) := by
  obtain ⟨hhost, -, hfs⟩ := runCommand_world h
  have hstatus := runCommand_status h
  have hl : (⟨goBuildCmd p, cwd.getD r.rootDir, w.host.environ⟩ : Launch).argv = goBuildCmd p :=
    rfl
  refine ⟨hhost, fun q hpar hq => ?_, fun h0 => ?_, fun h0 => ?_⟩ <;> rw [hfs]
  · exact hgo.frame _ _ _ p q hl hpar hq
  · exact hgo.output _ _ _ p hl (hstatus.mp h0)
  · exact hgo.failure _ _ _ p hl (by simpa using mt hstatus.mpr h0)

/-! ## One target -/

/-- One target's build that returns leaves the machine as it was, changes no other
file in the build directory, and leaves the artifact there exactly when it returned
{lit}`True` or the artifact was there before. -/
theorem buildForPlatform_artifact {r : BuildRunner} {goos goarch : String} {w w' : World}
    {b : Bool} (hgo : HonestGo w.host.tools) (h : buildForPlatform r goos goarch w = .ok b w') :
    w'.host = w.host ∧
      (∀ q, q.parent = r.buildDir → q.str ≠ (artifactPath r goos goarch).str →
        w'.fs q = w.fs q) ∧
      (w'.fs (artifactPath r goos goarch)).isSome =
        (b || (w.fs (artifactPath r goos goarch)).isSome) := by
  simp only [buildForPlatform, printStep, printError, printSuccess] at h
  obtain ⟨⟨⟩, w₁, h₁, h⟩ := bind_eq_ok h
  cases h₁
  obtain ⟨⟨⟩, w₂, h₂, h⟩ := bind_eq_ok h
  have hw₂ := mkdir_frame h₂
  simp only [World.log_host, World.log_fs] at hw₂
  obtain ⟨env, w₃, h₃, h⟩ := bind_eq_ok h
  cases h₃
  obtain ⟨⟨code, o, e⟩, w₄, h₄, h⟩ := bind_eq_ok h
  obtain ⟨hhost₄, hframe₄, hzero, hfail⟩ := runCommand_goBuild (hw₂.1 ▸ hgo) h₄
  have hexists : ((fun b => !b) <$> pathExists (r.buildDir / platformBinaryName goos goarch) :
      Py Bool) w₄ = .ok (!(w₄.fs (artifactPath r goos goarch)).isSome) w₄ := rfl
  -- what the rest of the run returns, and that it only prints
  have htail : w'.host = w₄.host ∧ w'.fs = w₄.fs ∧
      b = (code == 0 && (w₄.fs (artifactPath r goos goarch)).isSome) := by
    dsimp only at h
    split at h
    next hcode =>
      obtain ⟨_, _, h₅, h⟩ := bind_eq_ok h
      cases h₅
      obtain ⟨⟨⟩, _, h₆, h⟩ := bind_eq_ok h
      cases h₆
      cases h
      simp [hcode]
    next hcode =>
      obtain ⟨_, _, h₅, h⟩ := bind_eq_ok h
      rw [hexists] at h₅
      cases h₅
      split at h
      next hnone =>
        obtain ⟨⟨⟩, _, h₆, h⟩ := bind_eq_ok h
        cases h₆
        cases h
        have hs : (w₄.fs (artifactPath r goos goarch)).isSome = false := by
          simpa using hnone
        simp [hs]
      next hsome =>
        obtain ⟨_, w₆, h₆, h⟩ := bind_eq_ok h
        rw [statSize_world h₆] at h
        obtain ⟨⟨⟩, _, h₇, h⟩ := bind_eq_ok h
        cases h₇
        cases h
        have hs : (w₄.fs (artifactPath r goos goarch)).isSome = true :=
          Option.isSome_iff_ne_none.mpr (by simpa using hsome)
        simp [of_not_not hcode, hs]
  obtain ⟨hhost', hfs', hb⟩ := htail
  refine ⟨by rw [hhost', hhost₄, hw₂.1], fun q hq hqs => ?_, ?_⟩
  · rw [hfs', hframe₄ q (by rw [hq, Path.div_parent]) hqs, hw₂.2 q (ne_buildDir_of_parent hq)]
  · rw [hfs', hb]
    by_cases hc : code = 0
    · have hs : (w₄.fs (artifactPath r goos goarch)).isSome = true := hzero hc
      simp [hc, hs]
    · have hs : w₄.fs (artifactPath r goos goarch) = w₂.fs (artifactPath r goos goarch) :=
        hfail hc
      simp [hc, hs, hw₂.2 _ (artifactPath_ne r goos goarch)]

/-! ## The whole matrix -/

/-- The five artifacts have five different path texts, whatever the build directory. -/
theorem artifactPath_str_nodup (r : BuildRunner) :
    (supportedPlatforms.map fun t => (artifactPath r t.1 t.2).str).Nodup := by
  have hnames : ∀ t ∈ supportedPlatforms, ∀ t' ∈ supportedPlatforms,
      platformBinaryName t.1 t.2 = platformBinaryName t'.1 t'.2 → t = t' := by decide
  exact List.Nodup.map_on (fun t ht t' ht' h => hnames t ht t' ht' (Path.str_div_inj h))
    (by decide)

/-- The targets a loop ran leave the machine as it was and change no file in the
build directory but their artifacts; started with none of their artifacts present,
they leave, target by target, an artifact exactly where the build returned
{lit}`True`. -/
theorem eachReturns_artifacts {r : BuildRunner} {targets : List (String × String)}
    {w w' : World} {bs : List Bool} (h : EachReturns r targets w bs w')
    (hgo : HonestGo w.host.tools)
    (hnodup : (targets.map fun t => (artifactPath r t.1 t.2).str).Nodup) :
    w'.host = w.host ∧
      (∀ q, q.parent = r.buildDir → (∀ t ∈ targets, q.str ≠ (artifactPath r t.1 t.2).str) →
        w'.fs q = w.fs q) ∧
      ((∀ t ∈ targets, w.fs (artifactPath r t.1 t.2) = none) →
        targets.map (fun t => (w'.fs (artifactPath r t.1 t.2)).isSome) = bs) := by
  induction h with
  | nil w => exact ⟨rfl, fun _ _ _ => rfl, fun _ => rfl⟩
  | @cons goos goarch rest w w₁ w₂ b bs hrun _ ih =>
    obtain ⟨hhost₁, hframe₁, hart₁⟩ := buildForPlatform_artifact hgo hrun
    simp only [List.map_cons, List.nodup_cons, List.mem_map] at hnodup
    obtain ⟨hhost, hframe, hart⟩ := ih (hhost₁ ▸ hgo) hnodup.2
    -- the first artifact's text is none of the later ones'
    have hsep : ∀ t ∈ rest, (artifactPath r t.1 t.2).str ≠ (artifactPath r goos goarch).str :=
      fun t ht heq => hnodup.1 ⟨t, ht, heq⟩
    refine ⟨hhost.trans hhost₁, fun q hq hqt => ?_, fun hfresh => ?_⟩
    · rw [hframe q hq fun t ht => hqt t (List.mem_cons_of_mem _ ht),
        hframe₁ q hq (hqt (goos, goarch) (List.mem_cons_self _ _))]
    · have hfresh₁ : ∀ t ∈ rest, w₁.fs (artifactPath r t.1 t.2) = none := fun t ht => by
        rw [hframe₁ (artifactPath r t.1 t.2) (Path.div_parent _ _) (hsep t ht),
          hfresh t (List.mem_cons_of_mem _ ht)]
      rw [List.map_cons, hart hfresh₁,
        hframe (artifactPath r goos goarch) (Path.div_parent _ _) fun t ht h => hsep t ht h.symm,
        hart₁, hfresh (goos, goarch) (List.mem_cons_self _ _)]
      simp

/-- A compiler that builds every target but Windows, writing a file of one MiB at the
path {lit}`-o` names, and fails on Windows without writing anything. -/
def noWindowsGo : Tools := fun _ l fs =>
  match l.argv with
  | ["go", "build", _, _, _, _, "-o", out, _] =>
    if hasSub "windows" out then (.exited 1 [] [], fs)
    else (.exited 0 [] [], fun q => if q.str = out then some (.file 1048576) else fs q)
  | _ => (.exited 0 [] [], fs)

/-- That compiler is honest. -/
theorem noWindowsGo_honest : HonestGo noWindowsGo := by
  constructor
  · intro n l fs p q hl _ hq
    simp only [noWindowsGo, hl, goBuildCmd]
    split_ifs <;> simp [hq]
  · intro n l fs p hl
    simp only [noWindowsGo, hl, goBuildCmd]
    split_ifs <;> simp [Spawn.succeeded]
  · intro n l fs p hl
    simp only [noWindowsGo, hl, goBuildCmd]
    split_ifs <;> simp [Spawn.succeeded]

end Build
end Shoal
