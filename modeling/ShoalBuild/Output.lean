import ShoalBuild.Main

/-!
# Shoal build automation - what the tools print does not decide a run

The script reads what the tools print in three places: it prints it again, it
looks for the coverage total, and it stores it in the build record.  None of these
decides a step.  This module makes that precise as a two-run statement: from two
worlds that differ only in the bytes the tools print (and in how the machine
decodes them, its name and its clock), every method returns the same result or
raises the same exception, and {lit}`main` exits with the same status.

The statement needs every output to decode: {lit}`run_command` decodes both pipes
strictly, so output that does not decode raises {lit}`UnicodeDecodeError` from
{lit}`run_command` itself, and that does decide the step.

Main results:

- Theorem {lit}`methods_blind`: each method of the runner returns the same result
  from alike worlds, or raises the same exception, and leaves alike worlds.
- Theorem {lit}`generateBuildInfo_sameFate`: {lit}`generate_build_info` returns from
  one of two alike worlds exactly when it returns from the other.
- Theorem {lit}`main_exitStatus_blind`: {lit}`main` exits with the same status from
  alike worlds.
-/

namespace Shoal
namespace Build

/-! ## Worlds alike but for tool output -/

/-- Two answers of the tools that differ at most in the bytes the process printed. -/
def SameStatus : Spawn × FS → Spawn × FS → Prop
  | (.raised e₁, fs₁), (.raised e₂, fs₂) => e₁ = e₂ ∧ fs₁ = fs₂
  | (.exited c₁ _ _, fs₁), (.exited c₂ _ _, fs₂) => c₁ = c₂ ∧ fs₁ = fs₂
  | _, _ => False

/-- Every output of every tool decodes on the machine. -/
def Decodes (h : Host) : Prop :=
  ∀ n l fs code out err, (h.tools n l fs).1 = .exited code out err →
    (∃ s, h.codec out = .ok s) ∧ ∃ s, h.codec err = .ok s

/-- Two machines that differ at most in what the tools print, in how output is
decoded, and in the machine name and clock; on both every output decodes. -/
structure HostsAlike (h₁ h₂ : Host) : Prop where
  environ : h₁.environ = h₂.environ
  scriptDir : h₁.scriptDir = h₂.scriptDir
  system : h₁.system = h₂.system
  tools : ∀ n l fs, SameStatus (h₁.tools n l fs) (h₂.tools n l fs)
  decodes₁ : Decodes h₁
  decodes₂ : Decodes h₂

/-- Two worlds alike but for tool output: the same files, the same number of
processes started, and alike machines.  What was printed may differ. -/
structure Alike (w₁ w₂ : World) : Prop where
  host : HostsAlike w₁.host w₂.host
  fs : w₁.fs = w₂.fs
  spawned : w₁.spawned = w₂.spawned

/-- Alike machines build the same runner. -/
theorem HostsAlike.onHost {h₁ h₂ : Host} (h : HostsAlike h₁ h₂) :
    BuildRunner.onHost h₁ = BuildRunner.onHost h₂ := by
  simp [BuildRunner.onHost, h.scriptDir, h.system]

section Alike

variable {w₁ w₂ : World}

theorem Alike.log_left (h : Alike w₁ w₂) (ev : Event) : Alike (w₁.log ev) w₂ :=
  ⟨by simpa using h.host, by simpa using h.fs, by simpa using h.spawned⟩

theorem Alike.log_right (h : Alike w₁ w₂) (ev : Event) : Alike w₁ (w₂.log ev) :=
  ⟨by simpa using h.host, by simpa using h.fs, by simpa using h.spawned⟩

theorem Alike.log (h : Alike w₁ w₂) (ev₁ ev₂ : Event) : Alike (w₁.log ev₁) (w₂.log ev₂) :=
  (h.log_left ev₁).log_right ev₂

theorem Alike.sayAll (h : Alike w₁ w₂) (lines₁ lines₂ : List (Mark × String)) :
    Alike (w₁.sayAll lines₁) (w₂.sayAll lines₂) :=
  ⟨h.host, h.fs, h.spawned⟩

theorem Alike.modifyFS (h : Alike w₁ w₂) (f : FS → FS) :
    Alike (w₁.modifyFS f) (w₂.modifyFS f) :=
  ⟨by simpa using h.host, by simp [h.fs], by simpa using h.spawned⟩

/-- The same process start from alike worlds ends alike. -/
theorem Alike.sameStatus (h : Alike w₁ w₂) (cmd : List String) (cwd : Path) :
    SameStatus (w₁.host.tools w₁.spawned ⟨cmd, cwd, w₁.host.environ⟩ w₁.fs)
      (w₂.host.tools w₂.spawned ⟨cmd, cwd, w₂.host.environ⟩ w₂.fs) := by
  rw [h.fs, h.spawned, h.host.environ]
  exact h.host.tools _ _ _

theorem Alike.afterSpawn (h : Alike w₁ w₂) (cmd : List String) (cwd : Path) :
    Alike (w₁.afterSpawn cmd cwd) (w₂.afterSpawn cmd cwd) := by
  have hs := h.sameStatus cmd cwd
  refine ⟨h.host, ?_, by simp [World.afterSpawn, h.spawned]⟩
  show (w₁.host.tools _ _ _).2 = (w₂.host.tools _ _ _).2
  revert hs
  rcases w₁.host.tools _ _ _ with ⟨_ | _, _⟩ <;> rcases w₂.host.tools _ _ _ with ⟨_ | _, _⟩ <;>
    simp [SameStatus]

end Alike

/-! ## Two runs that agree -/

/-- Both runs return, with related values, or both raise the same exception, and
they end in alike worlds. -/
def Agree {α β : Type} (R : α → β → Prop) :
    EStateM.Result Exc World α → EStateM.Result Exc World β → Prop
  | .ok a w₁, .ok b w₂ => R a b ∧ Alike w₁ w₂
  | .error e₁ w₁, .error e₂ w₂ => e₁ = e₂ ∧ Alike w₁ w₂
  | _, _ => False

/-- From alike worlds the two programs agree, with values related by {lit}`R`. -/
structure Blind {α β : Type} (R : α → β → Prop) (x : Py α) (y : Py β) : Prop where
  run : ∀ w₁ w₂, Alike w₁ w₂ → Agree R (x w₁) (y w₂)

section Rules

variable {α β γ δ : Type} {R : α → β → Prop} {S : γ → δ → Prop}

theorem Blind.pure {a : α} {b : β} (h : R a b) : Blind R (Pure.pure a) (Pure.pure b) :=
  ⟨fun _ _ hw => ⟨h, hw⟩⟩

theorem Blind.bind {x : Py α} {y : Py β} {f : α → Py γ} {g : β → Py δ} (hx : Blind R x y)
    (hf : ∀ a b, R a b → Blind S (f a) (g b)) : Blind S (x >>= f) (y >>= g) := by
  constructor
  intro w₁ w₂ hw
  have hxy := hx.run w₁ w₂ hw
  rw [bind_apply, bind_apply]
  revert hxy
  rcases x w₁ with ⟨a, w₁'⟩ | ⟨e₁, w₁'⟩ <;> rcases y w₂ with ⟨b, w₂'⟩ | ⟨e₂, w₂'⟩ <;>
    simp only [Agree, false_implies]
  · exact fun ⟨hab, hw'⟩ => (hf a b hab).run w₁' w₂' hw'
  · exact fun ⟨he, hw'⟩ => ⟨he, hw'⟩

theorem Blind.ite {c : Prop} [Decidable c] {x₁ y₁ : Py α} {x₂ y₂ : Py β} (hx : Blind R x₁ x₂)
    (hy : Blind R y₁ y₂) : Blind R (if c then x₁ else y₁) (if c then x₂ else y₂) := by
  split
  · exact hx
  · exact hy

theorem Blind.tryExcept {x : Py α} {y : Py β} {catches : Exc → Bool} {h₁ : Exc → Py α}
    {h₂ : Exc → Py β} (hx : Blind R x y) (hh : ∀ e, Blind R (h₁ e) (h₂ e)) :
    Blind R (tryExcept x catches h₁) (tryExcept y catches h₂) := by
  constructor
  intro w₁ w₂ hw
  have hxy := hx.run w₁ w₂ hw
  unfold Build.tryExcept
  revert hxy
  rcases x w₁ with ⟨a, w₁'⟩ | ⟨e₁, w₁'⟩ <;> rcases y w₂ with ⟨b, w₂'⟩ | ⟨e₂, w₂'⟩ <;>
    simp only [Agree, false_implies]
  · exact fun h => h
  · rintro ⟨rfl, hw'⟩
    by_cases hc : catches e₁ = true
    · simp only [hc, if_true]
      exact (hh e₁).run w₁' w₂' hw'
    · simp only [hc]
      exact ⟨rfl, hw'⟩

/-- Two prints, whatever their text. -/
theorem Blind.emit (mark₁ mark₂ : Mark) (text₁ text₂ : String) :
    Blind (fun _ _ => True) (Build.emit mark₁ text₁) (Build.emit mark₂ text₂) :=
  ⟨fun _ _ hw => ⟨trivial, hw.log _ _⟩⟩

theorem Blind.raise (e : Exc) : Blind R (Build.raise e) (Build.raise e) :=
  ⟨fun _ _ hw => ⟨rfl, hw⟩⟩

theorem Blind.pathExists (p : Path) : Blind Eq (Build.pathExists p) (Build.pathExists p) :=
  ⟨fun _ _ hw => ⟨by simp [hw.fs], hw⟩⟩

theorem Blind.osEnviron : Blind Eq Build.osEnviron Build.osEnviron :=
  ⟨fun _ _ hw => ⟨hw.host.environ, hw⟩⟩

theorem Blind.statSize (p : Path) : Blind Eq (Build.statSize p) (Build.statSize p) := by
  constructor
  intro w₁ w₂ hw
  unfold Build.statSize
  rw [hw.fs]
  split <;> exact ⟨rfl, hw⟩

theorem Blind.mkdir (p : Path) : Blind Eq (Build.mkdir p) (Build.mkdir p) := by
  constructor
  intro w₁ w₂ hw
  unfold Build.mkdir
  rw [hw.fs]
  split
  · exact ⟨rfl, hw⟩
  · exact ⟨rfl, hw⟩
  · split
    · exact ⟨rfl, hw⟩
    · exact ⟨rfl, (hw.log _ _).modifyFS _⟩

/-- The same process start from alike worlds: the same return code, or the same
exception. -/
theorem Blind.subprocessRun (cmd : List String) (cwd : Path) :
    Blind (fun a b => a.1 = b.1) (Build.subprocessRun cmd cwd) (Build.subprocessRun cmd cwd) := by
  constructor
  intro w₁ w₂ hw
  have hs := hw.sameStatus cmd cwd
  have hw' := hw.afterSpawn cmd cwd
  have hd₁ := hw.host.decodes₁ w₁.spawned ⟨cmd, cwd, w₁.host.environ⟩ w₁.fs
  have hd₂ := hw.host.decodes₂ w₂.spawned ⟨cmd, cwd, w₂.host.environ⟩ w₂.fs
  rw [subprocessRun_eq, subprocessRun_eq]
  revert hs hd₁ hd₂
  rcases w₁.host.tools _ _ _ with ⟨_ | ⟨c₁, out₁, err₁⟩, _⟩ <;>
    rcases w₂.host.tools _ _ _ with ⟨_ | ⟨c₂, out₂, err₂⟩, _⟩ <;> simp only [SameStatus, false_implies]
  · rintro ⟨rfl, -⟩ - -
    exact ⟨rfl, hw'⟩
  · rintro ⟨rfl, -⟩ hd₁ hd₂
    obtain ⟨⟨o₁, ho₁⟩, ⟨e₁, he₁⟩⟩ := hd₁ _ _ _ rfl
    obtain ⟨⟨o₂, ho₂⟩, ⟨e₂, he₂⟩⟩ := hd₂ _ _ _ rfl
    simp only [decodeText, ho₁, he₁, ho₂, he₂]
    exact ⟨rfl, hw'⟩

/-- The failure report prints, whatever the output it shows. -/
theorem Blind.reportFailure (cmd : List String) (check : Bool) (a b : Int × String × String) :
    Blind (fun _ _ => True) (Build.reportFailure cmd check a) (Build.reportFailure cmd check b) :=
  ⟨fun w₁ w₂ hw => by
    rw [reportFailure_eq, reportFailure_eq]
    exact ⟨trivial, hw.sayAll _ _⟩⟩

/-- The same command from alike worlds: the same return code, or the same exception. -/
theorem Blind.runCommand (r : BuildRunner) (cmd : List String) (cwd : Option Path)
    (check : Bool) :
    Blind (fun a b => a.1 = b.1) (Build.runCommand r cmd cwd check)
      (Build.runCommand r cmd cwd check) :=
  Blind.tryExcept
    ((Blind.subprocessRun _ _).bind fun _ _ hab =>
      (Blind.reportFailure _ _ _ _).bind fun _ _ _ => Blind.pure hab)
    fun _ => (Blind.emit _ _ _ _).bind fun _ _ _ => Blind.pure rfl

/-- Two programs that continue from the same command. -/
theorem Blind.runCommand_bind (r : BuildRunner) (cmd : List String) (cwd : Option Path)
    (check : Bool) {f : Int × String × String → Py γ} {g : Int × String × String → Py δ}
    (hf : ∀ code o₁ e₁ o₂ e₂, Blind S (f (code, o₁, e₁)) (g (code, o₂, e₂))) :
    Blind S (Build.runCommand r cmd cwd check >>= f) (Build.runCommand r cmd cwd check >>= g) :=
  (Blind.runCommand r cmd cwd check).bind fun ⟨code, o₁, e₁⟩ ⟨_, o₂, e₂⟩ hab => by
    cases hab
    exact hf code o₁ e₁ o₂ e₂

/-- Two programs that continue from the same value. -/
theorem Blind.bind_eq {x y : Py α} {f : α → Py γ} {g : α → Py δ} (hx : Blind Eq x y)
    (hf : ∀ a, Blind S (f a) (g a)) : Blind S (x >>= f) (y >>= g) :=
  hx.bind fun a _ hab => hab ▸ hf a

/-- Two programs that continue after a print. -/
theorem Blind.emit_bind {mark₁ mark₂ : Mark} {text₁ text₂ : String} {f : Unit → Py γ}
    {g : Unit → Py δ} (hf : Blind S (f ()) (g ())) :
    Blind S (Build.emit mark₁ text₁ >>= f) (Build.emit mark₂ text₂ >>= g) :=
  (Blind.emit _ _ _ _).bind fun _ _ _ => hf

theorem Blind.map_eq {x y : Py α} (f : α → γ) (hx : Blind Eq x y) : Blind Eq (f <$> x) (f <$> y) :=
  hx.bind fun _ _ hab => Blind.pure (congrArg f hab)

end Rules

/-- The coverage summary prints, whatever the output it reads. -/
theorem Blind.printCoverageTotal (o₁ o₂ : String) :
    Blind (fun _ _ => True) (Build.printCoverageTotal o₁) (Build.printCoverageTotal o₂) :=
  ⟨fun w₁ w₂ hw => by
    rcases printCoverageTotal_eq o₁ w₁ with h₁ | ⟨_, h₁⟩ <;>
      rcases printCoverageTotal_eq o₂ w₂ with h₂ | ⟨_, h₂⟩ <;> rw [h₁, h₂]
    · exact ⟨trivial, hw⟩
    · exact ⟨trivial, hw.log_right _⟩
    · exact ⟨trivial, hw.log_left _⟩
    · exact ⟨trivial, hw.log _ _⟩⟩

/-! ## The methods -/

/-- Each method that runs tools returns the same result from alike worlds, or raises
the same exception, and leaves alike worlds. -/
theorem methods_blind (r : BuildRunner) :
    Blind Eq (checkPrerequisites r) (checkPrerequisites r) ∧
      Blind Eq (downloadDependencies r) (downloadDependencies r) ∧
      Blind Eq (formatCode r) (formatCode r) ∧ Blind Eq (lintCode r) (lintCode r) ∧
      (∀ b, Blind Eq (runTests r b) (runTests r b)) ∧
      Blind Eq (runSecurityChecks r) (runSecurityChecks r) ∧
      Blind Eq (buildBinary r) (buildBinary r) ∧
      ∀ goos goarch, Blind Eq (buildForPlatform r goos goarch) (buildForPlatform r goos goarch) := by
  refine ⟨?_, ?_, ?_, ?_, fun b => ?_, ?_, ?_, fun goos goarch => ?_⟩ <;>
  simp only [checkPrerequisites, downloadDependencies, formatCode, lintCode, runTests,
    coverageReport, runSecurityChecks, buildBinary, buildForPlatform, printStep, printSuccess,
    printError, printWarning] <;>
  repeat (first
    | (with_reducible apply Blind.runCommand_bind; intro _ _ _ _ _)
    | with_reducible apply Blind.bind
    | (intro _ _ h; subst h)
    | intro _ _ _
    | with_reducible exact Blind.emit _ _ _ _
    | with_reducible exact Blind.pure rfl
    | with_reducible exact Blind.pure trivial
    | with_reducible apply Blind.ite
    | with_reducible exact Blind.pathExists _
    | with_reducible exact Blind.mkdir _
    | with_reducible exact Blind.statSize _
    | with_reducible exact Blind.osEnviron
    | with_reducible exact Blind.printCoverageTotal _ _
    | with_reducible exact Blind.map_eq _ (Blind.pathExists _)
    | dsimp only)


/-! ## The validate loop and the build record -/

/-- An iteration of the {lit}`validate` loop over a step that returns alike. -/
theorem Blind.runStep (name : String) {stepFunc : Py Bool} (h : Blind Eq stepFunc stepFunc) :
    Blind Eq (runStep name stepFunc) (runStep name stepFunc) :=
  Blind.tryExcept (Blind.bind_eq h fun _ => Blind.ite (Blind.emit_bind (Blind.pure rfl))
      (Blind.pure rfl))
    fun _ => Blind.emit_bind (Blind.pure rfl)

/-- The {lit}`validate` loop over steps that each return alike. -/
theorem Blind.runSteps {steps : List (String × Py Bool)}
    (h : ∀ step ∈ steps, Blind Eq step.2 step.2) : Blind Eq (runSteps steps) (runSteps steps) := by
  induction steps with
  | nil => exact Blind.pure rfl
  | cons step rest ih =>
    obtain ⟨name, stepFunc⟩ := step
    exact Blind.bind_eq (Blind.runStep name (h _ (List.mem_cons_self _ _))) fun _ =>
      Blind.ite (ih fun s hs => h s (List.mem_cons_of_mem _ hs)) (Blind.pure rfl)

/-- From alike worlds, the two programs return together, or raise together. -/
structure SameFate {α β : Type} (x : Py α) (y : Py β) : Prop where
  run : ∀ w₁ w₂, Alike w₁ w₂ → ((∃ a w, x w₁ = .ok a w) ↔ ∃ b w, y w₂ = .ok b w)

section Fate

variable {α β γ δ : Type} {R : α → β → Prop}

theorem SameFate.bind {x : Py α} {y : Py β} {f : α → Py γ} {g : β → Py δ} (hx : Blind R x y)
    (hf : ∀ a b, R a b → SameFate (f a) (g b)) : SameFate (x >>= f) (y >>= g) := by
  constructor
  intro w₁ w₂ hw
  have hxy := hx.run w₁ w₂ hw
  rw [bind_apply, bind_apply]
  revert hxy
  rcases x w₁ with ⟨a, w₁'⟩ | ⟨e₁, w₁'⟩ <;> rcases y w₂ with ⟨b, w₂'⟩ | ⟨e₂, w₂'⟩ <;>
    simp only [Agree, false_implies]
  · exact fun ⟨hab, hw'⟩ => (hf a b hab).run w₁' w₂' hw'
  · exact fun _ => by simp

theorem SameFate.runCommand_bind (r : BuildRunner) (cmd : List String) (cwd : Option Path)
    (check : Bool) {f : Int × String × String → Py γ} {g : Int × String × String → Py δ}
    (hf : ∀ code o₁ e₁ o₂ e₂, SameFate (f (code, o₁, e₁)) (g (code, o₂, e₂))) :
    SameFate (runCommand r cmd cwd check >>= f) (runCommand r cmd cwd check >>= g) :=
  SameFate.bind (Blind.runCommand r cmd cwd check) fun ⟨code, o₁, e₁⟩ ⟨_, o₂, e₂⟩ hab => by
    cases hab
    exact hf code o₁ e₁ o₂ e₂

/-- Writing a file returns or raises by the filesystem alone, whatever the text. -/
theorem SameFate.writeText_pure (p : Path) (text₁ text₂ : String) (a : α) (b : β) :
    SameFate (writeText p text₁ >>= fun _ => Pure.pure a)
      (writeText p text₂ >>= fun _ => Pure.pure b) := by
  constructor
  intro w₁ w₂ hw
  simp only [bind_apply, writeText, hw.fs]
  rcases hp : w₂.fs p with _ | _ | _ <;> simp only [hp] <;>
    rcases parentError w₂.fs p with _ | _ <;> simp

/-- Two reads of the machine that may differ. -/
theorem Blind.hostRead (f : Host → α) :
    Blind (fun _ _ => True) (fun w => .ok (f w.host) w) (fun w => .ok (f w.host) w) :=
  ⟨fun _ _ hw => ⟨trivial, hw⟩⟩

end Fate

/-- {lit}`generate_build_info` returns from one of two alike worlds exactly when it
returns from the other: its probes' output only fills the record. -/
theorem generateBuildInfo_sameFate (r : BuildRunner) :
    SameFate (generateBuildInfo r) (generateBuildInfo r) := by
  simp only [generateBuildInfo]
  repeat (first
    | (apply SameFate.runCommand_bind; intro _ _ _ _ _)
    | (apply SameFate.bind (Blind.hostRead _); intro _ _ _)
    | exact SameFate.writeText_pure _ _ _ _ _
    | dsimp only)

/-! ## Verdicts -/

/-- From alike worlds, the two programs return {lit}`True` together. -/
structure SameVerdict (x y : Py Bool) : Prop where
  run : ∀ w₁ w₂, Alike w₁ w₂ → Result.isTrue (x w₁) = Result.isTrue (y w₂)

section Verdict

variable {α β : Type} {R : α → β → Prop}

theorem Blind.sameVerdict {x y : Py Bool} (h : Blind Eq x y) : SameVerdict x y := by
  constructor
  intro w₁ w₂ hw
  have hxy := h.run w₁ w₂ hw
  revert hxy
  rcases x w₁ with ⟨a, w₁'⟩ | ⟨e₁, w₁'⟩ <;> rcases y w₂ with ⟨b, w₂'⟩ | ⟨e₂, w₂'⟩ <;>
    simp only [Agree, false_implies]
  · exact fun ⟨hab, _⟩ => hab ▸ rfl
  · exact fun _ => rfl

theorem SameVerdict.bind {x : Py α} {y : Py β} {f : α → Py Bool} {g : β → Py Bool}
    (hx : Blind R x y) (hf : ∀ a b, R a b → SameVerdict (f a) (g b)) :
    SameVerdict (x >>= f) (y >>= g) := by
  constructor
  intro w₁ w₂ hw
  have hxy := hx.run w₁ w₂ hw
  rw [bind_apply, bind_apply]
  revert hxy
  rcases x w₁ with ⟨a, w₁'⟩ | ⟨e₁, w₁'⟩ <;> rcases y w₂ with ⟨b, w₂'⟩ | ⟨e₂, w₂'⟩ <;>
    simp only [Agree, false_implies]
  · exact fun ⟨hab, hw'⟩ => (hf a b hab).run w₁' w₂' hw'
  · exact fun _ => rfl

theorem SameVerdict.ite {c : Prop} [Decidable c] {x₁ y₁ x₂ y₂ : Py Bool}
    (hx : SameVerdict x₁ x₂) (hy : SameVerdict y₁ y₂) :
    SameVerdict (if c then x₁ else y₁) (if c then x₂ else y₂) := by
  split
  · exact hx
  · exact hy

end Verdict

/-- Recording the build succeeds from one of two alike worlds exactly when it does
from the other. -/
theorem recordBuild_sameVerdict (r : BuildRunner) : SameVerdict (recordBuild r) (recordBuild r) := by
  constructor
  intro w₁ w₂ hw
  have h₁ := recordBuild_isTrue r w₁
  have h₂ := recordBuild_isTrue r w₂
  have hfate := (generateBuildInfo_sameFate r).run w₁ w₂ hw
  cases hv₁ : Result.isTrue (recordBuild r w₁) <;> cases hv₂ : Result.isTrue (recordBuild r w₂) <;>
    simp_all

/-- {lit}`validate` succeeds from one of two alike worlds exactly when it does from
the other. -/
theorem validate_sameVerdict (r : BuildRunner) : SameVerdict (validate r) (validate r) := by
  obtain ⟨h₁, h₂, h₃, h₄, h₅, h₆, h₇, -⟩ := methods_blind r
  refine SameVerdict.bind (Blind.emit _ _ _ _) fun _ _ _ =>
    SameVerdict.bind (Blind.runSteps ?_) fun a b hab => hab ▸ SameVerdict.ite
      (recordBuild_sameVerdict r) (Blind.pure rfl).sameVerdict
  simp only [validateSteps, List.mem_cons, List.mem_singleton, List.not_mem_nil, or_false]
  rintro step (rfl | rfl | rfl | rfl | rfl | rfl | rfl)
  exacts [h₁, h₂, h₃, h₄, h₅ true, h₆, h₇]

/-! ## Cleaning, the matrix and the command line -/

theorem Blind.rmtree (p : Path) : Blind Eq (rmtree p) (rmtree p) := by
  constructor
  intro w₁ w₂ hw
  unfold Build.rmtree
  rw [hw.fs]
  split
  · exact ⟨rfl, hw.modifyFS _⟩
  · exact ⟨rfl, hw⟩
  · exact ⟨rfl, hw⟩

theorem Blind.unlink (p : Path) : Blind Eq (unlink p) (unlink p) := by
  constructor
  intro w₁ w₂ hw
  unfold Build.unlink
  rw [hw.fs]
  split
  · exact ⟨rfl, hw.modifyFS _⟩
  · exact ⟨rfl, hw⟩
  · exact ⟨rfl, hw⟩

theorem Blind.removeMatching (root : Path) (pattern : String) :
    Blind Eq (removeMatching root pattern) (removeMatching root pattern) :=
  ⟨fun _ _ hw => ⟨rfl, hw.modifyFS _⟩⟩

theorem Blind.forM {γ : Type} {f : γ → Py Unit} (hf : ∀ a, Blind Eq (f a) (f a)) :
    ∀ xs : List γ, Blind Eq (xs.forM f) (xs.forM f)
  | [] => Blind.pure rfl
  | a :: rest => Blind.bind_eq (hf a) fun _ => Blind.forM hf rest

/-- Cleaning does the same from alike worlds. -/
theorem clean_blind (r : BuildRunner) : Blind Eq (clean r) (clean r) := by
  simp only [clean, removeBuildDir, removeBinary, printStep, printSuccess]
  repeat (first
    | with_reducible apply Blind.bind
    | (intro _ _ h; subst h)
    | intro _ _ _
    | with_reducible exact Blind.emit _ _ _ _
    | with_reducible exact Blind.pure rfl
    | with_reducible exact Blind.pure trivial
    | with_reducible apply Blind.ite
    | with_reducible exact Blind.pathExists _
    | with_reducible exact Blind.rmtree _
    | with_reducible exact Blind.unlink _
    | with_reducible exact Blind.forM (Blind.removeMatching _) _)

theorem Blind.allOk {xs : List (Py Bool)} (h : ∀ x ∈ xs, Blind Eq x x) :
    Blind Eq (allOk xs) (allOk xs) := by
  induction xs with
  | nil => exact Blind.pure rfl
  | cons x rest ih =>
    exact Blind.bind_eq (h x (List.mem_cons_self _ _)) fun _ =>
      Blind.ite (ih fun y hy => h y (List.mem_cons_of_mem _ hy)) (Blind.pure rfl)

/-- The matrix build does the same from alike worlds. -/
theorem buildAllPlatforms_blind (r : BuildRunner) :
    Blind Eq (buildAllPlatforms r) (buildAllPlatforms r) := by
  have loop : ∀ targets allOk, Blind Eq (buildAllLoop r targets allOk) (buildAllLoop r targets allOk) := by
    intro targets
    induction targets with
    | nil => exact fun _ => Blind.pure rfl
    | cons target rest ih =>
      intro allOk
      exact Blind.bind_eq ((methods_blind r).2.2.2.2.2.2.2 _ _) fun ok => ih (allOk && ok)
  exact Blind.emit_bind (loop _ _)

/-- Every subcommand succeeds from one of two alike worlds exactly when it succeeds
from the other. -/
theorem dispatch_sameVerdict (r : BuildRunner) (args : Args) :
    SameVerdict (dispatch r args) (dispatch r args) := by
  obtain ⟨h₁, h₂, h₃, h₄, h₅, -, h₇, h₈⟩ := methods_blind r
  unfold dispatch
  split
  · exact (clean_blind r).sameVerdict
  · exact (Blind.allOk (by simp [h₁, h₂])).sameVerdict
  · exact (Blind.allOk (by simp [h₁, h₃])).sameVerdict
  · exact (Blind.allOk (by simp [h₁, h₄])).sameVerdict
  · exact (Blind.allOk (by simp [h₁, h₂, h₅])).sameVerdict
  · exact (Blind.allOk (by simp [h₁, h₂, h₅])).sameVerdict
  · split
    · split
      · exact (Blind.allOk (by simp [h₁, h₂, h₈])).sameVerdict
      · exact (Blind.emit_bind (Blind.raise _)).sameVerdict
    · exact (Blind.allOk (by simp [h₁, h₂, h₇])).sameVerdict
  · exact (Blind.allOk (by simp [h₁, h₂, buildAllPlatforms_blind r])).sameVerdict
  · exact validate_sameVerdict r

/-- {lit}`main` exits with the same status from two worlds that differ only in the
bytes the tools print, when all of them decode. -/
theorem main_exitStatus_blind (args : Args) {w₁ w₂ : World} (h : Alike w₁ w₂) :
    exitStatus (main args w₁) = exitStatus (main args w₂) := by
  rw [(main_cases args w₁).2, (main_cases args w₂).2, h.host.onHost,
    (dispatch_sameVerdict _ args).run w₁ w₂ h]

/-! ## The contract of run_command -/

/-- Tools that all succeed and print {lit}`ok`. -/
def chattyTools : Tools := fun _ _ fs => (.exited 0 [111, 107, 10] [], fs)

end Build
end Shoal
