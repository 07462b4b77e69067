import ShoalBuild.Pipeline

/-!
# Shoal build automation - what each method may do to the trace

A program is {lit}`Confined P` when every event it appends satisfies {lit}`P`
and every exception it raises is an {lit}`Exception` or a
{lit}`KeyboardInterrupt`: nothing but {lit}`sys.exit` raises {lit}`SystemExit`.
The judgement is closed under sequencing, branching and {lit}`try`, so each method
of the runner is shown confined by following its own structure.

Main results:

- Theorem {lit}`methods_confined`: every method of the runner but
  {lit}`generate_build_info` only prints, starts processes in the script's own
  environment and creates directories, and none exits the process.
- Theorem {lit}`validateSteps_confined`: no step of {lit}`validate` writes a file.
- Theorem {lit}`generateBuildInfo_confined`: the build record is the one file the
  script writes.
-/

namespace Shoal
namespace Build

/-- Whether an event is a file write by the script. -/
def Event.isWrite : Event → Bool
  | .write _ _ => true
  | _ => false

/-- Whether an event is a printed line. -/
def Event.isSay : Event → Bool
  | .say _ _ => true
  | _ => false

/-- The process an event starts, if it starts one. -/
def Event.launch? : Event → Option Launch
  | .launch l => some l
  | _ => none

/-- The program appends only events that {lit}`P` allows on the machine it runs on,
leaves that machine as it is, and raises no {lit}`SystemExit`. -/
structure Confined (P : Host → Event → Prop) {α : Type} (x : Py α) : Prop where
  run : ∀ w, ∃ evs, (∀ ev ∈ evs, P w.host ev) ∧ (Result.world (x w)).trace = w.trace ++ evs ∧
    (Result.world (x w)).host = w.host ∧ ∀ e w', x w = .error e w' → e.exits = false

/-- Going from {lit}`w` to {lit}`w'` appended to the trace only events that satisfy
{lit}`P`. -/
def Appends (P : Event → Prop) (w w' : World) : Prop :=
  ∃ evs, w'.trace = w.trace ++ evs ∧ ∀ ev ∈ evs, P ev

section Appends

variable {P Q : Event → Prop} {w w₁ w₂ : World}

theorem Appends.refl (P : Event → Prop) (w : World) : Appends P w w := ⟨[], by simp, by simp⟩

theorem Appends.trans (h₁ : Appends P w w₁) (h₂ : Appends P w₁ w₂) : Appends P w w₂ := by
  obtain ⟨evs₁, htr₁, hP₁⟩ := h₁
  obtain ⟨evs₂, htr₂, hP₂⟩ := h₂
  refine ⟨evs₁ ++ evs₂, by rw [htr₂, htr₁, List.append_assoc], fun ev hev => ?_⟩
  rcases List.mem_append.mp hev with hev | hev
  exacts [hP₁ ev hev, hP₂ ev hev]

theorem Appends.mono (hPQ : ∀ ev, P ev → Q ev) (h : Appends P w w₁) : Appends Q w w₁ :=
  let ⟨evs, htr, hP⟩ := h
  ⟨evs, htr, fun ev hev => hPQ ev (hP ev hev)⟩

/-- One printed line. -/
theorem Appends.log_say (mark : Mark) (text : String) (w : World) :
    Appends (fun ev => ev.isSay = true) w (w.log (.say mark text)) :=
  ⟨[.say mark text], rfl, by simp [Event.isSay]⟩

end Appends

/-- The events every method but {lit}`generate_build_info` may append: prints,
process starts in the script's own environment, and directory creation. -/
structure Allows (P : Host → Event → Prop) : Prop where
  say : ∀ h mark text, P h (.say mark text)
  launch : ∀ h cmd cwd, P h (.launch ⟨cmd, cwd, h.environ⟩)
  mkdir : ∀ h p, P h (.mkdir p)

/-- Anything but a write is allowed to a step. -/
theorem allows_not_write : Allows (fun _ ev => ev.isWrite = false) :=
  ⟨fun _ _ _ => rfl, fun _ _ _ => rfl, fun _ _ => rfl⟩

/-- Every event is allowed. -/
theorem allows_true : Allows (fun _ _ => True) :=
  ⟨fun _ _ _ => trivial, fun _ _ _ => trivial, fun _ _ => trivial⟩

section Rules

variable {P : Host → Event → Prop} {α β : Type}

/-- A program that appends nothing and leaves the machine as it is. -/
theorem Confined.of_quiet {x : Py α}
    (h : ∀ w, (Result.world (x w)).trace = w.trace ∧ (Result.world (x w)).host = w.host ∧
      ∀ e w', x w = .error e w' → e.exits = false) : Confined P x :=
  ⟨fun w => ⟨[], by simp, by simp [(h w).1], (h w).2.1, (h w).2.2⟩⟩

/-- A program that returns in the world it started in. -/
theorem Confined.of_ok {x : Py α} (h : ∀ w, ∃ a, x w = .ok a w) : Confined P x :=
  Confined.of_quiet fun w => by
    obtain ⟨a, ha⟩ := h w
    simp [ha, Result.world]

theorem Confined.pure (a : α) : Confined P (Pure.pure a : Py α) :=
  Confined.of_ok fun _ => ⟨a, rfl⟩

theorem Confined.bind {x : Py α} {f : α → Py β} (hx : Confined P x)
    (hf : ∀ a, Confined P (f a)) : Confined P (x >>= f) := by
  constructor
  intro w
  obtain ⟨evs, hP, htr, hhost, hexit⟩ := hx.run w
  rw [bind_apply]
  cases h : x w with
  | ok a w₁ =>
    obtain ⟨evs₂, hP₂, htr₂, hhost₂, hexit₂⟩ := (hf a).run w₁
    simp only [h, Result.world] at htr hhost
    refine ⟨evs ++ evs₂, ?_, by simp [htr₂, htr], by rw [hhost₂, hhost], hexit₂⟩
    intro ev hev
    rcases List.mem_append.mp hev with hev | hev
    · exact hP ev hev
    · exact hhost ▸ hP₂ ev hev
  | error e w₁ =>
    rw [h] at htr hhost hexit
    exact ⟨evs, hP, htr, hhost, fun _ _ he => by cases he; exact hexit _ _ rfl⟩

theorem Confined.map {x : Py α} (f : α → β) (hx : Confined P x) : Confined P (f <$> x) := by
  show Confined P (x >>= fun a => Pure.pure (f a))
  exact hx.bind fun _ => Confined.pure _

theorem Confined.ite {c : Prop} [Decidable c] {x y : Py α} (hx : Confined P x)
    (hy : Confined P y) : Confined P (if c then x else y) := by
  split
  · exact hx
  · exact hy

theorem Confined.tryExcept {x : Py α} {catches : Exc → Bool} {h : Exc → Py α}
    (hx : Confined P x) (hh : ∀ e, Confined P (h e)) : Confined P (tryExcept x catches h) := by
  constructor
  intro w
  obtain ⟨evs, hP, htr, hhost, hexit⟩ := hx.run w
  unfold Build.tryExcept
  cases hxw : x w with
  | ok a w₁ =>
    rw [hxw] at htr hhost
    exact ⟨evs, hP, htr, hhost, by simp⟩
  | error e w₁ =>
    simp only [hxw, Result.world] at htr hhost hexit
    by_cases hc : catches e = true
    · obtain ⟨evs₂, hP₂, htr₂, hhost₂, hexit₂⟩ := (hh e).run w₁
      simp only [hc, if_true]
      refine ⟨evs ++ evs₂, ?_, by rw [htr₂, htr, List.append_assoc], by rw [hhost₂, hhost], hexit₂⟩
      intro ev hev
      rcases List.mem_append.mp hev with hev | hev
      · exact hP ev hev
      · exact hhost ▸ hP₂ ev hev
    · simp only [hc]
      exact ⟨evs, hP, htr, hhost, fun _ _ he => by cases he; exact hexit _ _ rfl⟩

theorem Confined.emit {mark : Mark} {text : String} (hsay : ∀ h, P h (.say mark text)) :
    Confined P (Build.emit mark text) :=
  ⟨fun w => ⟨[.say mark text], by simpa using hsay w.host, rfl, rfl, by simp [Build.emit]⟩⟩

theorem Confined.raise {e : Exc} (he : e.exits = false) : Confined P (Build.raise e : Py α) :=
  Confined.of_quiet fun _ => ⟨rfl, rfl, fun _ _ h => by cases h; exact he⟩

theorem Confined.pathExists (p : Path) : Confined P (Build.pathExists p) :=
  Confined.of_ok fun _ => ⟨_, rfl⟩

theorem Confined.osEnviron : Confined P Build.osEnviron := Confined.of_ok fun _ => ⟨_, rfl⟩

theorem Confined.statSize (p : Path) : Confined P (Build.statSize p) :=
  Confined.of_quiet fun w => by
    unfold Build.statSize
    split <;> simp [Result.world, Exc.exits]

theorem Confined.mkdir {p : Path} (hm : ∀ h, P h (.mkdir p)) : Confined P (Build.mkdir p) := by
  constructor
  intro w
  rcases mkdir_cases p w with ⟨e, he, h⟩ | h | h <;> rw [h]
  · exact ⟨[], by simp, by simp [Result.world], rfl, fun _ _ h' => by cases h'; exact he⟩
  · exact ⟨[], by simp, by simp [Result.world], rfl, by simp⟩
  · exact ⟨[.mkdir p], by simpa using hm w.host, by simp [Result.world], by simp [Result.world],
      by simp⟩

theorem Confined.writeText {p : Path} (hw : ∀ h text, P h (.write p text)) (text : String) :
    Confined P (Build.writeText p text) := by
  constructor
  intro w
  rcases writeText_cases p text w with ⟨e, he, h⟩ | h <;> rw [h]
  · exact ⟨[], by simp, by simp [Result.world], rfl, fun _ _ h' => by cases h'; exact he⟩
  · exact ⟨[.write p text], by simpa using hw w.host text, by simp [Result.world],
      by simp [Result.world], by simp⟩

theorem Confined.subprocessRun {cmd : List String} {cwd : Path}
    (hl : ∀ h, P h (.launch ⟨cmd, cwd, h.environ⟩)) : Confined P (Build.subprocessRun cmd cwd) :=
  ⟨fun w => ⟨[.launch ⟨cmd, cwd, w.host.environ⟩], by simpa using hl w.host,
    by rw [subprocessRun_world]; rfl, by rw [subprocessRun_world]; rfl, fun e _ h => by
      rcases subprocessRun_error h with ⟨err, rfl⟩ | hcls
      · exact SpawnError.toExc_exits err
      · simp [Exc.exits, hcls]⟩⟩

theorem Confined.runCommand (r : BuildRunner) (cmd : List String) (cwd : Option Path)
    (check : Bool) (hsay : ∀ h mark text, P h (.say mark text))
    (hl : ∀ h, P h (.launch ⟨cmd, cwd.getD r.rootDir, h.environ⟩)) :
    Confined P (Build.runCommand r cmd cwd check) := by
  unfold Build.runCommand
  refine Confined.tryExcept (Confined.bind (Confined.subprocessRun hl) fun result => ?_)
    fun _ => Confined.bind (Confined.emit fun h => hsay h _ _) fun _ => Confined.pure _
  refine Confined.bind ⟨fun w => ?_⟩ fun _ => Confined.pure _
  refine ⟨(failureLines cmd check result).map fun line => .say line.1 line.2,
    fun ev hev => ?_, by rw [reportFailure_eq]; rfl, by rw [reportFailure_eq]; rfl,
    by simp [reportFailure_eq]⟩
  obtain ⟨line, -, rfl⟩ := List.mem_map.mp hev
  exact hsay _ _ _

/-- The coverage summary prints at most one line. -/
theorem Confined.printCoverageTotal (hsay : ∀ h mark text, P h (.say mark text)) (o : String) :
    Confined P (Build.printCoverageTotal o) := by
  constructor
  intro w
  rcases printCoverageTotal_eq o w with h | ⟨text, h⟩ <;> rw [h]
  · exact ⟨[], by simp, by simp [Result.world], rfl, by simp⟩
  · exact ⟨[.say .success text], by simpa using hsay w.host .success text, rfl, rfl, by simp⟩

/-- What a confined program appends, as a statement about its run from one world. -/
theorem Confined.appends {x : Py α} (h : Confined P x) (w : World) :
    Appends (P w.host) w (Result.world (x w)) :=
  let ⟨evs, hP, htr, _⟩ := h.run w
  ⟨evs, htr, hP⟩

/-- A confined program does not raise {lit}`SystemExit`. -/
theorem Confined.not_exits {x : Py α} (h : Confined P x) {w w' : World} {e : Exc}
    (he : x w = .error e w') : e.exits = false :=
  let ⟨_, _, _, _, hexit⟩ := h.run w
  hexit e w' he

end Rules

/-- Programs that ran one after another, each confined to a machine-independent set
of events, appended only such events. -/
theorem AllTrue.appends {P : Event → Prop} {xs : List (Py Bool)}
    (h : ∀ x ∈ xs, Confined (fun _ => P) x) {w w' : World} (hall : AllTrue xs w w') :
    Appends P w w' := by
  induction hall with
  | nil w => exact Appends.refl P w
  | @cons x rest w w₁ w₂ hx _ ih =>
    have h₁ : Appends P w w₁ := by
      simpa [hx, Result.world] using (h x (List.mem_cons_self _ _)).appends w
    exact h₁.trans (ih fun y hy => h y (List.mem_cons_of_mem _ hy))

/-- A stopped {lit}`validate` loop adds at most its error line to the stopping step. -/
theorem Stops.appends {name : String} {s t : EStateM.Result Exc World Bool}
    (h : Stops name s t) : Appends (fun ev => ev.isSay = true) (Result.world s) (Result.world t) := by
  cases h with
  | returnedFalse w => exact Appends.log_say _ _ w
  | raised w _ => exact Appends.log_say _ _ w
  | interrupted w _ => exact Appends.refl _ w

/-! ## The runner's methods -/

section Methods

variable {P : Host → Event → Prop}

/-- Every method of the runner that starts processes appends only prints, process
starts and directory creation, and never exits. -/
theorem methods_confined (hP : Allows P) (r : BuildRunner) :
    Confined P (checkPrerequisites r) ∧ Confined P (downloadDependencies r) ∧
      Confined P (formatCode r) ∧ Confined P (lintCode r) ∧ (∀ b, Confined P (runTests r b)) ∧
      Confined P (runSecurityChecks r) ∧ Confined P (buildBinary r) ∧
      ∀ goos goarch, Confined P (buildForPlatform r goos goarch) := by
  have hemit : ∀ mark text, Confined P (emit mark text) := fun _ _ =>
    Confined.emit fun h => hP.say h _ _
  have hrun : ∀ cmd cwd check, Confined P (runCommand r cmd cwd check) := fun _ _ _ =>
    Confined.runCommand _ _ _ _ hP.say fun h => hP.launch h _ _
  have hmkdir : ∀ p, Confined P (mkdir p) := fun _ => Confined.mkdir fun h => hP.mkdir h _
  refine ⟨?_, ?_, ?_, ?_, fun b => ?_, ?_, ?_, fun goos goarch => ?_⟩ <;>
  simp only [checkPrerequisites, downloadDependencies, formatCode, lintCode, runTests,
    coverageReport, runSecurityChecks, buildBinary, buildForPlatform, printStep, printSuccess,
    printError, printWarning] <;>
  repeat (first
    | with_reducible apply Confined.bind
    | intro _
    | with_reducible exact hemit _ _
    | with_reducible exact hrun _ _ _
    | with_reducible exact Confined.pure _
    | with_reducible apply Confined.ite
    | split
    | with_reducible exact Confined.pathExists _
    | with_reducible exact hmkdir _
    | with_reducible exact Confined.statSize _
    | with_reducible exact Confined.osEnviron
    | with_reducible exact Confined.printCoverageTotal hP.say _
    | with_reducible exact Confined.map _ (Confined.pathExists _))

/-- The matrix build appends only prints, process starts and directory creation. -/
theorem buildAllPlatforms_confined (hP : Allows P) (r : BuildRunner) :
    Confined P (buildAllPlatforms r) := by
  have loop : ∀ targets allOk, Confined P (buildAllLoop r targets allOk) := by
    intro targets
    induction targets with
    | nil => exact fun allOk => Confined.pure allOk
    | cons target rest ih =>
      intro allOk
      exact ((methods_confined hP r).2.2.2.2.2.2.2 _ _).bind fun ok => ih (allOk && ok)
  exact (Confined.emit fun h => hP.say h _ _).bind fun _ => loop _ _

/-- One iteration of the {lit}`validate` loop adds to its step only the error line. -/
theorem runStep_confined (hP : Allows P) {name : String} {stepFunc : Py Bool}
    (h : Confined P stepFunc) : Confined P (runStep name stepFunc) :=
  Confined.tryExcept (h.bind fun _ => Confined.ite
      ((Confined.emit fun h => hP.say h _ _).bind fun _ => Confined.pure _) (Confined.pure _))
    fun _ => (Confined.emit fun h => hP.say h _ _).bind fun _ => Confined.pure _

/-- The {lit}`validate` loop appends only what its steps and its error lines append. -/
theorem runSteps_confined (hP : Allows P) {steps : List (String × Py Bool)}
    (h : ∀ step ∈ steps, Confined P step.2) : Confined P (runSteps steps) := by
  induction steps with
  | nil => exact Confined.pure true
  | cons step rest ih =>
    obtain ⟨name, stepFunc⟩ := step
    exact (runStep_confined hP (h _ (List.mem_cons_self _ _))).bind fun ok =>
      Confined.ite (ih fun s hs => h s (List.mem_cons_of_mem _ hs)) (Confined.pure false)

/-- The seven steps of {lit}`validate` write no file. -/
theorem validateSteps_confined (r : BuildRunner) :
    ∀ step ∈ validateSteps r, Confined (fun _ ev => ev.isWrite = false) step.2 := by
  obtain ⟨h₁, h₂, h₃, h₄, h₅, h₆, h₇, -⟩ := methods_confined allows_not_write r
  simp only [validateSteps, List.mem_cons, List.mem_singleton, List.not_mem_nil, or_false]
  rintro step (rfl | rfl | rfl | rfl | rfl | rfl | rfl)
  exacts [h₁, h₂, h₃, h₄, h₅ true, h₆, h₇]

/-- {lit}`generate_build_info` writes only the build record, and never exits. -/
theorem generateBuildInfo_confined (hP : Allows P) (r : BuildRunner)
    (hw : ∀ h text, P h (.write (r.buildDir / "build-info.json") text)) :
    Confined P (generateBuildInfo r) := by
  simp only [generateBuildInfo]
  repeat (first
    | with_reducible exact Confined.pure _
    | with_reducible exact Confined.runCommand _ _ _ _ hP.say fun h => hP.launch h _ _
    | with_reducible exact Confined.writeText hw _
    | with_reducible apply Confined.bind
    | intro _
    | exact Confined.of_ok fun _ => ⟨_, rfl⟩)

end Methods

end Build
end Shoal
