import ShoalBuild.Steps

/-!
# Shoal build automation - the validation pipeline

{lit}`BuildRunner.validate` runs seven named steps in a fixed order inside one
{lit}`try` each.  A step that returns {lit}`False`, or raises an {lit}`Exception`,
is reported by name and ends the pipeline; an exception that is not an
{lit}`Exception` ({lit}`KeyboardInterrupt`) leaves it.  Only after all seven steps
returned {lit}`True` is the build record generated.

Main results:

- Theorem {lit}`runSteps_cases`: a run of the loop either passes every step in
  order, or passes a prefix and is ended by the first step that does not return
  {lit}`True`, with a result that depends on that step alone.
- Theorem {lit}`runSteps_ok_true_iff`: the loop returns {lit}`True` exactly when
  every step returned {lit}`True` in turn.
- Theorem {lit}`validate_cases`: the same for {lit}`validate`, whose success branch
  is the only one that runs {lit}`generate_build_info`.
-/

namespace Shoal
namespace Build

/-! ## Fail-fast sequences -/

/-- The programs ran in order from one world to the next, each returning
{lit}`True`. -/
inductive AllTrue : List (Py Bool) → World → World → Prop
  | nil (w : World) : AllTrue [] w w
  | cons {x : Py Bool} {rest : List (Py Bool)} {w w₁ w₂ : World} :
      x w = .ok true w₁ → AllTrue rest w₁ w₂ → AllTrue (x :: rest) w w₂

/-- A run of programs that all return {lit}`True` ends in one world. -/
theorem AllTrue.determined {xs : List (Py Bool)} {w w₁ w₂ : World}
    (h₁ : AllTrue xs w w₁) (h₂ : AllTrue xs w w₂) : w₁ = w₂ := by
  induction h₁ with
  | nil => cases h₂; rfl
  | cons hx _ ih =>
    cases h₂ with
    | cons hx' h' =>
      rw [hx] at hx'
      cases hx'
      exact ih h'

/-- Running a concatenation passes through the world between the two parts. -/
theorem AllTrue.append {xs ys : List (Py Bool)} {w₁ w₂ w₃ : World}
    (h₁ : AllTrue xs w₁ w₂) (h₂ : AllTrue ys w₂ w₃) : AllTrue (xs ++ ys) w₁ w₃ := by
  induction h₁ with
  | nil => exact h₂
  | cons hx _ ih => exact .cons hx (ih h₂)

/-- A run of a concatenation splits at the world between the two parts. -/
theorem AllTrue.split {xs ys : List (Py Bool)} {w w' : World} (h : AllTrue (xs ++ ys) w w') :
    ∃ w₁, AllTrue xs w w₁ ∧ AllTrue ys w₁ w' := by
  induction xs generalizing w with
  | nil => exact ⟨w, .nil w, h⟩
  | cons x xs ih =>
    cases h with
    | cons hx h' =>
      obtain ⟨w₁, h₁, h₂⟩ := ih h'
      exact ⟨w₁, .cons hx h₁, h₂⟩

/-! ## The validate loop -/

/-- The line {lit}`validate` prints for a step that returned {lit}`False`. -/
def stepFailedText (name : String) : String := s!"Step '{name}' failed"

/-- The line {lit}`validate` prints for a step that raised. -/
def stepRaisedText (name : String) (e : Exc) : String :=
  "Step '" ++ name ++ "' failed with exception: " ++ e.msg

/-- One iteration of the {lit}`validate` loop, {lit}`True` to go on. -/
def runStep (name : String) (stepFunc : Py Bool) : Py Bool :=
  tryExcept
    (do
      if !(← stepFunc) then do
        printError (stepFailedText name)
        pure false
      else pure true)
    Exc.isException
    (fun e => do
      printError (stepRaisedText name e)
      pure false)

/-- {lit}`for step_name, step_func in steps`: {lit}`True` when the loop ran to its end. -/
def runSteps : List (String × Py Bool) → Py Bool
  | [] => pure true
  | (name, stepFunc) :: rest => do
    if ← runStep name stepFunc then runSteps rest else pure false

/-- How a step that does not return {lit}`True` ends the loop: from the step's own
result to the loop's. -/
inductive Stops (name : String) :
    EStateM.Result Exc World Bool → EStateM.Result Exc World Bool → Prop
  | returnedFalse (w : World) :
      Stops name (.ok false w) (.ok false (w.log (.say .error (stepFailedText name))))
  | raised {e : Exc} (w : World) (h : e.isException = true) :
      Stops name (.error e w) (.ok false (w.log (.say .error (stepRaisedText name e))))
  | interrupted {e : Exc} (w : World) (h : e.isException = false) :
      Stops name (.error e w) (.error e w)

/-- A stopped loop never reports success. -/
theorem Stops.not_ok_true {name : String} {s t : EStateM.Result Exc World Bool}
    (h : Stops name s t) (w : World) : t ≠ .ok true w := by
  cases h <;> simp

/-- Whether a run returned {lit}`True`. -/
def Result.isTrue : EStateM.Result Exc World Bool → Bool
  | .ok b _ => b
  | .error _ _ => false

/-- A run returned {lit}`True` exactly when it is {lit}`.ok true` in some world. -/
theorem Result.isTrue_iff (t : EStateM.Result Exc World Bool) :
    Result.isTrue t = true ↔ ∃ w, t = .ok true w := by
  rcases t with ⟨_ | _, w⟩ | ⟨e, w⟩ <;> simp [Result.isTrue]

/-- A stopped loop does not return {lit}`True`. -/
theorem Stops.isTrue {name : String} {s t : EStateM.Result Exc World Bool} (h : Stops name s t) :
    Result.isTrue t = false := by
  cases h <;> rfl

/-- One iteration goes on exactly when the step returns {lit}`True`; otherwise it
stops the loop. -/
theorem runStep_eq (name : String) (stepFunc : Py Bool) (w : World) :
    (∃ w', stepFunc w = .ok true w' ∧ runStep name stepFunc w = .ok true w') ∨
      ((∀ w', stepFunc w ≠ .ok true w') ∧ Stops name (stepFunc w) (runStep name stepFunc w)) := by
  unfold runStep tryExcept
  rw [bind_apply]
  cases h : stepFunc w with
  | ok b w' =>
    cases b
    · right
      simpa [printError, emit, bind_apply] using @Stops.returnedFalse name w'
    · left
      exact ⟨w', rfl, rfl⟩
  | error e w' =>
    right
    cases he : e.isException
    · simpa [he] using @Stops.interrupted name _ w' he
    · simpa [he, printError, emit, bind_apply] using @Stops.raised name _ w' he

/-- The fail-fast loop: either every step returns {lit}`True` in order, or a prefix
does and the first step that does not decides the loop's result alone. -/
theorem runSteps_cases (steps : List (String × Py Bool)) (w : World) :
    (∃ w', AllTrue (steps.map Prod.snd) w w' ∧ runSteps steps w = .ok true w') ∨
      ∃ pre name stepFunc post w₁, steps = pre ++ (name, stepFunc) :: post ∧
        AllTrue (pre.map Prod.snd) w w₁ ∧ (∀ w', stepFunc w₁ ≠ .ok true w') ∧
        Stops name (stepFunc w₁) (runSteps steps w) := by
  induction steps generalizing w with
  | nil => exact .inl ⟨w, .nil w, rfl⟩
  | cons step rest ih =>
    obtain ⟨name, stepFunc⟩ := step
    simp only [runSteps]
    rw [bind_apply]
    rcases runStep_eq name stepFunc w with ⟨w₁, hstep, hrun⟩ | ⟨hne, hstop⟩
    · rw [hrun]
      rcases ih w₁ with ⟨w', hall, hres⟩ | ⟨pre, n, f, post, w₂, rfl, hall, hne, hstop⟩
      · exact .inl ⟨w', .cons hstep hall, hres⟩
      · exact .inr ⟨(name, stepFunc) :: pre, n, f, post, w₂, rfl, .cons hstep hall, hne, hstop⟩
    · refine .inr ⟨[], name, stepFunc, rest, w, rfl, .nil w, hne, ?_⟩
      generalize stepFunc w = s at hstop ⊢
      generalize runStep name stepFunc w = t at hstop ⊢
      cases hstop with
      | returnedFalse w' => exact .returnedFalse w'
      | raised w' h => exact .raised w' h
      | interrupted w' h => exact .interrupted w' h

/-- The loop returns {lit}`True` exactly when every step returned {lit}`True` in turn. -/
theorem runSteps_ok_true_iff (steps : List (String × Py Bool)) (w w' : World) :
    runSteps steps w = .ok true w' ↔ AllTrue (steps.map Prod.snd) w w' := by
  rcases runSteps_cases steps w with ⟨w₁, hall, hres⟩ | ⟨pre, n, f, post, w₁, rfl, hall, hne, hstop⟩
  · rw [hres]
    exact ⟨fun h => by cases h; exact hall, fun h => by rw [hall.determined h]⟩
  · constructor
    · intro h
      exact absurd h (hstop.not_ok_true w')
    · intro h
      simp only [List.map_append, List.map_cons] at h
      obtain ⟨w₂, hpre, hrest⟩ := h.split
      cases hrest with
      | cons hf _ => exact absurd hf (hall.determined hpre ▸ hne _)

/-! ## validate -/

/-- The seven steps of {lit}`validate`, in declaration order. -/
def validateSteps (r : BuildRunner) : List (String × Py Bool) :=
  [("Prerequisites", checkPrerequisites r), ("Dependencies", downloadDependencies r),
    ("Format", formatCode r), ("Lint", lintCode r), ("Tests", runTests r true),
    ("Security", runSecurityChecks r), ("Build", buildBinary r)]

/-- What {lit}`validate` does after the loop ran to its end. -/
def recordBuild (r : BuildRunner) : Py Bool := do
  let _ ← generateBuildInfo r
  printSuccess "Build info generated"
  pure true

/-- {lit}`BuildRunner.validate`. -/
def validate (r : BuildRunner) : Py Bool := do
  printHeader "Shoal Build & Test Validation"
  if ← runSteps (validateSteps r) then recordBuild r else pure false

/-- The build record is made exactly after the seven steps returned {lit}`True`;
the first step that does not ends {lit}`validate` as it ends the loop. -/
theorem validate_cases (r : BuildRunner) (w : World) :
    (∃ w₁, AllTrue ((validateSteps r).map Prod.snd)
        (w.log (.say .header "Shoal Build & Test Validation")) w₁ ∧
        validate r w = recordBuild r w₁) ∨
      ∃ pre name stepFunc post w₁, validateSteps r = pre ++ (name, stepFunc) :: post ∧
        AllTrue (pre.map Prod.snd) (w.log (.say .header "Shoal Build & Test Validation")) w₁ ∧
        (∀ w', stepFunc w₁ ≠ .ok true w') ∧ Stops name (stepFunc w₁) (validate r w) := by
  have hrun : validate r w =
      (runSteps (validateSteps r) >>= fun ok => if ok then recordBuild r else pure false)
        (w.log (.say .header "Shoal Build & Test Validation")) := rfl
  rw [hrun, bind_apply]
  rcases runSteps_cases (validateSteps r) (w.log _) with
    ⟨w₁, hall, hres⟩ | ⟨pre, name, f, post, w₁, hsteps, hall, hne, hstop⟩
  · exact .inl ⟨w₁, hall, by rw [hres]; rfl⟩
  · refine .inr ⟨pre, name, f, post, w₁, hsteps, hall, hne, ?_⟩
    generalize f w₁ = s at hstop ⊢
    generalize runSteps (validateSteps r) _ = t at hstop ⊢
    cases hstop with
    | returnedFalse w' => exact .returnedFalse w'
    | raised w' h => exact .raised w' h
    | interrupted w' h => exact .interrupted w' h

/-- Recording the build succeeds exactly when {lit}`generate_build_info` returns. -/
theorem recordBuild_isTrue (r : BuildRunner) (w : World) :
    Result.isTrue (recordBuild r w) = true ↔ ∃ info w', generateBuildInfo r w = .ok info w' := by
  simp only [recordBuild, bind_apply, printSuccess, emit]
  cases generateBuildInfo r w <;> simp [Result.isTrue]

end Build
end Shoal
