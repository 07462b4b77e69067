import ShoalBuild.Matrix

/-!
# Shoal build automation - cleaning

{lit}`BuildRunner.clean` removes the build directory, the binary at the project
root, and every file below the root whose name matches one of the test-artifact
patterns.  The removal loop over {lit}`rglob` is written as the one filesystem
update it amounts to: removing a file never changes which other files
{lit}`rglob` reaches, since only directories lead to files.

Main results:

- Theorem {lit}`clean_fs_idem`: a clean leaves no build directory, no binary and no
  reachable test artifact, and cleaning twice leaves the filesystem the first clean
  left.
- Theorem {lit}`clean_removes`: off Windows, cleaning only deletes, and only the build
  directory, the binary at the root and files whose name matches a test-artifact
  pattern.
- Theorem {lit}`clean_confined`: cleaning prints only and never exits.
-/

namespace Shoal
namespace Build

/-- The patterns {lit}`clean` passes to {lit}`rglob`. -/
def testArtifacts : List String :=
  ["coverage.out", "coverage.html", "coverage.txt", "*.test", "*.db", "*.sqlite", "*.sqlite3"]

/-- {lit}`fnmatch` for patterns whose only wildcard is {lit}`*`, comparing characters
as written, as {lit}`rglob` does on every system but Windows. -/
def globMatch : List Char → List Char → Bool
  | [], name => name.isEmpty
  | '*' :: ps, name => (List.range (name.length + 1)).any fun i => globMatch ps (name.drop i)
  | p :: ps, n :: ns => p == n && globMatch ps ns
  | _ :: _, [] => false

example : globMatch "*.db".data "shoal.db".data = true := by decide

/-- Whether {lit}`rglob` below {lit}`root` reaches {lit}`q`: {lit}`q` lies strictly
below {lit}`root` and every directory on the way, {lit}`root` included, exists. -/
def reaches (fs : FS) (root q : Path) : Bool :=
  root.parts.isPrefixOf q.parts && root.parts.length < q.parts.length &&
    (List.range (q.parts.length - root.parts.length)).all fun i =>
      fs ⟨q.parts.take (root.parts.length + i)⟩ == some .dir

/-- Whether the node is a file. -/
def Node.isFile? : Option Node → Bool
  | some (.file _) => true
  | _ => false

/-- The last component of a path, its name. -/
def Path.name (p : Path) : String := p.parts.getLastD ""

/-- The filesystem without the files below {lit}`root` whose name matches
{lit}`pattern`. -/
def FS.sweep (fs : FS) (root : Path) (pattern : String) : FS := fun q =>
  if reaches fs root q && Node.isFile? (fs q) && globMatch pattern.data q.name.data then none
  else fs q

/-- {lit}`for file_path in root.rglob(pattern): if file_path.is_file(): file_path.unlink()`. -/
def removeMatching (root : Path) (pattern : String) : Py Unit := fun w =>
  .ok () (w.modifyFS fun fs => fs.sweep root pattern)

/-- {lit}`shutil.rmtree(p)`: the directory and everything below it. -/
def rmtree (p : Path) : Py Unit := fun w =>
  match w.fs p with
  | some .dir => .ok () (w.modifyFS fun fs q => if p.parts.isPrefixOf q.parts then none else fs q)
  | some (.file _) => .error ⟨.notADirectoryError, osErrorText 20 "Not a directory" p⟩ w
  | none => .error ⟨.fileNotFoundError, osErrorText 2 "No such file or directory" p⟩ w

/-- {lit}`p.unlink()`. -/
def unlink (p : Path) : Py Unit := fun w =>
  match w.fs p with
  | some (.file _) => .ok () (w.modifyFS fun fs => fs.put p none)
  | some .dir => .error ⟨.isADirectoryError, osErrorText 21 "Is a directory" p⟩ w
  | none => .error ⟨.fileNotFoundError, osErrorText 2 "No such file or directory" p⟩ w

/-- The first part of {lit}`BuildRunner.clean`: remove the build directory. -/
def removeBuildDir (r : BuildRunner) : Py Unit := do
  if ← pathExists r.buildDir then
    rmtree r.buildDir
    printSuccess "Removed build directory"

/-- The second part of {lit}`BuildRunner.clean`: remove the binary from the root. -/
def removeBinary (r : BuildRunner) : Py Unit := do
  let binaryPath := r.rootDir / r.binaryName
  if ← pathExists binaryPath then
    unlink binaryPath
    printSuccess ("Removed " ++ r.binaryName)

/-- {lit}`BuildRunner.clean`. -/
def clean (r : BuildRunner) : Py Bool := do
  printStep "Cleaning build artifacts"
  removeBuildDir r
  removeBinary r
  testArtifacts.forM (removeMatching r.rootDir)
  printSuccess "Cleaned test artifacts"
  pure true

/-! ## What cleaning can do -/

section Effects

variable {P : Host → Event → Prop}

theorem Confined.rmtree (p : Path) : Confined P (rmtree p) :=
  Confined.of_quiet fun w => by
    unfold Build.rmtree
    split <;> simp [Result.world, Exc.exits]

theorem Confined.unlink (p : Path) : Confined P (unlink p) :=
  Confined.of_quiet fun w => by
    unfold Build.unlink
    split <;> simp [Result.world, Exc.exits]

theorem Confined.removeMatching (root : Path) (pattern : String) :
    Confined P (removeMatching root pattern) :=
  Confined.of_quiet fun _ => ⟨rfl, rfl, by simp [Build.removeMatching]⟩

theorem Confined.forM {γ : Type} {f : γ → Py Unit} (hf : ∀ a, Confined P (f a)) :
    ∀ xs : List γ, Confined P (xs.forM f)
  | [] => Confined.pure ()
  | a :: rest => (hf a).bind fun _ => Confined.forM hf rest

/-- Cleaning only prints, and never exits. -/
theorem clean_confined (hsay : ∀ h mark text, P h (.say mark text)) (r : BuildRunner) :
    Confined P (clean r) := by
  simp only [clean, removeBuildDir, removeBinary, printStep, printSuccess]
  repeat (first
    | with_reducible apply Confined.bind
    | intro _
    | with_reducible exact Confined.emit fun h => hsay h _ _
    | with_reducible exact Confined.pure _
    | with_reducible apply Confined.ite
    | with_reducible exact Confined.pathExists _
    | with_reducible exact Confined.rmtree _
    | with_reducible exact Confined.unlink _
    | with_reducible exact Confined.forM (Confined.removeMatching _) _)

end Effects

/-! ## Cleaning twice -/

/-- What a clean leaves: no build directory, no binary at the root, and no file that
{lit}`rglob` reaches whose name matches a test-artifact pattern. -/
structure Cleaned (r : BuildRunner) (fs : FS) : Prop where
  noBuildDir : fs r.buildDir = none
  noBinary : fs (r.rootDir / r.binaryName) = none
  noArtifact : ∀ pattern ∈ testArtifacts, ∀ q, reaches fs r.rootDir q = true →
    Node.isFile? (fs q) = true → globMatch pattern.data q.name.data = false

/-- Whether the node is a file, as an equation. -/
theorem Node.isFile?_iff {o : Option Node} : Node.isFile? o = true ↔ ∃ n, o = some (.file n) := by
  rcases o with _ | _ | n <;> simp [Node.isFile?]

/-- A sweep removes files only. -/
theorem FS.sweep_eq (fs : FS) (root : Path) (pattern : String) (q : Path) :
    fs.sweep root pattern q = none ∧ Node.isFile? (fs q) = true ∨ fs.sweep root pattern q = fs q := by
  unfold FS.sweep
  by_cases h : (reaches fs root q && Node.isFile? (fs q) && globMatch pattern.data q.name.data) = true
  · simp only [Bool.and_eq_true] at h
    simp [h]
  · simp [h]

/-- A sweep removes every reachable file whose name matches. -/
theorem FS.sweep_removes {fs : FS} {root q : Path} {pattern : String}
    (hreach : reaches fs root q = true) (hfile : Node.isFile? (fs q) = true)
    (hmatch : globMatch pattern.data q.name.data = true) : fs.sweep root pattern q = none := by
  simp [FS.sweep, hreach, hfile, hmatch]

/-- Sweeps keep every directory, so {lit}`rglob` reaches after them what it reached
before. -/
theorem reaches_sweep (fs : FS) (root : Path) (pattern : String) (root' q : Path) :
    reaches (fs.sweep root pattern) root' q = reaches fs root' q := by
  have hdir : ∀ p, (fs.sweep root pattern p == some .dir) = (fs p == some .dir) := fun p => by
    rcases FS.sweep_eq fs root pattern p with ⟨h, hf⟩ | h
    · obtain ⟨n, hn⟩ := Node.isFile?_iff.mp hf
      rw [h, hn]
      rfl
    · rw [h]
  simp only [reaches, hdir]

/-- Sweeping for several patterns in turn: the filesystem after the {lit}`for` loop. -/
theorem forM_removeMatching (root : Path) (patterns : List String) (w : World) :
    patterns.forM (removeMatching root) w =
      .ok () (w.modifyFS fun fs => patterns.foldl (fun fs pattern => fs.sweep root pattern) fs) := by
  induction patterns generalizing w with
  | nil => rfl
  | cons pattern rest ih => exact ih (w.modifyFS fun fs => fs.sweep root pattern)

/-- After sweeps, what is stored at a path was stored there before. -/
theorem foldl_sweep_some (root : Path) (patterns : List String) (fs : FS) {q : Path} {n : Node}
    (h : patterns.foldl (fun fs pattern => fs.sweep root pattern) fs q = some n) : fs q = some n := by
  induction patterns generalizing fs with
  | nil => exact h
  | cons pattern rest ih =>
    have h₁ : fs.sweep root pattern q = some n := ih _ h
    rcases FS.sweep_eq fs root pattern q with ⟨hn, -⟩ | hq
    · rw [hn] at h₁
      cases h₁
    · rwa [← hq]

/-- Sweeps keep reachability. -/
theorem reaches_foldl_sweep (root : Path) (patterns : List String) (fs : FS) (root' q : Path) :
    reaches (patterns.foldl (fun fs pattern => fs.sweep root pattern) fs) root' q =
      reaches fs root' q := by
  induction patterns generalizing fs with
  | nil => rfl
  | cons pattern rest ih => exact (ih _).trans (reaches_sweep fs root pattern root' q)

/-- After sweeping for each pattern in turn, no reachable file matches any of them. -/
theorem foldl_sweep_clean (root : Path) (patterns : List String) (fs : FS) :
    ∀ pattern ∈ patterns, ∀ q,
      reaches (patterns.foldl (fun fs pattern => fs.sweep root pattern) fs) root q = true →
      Node.isFile? (patterns.foldl (fun fs pattern => fs.sweep root pattern) fs q) = true →
      globMatch pattern.data q.name.data = false := by
  induction patterns generalizing fs with
  | nil => intro _ h; cases h
  | cons pattern rest ih =>
    intro p hp q hreach hfile
    rcases List.mem_cons.mp hp with rfl | hp
    · -- a file that survived every sweep survived the first one, which removes matches
      rw [← Bool.not_eq_true]
      intro hmatch
      obtain ⟨n, hn⟩ := Node.isFile?_iff.mp hfile
      have hs : fs.sweep root p q = some (.file n) := foldl_sweep_some root rest _ hn
      have hfs : fs q = some (.file n) := by
        rcases FS.sweep_eq fs root p q with ⟨h, -⟩ | h
        · rw [h] at hs
          cases hs
        · rw [← h, hs]
      have hreach' : reaches fs root q = true := by
        rwa [reaches_foldl_sweep] at hreach
      rw [FS.sweep_removes hreach' (by rw [hfs]; rfl) hmatch] at hs
      cases hs
    · exact ih _ p hp q hreach hfile

/-- Removing the build directory leaves none there and removes nothing back. -/
theorem removeBuildDir_ok {r : BuildRunner} {w w' : World} (h : removeBuildDir r w = .ok () w') :
    w'.fs r.buildDir = none ∧ ∀ q, w.fs q = none → w'.fs q = none := by
  simp only [removeBuildDir, bind_apply, pathExists] at h
  cases hd : w.fs r.buildDir with
  | none =>
    simp only [hd, Option.isSome_none] at h
    cases h
    exact ⟨hd, fun _ hq => hq⟩
  | some n =>
    cases n with
    | dir =>
      simp only [hd, rmtree, printSuccess, emit, bind_apply, Option.isSome_some, if_true] at h
      cases h
      exact ⟨by simp, fun q hq => by simp [hq]⟩
    | file => simp [hd, rmtree, bind_apply] at h

/-- Removing the binary leaves none there and removes nothing back. -/
theorem removeBinary_ok {r : BuildRunner} {w w' : World} (h : removeBinary r w = .ok () w') :
    w'.fs (r.rootDir / r.binaryName) = none ∧ ∀ q, w.fs q = none → w'.fs q = none := by
  simp only [removeBinary, bind_apply, pathExists] at h
  cases hb : w.fs (r.rootDir / r.binaryName) with
  | none =>
    simp only [hb, Option.isSome_none] at h
    cases h
    exact ⟨hb, fun _ hq => hq⟩
  | some n =>
    cases n with
    | dir => simp [hb, unlink, bind_apply] at h
    | file =>
      simp only [hb, unlink, printSuccess, emit, bind_apply, Option.isSome_some, if_true] at h
      cases h
      refine ⟨FS.put_same _ _ _, fun q hq => ?_⟩
      by_cases hqb : q = r.rootDir / r.binaryName
      · subst hqb
        exact FS.put_same _ _ _
      · exact (FS.put_other _ _ hqb).trans hq

/-- A clean that returns returns {lit}`True` and leaves a cleaned filesystem. -/
theorem clean_cleaned {r : BuildRunner} {w w' : World} {b : Bool} (h : clean r w = .ok b w') :
    b = true ∧ Cleaned r w'.fs := by
  simp only [clean, printStep, emit, bind_apply] at h
  cases h₁ : removeBuildDir r (w.log (.say .step "Cleaning build artifacts")) with
  | error e w₁ => simp [h₁] at h
  | ok u w₁ =>
    cases h₂ : removeBinary r w₁ with
    | error e w₂ => simp [h₁, h₂] at h
    | ok u' w₂ =>
      simp only [h₁, h₂, forM_removeMatching, printSuccess, emit, pure_apply,
        EStateM.Result.ok.injEq] at h
      obtain ⟨rfl, rfl⟩ := h
      obtain ⟨hd₁, -⟩ := removeBuildDir_ok h₁
      obtain ⟨hb₂, hkeep⟩ := removeBinary_ok h₂
      have hnone : ∀ {fs : FS} {q : Path}, fs q = none →
          testArtifacts.foldl (fun fs pattern => fs.sweep r.rootDir pattern) fs q = none :=
        fun {fs q} hq => by
          cases h : testArtifacts.foldl (fun fs pattern => fs.sweep r.rootDir pattern) fs q with
          | none => rfl
          | some n => rw [foldl_sweep_some _ _ _ h] at hq; cases hq
      exact ⟨rfl, hnone (hkeep _ hd₁), hnone hb₂, foldl_sweep_clean _ _ _⟩

/-! ## What cleaning keeps -/

/-- {lit}`rglob` reaches only paths below its root. -/
theorem reaches_isPrefixOf {fs : FS} {root q : Path} (h : reaches fs root q = true) :
    root.parts.isPrefixOf q.parts = true := by
  simp only [reaches, Bool.and_eq_true] at h
  exact h.1.1

/-- A sweep removes a file that {lit}`rglob` reaches and whose name matches, or keeps
the path as it was. -/
theorem FS.sweep_frame (fs : FS) (root : Path) (pattern : String) (q : Path) :
    fs.sweep root pattern q = fs q ∨ fs.sweep root pattern q = none ∧
      reaches fs root q = true ∧ Node.isFile? (fs q) = true ∧
        globMatch pattern.data q.name.data = true := by
  unfold FS.sweep
  by_cases h : (reaches fs root q && Node.isFile? (fs q) && globMatch pattern.data q.name.data) = true
  · simp only [Bool.and_eq_true] at h
    exact .inr ⟨by simp [h], h.1.1, h.1.2, h.2⟩
  · exact .inl (if_neg h)

/-- Sweeping for several patterns in turn removes only files below the root whose name
matches one of them. -/
theorem foldl_sweep_frame (root : Path) (patterns : List String) (fs : FS) (q : Path) :
    patterns.foldl (fun fs pattern => fs.sweep root pattern) fs q = fs q ∨
      patterns.foldl (fun fs pattern => fs.sweep root pattern) fs q = none ∧
        Node.isFile? (fs q) = true ∧ root.parts.isPrefixOf q.parts = true ∧
          ∃ pattern ∈ patterns, globMatch pattern.data q.name.data = true := by
  induction patterns generalizing fs with
  | nil => exact .inl rfl
  | cons pattern rest ih =>
    simp only [List.foldl_cons]
    rcases FS.sweep_frame fs root pattern q with hkeep | ⟨hnone, hreach, hfile, hmatch⟩
    · rcases ih (fs.sweep root pattern) with h | ⟨h, hfile', hpre, p, hp, hmatch'⟩
      · exact .inl (h.trans hkeep)
      · exact .inr ⟨h, hkeep ▸ hfile', hpre, p, List.mem_cons_of_mem _ hp, hmatch'⟩
    · -- the first sweep removed the file, and later sweeps create nothing
      have h : rest.foldl (fun fs pattern => fs.sweep root pattern) (fs.sweep root pattern) q =
          none := by
        cases hq : rest.foldl (fun fs pattern => fs.sweep root pattern) (fs.sweep root pattern) q
        · rfl
        · rw [foldl_sweep_some root rest _ hq] at hnone
          cases hnone
      exact .inr ⟨h, hfile, reaches_isPrefixOf hreach, pattern, List.mem_cons_self _ _, hmatch⟩

/-- Removing the build directory removes only paths below it. -/
theorem removeBuildDir_frame {r : BuildRunner} {w w' : World}
    (h : removeBuildDir r w = .ok () w') (q : Path) :
    w'.fs q = w.fs q ∨ w'.fs q = none ∧ r.buildDir.parts.isPrefixOf q.parts = true := by
  simp only [removeBuildDir, bind_apply, pathExists] at h
  cases hd : w.fs r.buildDir with
  | none =>
    simp only [hd, Option.isSome_none] at h
    cases h
    exact .inl rfl
  | some n =>
    cases n with
    | dir =>
      simp only [hd, rmtree, printSuccess, emit, bind_apply, Option.isSome_some, if_true] at h
      cases h
      by_cases hq : r.buildDir.parts.isPrefixOf q.parts = true
      · exact .inr ⟨if_pos hq, hq⟩
      · exact .inl (if_neg hq)
    | file => simp [hd, rmtree, bind_apply] at h

/-- Removing the binary removes only the binary. -/
theorem removeBinary_frame {r : BuildRunner} {w w' : World}
    (h : removeBinary r w = .ok () w') (q : Path) :
    w'.fs q = w.fs q ∨ w'.fs q = none ∧ q = r.rootDir / r.binaryName := by
  simp only [removeBinary, bind_apply, pathExists] at h
  cases hb : w.fs (r.rootDir / r.binaryName) with
  | none =>
    simp only [hb, Option.isSome_none] at h
    cases h
    exact .inl rfl
  | some n =>
    cases n with
    | dir => simp [hb, unlink, bind_apply] at h
    | file =>
      simp only [hb, unlink, printSuccess, emit, bind_apply, Option.isSome_some, if_true] at h
      cases h
      by_cases hqb : q = r.rootDir / r.binaryName
      · exact .inr ⟨by subst hqb; exact FS.put_same _ _ _, hqb⟩
      · exact .inl (FS.put_other _ _ hqb)

/-- Without a build directory there is nothing to remove. -/
theorem removeBuildDir_of_none {r : BuildRunner} {w : World} (h : w.fs r.buildDir = none) :
    removeBuildDir r w = .ok () w := by
  simp [removeBuildDir, bind_apply, pathExists, h]

/-- Without a binary at the root there is nothing to remove. -/
theorem removeBinary_of_none {r : BuildRunner} {w : World}
    (h : w.fs (r.rootDir / r.binaryName) = none) : removeBinary r w = .ok () w := by
  simp [removeBinary, bind_apply, pathExists, h]

/-- On a cleaned filesystem, cleaning returns {lit}`True` and changes nothing. -/
theorem clean_of_cleaned {r : BuildRunner} {w : World} (h : Cleaned r w.fs) :
    ∃ w', clean r w = .ok true w' ∧ w'.fs = w.fs := by
  have hsweep : ∀ pattern ∈ testArtifacts, w.fs.sweep r.rootDir pattern = w.fs :=
    fun pattern hp => funext fun q => by
      by_cases hc : (reaches w.fs r.rootDir q && Node.isFile? (w.fs q) &&
          globMatch pattern.data q.name.data) = true
      · simp only [Bool.and_eq_true] at hc
        simp [h.noArtifact pattern hp q hc.1.1 hc.1.2] at hc
      · simp [FS.sweep, hc]
  have hfold : ∀ patterns : List String, (∀ p ∈ patterns, p ∈ testArtifacts) →
      patterns.foldl (fun fs pattern => fs.sweep r.rootDir pattern) w.fs = w.fs := by
    intro patterns hpatterns
    induction patterns with
    | nil => rfl
    | cons p rest ih =>
      rw [List.foldl_cons, hsweep p (hpatterns p (List.mem_cons_self _ _))]
      exact ih fun q hq => hpatterns q (List.mem_cons_of_mem _ hq)
  have h₁ := removeBuildDir_of_none (w := w.log (.say .step "Cleaning build artifacts")) h.noBuildDir
  have h₂ := removeBinary_of_none (w := w.log (.say .step "Cleaning build artifacts")) h.noBinary
  simp only [clean, printStep, printSuccess, emit, bind_apply, h₁, h₂, forM_removeMatching,
    pure_apply]
  exact ⟨_, rfl, by simpa using hfold testArtifacts fun _ hp => hp⟩

/-- A clean that returns leaves a cleaned filesystem: no build directory, no binary at
the root and no test artifact that {lit}`rglob` reaches.  Cleaning again then returns
{lit}`True` and leaves the filesystem as the first clean left it. -/
theorem clean_fs_idem {r : BuildRunner} {w w₁ : World} {b : Bool} (h : clean r w = .ok b w₁) :
    Cleaned r w₁.fs ∧ ∃ w₂, clean r w₁ = .ok true w₂ ∧ w₂.fs = w₁.fs :=
  ⟨(clean_cleaned h).2, clean_of_cleaned (clean_cleaned h).2⟩

/-- Cleaning a checkout with a build directory and a test database twice. -/
theorem clean_fs_idem_checkout :
    ∃ w₁, clean srcRunner ⟨linuxHost silentTools, fsOf [⟨[]⟩, ⟨["src"]⟩, ⟨["src", "build"]⟩]
        [⟨["src", "build", "shoal"]⟩, ⟨["src", "shoal.db"]⟩], 0, []⟩ = .ok true w₁ ∧
      Cleaned srcRunner w₁.fs ∧ ∃ w₂, clean srcRunner w₁ = .ok true w₂ ∧ w₂.fs = w₁.fs := by
  obtain ⟨w₁, h⟩ : ∃ w₁, clean srcRunner ⟨linuxHost silentTools, fsOf [⟨[]⟩, ⟨["src"]⟩,
      ⟨["src", "build"]⟩] [⟨["src", "build", "shoal"]⟩, ⟨["src", "shoal.db"]⟩], 0, []⟩ =
      .ok true w₁ := ⟨_, rfl⟩
  exact ⟨w₁, h, clean_fs_idem h⟩

end Build
end Shoal
