import Mathlib.Logic.Basic

/-!
# Shoal build automation - the world a build run acts on

The build script {lit}`build.py` drives external tools through {lit}`subprocess.run`,
asks the filesystem whether files exist, creates the build directory and writes
{lit}`build-info.json`.  This module fixes the state those calls act on and the
monad in which the script's functions are written.

The external tools are a parameter of the world: for the {lit}`n`-th process the
script starts, the tools see the command line, the working directory, the
environment and the filesystem, and answer with how {lit}`subprocess.run` ends and
with the filesystem the process leaves behind.  Every theorem that quantifies over
worlds therefore quantifies over every behaviour of the tools.

A Python exception is a value of {lit}`Exc`; a raised exception keeps the world
reached so far, as in Python, where side effects are not rolled back.

Main results:

- Lemmas {lit}`bind_ok` and {lit}`bind_error`: how a run continues after a step.
- Lemmas {lit}`subprocessRun_eq` and {lit}`decodeText_error`: what one process start
  does.
- Lemma {lit}`translateNewlines_written`: a text without carriage returns that
  {lit}`write_text` wrote reads back unchanged in text mode, on every machine.
-/

namespace Shoal
namespace Build

/-! ## Paths, environments and the filesystem -/

/-- An absolute path, as the list of its components below the root directory. -/
structure Path where
  parts : List String
deriving DecidableEq, Repr

/-- {lit}`p / name`: the {lit}`pathlib` join with one component. -/
def Path.div (p : Path) (name : String) : Path := ⟨p.parts ++ [name]⟩

instance : HDiv Path String Path := ⟨Path.div⟩

/-- {lit}`str(p)` for an absolute path, with {lit}`/` between components as on POSIX
systems; Windows writes {lit}`\` instead, which only changes the text of the
{lit}`-o` argument the compiler receives. -/
def Path.str (p : Path) : String := "/" ++ "/".intercalate p.parts

/-- {lit}`p.parent`; the root is its own parent. -/
def Path.parent (p : Path) : Path := ⟨p.parts.dropLast⟩

@[simp]
theorem Path.div_parent (p : Path) (name : String) : (p / name).parent = p := by
  simp [HDiv.hDiv, Path.div, Path.parent]

/-- A process environment, {lit}`os.environ`: variable name to value. -/
def Env := String → Option String

/-- {lit}`env[name] = value` on a copy of an environment. -/
def Env.set (env : Env) (name value : String) : Env :=
  fun k => if k = name then some value else env k

/-- What is stored at a path.  A file records its size in bytes. -/
inductive Node where
  | dir
  | file (size : Nat)
deriving DecidableEq, Repr

/-- The filesystem: what, if anything, is stored at each path. -/
def FS := Path → Option Node

/-- Store {lit}`n` at {lit}`p` ({lit}`none` removes it). -/
def FS.put (fs : FS) (p : Path) (n : Option Node) : FS :=
  fun q => if q = p then n else fs q

@[simp]
theorem FS.put_same (fs : FS) (p : Path) (n : Option Node) : fs.put p n p = n := by
  simp [FS.put]

theorem FS.put_other (fs : FS) {p q : Path} (n : Option Node) (h : q ≠ p) :
    fs.put p n q = fs q := by
  simp [FS.put, h]

/-! ## Exceptions -/

/-- The Python exception classes a build run can meet. -/
inductive ExcClass where
  | fileNotFoundError
  | fileExistsError
  | notADirectoryError
  | isADirectoryError
  | permissionError
  | osError
  | unicodeDecodeError
  | indexError
  | keyboardInterrupt
  | systemExit (code : Nat)
deriving DecidableEq, Repr

/-- A raised Python exception: its class and {lit}`str(e)`. -/
structure Exc where
  cls : ExcClass
  msg : String
deriving DecidableEq, Repr

/-- Whether {lit}`except Exception` catches the exception: every class but the two
that derive from {lit}`BaseException` only. -/
def Exc.isException (e : Exc) : Bool :=
  match e.cls with
  | .keyboardInterrupt | .systemExit _ => false
  | _ => true

/-- Whether {lit}`except FileNotFoundError` catches the exception. -/
def Exc.isFileNotFound (e : Exc) : Bool := e.cls = .fileNotFoundError

/-- Whether the exception is {lit}`SystemExit`, which ends the process with its code. -/
def Exc.exits (e : Exc) : Bool :=
  match e.cls with
  | .systemExit _ => true
  | _ => false

/-- {lit}`str(OSError(errno, strerror, filename))`. -/
def osErrorText (errno : Nat) (what : String) (p : Path) : String :=
  "[Errno " ++ toString errno ++ "] " ++ what ++ ": '" ++ p.str ++ "'"

/-! ## Processes -/

/-- Raw bytes a process writes to a pipe. -/
abbrev Bytes := List UInt8

/-- Strict decoding in the locale's encoding; an error carries {lit}`str(e)` of the
{lit}`UnicodeDecodeError`. -/
def Codec := Bytes → Except String String

/-- A process start as the operating system sees it. -/
structure Launch where
  argv : List String
  cwd : Path
  env : Env

/-- What {lit}`subprocess.run` itself raises before the child has run to completion. -/
inductive SpawnError where
  /-- {lit}`FileNotFoundError`: there is no such executable. -/
  | notFound (msg : String)
  /-- {lit}`PermissionError`: the file cannot be executed. -/
  | permission (msg : String)
  /-- Another {lit}`OSError`, such as an executable in a foreign format. -/
  | os (msg : String)
  /-- {lit}`KeyboardInterrupt` while the script waits for the child. -/
  | interrupted

/-- The Python exception a failed process start raises. -/
def SpawnError.toExc : SpawnError → Exc
  | .notFound msg => ⟨.fileNotFoundError, msg⟩
  | .permission msg => ⟨.permissionError, msg⟩
  | .os msg => ⟨.osError, msg⟩
  | .interrupted => ⟨.keyboardInterrupt, ""⟩

/-- A failed process start never exits the script. -/
@[simp]
theorem SpawnError.toExc_exits (err : SpawnError) : err.toExc.exits = false := by
  cases err <;> rfl

/-- How {lit}`subprocess.run` ends for one process. -/
inductive Spawn where
  /-- It raises before the child has run to completion. -/
  | raised (err : SpawnError)
  /-- The child ran and ended with this return code, having written these bytes. -/
  | exited (code : Int) (out err : Bytes)

/-- The external tools: given how many processes were started before, the launch and
the filesystem, how the start ends and the filesystem it leaves. -/
def Tools := Nat → Launch → FS → Spawn × FS

/-! ## Events and the world -/

/-- The kind of line the script prints; the ANSI colouring is presentation only. -/
inductive Mark where
  | header
  | step
  | success
  | error
  | warning
  | plain
deriving DecidableEq, Repr

/-- What the script does that can be observed from outside, in order.  What it
deletes shows in the filesystem it leaves. -/
inductive Event where
  | say (mark : Mark) (text : String)
  | launch (l : Launch)
  | mkdir (p : Path)
  | write (p : Path) (text : String)

/-- The parts of the machine a run reads but never changes. -/
structure Host where
  tools : Tools
  codec : Codec
  environ : Env
  /-- {lit}`Path(__file__).parent`. -/
  scriptDir : Path
  /-- {lit}`platform.system()` and {lit}`platform.machine()`. -/
  system : String
  machine : String
  /-- {lit}`time.strftime("%Y-%m-%d %H:%M:%S UTC", time.gmtime())`. -/
  utcNow : String

/-- The state of a build run. -/
structure World where
  host : Host
  fs : FS
  /-- How many processes the run has started. -/
  spawned : Nat
  trace : List Event

/-- The script's functions: a value or a raised exception, with the world reached. -/
abbrev Py := EStateM Exc World

/-- The world a run ends in, whether it returned or raised. -/
def Result.world {α : Type} : EStateM.Result Exc World α → World
  | .ok _ w => w
  | .error _ w => w

/-! ## Sequencing -/

section Sequencing

variable {α β : Type}

@[simp]
theorem pure_apply (a : α) (w : World) : (pure a : Py α) w = .ok a w := rfl

theorem bind_apply (x : Py α) (f : α → Py β) (w : World) :
    (x >>= f) w = match x w with
      | .ok a w' => f a w'
      | .error e w' => .error e w' := by
  show EStateM.bind x f w = _
  unfold EStateM.bind
  cases x w <;> rfl

/-- A step that returns hands its value and world to the rest of the run. -/
theorem bind_ok {x : Py α} {w w' : World} {a : α} (f : α → Py β) (h : x w = .ok a w') :
    (x >>= f) w = f a w' := by
  rw [bind_apply, h]

/-- A step that raises ends the run with its exception and world. -/
theorem bind_error {x : Py α} {w w' : World} {e : Exc} (f : α → Py β)
    (h : x w = .error e w') : (x >>= f) w = .error e w' := by
  rw [bind_apply, h]

/-- A run of {lit}`x >>= f` that returns went through a return of {lit}`x`. -/
theorem bind_eq_ok {x : Py α} {f : α → Py β} {w w' : World} {b : β} (h : (x >>= f) w = .ok b w') :
    ∃ a w₁, x w = .ok a w₁ ∧ f a w₁ = .ok b w' := by
  rw [bind_apply] at h
  split at h
  · exact ⟨_, _, ‹_›, h⟩
  · cases h

/-- {lit}`raise e`. -/
def raise (e : Exc) : Py α := fun w => .error e w

/-- {lit}`try: x except E as e: h(e)`, where {lit}`catches` says which exceptions the
{lit}`except` clauses name; the others propagate. -/
def tryExcept (x : Py α) (catches : Exc → Bool) (h : Exc → Py α) : Py α := fun w =>
  match x w with
  | .ok a w' => .ok a w'
  | .error e w' => if catches e then h e w' else .error e w'

theorem tryExcept_ok {x : Py α} {w w' : World} {a : α} (catches : Exc → Bool)
    (h : Exc → Py α) (hx : x w = .ok a w') : tryExcept x catches h w = .ok a w' := by
  simp [tryExcept, hx]

theorem tryExcept_error {x : Py α} {w w' : World} {e : Exc} (catches : Exc → Bool)
    (h : Exc → Py α) (hx : x w = .error e w') :
    tryExcept x catches h w = if catches e then h e w' else .error e w' := by
  simp [tryExcept, hx]

end Sequencing

/-! ## Primitive operations -/

/-- Append one event to the trace. -/
def World.log : World → Event → World
  | ⟨host, fs, spawned, trace⟩, ev => ⟨host, fs, spawned, trace ++ [ev]⟩

@[simp]
theorem World.log_fs (w : World) (ev : Event) : (w.log ev).fs = w.fs := rfl

@[simp]
theorem World.log_host (w : World) (ev : Event) : (w.log ev).host = w.host := rfl

@[simp]
theorem World.log_spawned (w : World) (ev : Event) : (w.log ev).spawned = w.spawned := rfl

@[simp]
theorem World.log_trace (w : World) (ev : Event) : (w.log ev).trace = w.trace ++ [ev] := rfl

/-- The world with its filesystem changed by {lit}`f`. -/
def World.modifyFS : World → (FS → FS) → World
  | ⟨host, fs, spawned, trace⟩, f => ⟨host, f fs, spawned, trace⟩

@[simp]
theorem World.modifyFS_fs (w : World) (f : FS → FS) : (w.modifyFS f).fs = f w.fs := rfl

@[simp]
theorem World.modifyFS_host (w : World) (f : FS → FS) : (w.modifyFS f).host = w.host := rfl

@[simp]
theorem World.modifyFS_spawned (w : World) (f : FS → FS) :
    (w.modifyFS f).spawned = w.spawned := rfl

@[simp]
theorem World.modifyFS_trace (w : World) (f : FS → FS) : (w.modifyFS f).trace = w.trace := rfl

@[simp]
theorem World.modifyFS_modifyFS (w : World) (f g : FS → FS) :
    (w.modifyFS f).modifyFS g = w.modifyFS (fun fs => g (f fs)) := rfl

/-- Print one line of the given kind.  Standard output is taken to encode every
character, as UTF-8 does, so printing never raises. -/
def emit (mark : Mark) (text : String) : Py Unit := fun w => .ok () (w.log (.say mark text))

/-- {lit}`os.environ`. -/
def osEnviron : Py Env := fun w => .ok w.host.environ w

/-- {lit}`p.exists()`. -/
def pathExists (p : Path) : Py Bool := fun w => .ok (w.fs p).isSome w

/-- {lit}`p.stat().st_size`; the size a directory reports is not modelled. -/
def statSize (p : Path) : Py Nat := fun w =>
  match w.fs p with
  | some (.file n) => .ok n w
  | some .dir => .ok 0 w
  | none => .error ⟨.fileNotFoundError, osErrorText 2 "No such file or directory" p⟩ w

/-- Reading a size changes nothing. -/
theorem statSize_world {p : Path} {w w' : World} {n : Nat} (h : statSize p w = .ok n w') :
    w' = w := by
  unfold statSize at h
  split at h
  · cases h; rfl
  · cases h; rfl
  · cases h

/-- The exception {lit}`os.mkdir` or {lit}`open` raises for a parent that is not a
directory, if any. -/
def parentError (fs : FS) (p : Path) : Option Exc :=
  match fs p.parent with
  | some .dir => none
  | some (.file _) => some ⟨.notADirectoryError, osErrorText 20 "Not a directory" p⟩
  | none => some ⟨.fileNotFoundError, osErrorText 2 "No such file or directory" p⟩

/-- {lit}`p.mkdir(exist_ok=True)`: nothing to do for an existing directory, an error
for an existing file or a missing parent. -/
def mkdir (p : Path) : Py Unit := fun w =>
  match w.fs p with
  | some .dir => .ok () w
  | some (.file _) => .error ⟨.fileExistsError, osErrorText 17 "File exists" p⟩ w
  | none =>
    match parentError w.fs p with
    | some e => .error e w
    | none => .ok () ((w.log (.mkdir p)).modifyFS fun fs => fs.put p (some .dir))

/-- Text mode's newline translation on output: {lit}`write_text` opens the file with
{lit}`newline=None`, which writes every {lit}`\n` as {lit}`os.linesep`, here
{lit}`\r\n`. -/
def lfToCrlf : List Char → List Char
  | [] => []
  | c :: cs => if c = '\n' then '\r' :: '\n' :: lfToCrlf cs else c :: lfToCrlf cs

/-- The characters {lit}`p.write_text(text)` puts in the file on a machine:
{lit}`os.linesep` is {lit}`\r\n` on Windows and {lit}`\n` elsewhere. -/
def Host.written (h : Host) (text : String) : String :=
  if h.system = "Windows" then ⟨lfToCrlf text.data⟩ else text

/-- {lit}`p.write_text(text)`: create or truncate the file, which then holds the text
with the machine's line separators, encoded in UTF-8. -/
def writeText (p : Path) (text : String) : Py Unit := fun w =>
  match w.fs p with
  | some .dir => .error ⟨.isADirectoryError, osErrorText 21 "Is a directory" p⟩ w
  | _ =>
    match parentError w.fs p with
    | some e => .error e w
    | none =>
      .ok () ((w.log (.write p text)).modifyFS
        fun fs => fs.put p (some (.file (w.host.written text).utf8ByteSize)))

/-- A missing or misplaced parent is an {lit}`OSError`, never an exit. -/
theorem parentError_exits {fs : FS} {p : Path} {e : Exc} (h : parentError fs p = some e) :
    e.exits = false := by
  unfold parentError at h
  split at h <;> cases h <;> rfl

/-- Creating a directory raises an {lit}`OSError` and changes nothing, does nothing
for an existing directory, or creates it. -/
theorem mkdir_cases (p : Path) (w : World) :
    (∃ e, e.exits = false ∧ mkdir p w = .error e w) ∨ mkdir p w = .ok () w ∨
      mkdir p w = .ok () ((w.log (.mkdir p)).modifyFS fun fs => fs.put p (some .dir)) := by
  unfold mkdir
  split
  · exact .inr (.inl rfl)
  · exact .inl ⟨⟨.fileExistsError, _⟩, rfl, rfl⟩
  · split
    next e he => exact .inl ⟨e, parentError_exits he, rfl⟩
    next => exact .inr (.inr rfl)

/-- A directory creation that returns leaves the machine as it was and changes no other
path. -/
theorem mkdir_frame {p : Path} {w w' : World} (h : mkdir p w = .ok () w') :
    w'.host = w.host ∧ ∀ q, q ≠ p → w'.fs q = w.fs q := by
  rcases mkdir_cases p w with ⟨e, -, he⟩ | he | he <;> rw [he] at h <;> cases h
  · exact ⟨rfl, fun _ _ => rfl⟩
  · exact ⟨rfl, fun q hq => by simp [FS.put_other _ _ hq]⟩

/-- Writing a file raises an {lit}`OSError` and changes nothing, or writes it. -/
theorem writeText_cases (p : Path) (text : String) (w : World) :
    (∃ e, e.exits = false ∧ writeText p text w = .error e w) ∨
      writeText p text w = .ok () ((w.log (.write p text)).modifyFS
        fun fs => fs.put p (some (.file (w.host.written text).utf8ByteSize))) := by
  unfold writeText
  split
  · exact .inl ⟨⟨.isADirectoryError, _⟩, rfl, rfl⟩
  · split
    next e he => exact .inl ⟨e, parentError_exits he, rfl⟩
    next => exact .inr rfl

/-- Python's universal-newlines translation: {lit}`\r\n` and a lone {lit}`\r` become
{lit}`\n`. -/
def translateNewlines : List Char → List Char
  | '\r' :: '\n' :: cs => '\n' :: translateNewlines cs
  | '\r' :: cs => '\n' :: translateNewlines cs
  | c :: cs => c :: translateNewlines cs
  | [] => []

/-- A character other than {lit}`\r` stands for itself. -/
theorem translateNewlines_cons {c : Char} (hc : c ≠ '\r') (cs : List Char) :
    translateNewlines (c :: cs) = c :: translateNewlines cs :=
  translateNewlines.eq_3 _ _ (fun _ h => absurd h hc) (fun h => absurd h hc)

/-- A text without {lit}`\r` reads back unchanged. -/
theorem translateNewlines_of_not_mem {cs : List Char} (h : '\r' ∉ cs) :
    translateNewlines cs = cs := by
  induction cs with
  | nil => rfl
  | cons c cs ih =>
    rw [List.mem_cons, not_or] at h
    rw [translateNewlines_cons (Ne.symm h.1), ih h.2]

/-- Universal newlines undo the translation of {lit}`\n` to {lit}`\r\n` on a text
without {lit}`\r`. -/
theorem translateNewlines_lfToCrlf {cs : List Char} (h : '\r' ∉ cs) :
    translateNewlines (lfToCrlf cs) = cs := by
  induction cs with
  | nil => rfl
  | cons c cs ih =>
    rw [List.mem_cons, not_or] at h
    by_cases hc : c = '\n'
    · subst hc
      simp only [lfToCrlf, if_true, translateNewlines, ih h.2]
    · rw [lfToCrlf, if_neg hc, translateNewlines_cons (Ne.symm h.1), ih h.2]

/-- The translation to {lit}`\r\n` adds only carriage returns. -/
theorem mem_lfToCrlf {c : Char} {cs : List Char} (h : c ∈ lfToCrlf cs) : c ∈ cs ∨ c = '\r' := by
  induction cs with
  | nil => cases h
  | cons d cs ih =>
    simp only [lfToCrlf] at h
    rw [List.mem_cons, or_assoc]
    split at h <;> simp only [List.mem_cons] at h
    next hd =>
      rcases h with h | h | h
      · exact .inr (.inr h)
      · exact .inl (h.trans hd.symm)
      · exact .inr (ih h)
    next =>
      rcases h with h | h
      · exact .inl h
      · exact .inr (ih h)

/-- A file {lit}`write_text` wrote holds the text's characters and, on Windows,
carriage returns. -/
theorem mem_written {h : Host} {text : String} {c : Char} (hc : c ∈ (h.written text).data) :
    c ∈ text.data ∨ c = '\r' := by
  unfold Host.written at hc
  split at hc
  · exact mem_lfToCrlf hc
  · exact .inl hc

/-- Reading back in text mode, on any machine, a text without {lit}`\r` that
{lit}`write_text` wrote gives the text. -/
theorem translateNewlines_written (h : Host) {text : String} (hcr : '\r' ∉ text.data) :
    translateNewlines (h.written text).data = text.data := by
  unfold Host.written
  split
  · exact translateNewlines_lfToCrlf hcr
  · exact translateNewlines_of_not_mem hcr

/-- {lit}`text=True` decoding of one pipe: strict decoding, then universal newlines. -/
def decodeText (codec : Codec) (b : Bytes) : Except Exc String :=
  match codec b with
  | .ok s => .ok ⟨translateNewlines s.data⟩
  | .error m => .error ⟨.unicodeDecodeError, m⟩

/-- A decoding failure is a {lit}`UnicodeDecodeError`. -/
theorem decodeText_error {codec : Codec} {b : Bytes} {e : Exc}
    (h : decodeText codec b = .error e) : e.cls = .unicodeDecodeError := by
  unfold decodeText at h
  cases hc : codec b <;> simp [hc] at h
  rw [← h]

/-- {lit}`subprocess.run(cmd, cwd=cwd, capture_output=True, text=True, check=False)`:
start the process in the inherited environment, wait for it and decode both pipes,
standard output first. -/
def subprocessRun (cmd : List String) (cwd : Path) : Py (Int × String × String) :=
  fun ⟨host, fs, spawned, trace⟩ =>
    match host.tools spawned ⟨cmd, cwd, host.environ⟩ fs with
    | (.raised err, fs') =>
      .error err.toExc ⟨host, fs', spawned + 1, trace ++ [.launch ⟨cmd, cwd, host.environ⟩]⟩
    | (.exited code out err, fs') =>
      match decodeText host.codec out, decodeText host.codec err with
      | .ok o, .ok e =>
        .ok (code, o, e) ⟨host, fs', spawned + 1, trace ++ [.launch ⟨cmd, cwd, host.environ⟩]⟩
      | .error x, _ => .error x ⟨host, fs', spawned + 1, trace ++ [.launch ⟨cmd, cwd, host.environ⟩]⟩
      | .ok _, .error x =>
        .error x ⟨host, fs', spawned + 1, trace ++ [.launch ⟨cmd, cwd, host.environ⟩]⟩

/-- The world after one process start: the launch is logged and the tools' filesystem
is taken over. -/
def World.afterSpawn (w : World) (cmd : List String) (cwd : Path) : World :=
  { w.log (.launch ⟨cmd, cwd, w.host.environ⟩) with
    fs := (w.host.tools w.spawned ⟨cmd, cwd, w.host.environ⟩ w.fs).2
    spawned := w.spawned + 1 }

/-- One process start, by how it ends. -/
theorem subprocessRun_eq (cmd : List String) (cwd : Path) (w : World) :
    subprocessRun cmd cwd w =
      match (w.host.tools w.spawned ⟨cmd, cwd, w.host.environ⟩ w.fs).1 with
      | .raised err => .error err.toExc (w.afterSpawn cmd cwd)
      | .exited code out err =>
        match decodeText w.host.codec out, decodeText w.host.codec err with
        | .ok o, .ok e => .ok (code, o, e) (w.afterSpawn cmd cwd)
        | .error x, _ => .error x (w.afterSpawn cmd cwd)
        | .ok _, .error x => .error x (w.afterSpawn cmd cwd) := by
  obtain ⟨host, fs, spawned, trace⟩ := w
  unfold subprocessRun World.afterSpawn World.log
  dsimp only
  cases host.tools spawned ⟨cmd, cwd, host.environ⟩ fs with
  | mk sp fs' => cases sp <;> rfl

/-- However a process start ends, it leaves the world {lit}`afterSpawn` describes. -/
theorem subprocessRun_world (cmd : List String) (cwd : Path) (w : World) :
    Result.world (subprocessRun cmd cwd w) = w.afterSpawn cmd cwd := by
  rw [subprocessRun_eq]
  cases (w.host.tools w.spawned ⟨cmd, cwd, w.host.environ⟩ w.fs).1 with
  | raised err => rfl
  | exited code out err =>
    dsimp only
    cases decodeText w.host.codec out <;> cases decodeText w.host.codec err <;> rfl

/-- A process start raises a spawn error or a {lit}`UnicodeDecodeError`. -/
theorem subprocessRun_error {cmd : List String} {cwd : Path} {w w' : World} {e : Exc}
    (h : subprocessRun cmd cwd w = .error e w') :
    (∃ err, e = SpawnError.toExc err) ∨ e.cls = .unicodeDecodeError := by
  rw [subprocessRun_eq] at h
  cases hs : (w.host.tools w.spawned ⟨cmd, cwd, w.host.environ⟩ w.fs).1 with
  | raised err =>
    rw [hs] at h
    cases h
    exact .inl ⟨err, rfl⟩
  | exited code out err =>
    rw [hs] at h
    dsimp only at h
    cases ho : decodeText w.host.codec out <;> cases he : decodeText w.host.codec err <;>
      simp only [ho, he, reduceCtorEq, EStateM.Result.error.injEq] at h
    all_goals obtain ⟨rfl, -⟩ := h
    all_goals exact .inr (decodeText_error ‹_›)

end Build
end Shoal
