/-
This file is the data model of `execwrappers.cpp`: the constants it takes from
`constants.h`, the state of a process that its wrappers read and write, the collaborators it
calls (the file system, the plugins' event subscribers, the lock, the operating system), and
the ways a wrapper call ends.

The process state holds exactly what the wrappers touch: the identity `UniquePid` and the pid,
the worker state, the environment, the descriptor table with each descriptor's close-on-exec
flag, `errno`, the three file-scope variables `pthread_atfork_enabled`, `child_time` and
`childCoordinatorSocket`, the coordinator connection, the children `ProcessInfo` records, and
the calls made on the wrapper-execution lock in order. Whatever a collaborator decides (whether
the lock was acquired, what `_real_fork` or `_real_execvpe` returned, what the subscribers
did) is a field of `World`, so that a theorem over every `World` is a theorem over every
behaviour of the collaborators.
-/

import ExecWrappers.Memory

namespace Dmtcp

/-! ### Constants -/

/-- The names and numbers `execwrappers.cpp` takes from `constants.h`, which is not among the
sources: `ourImportantEnvs` (the list `ENV_VARS_ALL`), `ENV_VAR_ORIG_LD_PRELOAD`,
`ENV_VAR_HIJACK_LIBS`, `ENV_VAR_HIJACK_LIBS_M32`, the protected descriptor range
`[PROTECTED_FD_START, PROTECTED_FD_END)`, `PROTECTED_LIFEBOAT_FD`, `PROTECTED_COORD_FD` and
`VIRT_PTS_PREFIX_STR`, and the target architecture. -/
structure Constants where
  importantEnvs : List Str
  origLdPreload : Str
  hijackLibs : Str
  hijackLibsM32 : Str
  protectedFdStart : Nat
  protectedFdEnd : Nat
  protectedLifeboatFd : Nat
  protectedCoordFd : Nat
  virtPtsPrefix : Str
  /-- Whether the build is for `__aarch64__`, where the checkpoint bypass of `fork` calls
  `_real_fork` instead of the raw `SYS_fork` system call. -/
  aarch64 : Bool

/-- The name `LD_PRELOAD`. -/
def ldPreload : Str := "LD_PRELOAD".toList

/-- What the wrappers rely on of `ourImportantEnvs`: its entries are variable names (no `=`),
each listed once, and `LD_PRELOAD` is not among them. -/
structure ReservedNames (constants : Constants) : Prop where
  nodup : constants.importantEnvs.Nodup
  valid : ∀ name ∈ constants.importantEnvs, '=' ∉ name
  ldPreload_not_mem : ldPreload ∉ constants.importantEnvs

/-- `INITIAL_ARGV_MAX`. -/
def initialArgvMax : Nat := 128

/-- `MAX_EXTRA_ARGS`. -/
def maxExtraArgs : Nat := 32

/-- `MAX_EXTRA_ENV`. -/
def maxExtraEnv : Nat := 32

/-- `PATH_MAX` of `<linux/limits.h>`. -/
def pathMax : Nat := 4096

/-! ### Process state -/

/-- `UniquePid`: the host id, the pid and the generation time of a process. -/
structure UniquePid where
  hostid : Nat
  pid : Nat
  time : Nat
deriving DecidableEq, Repr

/-- `WorkerState::currentState()` as the wrappers tell the states apart; `other` is any state
of a checkpoint or a restart. -/
inductive WorkerState
  | unknown
  | running
  | other
deriving DecidableEq, Repr

/-- `isPerformingCkptRestart()`: the state is neither `UNKNOWN` nor `RUNNING`. -/
def isPerformingCkptRestart (state : WorkerState) : Bool :=
  state != .unknown && state != .running

/-- A call on the wrapper-execution lock. -/
inductive LockEvent
  /-- The acquisition of `WRAPPER_EXECUTION_GET_EXCL_LOCK()`, with whether it acquired. -/
  | lockExcl (acquired : Bool)
  /-- `ThreadSync::wrapperExecutionLockUnlock()`, the release. -/
  | unlock
  /-- `ThreadSync::resetLocks()`, in a fork child. -/
  | resetLocks
deriving DecidableEq, Repr

/-- The state of one process that the wrappers read and write. -/
structure Proc where
  pid : Nat
  /-- `UniquePid::ThisProcess()`. -/
  identity : UniquePid
  workerState : WorkerState
  environ : Option (List Str)
  /-- The open descriptors, each with its `FD_CLOEXEC` flag. -/
  fds : Nat → Option Bool
  errno : Int
  /-- `pthread_atfork_enabled`. -/
  atforkEnabled : Bool
  /-- `child_time`. -/
  childTime : Nat
  /-- `childCoordinatorSocket`. -/
  childCoordinatorSocket : Int
  /-- The coordinator connection `CoordinatorAPI` holds. -/
  coordinatorSocket : Int
  /-- The children `ProcessInfo::insertChild` recorded. -/
  children : List (Nat × UniquePid)
  /-- The calls made on the wrapper-execution lock, oldest first. -/
  lockLog : List LockEvent

/-- Append a call on the lock to the process's record. -/
def Proc.logLock (proc : Proc) (event : LockEvent) : Proc :=
  { proc with lockLog := proc.lockLog ++ [event] }

/-- `WRAPPER_EXECUTION_RELEASE_EXCL_LOCK()`: a release when the acquisition acquired. -/
def Proc.releaseExcl (proc : Proc) (acquired : Bool) : Proc :=
  if acquired then proc.logLock .unlock else proc

/-- `_real_close(fd)` on the descriptor table. -/
def closeFd (fds : Nat → Option Bool) (fd : Int) : Nat → Option Bool :=
  if 0 ≤ fd then Function.update fds fd.toNat none else fds

/-- `EBADF`. -/
def ebadf : Int := 9

/-- `_real_close(fd)` in a process: an open descriptor is closed, and on any other `fd`, `-1`
among them, `close` fails and sets `errno` to `EBADF`. -/
def Proc.realClose (proc : Proc) (fd : Int) : Proc :=
  let closes := 0 ≤ fd ∧ (proc.fds fd.toNat).isSome
  { proc with
    fds := if closes then closeFd proc.fds fd else proc.fds
    errno := if closes then proc.errno else ebadf }

/-- Modelled from the spec: `Util::changeFd(oldfd, newfd)` (util.cpp, not under src/) moves a
descriptor to a fixed number, `dup2` then `close`, as `getLifeboatFd` places the lifeboat;
the copy does not have `FD_CLOEXEC`. -/
def changeFd (fds : Nat → Option Bool) (oldfd newfd : Nat) : Nat → Option Bool :=
  if oldfd = newfd then fds
  else Function.update (Function.update fds newfd (some false)) oldfd none

@[simp] theorem Proc.logLock_lockLog (proc : Proc) (event : LockEvent) :
    (proc.logLock event).lockLog = proc.lockLog ++ [event] := rfl

@[simp] theorem Proc.logLock_environ (proc : Proc) (event : LockEvent) :
    (proc.logLock event).environ = proc.environ := rfl

@[simp] theorem Proc.logLock_fds (proc : Proc) (event : LockEvent) :
    (proc.logLock event).fds = proc.fds := rfl

theorem Proc.releaseExcl_eq (proc : Proc) (acquired : Bool) :
    proc.releaseExcl acquired =
      { proc with lockLog := proc.lockLog ++ if acquired then [.unlock] else [] } := by
  cases acquired <;> simp [Proc.releaseExcl, Proc.logLock]

@[simp] theorem Proc.releaseExcl_environ (proc : Proc) (acquired : Bool) :
    (proc.releaseExcl acquired).environ = proc.environ := by
  cases acquired <;> rfl

@[simp] theorem Proc.releaseExcl_fds (proc : Proc) (acquired : Bool) :
    (proc.releaseExcl acquired).fds = proc.fds := by
  cases acquired <;> rfl

/-! ### Matched use of the lock -/

/-- One call on the lock, counting the holds of the calling process: `none` once a release
has been issued with no hold to release. -/
def lockStep : Option Nat → LockEvent → Option Nat
  | some holds, .lockExcl acquired => some (if acquired then holds + 1 else holds)
  | some (holds + 1), .unlock => some holds
  | some 0, .unlock => none
  | some _, .resetLocks => some 0
  | none, _ => none

/-- The lock calls of one wrapper call are used in matched pairs: every acquisition that
acquired is released once, or reset in a fork child, and no release has no acquisition. -/
def MatchedLockUse (events : List LockEvent) : Prop :=
  events.foldl lockStep (some 0) = some 0

instance (events : List LockEvent) : Decidable (MatchedLockUse events) :=
  inferInstanceAs (Decidable (_ = _))

/-- Once a release has come without a hold, the count stays undefined. -/
theorem foldl_lockStep_none (events : List LockEvent) : events.foldl lockStep none = none := by
  induction events with
  | nil => rfl
  | cons event events inductionHypothesis => cases event <;> exact inductionHypothesis

/-- In a matched use no release comes without a hold, at any point of it. -/
theorem MatchedLockUse.releases_held {events : List LockEvent} (matched : MatchedLockUse events)
    {earlier : List LockEvent} (isEarlier : earlier <+: events) :
    earlier.foldl lockStep (some 0) ≠ none := by
  obtain ⟨later, rfl⟩ := isEarlier
  intro unmatched
  rw [MatchedLockUse, List.foldl_append, unmatched, foldl_lockStep_none] at matched
  cases matched

/-- Matched uses one after the other are a matched use. -/
theorem matchedLockUse_append {first second : List LockEvent} (matchedFirst : MatchedLockUse first)
    (matchedSecond : MatchedLockUse second) : MatchedLockUse (first ++ second) := by
  unfold MatchedLockUse at *
  rw [List.foldl_append, matchedFirst, matchedSecond]

/-- An acquisition followed by the release `WRAPPER_EXECUTION_RELEASE_EXCL_LOCK` issues. -/
theorem matchedLockUse_release (acquired : Bool) :
    MatchedLockUse ([.lockExcl acquired] ++ if acquired then [.unlock] else []) := by
  cases acquired <;> decide

/-- An acquisition followed by the reset of a fork child. -/
theorem matchedLockUse_reset (acquired : Bool) :
    MatchedLockUse [.lockExcl acquired, .resetLocks] := by
  cases acquired <;> decide

/-! ### Collaborators -/

/-- The file system as the wrappers query it through `jalib` and `Util`, whose sources are not
among the files read here. -/
structure FileSystem where
  /-- `jalib::Filesystem::FileExists`. -/
  fileExists : Str → Bool
  /-- `Util::elfType`: `none` when it returns `-1`, else `(isElf, is32bitElf)`. -/
  elfType : Str → Option (Bool × Bool)
  /-- `Util::isSetuid`. -/
  isSetuid : Str → Bool
  /-- `Util::getPath(name, is32bit)`: where the installation keeps a library. -/
  getPath : Str → Bool → Str

/-- The events `execwrappers.cpp` publishes through `PluginManager::eventHook`. -/
inductive DmtcpEvent
  | atforkPrepare
  | atforkParent
  | preExec
deriving DecidableEq, Repr

/-- `data.preExec`, the payload of `DMTCP_EVENT_PRE_EXEC`. `filename` is the memory the
pointer designates, read as a C string. -/
structure PreExec where
  filename : List Char
  maxArgs : Nat
  argv : PointerArray
  maxEnv : Nat
  envp : PointerArray
  serializationFd : Nat

/-- What `_real_fork` does. -/
inductive ForkResult
  /-- It returns `-1` and sets `errno`. -/
  | failed (errno : Int)
  /-- It creates a child with this pid. -/
  | created (childPid : Nat)
deriving DecidableEq, Repr

/-- What the collaborators of one wrapper call decide: the file system, the `Util` and
`SharedData` helpers whose sources are not read here, the subscribers of the events, and the
result of each operating-system call the wrapper makes. -/
structure World where
  fs : FileSystem
  /-- `Util::isScreen`. -/
  isScreen : Str → Bool
  /-- `Util::setScreenDir()`, on the environment. -/
  setScreenDir : Option (List Str) → Option (List Str)
  /-- `Util::patchArgvIfSetuid(path, argv, &newArgv)`: the argument vector it builds. -/
  patchArgvIfSetuid : Str → List Str → List Str
  /-- `SharedData::getRealPtyName`. -/
  getRealPtyName : Str → Str
  /-- Whether `WRAPPER_EXECUTION_GET_EXCL_LOCK()` acquires the lock. -/
  lockAcquired : Bool
  /-- What the `DMTCP_EVENT_PRE_EXEC` subscribers leave in `data.preExec`. -/
  preExec : PreExec → PreExec
  /-- What the subscribers of an event leave in `errno`. -/
  hookErrno : DmtcpEvent → Int → Int
  /-- `time(NULL)`. -/
  now : Nat
  /-- The socket `CoordinatorAPI::createNewConnectionBeforeFork` returns. -/
  newConnection : Int
  forkResult : ForkResult
  /-- `_real_execvpe`: `none` when the image is replaced, the `errno` it sets when it fails. -/
  execErrno : Option Int
  /-- The descriptor `_real_mkostemps` returns, `none` for `-1`. -/
  lifeboatTemp : Option Nat
  /-- Whether `unlink` of the lifeboat's temporary file succeeds. -/
  unlinkOk : Bool
  /-- The bytes a command run by `_real_popen` writes to its standard output. -/
  popenOutput : Str → List UInt8
  /-- The bytes stdout's `FILE` stream hands to `write` when the process puts `data` into it
  with `printf` and then calls `_exit`, which does not flush the stream. -/
  stdoutWrites : List UInt8 → List UInt8
  /-- Whether `realloc` to a given number of slots succeeds. -/
  reallocOk : Nat → Bool
  /-- What `ProcessInfo::resetOnFork` leaves of the children list in a fork child. -/
  resetChildren : List (Nat × UniquePid) → List (Nat × UniquePid)
  /-- `setsid`: `none` when it succeeds, the `errno` it sets when it fails. -/
  setsidErrno : Option Int
  /-- Whether `chdir("/")` succeeds. -/
  chdirOk : Bool
  /-- What `open("/dev/null", O_RDWR)` returns, `none` for `-1`. -/
  devNull : Option Nat

/-- A fully buffered stream, stdout on a pipe or a file, whose buffer of `size` bytes is empty:
as glibc's `_IO_new_file_xsputn` writes, it hands `write` the whole blocks of `data` when the
buffer has at least `128` bytes, and keeps the rest in the buffer. -/
def fullyBuffered (size : Nat) (data : List UInt8) : List UInt8 :=
  if 128 ≤ size then data.take (data.length - data.length % size) else data

/-! ### How a call ends -/

/-- How a call ends without returning to its caller. -/
inductive Ending
  | fault (fault : Fault)
  /-- `_exit` or `_real_exit`, with the bytes the process wrote to its standard output
  descriptor first. -/
  | exited (status : Nat) (output : List UInt8)
  /-- A successful exec: the new image's file, argument vector and environment. -/
  | replaced (filename : Str) (argv envp : List Str)
deriving DecidableEq, Repr

/-- What a process does at the end of a wrapper call, with its state then. -/
inductive Outcome
  | returns (value : Int) (proc : Proc)
  | ends (ending : Ending) (proc : Proc)

/-- The process state an outcome leaves. -/
def Outcome.proc : Outcome → Proc
  | .returns _ proc => proc
  | .ends _ proc => proc

/-- How an outcome ended the process, `none` when it returned to the caller. -/
def Outcome.endedBy : Outcome → Option Ending
  | .returns _ _ => none
  | .ends ending _ => some ending

/-- The outcome of a wrapper call in the calling process and, when the call forked, in the
child. -/
structure Result where
  caller : Outcome
  child : Option Outcome

/-- A call that ends the calling process, which has no child. -/
def Result.ending (ending : Ending) (proc : Proc) : Result :=
  ⟨.ends ending proc, none⟩

/-- A call that returns to the caller, which has no child. -/
def Result.returning (value : Int) (proc : Proc) : Result :=
  ⟨.returns value proc, none⟩

@[simp] theorem Result.ending_caller (ending : Ending) (proc : Proc) :
    (Result.ending ending proc).caller = .ends ending proc := rfl

@[simp] theorem Result.returning_caller (value : Int) (proc : Proc) :
    (Result.returning value proc).caller = .returns value proc := rfl

/-! ### A sample configuration -/

/-- Constants whose reserved names are the three preload variables, to run the model on. -/
def sampleConstants : Constants where
  importantEnvs := ["DMTCP_ORIG_LD_PRELOAD".toList, "DMTCP_HIJACK_LIBS".toList,
    "DMTCP_HIJACK_LIBS_M32".toList]
  origLdPreload := "DMTCP_ORIG_LD_PRELOAD".toList
  hijackLibs := "DMTCP_HIJACK_LIBS".toList
  hijackLibsM32 := "DMTCP_HIJACK_LIBS_M32".toList
  protectedFdStart := 820
  protectedFdEnd := 830
  protectedLifeboatFd := 826
  protectedCoordFd := 821
  virtPtsPrefix := "/dev/pts/v".toList
  aarch64 := false

theorem sampleConstants_reservedNames : ReservedNames sampleConstants :=
  ⟨by decide, by decide, by decide⟩

/-- A file system on which every library exists where it is named, no file is an ELF or
setuid. -/
def sampleFileSystem : FileSystem where
  fileExists := fun _ => true
  elfType := fun _ => none
  isSetuid := fun _ => false
  getPath := fun name _ => name

/-- A running process with only `ENV_VAR_HIJACK_LIBS` in its environment and no descriptor
open. -/
def sampleProc : Proc where
  pid := 100
  identity := ⟨1, 100, 0⟩
  workerState := .running
  environ := some ["DMTCP_HIJACK_LIBS=libdmtcp.so".toList]
  fds := fun _ => none
  errno := 0
  atforkEnabled := false
  childTime := 0
  childCoordinatorSocket := -1
  coordinatorSocket := 821
  children := []
  lockLog := []

/-- Collaborators that succeed at everything but the exec, which fails with `ENOENT`, whose
subscribers change nothing, and whose standard output is a pipe. -/
def sampleWorld : World where
  fs := sampleFileSystem
  isScreen := fun _ => false
  setScreenDir := id
  patchArgvIfSetuid := fun _ argv => argv
  getRealPtyName := id
  lockAcquired := true
  preExec := id
  hookErrno := fun _ errno => errno
  now := 0
  newConnection := 5
  forkResult := .created 101
  execErrno := some 2
  lifeboatTemp := some 4
  unlinkOk := true
  popenOutput := fun _ => []
  stdoutWrites := fullyBuffered 4096
  reallocOk := fun _ => true
  resetChildren := fun _ => []
  setsidErrno := none
  chdirOk := true
  devNull := some 3

end Dmtcp
