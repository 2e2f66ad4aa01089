/-
This file models `dmtcp_execvpe`, the function every exec wrapper of `execwrappers.cpp` ends in,
with the helpers it calls: `getLifeboatFd`, `dmtcpPrepareForExec`, `dmtcpProcessFailedExec`, and
the entry points `execve`, `execv`, `execvp`, `execvpe` and `fexecve`.

`dmtcp_execvpe` tries, in order: the bare `_real_execvpe` during a checkpoint or a restart; the
`JASSERT` that refuses DMTCP's own tools; the relaunch of `dmtcp_command` in a forked child;
and the interception. The interception takes the lock, copies `argv` and `envp` into arrays
with room for `MAX_EXTRA_ARGS` and `MAX_EXTRA_ENV` more entries, opens the lifeboat, publishes
`PRE_EXEC`, and then either execs a bypass-list program at once, or prepares the exec (the
short-lived and setuid cases of `dmtcpPrepareForExec`), patches the environment and execs; when
that exec fails it undoes what it can and releases the lock.

A wrapper call is written as a chain of stages, each of which goes on or ends the call; a fault
ends it in the state the process is in. The lemmas give each stage in closed form, so that later
statements about a whole call are assembled from them without unfolding the call again.
-/

import ExecWrappers.PatchEnv
import ExecWrappers.ShortLived
import ExecWrappers.Fork

namespace Dmtcp

/-! ### Stages of a call -/

/-- A wrapper call part-way: it goes on with a value, or it is over with a result. -/
abbrev Stage (α : Type) := Except Result α

/-- A step that can fault: a fault ends the call in the state the process is in. -/
def faultIn (proc : Proc) : Except Fault α → Stage α
  | .ok value => .ok value
  | .error fault => .error (Result.ending (.fault fault) proc)

/-- The result of a call, whether it went through every stage or ended at one. -/
def Stage.result : Stage Result → Result
  | .ok result => result
  | .error result => result

@[simp] theorem faultIn_ok (proc : Proc) (value : α) : faultIn proc (.ok value) = .ok value := rfl

@[simp] theorem faultIn_error (proc : Proc) (fault : Fault) :
    faultIn proc (.error fault : Except Fault α) =
      .error (Result.ending (.fault fault) proc) := rfl

/-! ### Strings and descriptors -/

/-- The NUL character that ends a C string. -/
def nul : Char := Char.ofNat 0

/-- `filenameCopy` after `char filenameCopy[PATH_MAX] = {0}` and
`strncpy(filenameCopy, filename, sizeof(filenameCopy))`: the first `PATH_MAX` characters of
`filename`, and NUL in the rest of the buffer. -/
def strncpyPathMax (filename : Str) : List Char :=
  (filename ++ List.replicate pathMax nul).take pathMax

/-- The C string at the start of a buffer: the characters before its first NUL. A buffer that
holds no NUL is read past its end. -/
def cString (buffer : List Char) : Except Fault Str :=
  if nul ∈ buffer then .ok (buffer.takeWhile (· != nul)) else .error .undefinedRead

/-- `getLifeboatFd()`: `_real_mkostemps` opens a temporary file without `O_CLOEXEC`, a
`JASSERT` checks that it did and that `unlink` removed the file, and `Util::changeFd` moves the
descriptor to `PROTECTED_LIFEBOAT_FD`. -/
def getLifeboatFd (constants : Constants) (world : World) (fds : Nat → Option Bool) :
    Except Fault (Nat → Option Bool) :=
  match world.lifeboatTemp with
  | none => .error .assertion
  | some fd =>
    if world.unlinkOk then
      .ok (changeFd (Function.update fds fd (some false)) fd constants.protectedLifeboatFd)
    else .error .assertion

/-- `_real_execvpe(filename, argv, envp)`: the image is replaced, or `-1` is returned with the
`errno` the call set. -/
def realExecvpe (world : World) (proc : Proc) (filename : Str) (argv envp : List Str) : Outcome :=
  match world.execErrno with
  | none => .ends (.replaced filename argv envp) proc
  | some errno => .returns (-1) { proc with errno }

/-! ### `dmtcpPrepareForExec` and `dmtcpProcessFailedExec` -/

/-- `libPrefix` of `dmtcpPrepareForExec`. -/
def libPrefix : Str := "/lib/lib".toList

/-- `lib64Prefix` of `dmtcpPrepareForExec`. -/
def lib64Prefix : Str := "/lib64/lib".toList

/-- The suffix of the `utempter` targets. -/
def utempterSuffix : Str := "/utempter".toList

/-- The arguments of `utempter` after `dmtcpPrepareForExec` replaced each one under
`VIRT_PTS_PREFIX_STR` by its real pty name. -/
def realPtsArgv (constants : Constants) (world : World) (argv : List Str) : List Str :=
  argv.map fun arg =>
    if strStartsWith arg constants.virtPtsPrefix then world.getRealPtyName arg else arg

/-- The loop of `dmtcpPrepareForExec` that removes `FD_CLOEXEC` from the open descriptors in
`[PROTECTED_FD_START, PROTECTED_FD_END)`. -/
def clearProtectedCloexec (constants : Constants) (fds : Nat → Option Bool) :
    Nat → Option Bool :=
  fun fd =>
    if constants.protectedFdStart ≤ fd ∧ fd < constants.protectedFdEnd then
      (fds fd).map fun _ => false
    else fds fd

/-- `dmtcpPrepareForExec(path, argv, &filename, &newArgv)`. The library and `utempter`
targets end the process in `execShortLivedProcessAndExit`; a setuid target gets the argument
vector `Util::patchArgvIfSetuid` builds and is run as its first entry, which is `NULL` when
that vector is empty; any other target is run as it is. -/
def dmtcpPrepareForExec (constants : Constants) (world : World) (proc : Proc) (path : Str)
    (argv : PointerArray) : Stage (Option Str × PointerArray × Proc) := do
  if strStartsWith path libPrefix || strStartsWith path lib64Prefix then
    let argv ← faultIn proc (readStrings argv)
    throw (execShortLivedProcessAndExit world proc path argv)
  else if strEndsWith path utempterSuffix then
    let argv ← faultIn proc (readStrings argv)
    throw (execShortLivedProcessAndExit world proc path (realPtsArgv constants world argv))
  else if world.fs.isSetuid path then
    let proc :=
      if world.isScreen path then { proc with environ := world.setScreenDir proc.environ }
      else proc
    let argv ← faultIn proc (readStrings argv)
    let newArgv := world.patchArgvIfSetuid path argv
    pure (newArgv.head?, newArgv.map .str ++ [.null],
      { proc with fds := clearProtectedCloexec constants proc.fds })
  else pure (some path, argv, { proc with fds := clearProtectedCloexec constants proc.fds })

/-- Modelled from the spec: `restoreUserLDPRELOAD()` (dmtcpworker.cpp, not under src/)
restores the environment's preload variable to the user's value from before the patch,
`userLdPreload`: `LD_PRELOAD` is set to it, or unset when the user had none. -/
def restoreUserLDPRELOAD (userLdPreload : Option Str) (environ : Option (List Str)) :
    Option (List Str) :=
  match userLdPreload with
  | some value => setenv environ ldPreload value
  | none => unsetenv environ ldPreload

/-- `dmtcpProcessFailedExec(path, newArgv)`, given the user's `LD_PRELOAD` from before the
patch: `restoreUserLDPRELOAD()` with `errno` saved around it, and
`JASSERT(_real_close(PROTECTED_LIFEBOAT_FD) == 0)`. -/
def dmtcpProcessFailedExec (constants : Constants) (userLdPreload : Option Str) (proc : Proc) :
    Stage Proc :=
  let proc := { proc with environ := restoreUserLDPRELOAD userLdPreload proc.environ }
  if (proc.fds constants.protectedLifeboatFd).isSome then
    pure { proc with fds := closeFd proc.fds constants.protectedLifeboatFd }
  else throw (Result.ending (.fault .assertion) proc)

/-- Restoring the value `LD_PRELOAD` has changes nothing. -/
theorem restoreUserLDPRELOAD_getenv (environ : Option (List Str)) :
    restoreUserLDPRELOAD (getenv environ ldPreload) environ = environ := by
  cases held : getenv environ ldPreload with
  | none => exact unsetenv_of_getenv held
  | some value => exact setenv_of_getenv held

/-- After the restore `LD_PRELOAD` reads the user's value, and every other variable reads as
before. -/
theorem getenv_restoreUserLDPRELOAD (userLdPreload : Option Str) (environ : Option (List Str))
    {name : Str} (valid : '=' ∉ name) :
    getenv (restoreUserLDPRELOAD userLdPreload environ) name =
      if name = ldPreload then userLdPreload else getenv environ name := by
  split_ifs with named
  · subst named
    cases userLdPreload <;> simp [restoreUserLDPRELOAD]
  · cases userLdPreload
    · exact getenv_unsetenv_other environ valid ldPreload_valid named
    · exact getenv_setenv_other environ _ valid ldPreload_valid named

/-! ### `dmtcp_execvpe` -/

/-- The programs `dmtcp_execvpe` refuses to run under checkpoint control. -/
def selfTools : List Str :=
  ["dmtcp_coordinator".toList, "dmtcp_launch".toList, "dmtcp_restart".toList,
    "mtcp_restart".toList]

/-- `"dmtcp_command"`, which `dmtcp_execvpe` relaunches outside the lock. -/
def dmtcpCommand : Str := "dmtcp_command".toList

/-- The programs `dmtcp_execvpe` execs as they are once the subscribers have seen them. -/
def bypassTools : List Str :=
  ["dmtcp_nocheckpoint".toList, dmtcpCommand, "ssh".toList, "rsh".toList]

/-- `dmtcp_command` after `_real_fork()` returned in one of the two processes: the `JASSERT`
that it forked, `_real_exit(0)` in the parent, and the exec in the child. -/
def relaunchAfterFork (world : World) (filename : Str) (argv envp : Option (List Str)) :
    Outcome → Outcome
  | .returns cpid proc =>
    if cpid = -1 then .ends (.fault .assertion) proc
    else if cpid ≠ 0 then .ends (.exited 0 []) proc
    else realExecvpe world proc filename (copyEnv argv) (copyEnv envp)
  | outcome => outcome

/-- `dmtcp_execvpe` for `dmtcp_command`: `_real_close(PROTECTED_COORD_FD)`, then
`_real_fork()`, whose child runs the program. -/
def relaunchCommand (constants : Constants) (world : World) (proc : Proc) (filename : Str)
    (argv envp : Option (List Str)) : Result :=
  let forked := realFork world (proc.realClose constants.protectedCoordFd)
  ⟨relaunchAfterFork world filename argv envp forked.caller,
    forked.child.map (relaunchAfterFork world filename argv envp)⟩

/-- `data.preExec` as `dmtcp_execvpe` fills it before `getLifeboatFd`: the copy of the file
name, and the copies of `argv` and `envp` in arrays with `MAX_EXTRA_ARGS` and `MAX_EXTRA_ENV`
more slots. -/
def preExecData (constants : Constants) (filename : Str) (argv envp : Option (List Str)) :
    Except Fault PreExec := do
  let argvCopy := copyEnv argv
  let maxArgs := argvCopy.length + maxExtraArgs
  let argvCopyCStr ← stringVectorToPointerArray argvCopy maxArgs
  let envpCopy := copyEnv envp
  let maxEnv := envpCopy.length + maxExtraEnv
  let envpCopyCStr ← stringVectorToPointerArray envpCopy maxEnv
  pure ⟨strncpyPathMax filename, maxArgs, argvCopyCStr, maxEnv, envpCopyCStr,
    constants.protectedLifeboatFd⟩

/-- The `data.preExec` that `preExecData` builds: the file name's copy, and each copy followed
by `NULL` and the slots no one wrote. -/
def copiedData (constants : Constants) (filename : Str) (argv envp : Option (List Str)) :
    PreExec :=
  ⟨strncpyPathMax filename, (copyEnv argv).length + maxExtraArgs,
    (copyEnv argv).map .str ++ .null :: List.replicate (maxExtraArgs - 1) .uninit,
    (copyEnv envp).length + maxExtraEnv,
    (copyEnv envp).map .str ++ .null :: List.replicate (maxExtraEnv - 1) .uninit,
    constants.protectedLifeboatFd⟩

/-- `dmtcp_execvpe` past the bypass list: `dmtcpPrepareForExec`, `patchUserEnv` of the
subscribers' `envp`, its array of `maxEnv` slots, the exec, and after a failed exec
`dmtcpProcessFailedExec`, which restores `LD_PRELOAD` as it was before the patch, and the
release of the lock. -/
def execIntercepted (constants : Constants) (world : World) (proc : Proc) (acquired : Bool)
    (maxEnv : Nat) (path : Str) (data : PreExec) : Stage Result := do
  let (newFilename, newArgv, proc) ← dmtcpPrepareForExec constants world proc path data.argv
  let userLdPreload := getenv proc.environ ldPreload
  let env ← faultIn proc (readStrings data.envp)
  let (newEnvStrings, environ) ←
    faultIn proc (patchUserEnv constants world.fs env path proc.environ)
  let proc := { proc with environ }
  let newEnv ← faultIn proc (stringVectorToPointerArray newEnvStrings maxEnv)
  let some newFilename := newFilename | throw (Result.ending (.fault .undefinedRead) proc)
  let argv ← faultIn proc (readStrings newArgv)
  let envp ← faultIn proc (readStrings newEnv)
  match realExecvpe world proc newFilename argv envp with
  | .returns retVal proc =>
    let proc ← dmtcpProcessFailedExec constants userLdPreload proc
    pure (Result.returning retVal (proc.releaseExcl acquired))
  | replaced => pure ⟨replaced, none⟩

/-- `dmtcp_execvpe` from the acquisition of the lock on: the copies, the lifeboat, the
`PRE_EXEC` event, and then the bypass list or the interception proper. -/
def interceptExec (constants : Constants) (world : World) (proc : Proc) (filename : Str)
    (argv envp : Option (List Str)) : Stage Result := do
  let acquired := world.lockAcquired
  let proc := proc.logLock (.lockExcl acquired)
  let data ← faultIn proc (preExecData constants filename argv envp)
  let fds ← faultIn proc (getLifeboatFd constants world proc.fds)
  let proc := { proc with fds, errno := world.hookErrno .preExec proc.errno }
  let maxEnv := data.maxEnv
  let data := world.preExec data
  let path ← faultIn proc (cString data.filename)
  if baseName path ∈ bypassTools then
    let argv ← faultIn proc (readStrings data.argv)
    let envp ← faultIn proc (readStrings data.envp)
    pure ⟨realExecvpe world proc path argv envp, none⟩
  else execIntercepted constants world proc acquired maxEnv path data

/-- `dmtcp_execvpe(filename, argv, envp)`. -/
def dmtcpExecvpe (constants : Constants) (world : World) (proc : Proc) (filename : Str)
    (argv envp : Option (List Str)) : Result :=
  if isPerformingCkptRestart proc.workerState then
    ⟨realExecvpe world proc filename (copyEnv argv) (copyEnv envp), none⟩
  else
    let programName := baseName filename
    if programName ∈ selfTools then Result.ending (.fault .assertion) proc
    else if programName = dmtcpCommand then
      relaunchCommand constants world proc filename argv envp
    else Stage.result (interceptExec constants world proc filename argv envp)

/-! ### The array entry points -/

/-- `execve(filename, argv, envp)`. -/
def execve (constants : Constants) (world : World) (proc : Proc) (filename : Str)
    (argv envp : Option (List Str)) : Result :=
  dmtcpExecvpe constants world proc filename argv envp

/-- `execv(path, argv)`, with the process's `environ`. -/
def execv (constants : Constants) (world : World) (proc : Proc) (path : Str)
    (argv : Option (List Str)) : Result :=
  dmtcpExecvpe constants world proc path argv proc.environ

/-- `execvp(filename, argv)`, with the process's `environ`. -/
def execvp (constants : Constants) (world : World) (proc : Proc) (filename : Str)
    (argv : Option (List Str)) : Result :=
  dmtcpExecvpe constants world proc filename argv proc.environ

/-- `execvpe(filename, argv, envp)`. -/
def execvpe (constants : Constants) (world : World) (proc : Proc) (filename : Str)
    (argv envp : Option (List Str)) : Result :=
  dmtcpExecvpe constants world proc filename argv envp

/-- `fexecve(fd, argv, envp)`, which is not implemented: `JASSERT(false)`. -/
def fexecve (proc : Proc) : Result :=
  Result.ending (.fault .assertion) proc

/-! ### The stages in closed form -/

theorem faultIn_bind_returns {proc : Proc} {step : Except Fault α} {next : α → Stage Result}
    {value : Int} {final : Proc}
    (returned : (Stage.result (faultIn proc step >>= next)).caller = .returns value final) :
    ∃ a, step = .ok a ∧ (Stage.result (next a)).caller = .returns value final := by
  cases step <;> simp_all [faultIn, Stage.result, bind, Except.bind]

/-- A stage that faults ends the call with a fault; any other way the call ends went past it. -/
theorem faultIn_bind_of_not_fault {α : Type} {proc : Proc} {step : Except Fault α}
    {next : α → Stage Result} {outcome : Outcome}
    (reached : (Stage.result (faultIn proc step >>= next)).caller = outcome)
    (notFault : ∀ fault, outcome ≠ .ends (.fault fault) proc) :
    ∃ value, step = .ok value ∧ (Stage.result (next value)).caller = outcome := by
  cases step with
  | error fault => exact absurd reached.symm (notFault fault)
  | ok value => exact ⟨value, rfl, reached⟩

theorem strncpyPathMax_of_lt {filename : Str} (short : filename.length < pathMax) :
    strncpyPathMax filename = filename ++ List.replicate (pathMax - filename.length) nul := by
  simp [strncpyPathMax, List.take_append_eq_append_take, List.take_of_length_le short.le,
    List.take_replicate]

theorem cString_append_nul {str : Str} (noNul : nul ∉ str) (rest : List Char) :
    cString (str ++ nul :: rest) = .ok str := by
  have kept : ∀ c ∈ str, (c != nul) = true := fun c member => by
    simpa using fun same : c = nul => noNul (same ▸ member)
  simp [cString, List.takeWhile_append_of_pos kept]

/-- A file name shorter than `PATH_MAX` and free of NUL is read back whole from its copy. -/
theorem cString_strncpyPathMax {filename : Str} (short : filename.length < pathMax)
    (noNul : nul ∉ filename) : cString (strncpyPathMax filename) = .ok filename := by
  obtain ⟨free, hfree⟩ : ∃ free, pathMax - filename.length = free + 1 :=
    ⟨pathMax - filename.length - 1, by omega⟩
  rw [strncpyPathMax_of_lt short, hfree, List.replicate_succ, cString_append_nul noNul]

/-- A file name of `PATH_MAX` characters or more is cut to its first `PATH_MAX`, with no NUL
after it. -/
theorem strncpyPathMax_of_le {filename : Str} (long : pathMax ≤ filename.length) :
    strncpyPathMax filename = filename.take pathMax := by
  simp [strncpyPathMax, List.take_append_of_le_length long]

/-- The copy of a NUL-free file name, read as a C string: the name itself when it is shorter
than `PATH_MAX`, and otherwise a read past the end of the buffer. -/
theorem cString_strncpyPathMax_eq {filename : Str} (noNul : nul ∉ filename) :
    cString (strncpyPathMax filename) =
      if filename.length < pathMax then .ok filename else .error .undefinedRead := by
  split_ifs with short
  · exact cString_strncpyPathMax short noNul
  · rw [strncpyPathMax_of_le (Nat.le_of_not_lt short), cString,
      if_neg fun member => noNul (List.mem_of_mem_take member)]

theorem stringVectorToPointerArray_extra (s : List Str) {extra : Nat} (room : 0 < extra) :
    stringVectorToPointerArray s (s.length + extra) =
      .ok (s.map .str ++ .null :: List.replicate (extra - 1) .uninit) := by
  rw [stringVectorToPointerArray_of_lt (by omega), Nat.add_sub_cancel_left]

/-- The copies of `argv` and `envp` always fit their arrays. -/
theorem preExecData_eq (constants : Constants) (filename : Str) (argv envp : Option (List Str)) :
    preExecData constants filename argv envp = .ok (copiedData constants filename argv envp) := by
  simp [preExecData, stringVectorToPointerArray_extra _ (show 0 < maxExtraArgs by decide),
    stringVectorToPointerArray_extra _ (show 0 < maxExtraEnv by decide), bind, Except.bind,
    copiedData, pure, Except.pure]

theorem changeFd_update_of_free {fds : Nat → Option Bool} {fd : Nat} (free : fds fd = none)
    (newfd : Nat) :
    changeFd (Function.update fds fd (some false)) fd newfd =
      Function.update fds newfd (some false) := by
  unfold changeFd
  split
  · subst fd; rfl
  · funext other
    by_cases same : other = fd
    · subst other; simp [Function.update_noteq (Ne.symm ‹_›), free, *]
    · by_cases atNew : other = newfd
      · subst other; simp [Function.update_apply, same]
      · simp [Function.update_apply, same, atNew]

theorem closeFd_natCast (fds : Nat → Option Bool) (fd : Nat) :
    closeFd fds fd = Function.update fds fd none := by
  simp [closeFd]

theorem dmtcpExecvpe_intercept (constants : Constants) (world : World) {proc : Proc}
    {filename : Str} (argv envp : Option (List Str))
    (running : isPerformingCkptRestart proc.workerState = false)
    (notSelf : baseName filename ∉ selfTools) (notCommand : baseName filename ≠ dmtcpCommand) :
    dmtcpExecvpe constants world proc filename argv envp =
      Stage.result (interceptExec constants world proc filename argv envp) := by
  simp [dmtcpExecvpe, running, notSelf, notCommand]

/-- `interceptExec` once the lifeboat is open and the file name the subscribers left is read. -/
theorem interceptExec_eq (constants : Constants) {world : World} (proc : Proc) (filename : Str)
    (argv envp : Option (List Str)) (fd : Nat) {path : Str}
    (temp : world.lifeboatTemp = some fd) (unlinked : world.unlinkOk = true)
    (named : cString (world.preExec (copiedData constants filename argv envp)).filename =
      .ok path) :
    interceptExec constants world proc filename argv envp =
      let proc := { proc.logLock (.lockExcl world.lockAcquired) with
        fds := changeFd (Function.update proc.fds fd (some false)) fd constants.protectedLifeboatFd
        errno := world.hookErrno .preExec proc.errno }
      let data := world.preExec (copiedData constants filename argv envp)
      if baseName path ∈ bypassTools then
        (faultIn proc (readStrings data.argv)).bind fun argv =>
          (faultIn proc (readStrings data.envp)).bind fun envp =>
            .ok ⟨realExecvpe world proc path argv envp, none⟩
      else execIntercepted constants world proc world.lockAcquired
        ((copyEnv envp).length + maxExtraEnv) path data := by
  simp only [interceptExec, preExecData_eq, getLifeboatFd, temp, unlinked, named, bind,
    Except.bind, faultIn_ok, if_true, pure, Except.pure]
  rfl

/-- Without a lifeboat the call ends at its `JASSERT`. -/
theorem interceptExec_of_getLifeboatFd {constants : Constants} {world : World} {proc : Proc}
    {filename : Str} {argv envp : Option (List Str)} {fault : Fault}
    (noLifeboat : getLifeboatFd constants world proc.fds = .error fault) :
    interceptExec constants world proc filename argv envp =
      .error (Result.ending (.fault fault) (proc.logLock (.lockExcl world.lockAcquired))) := by
  simp [interceptExec, preExecData_eq, noLifeboat, bind, Except.bind]

/-- A call that returns from the interception had its lifeboat opened. -/
theorem lifeboat_of_interceptExec_returns {constants : Constants} {world : World} {proc : Proc}
    {filename : Str} {argv envp : Option (List Str)} {value : Int} {final : Proc}
    (returned : (Stage.result (interceptExec constants world proc filename argv envp)).caller =
      .returns value final) :
    ∃ fd, world.lifeboatTemp = some fd ∧ world.unlinkOk = true := by
  cases lifeboat : getLifeboatFd constants world proc.fds with
  | error fault =>
    rw [interceptExec_of_getLifeboatFd lifeboat] at returned
    simp [Stage.result] at returned
  | ok fds =>
    cases temp : world.lifeboatTemp <;> cases unlinked : world.unlinkOk <;>
      simp [getLifeboatFd, temp, unlinked] at lifeboat ⊢

/-- A file name the subscribers leave unterminated ends the call where `BaseName` reads it. -/
theorem interceptExec_of_cString_error (constants : Constants) {world : World} (proc : Proc)
    (filename : Str) (argv envp : Option (List Str)) {fd : Nat}
    (temp : world.lifeboatTemp = some fd) (unlinked : world.unlinkOk = true) {fault : Fault}
    (unread : cString (world.preExec (copiedData constants filename argv envp)).filename =
      .error fault) :
    (Stage.result (interceptExec constants world proc filename argv envp)).caller.endedBy =
      some (.fault fault) := by
  simp [interceptExec, preExecData_eq, getLifeboatFd, temp, unlinked, unread, bind, Except.bind,
    Stage.result, Outcome.endedBy]

theorem dmtcpPrepareForExec_regular (constants : Constants) (world : World) (proc : Proc)
    {path : Str} (argv : PointerArray) (notLib : strStartsWith path libPrefix = false)
    (notLib64 : strStartsWith path lib64Prefix = false)
    (notUtempter : strEndsWith path utempterSuffix = false)
    (notSetuid : world.fs.isSetuid path = false) :
    dmtcpPrepareForExec constants world proc path argv =
      .ok (some path, argv, { proc with fds := clearProtectedCloexec constants proc.fds }) := by
  simp [dmtcpPrepareForExec, notLib, notLib64, notUtempter, notSetuid, pure, Except.pure]

/-- A library target is run under `_real_popen`, which ends the process. -/
theorem dmtcpPrepareForExec_lib (constants : Constants) (world : World) (proc : Proc)
    {path : Str} {argv : PointerArray} (lib : strStartsWith path libPrefix = true)
    {args : List Str} (reads : readStrings argv = .ok args) :
    dmtcpPrepareForExec constants world proc path argv =
      .error (execShortLivedProcessAndExit world proc path args) := by
  simp [dmtcpPrepareForExec, lib, reads, bind, Except.bind, throw, throwThe, MonadExceptOf.throw]

/-- How `dmtcpPrepareForExec` ends a call: a fault, in a process whose lock calls are the
caller's, or on a library or `utempter` target the short-lived path. -/
theorem dmtcpPrepareForExec_error_cases {constants : Constants} {world : World} {proc : Proc}
    {path : Str} {argv : PointerArray} {result : Result}
    (ended : dmtcpPrepareForExec constants world proc path argv = .error result) :
    (∃ fault proc', proc'.lockLog = proc.lockLog ∧ result = Result.ending (.fault fault) proc') ∨
      ((strStartsWith path libPrefix || strStartsWith path lib64Prefix ||
          strEndsWith path utempterSuffix) = true ∧
        ∃ args, result = execShortLivedProcessAndExit world proc path args) := by
  unfold dmtcpPrepareForExec at ended
  by_cases lib : (strStartsWith path libPrefix || strStartsWith path lib64Prefix) = true
  · rw [if_pos lib] at ended
    cases reads : readStrings argv <;>
      simp only [reads, faultIn, bind, Except.bind, throw, throwThe, MonadExceptOf.throw,
        Except.error.injEq] at ended <;> subst ended
    exacts [.inl ⟨_, proc, rfl, rfl⟩, .inr ⟨by simp [lib], _, rfl⟩]
  rw [if_neg lib] at ended
  by_cases utempter : strEndsWith path utempterSuffix = true
  · rw [if_pos utempter] at ended
    cases reads : readStrings argv <;>
      simp only [reads, faultIn, bind, Except.bind, throw, throwThe, MonadExceptOf.throw,
        Except.error.injEq] at ended <;> subst ended
    exacts [.inl ⟨_, proc, rfl, rfl⟩, .inr ⟨by simp [utempter], _, rfl⟩]
  rw [if_neg utempter] at ended
  split at ended <;> cases reads : readStrings argv <;>
    simp only [reads, faultIn, bind, Except.bind, throw, throwThe, MonadExceptOf.throw, pure,
      Except.pure, reduceCtorEq, Except.error.injEq] at ended
  subst ended
  exact .inl ⟨_, _, by split <;> rfl, rfl⟩

/-- Every way `dmtcpPrepareForExec` ends the call ends the process. -/
theorem dmtcpPrepareForExec_error {constants : Constants} {world : World} {proc : Proc}
    {path : Str} {argv : PointerArray} {result : Result}
    (ended : dmtcpPrepareForExec constants world proc path argv = .error result) :
    ∃ ending proc', result = Result.ending ending proc' := by
  rcases dmtcpPrepareForExec_error_cases ended with ⟨fault, proc', -, rfl⟩ | ⟨-, args, rfl⟩
  · exact ⟨_, _, rfl⟩
  · exact ⟨_, _, execShortLivedProcessAndExit_eq world proc path args⟩

/-- What `dmtcpPrepareForExec` leaves when it goes on: `FD_CLOEXEC` cleared in the protected
range, and the `screen` directory set for a setuid `screen`. -/
theorem dmtcpPrepareForExec_ok {constants : Constants} {world : World} {proc : Proc}
    {path : Str} {argv : PointerArray} {newFilename : Option Str} {newArgv : PointerArray}
    {prepared : Proc}
    (ok : dmtcpPrepareForExec constants world proc path argv =
      .ok (newFilename, newArgv, prepared)) :
    prepared = { proc with
      environ := if world.fs.isSetuid path && world.isScreen path then
        world.setScreenDir proc.environ else proc.environ
      fds := clearProtectedCloexec constants proc.fds } := by
  unfold dmtcpPrepareForExec at ok
  split_ifs at ok <;> cases reads : readStrings argv <;>
    simp_all [bind, Except.bind, throw, throwThe, MonadExceptOf.throw, pure, Except.pure]

/-- A call that returns from the interception proper went through every stage: the exec failed,
`dmtcpProcessFailedExec` restored `LD_PRELOAD` and closed the lifeboat, and the lock was
released. -/
theorem execIntercepted_returns {constants : Constants} {world : World} {proc : Proc}
    {acquired : Bool} {maxEnv : Nat} {path : Str} {data : PreExec} {value : Int} {final : Proc}
    (returned : (Stage.result
      (execIntercepted constants world proc acquired maxEnv path data)).caller =
        .returns value final) :
    ∃ newFilename newArgv prepared env newEnvStrings environ errno,
      dmtcpPrepareForExec constants world proc path data.argv =
        .ok (some newFilename, newArgv, prepared) ∧
      readStrings data.envp = .ok env ∧
      patchUserEnv constants world.fs env path prepared.environ = .ok (newEnvStrings, environ) ∧
      newEnvStrings.length < maxEnv ∧
      world.execErrno = some errno ∧
      value = -1 ∧
      final = ({ prepared with
        environ := restoreUserLDPRELOAD (getenv prepared.environ ldPreload) environ
        errno
        fds := closeFd prepared.fds constants.protectedLifeboatFd } : Proc).releaseExcl
          acquired := by
  unfold execIntercepted at returned
  rcases prepared : dmtcpPrepareForExec constants world proc path data.argv with
    result | ⟨newFilename, newArgv, prepared⟩
  · obtain ⟨ending, proc', rfl⟩ := dmtcpPrepareForExec_error prepared
    simp [prepared, bind, Except.bind, Stage.result] at returned
  rw [prepared] at returned
  obtain ⟨env, reads, returned⟩ := faultIn_bind_returns returned
  obtain ⟨⟨newEnvStrings, environ⟩, patched, returned⟩ := faultIn_bind_returns returned
  obtain ⟨newEnv, laidOut, returned⟩ := faultIn_bind_returns returned
  cases newFilename with
  | none => simp [Stage.result, throw, throwThe, MonadExceptOf.throw] at returned
  | some newFilename =>
  obtain ⟨args, -, returned⟩ := faultIn_bind_returns returned
  obtain ⟨envs, -, returned⟩ := faultIn_bind_returns returned
  cases execResult : world.execErrno with
  | none => simp [realExecvpe, execResult, Stage.result, pure, Except.pure] at returned
  | some errno =>
    simp only [realExecvpe, execResult, dmtcpProcessFailedExec] at returned
    split_ifs at returned
    · simp [Stage.result, pure, Except.pure, bind, Except.bind] at returned
      exact ⟨newFilename, newArgv, _, env, newEnvStrings, environ, errno, rfl, reads, patched,
        (stringVectorToPointerArray_ok_iff _ _).1 ⟨_, laidOut⟩, rfl, returned.1.symm,
        returned.2.symm⟩
    · simp [Stage.result, throw, throwThe, MonadExceptOf.throw, bind, Except.bind] at returned

/-- A call that replaces the image from the interception proper execs in the process
`dmtcpPrepareForExec` left, with the environment `patchUserEnv` left. -/
theorem execIntercepted_replaced {constants : Constants} {world : World} {proc : Proc}
    {acquired : Bool} {maxEnv : Nat} {path : Str} {data : PreExec} {image : Str}
    {args env : List Str} {final : Proc}
    (replaced : (Stage.result
      (execIntercepted constants world proc acquired maxEnv path data)).caller =
        .ends (.replaced image args env) final) :
    ∃ newArgv prepared environ,
      dmtcpPrepareForExec constants world proc path data.argv =
        .ok (some image, newArgv, prepared) ∧ final = { prepared with environ } := by
  have notFault (proc' : Proc) (fault : Fault) :
      Outcome.ends (.replaced image args env) final ≠ .ends (.fault fault) proc' := by
    simp
  unfold execIntercepted at replaced
  rcases ready : dmtcpPrepareForExec constants world proc path data.argv with
    result | ⟨newFilename, newArgv, prepared⟩
  · rcases dmtcpPrepareForExec_error_cases ready with ⟨fault, proc', -, rfl⟩ | ⟨-, args, rfl⟩
    · simp [ready, bind, Except.bind, Stage.result, Result.ending] at replaced
    · simp [ready, bind, Except.bind, Stage.result, execShortLivedProcessAndExit_eq,
        Result.ending] at replaced
  rw [ready] at replaced
  obtain ⟨_, -, replaced⟩ := faultIn_bind_of_not_fault replaced (notFault _)
  obtain ⟨⟨_, environ⟩, -, replaced⟩ := faultIn_bind_of_not_fault replaced (notFault _)
  obtain ⟨_, -, replaced⟩ := faultIn_bind_of_not_fault replaced (notFault _)
  cases newFilename with
  | none => simp [Stage.result, throw, throwThe, MonadExceptOf.throw, Result.ending] at replaced
  | some newFilename =>
  obtain ⟨_, -, replaced⟩ := faultIn_bind_of_not_fault replaced (notFault _)
  obtain ⟨_, -, replaced⟩ := faultIn_bind_of_not_fault replaced (notFault _)
  cases execResult : world.execErrno with
  | none =>
    simp only [realExecvpe, execResult, Stage.result, pure, Except.pure, Outcome.ends.injEq,
      Ending.replaced.injEq] at replaced
    obtain ⟨⟨rfl, -, -⟩, rfl⟩ := replaced
    exact ⟨newArgv, prepared, environ, rfl, rfl⟩
  | some errno =>
    simp only [realExecvpe, execResult, dmtcpProcessFailedExec] at replaced
    split_ifs at replaced <;>
      simp [Stage.result, pure, Except.pure, bind, Except.bind, throw, throwThe,
        MonadExceptOf.throw, Result.returning, Result.ending] at replaced

end Dmtcp
