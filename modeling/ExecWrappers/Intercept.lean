/-
This file proves what the interception of `dmtcp_execvpe` does to the memory it writes and to
the calling process when the exec fails.

The copies of `argv` and `envp` always fit their arrays, but the patched environment is laid out
in an array of the same `maxEnv` slots as the user's copy, while `patchUserEnv` adds the reserved
entries and `LD_PRELOAD` to the entries it keeps. A subscriber that uses the room it was
announced, or a process that sets enough reserved variables, makes the patched environment
exactly `maxEnv` long, and `stringVectorToPointerArray` then stores its `NULL` past the end of
the array.

When the exec fails, the call returns with the lifeboat closed, `LD_PRELOAD` restored, and
every variable but `ENV_VAR_ORIG_LD_PRELOAD` as it found them. That one is not restored:
`getUpdatedLdPreload` set it to the segment it appended, the user's or the process's preload.
The protected descriptors keep the cleared `FD_CLOEXEC`, and a bypass-list program whose exec
fails returns without `dmtcpProcessFailedExec`, with the lifeboat open.

The file name is copied with `strncpy` into `PATH_MAX` characters. A name of `PATH_MAX`
characters or more is cut with no NUL after it: the subscribers get the cut buffer, and the
wrapper reads past it where `execve` would fail with `ENAMETOOLONG`.

When the exec succeeds, the new image inherits the lifeboat and every protected descriptor the
caller had open, all without `FD_CLOEXEC`, and every other descriptor as the caller had it.
-/

import ExecWrappers.Exec

namespace Dmtcp

/-! ### The interception proper, forwards -/

section Forwards

variable {constants : Constants} {world : World} {proc : Proc} {acquired : Bool} {maxEnv : Nat}
  {path : Str} {data : PreExec} {newFilename : Str} {newArgv : PointerArray} {prepared : Proc}
  {env newEnvStrings : List Str} {environ : Option (List Str)}

/-- The interception proper when every stage before the exec goes on and the exec fails. -/
theorem execIntercepted_of_failed
    (ready : dmtcpPrepareForExec constants world proc path data.argv =
      .ok (some newFilename, newArgv, prepared))
    (reads : readStrings data.envp = .ok env)
    (patched : patchUserEnv constants world.fs env path prepared.environ =
      .ok (newEnvStrings, environ))
    (fits : newEnvStrings.length < maxEnv) {args : List Str}
    (argsRead : readStrings newArgv = .ok args) {errno : Int}
    (failed : world.execErrno = some errno)
    (lifeboatOpen : (prepared.fds constants.protectedLifeboatFd).isSome) :
    execIntercepted constants world proc acquired maxEnv path data =
      .ok (Result.returning (-1) (({ prepared with
        environ := restoreUserLDPRELOAD (getenv prepared.environ ldPreload) environ
        errno
        fds := closeFd prepared.fds constants.protectedLifeboatFd } : Proc).releaseExcl
          acquired)) := by
  simp [execIntercepted, ready, reads, patched, stringVectorToPointerArray_of_lt fits, argsRead,
    readStrings_append_null, realExecvpe, failed, dmtcpProcessFailedExec, lifeboatOpen, bind,
    Except.bind, pure, Except.pure]

/-- The interception proper when every stage goes on and the exec replaces the image. -/
theorem execIntercepted_of_replaced
    (ready : dmtcpPrepareForExec constants world proc path data.argv =
      .ok (some newFilename, newArgv, prepared))
    (reads : readStrings data.envp = .ok env)
    (patched : patchUserEnv constants world.fs env path prepared.environ =
      .ok (newEnvStrings, environ))
    (fits : newEnvStrings.length < maxEnv) {args : List Str}
    (argsRead : readStrings newArgv = .ok args) (replaced : world.execErrno = none) :
    execIntercepted constants world proc acquired maxEnv path data =
      .ok ⟨.ends (.replaced newFilename args newEnvStrings) { prepared with environ }, none⟩ := by
  simp [execIntercepted, ready, reads, patched, stringVectorToPointerArray_of_lt fits, argsRead,
    readStrings_append_null, realExecvpe, replaced, bind, Except.bind, pure, Except.pure]

/-- A patched environment of exactly `maxEnv` entries is stored past the end of its array. -/
theorem execIntercepted_of_full
    (ready : dmtcpPrepareForExec constants world proc path data.argv =
      .ok (some newFilename, newArgv, prepared))
    (reads : readStrings data.envp = .ok env)
    (patched : patchUserEnv constants world.fs env path prepared.environ =
      .ok (newEnvStrings, environ))
    (full : newEnvStrings.length = maxEnv) :
    execIntercepted constants world proc acquired maxEnv path data =
      .error (Result.ending (.fault .outOfBounds) { prepared with environ }) := by
  subst full
  simp [execIntercepted, ready, reads, patched, stringVectorToPointerArray_length, bind,
    Except.bind]

/-- A call that `dmtcpPrepareForExec` ends is over. -/
theorem execIntercepted_of_prepare_error {result : Result}
    (ended : dmtcpPrepareForExec constants world proc path data.argv = .error result) :
    execIntercepted constants world proc acquired maxEnv path data = .error result := by
  simp [execIntercepted, ended, bind, Except.bind]

end Forwards

/-! ### A successful exec -/

/-- On the interception path, an exec that succeeds replaces the image by the user's file name
and arguments with the environment `patchUserEnv` builds from the user's block, for every
argument vector and environment block, when the subscribers leave the copies as they are, the
file name is shorter than `PATH_MAX`, the target is none of the special cases of
`dmtcpPrepareForExec`, and the reserved names leave room in the environment's array. -/
theorem dmtcpExecvpe_replaces_image (constants : Constants) (names : ReservedNames constants)
    (room : constants.importantEnvs.length + 1 < maxExtraEnv) (world : World) (proc : Proc)
    (filename : Str) (argv envp : Option (List Str))
    (running : isPerformingCkptRestart proc.workerState = false)
    (notSelf : baseName filename ∉ selfTools) (notCommand : baseName filename ≠ dmtcpCommand)
    (notBypass : baseName filename ∉ bypassTools)
    (notLib : strStartsWith filename libPrefix = false)
    (notLib64 : strStartsWith filename lib64Prefix = false)
    (notUtempter : strEndsWith filename utempterSuffix = false)
    (notSetuid : world.fs.isSetuid filename = false)
    {fd : Nat} (temp : world.lifeboatTemp = some fd) (unlinked : world.unlinkOk = true)
    (untouched : world.preExec = id) (short : filename.length < pathMax)
    (noNul : nul ∉ filename) {preload : Str}
    (hijack : getenv proc.environ constants.hijackLibs = some preload)
    (replaced : world.execErrno = none) :
    ∃ newEnv environ' final,
      patchUserEnv constants world.fs (copyEnv envp) filename proc.environ =
          .ok (newEnv, environ') ∧
        (dmtcpExecvpe constants world proc filename argv envp).caller =
          .ends (.replaced filename (copyEnv argv) newEnv) final := by
  obtain ⟨⟨newEnv, environ'⟩, patched⟩ : ∃ value,
      patchUserEnv constants world.fs (copyEnv envp) filename proc.environ = .ok value :=
    ⟨_, by rw [patchUserEnv_eq constants names.ldPreload_not_mem,
      getUpdatedLdPreload_eq constants _ hijack]; rfl⟩
  have fits : newEnv.length < (copyEnv envp).length + maxExtraEnv := by
    have := patchUserEnv_length_le names.ldPreload_not_mem patched
    omega
  have named : cString (world.preExec (copiedData constants filename argv envp)).filename =
      .ok filename := by
    rw [untouched]
    exact cString_strncpyPathMax short noNul
  refine ⟨newEnv, environ', ?_⟩
  apply Exists.intro
  refine ⟨patched, ?_⟩
  rw [dmtcpExecvpe_intercept constants world argv envp running notSelf notCommand,
    interceptExec_eq constants proc filename argv envp fd temp unlinked named]
  dsimp only
  rw [if_neg notBypass, untouched, id,
    execIntercepted_of_replaced
      (dmtcpPrepareForExec_regular constants world _ _ notLib notLib64 notUtempter notSetuid)
      (readStrings_append_null _ _) ?patched fits (readStrings_append_null _ _) replaced]
  case patched => exact patched
  rfl

/-- The sample collaborators when `_real_execvpe` replaces the image. -/
def replacingWorld : World := { sampleWorld with execErrno := none }

theorem dmtcpExecvpe_replaces_image_sample :
    ReservedNames sampleConstants ∧ sampleConstants.importantEnvs.length + 1 < maxExtraEnv ∧
      isPerformingCkptRestart sampleProc.workerState = false ∧
      baseName "/bin/true".toList ∉ selfTools ∧ baseName "/bin/true".toList ≠ dmtcpCommand ∧
      baseName "/bin/true".toList ∉ bypassTools ∧
      strStartsWith "/bin/true".toList libPrefix = false ∧
      strStartsWith "/bin/true".toList lib64Prefix = false ∧
      strEndsWith "/bin/true".toList utempterSuffix = false ∧
      replacingWorld.fs.isSetuid "/bin/true".toList = false ∧
      replacingWorld.lifeboatTemp = some 4 ∧ replacingWorld.unlinkOk = true ∧
      replacingWorld.preExec = id ∧ "/bin/true".toList.length < pathMax ∧
      nul ∉ "/bin/true".toList ∧
      getenv sampleProc.environ sampleConstants.hijackLibs = some "libdmtcp.so".toList ∧
      replacingWorld.execErrno = none ∧
      ∃ newEnv environ' final,
        patchUserEnv sampleConstants replacingWorld.fs (copyEnv (some ["HOME=/".toList]))
            "/bin/true".toList sampleProc.environ = .ok (newEnv, environ') ∧
          (dmtcpExecvpe sampleConstants replacingWorld sampleProc "/bin/true".toList
              (some ["true".toList]) (some ["HOME=/".toList])).caller =
            .ends (.replaced "/bin/true".toList (copyEnv (some ["true".toList])) newEnv) final := by
  have hijack : getenv sampleProc.environ sampleConstants.hijackLibs =
      some "libdmtcp.so".toList := by decide
  exact ⟨sampleConstants_reservedNames, by decide, rfl, by decide, by decide, by decide,
    by decide, by decide, by decide, rfl, rfl, rfl, rfl, by decide, by decide, hijack, rfl,
    dmtcpExecvpe_replaces_image sampleConstants sampleConstants_reservedNames (by decide)
      replacingWorld sampleProc "/bin/true".toList (some ["true".toList]) (some ["HOME=/".toList])
      rfl (by decide) (by decide) (by decide) (by decide) (by decide) (by decide) rfl rfl rfl
      rfl (by decide) (by decide) hijack rfl⟩

/-! ### The patched environment against its array -/

/-- A `PRE_EXEC` subscriber that uses the room it is announced: it leaves thirty entries in
`envp`, one fewer than the `maxEnv - 1 = 31` an empty environment has room for, and `NULL`. -/
def fillEnvp (data : PreExec) : PreExec :=
  { data with
    envp := (List.replicate 30 "X=1".toList).map .str ++
      .null :: List.replicate (data.maxEnv - 31) .uninit }

/-- The sample collaborators with `fillEnvp` subscribed to `PRE_EXEC`. -/
def fillingWorld : World := { sampleWorld with preExec := fillEnvp }

theorem execve_sample_intercepted (world : World) (proc : Proc)
    (running : isPerformingCkptRestart proc.workerState = false) {filename : Str}
    (notSelf : baseName filename ∉ selfTools) (notCommand : baseName filename ≠ dmtcpCommand)
    (argv envp : Option (List Str)) :
    execve sampleConstants world proc filename argv envp =
      Stage.result (interceptExec sampleConstants world proc filename argv envp) :=
  dmtcpExecvpe_intercept _ _ _ _ running notSelf notCommand

theorem cString_strncpyPathMax_binTrue :
    cString (strncpyPathMax "/bin/true".toList) = .ok "/bin/true".toList :=
  cString_strncpyPathMax (by decide) (by decide)

theorem dmtcpPrepareForExec_binTrue (world : World) (proc : Proc) (argv : PointerArray)
    (plain : world.fs = sampleFileSystem) :
    dmtcpPrepareForExec sampleConstants world proc "/bin/true".toList argv =
      .ok (some "/bin/true".toList, argv,
        { proc with fds := clearProtectedCloexec sampleConstants proc.fds }) :=
  dmtcpPrepareForExec_regular _ _ _ _ (by decide) (by decide) (by decide) (by simp [plain]; rfl)

/-- With a subscriber that stays within the announced capacity, `execve` of an empty
environment from a process that sets `ENV_VAR_HIJACK_LIBS` makes a patched environment of
`maxEnv` entries, and its `NULL` is stored one slot past the array. -/
theorem execve_fillEnvp_stores_past_newEnv :
    readStrings (fillEnvp (copiedData sampleConstants "/bin/true".toList
        (some ["true".toList]) (some []))).envp = .ok (List.replicate 30 "X=1".toList) ∧
      (execve sampleConstants fillingWorld sampleProc "/bin/true".toList (some ["true".toList])
        (some [])).caller.endedBy = some (.fault .outOfBounds) := by
  refine ⟨rfl, ?_⟩
  rw [execve_sample_intercepted _ sampleProc rfl (by decide) (by decide),
    interceptExec_eq _ _ _ _ _ 4 rfl rfl cString_strncpyPathMax_binTrue, if_neg (by decide),
    execIntercepted_of_full (dmtcpPrepareForExec_binTrue _ _ _ rfl) ?reads ?patched ?full]
  · rfl
  case reads => rfl
  case patched => rfl
  case full => rfl

/-! ### What a failed exec leaves -/

theorem closeFd_clearProtectedCloexec_update (constants : Constants) (fds : Nat → Option Bool) :
    closeFd (clearProtectedCloexec constants
        (Function.update fds constants.protectedLifeboatFd (some false)))
      constants.protectedLifeboatFd =
      Function.update (clearProtectedCloexec constants fds) constants.protectedLifeboatFd none := by
  rw [closeFd_natCast]
  funext fd
  by_cases same : fd = constants.protectedLifeboatFd <;>
    simp [clearProtectedCloexec, Function.update_apply, same]

/-- `getUpdatedLdPreload` writes only `ENV_VAR_ORIG_LD_PRELOAD`, with the segment it appends. -/
theorem getenv_origLdPreloadSet (constants : Constants) (origValid : '=' ∉ constants.origLdPreload)
    (currLdPreload : Str) (environ : Option (List Str)) {name : Str} (valid : '=' ∉ name) :
    getenv (origLdPreloadSet constants currLdPreload environ) name =
      if name = constants.origLdPreload then
        (userSegment currLdPreload environ).or (getenv environ name)
      else getenv environ name := by
  unfold origLdPreloadSet
  split_ifs with orig <;> cases userSegment currLdPreload environ
  · rfl
  · rw [orig, getenv_setenv_self]
    rfl
  · rfl
  · exact getenv_setenv_other _ _ valid origValid orig

/-- Restoring `LD_PRELOAD` after `getUpdatedLdPreload` leaves what that wrote. -/
theorem restoreUserLDPRELOAD_origLdPreloadSet {constants : Constants}
    (origValid : '=' ∉ constants.origLdPreload)
    (origDistinct : constants.origLdPreload ≠ ldPreload) (currLdPreload : Str)
    (environ : Option (List Str)) :
    restoreUserLDPRELOAD (getenv environ ldPreload)
        (origLdPreloadSet constants currLdPreload environ) =
      origLdPreloadSet constants currLdPreload environ := by
  have same : getenv (origLdPreloadSet constants currLdPreload environ) ldPreload =
      getenv environ ldPreload := by
    rw [getenv_origLdPreloadSet constants origValid _ _ ldPreload_valid, if_neg origDistinct.symm]
  rw [← same]
  exact restoreUserLDPRELOAD_getenv _

/-- The `execve` of `/bin/true` with `LD_PRELOAD=a.so` in its environment block, from a running
process with the sample environment whose descriptor `4` is free, when the exec fails: it
returns with `ENV_VAR_ORIG_LD_PRELOAD` set to `a.so` and `LD_PRELOAD` unset again, `FD_CLOEXEC`
cleared in the protected range and the lifeboat closed. -/
theorem execve_binTrue_failed (proc : Proc)
    (running : isPerformingCkptRestart proc.workerState = false)
    (sampleEnviron : proc.environ = sampleProc.environ) (free : proc.fds 4 = none) :
    ∃ final, (execve sampleConstants sampleWorld proc "/bin/true".toList
        (some ["true".toList]) (some ["LD_PRELOAD=a.so".toList])).caller = .returns (-1) final ∧
      final.environ = some ["DMTCP_HIJACK_LIBS=libdmtcp.so".toList,
        "DMTCP_ORIG_LD_PRELOAD=a.so".toList] ∧
      final.fds = Function.update (clearProtectedCloexec sampleConstants proc.fds)
        sampleConstants.protectedLifeboatFd none := by
  rw [execve_sample_intercepted _ _ running (by decide) (by decide), interceptExec_eq _ _ _ _ _ 4
    rfl rfl cString_strncpyPathMax_binTrue, if_neg (by decide), changeFd_update_of_free free,
    execIntercepted_of_failed (dmtcpPrepareForExec_binTrue _ _ _ rfl) ?reads ?patched ?fits
      ?argsRead rfl ?lifeboatOpen]
  case reads => rfl
  case patched =>
    show patchUserEnv _ _ _ _ proc.environ = _
    rw [sampleEnviron]
    rfl
  case fits => decide
  case argsRead => rfl
  case lifeboatOpen => simp [clearProtectedCloexec, sampleConstants]
  refine ⟨_, rfl, ?_, ?_⟩
  · show restoreUserLDPRELOAD (getenv proc.environ ldPreload) _ = _
    rw [sampleEnviron]
    rfl
  · simpa [Proc.releaseExcl_eq] using closeFd_clearProtectedCloexec_update sampleConstants proc.fds

/-- The sample process with the protected descriptor `820` open with `FD_CLOEXEC`. -/
def cloexecProc : Proc := { sampleProc with fds := fun fd => if fd = 820 then some true else none }

/-- Failed execs return to the caller with its state changed. An `execve` of `ssh`, a
bypass-list program, returns with the lifeboat open at `PROTECTED_LIFEBOAT_FD` where the caller
had no descriptor. An `execve` of `/bin/true` with `LD_PRELOAD=a.so` in its environment block
returns with `ENV_VAR_ORIG_LD_PRELOAD` set to `a.so` where the caller had it unset, and with the
protected descriptor the caller had open with `FD_CLOEXEC` left without it. -/
theorem execve_failed_leaves_state_changed :
    (∃ final, (execve sampleConstants sampleWorld cloexecProc "/usr/bin/ssh".toList
        (some ["ssh".toList]) (some [])).caller = .returns (-1) final ∧
      cloexecProc.fds sampleConstants.protectedLifeboatFd = none ∧
      final.fds sampleConstants.protectedLifeboatFd = some false) ∧
    ∃ final, (execve sampleConstants sampleWorld cloexecProc "/bin/true".toList
        (some ["true".toList]) (some ["LD_PRELOAD=a.so".toList])).caller = .returns (-1) final ∧
      getenv cloexecProc.environ sampleConstants.origLdPreload = none ∧
      getenv final.environ sampleConstants.origLdPreload = some "a.so".toList ∧
      cloexecProc.fds 820 = some true ∧ final.fds 820 = some false := by
  constructor
  · rw [execve_sample_intercepted _ cloexecProc rfl (by decide) (by decide),
      interceptExec_eq _ _ _ _ _ 4 rfl rfl (cString_strncpyPathMax (by decide) (by decide)),
      if_pos (by decide)]
    exact ⟨_, rfl, rfl, rfl⟩
  · obtain ⟨final, returned, environ, fds⟩ := execve_binTrue_failed cloexecProc rfl rfl rfl
    refine ⟨final, returned, rfl, by rw [environ]; rfl, rfl, ?_⟩
    rw [fds]
    rfl

/-- Take a call that reaches the interception, whose subscribers leave a readable file name
`path` that is not a setuid `screen`, and whose lifeboat gets a free descriptor. When the call
returns to its caller, a bypass-list `path` has left the environment as it was and the lifeboat
open. Any other `path` has left every variable but `ENV_VAR_ORIG_LD_PRELOAD` as it was,
`LD_PRELOAD` restored; `ENV_VAR_ORIG_LD_PRELOAD` holds the segment `getUpdatedLdPreload`
appended, the non-empty preload of the block the subscribers left or else the process's own
non-empty `LD_PRELOAD`, and is as it was when there is none; the lifeboat is closed, and every
other descriptor is as it was, except that those in the protected range lost `FD_CLOEXEC`. -/
theorem dmtcpExecvpe_returns_state (constants : Constants)
    (notReserved : ldPreload ∉ constants.importantEnvs)
    (origValid : '=' ∉ constants.origLdPreload)
    (origDistinct : constants.origLdPreload ≠ ldPreload)
    (world : World) (proc : Proc) (filename : Str) (argv envp : Option (List Str))
    (running : isPerformingCkptRestart proc.workerState = false)
    (notSelf : baseName filename ∉ selfTools) (notCommand : baseName filename ≠ dmtcpCommand)
    {path : Str}
    (named : cString (world.preExec (copiedData constants filename argv envp)).filename = .ok path)
    (notScreen : world.fs.isSetuid path = true → world.isScreen path = false)
    (tempFree : ∀ fd, world.lifeboatTemp = some fd → proc.fds fd = none)
    {value : Int} {final : Proc}
    (returned : (dmtcpExecvpe constants world proc filename argv envp).caller =
      .returns value final) :
    (baseName path ∈ bypassTools →
      final.environ = proc.environ ∧
      final.fds = Function.update proc.fds constants.protectedLifeboatFd (some false)) ∧
    (baseName path ∉ bypassTools →
      ∃ env, readStrings (world.preExec (copiedData constants filename argv envp)).envp = .ok env ∧
      (∀ name, '=' ∉ name → name ≠ constants.origLdPreload →
        getenv final.environ name = getenv proc.environ name) ∧
      getenv final.environ constants.origLdPreload =
        (if userPreload env ≠ [] then some (userPreload env)
          else (getenv proc.environ ldPreload).filter fun value => !value.isEmpty).or
          (getenv proc.environ constants.origLdPreload) ∧
      final.fds = Function.update (clearProtectedCloexec constants proc.fds)
        constants.protectedLifeboatFd none) := by
  rw [dmtcpExecvpe_intercept constants world argv envp running notSelf notCommand] at returned
  obtain ⟨fd, temp, unlinked⟩ := lifeboat_of_interceptExec_returns returned
  rw [interceptExec_eq constants proc filename argv envp fd temp unlinked named,
    changeFd_update_of_free (tempFree fd temp)] at returned
  constructor
  · intro bypass
    rw [if_pos bypass] at returned
    obtain ⟨args, -, returned⟩ := faultIn_bind_returns returned
    obtain ⟨envs, -, returned⟩ := faultIn_bind_returns returned
    cases failed : world.execErrno with
    | none => simp [Stage.result, realExecvpe, failed] at returned
    | some errno =>
      simp only [Stage.result, realExecvpe, failed, Outcome.returns.injEq] at returned
      obtain ⟨-, rfl⟩ := returned
      exact ⟨rfl, rfl⟩
  · intro notBypass
    rw [if_neg notBypass] at returned
    obtain ⟨newFilename, newArgv, prepared, env, newEnvStrings, environ, errno, ready, reads,
      patched, -, -, -, rfl⟩ := execIntercepted_returns returned
    have preparedEq := dmtcpPrepareForExec_ok ready
    have noScreen : (world.fs.isSetuid path && world.isScreen path) = false := by
      cases setuid : world.fs.isSetuid path <;> simp [notScreen, setuid]
    rw [noScreen] at preparedEq
    subst prepared
    have environEq := patchUserEnv_environ_eq notReserved patched
    subst environ
    have restored := restoreUserLDPRELOAD_origLdPreloadSet origValid origDistinct (userPreload env)
      proc.environ
    refine ⟨env, reads, fun name valid notOrig => ?_, ?_, ?_⟩
    · simp [Proc.releaseExcl_eq, restored, getenv_origLdPreloadSet constants origValid _ _ valid,
        notOrig]
    · simp [Proc.releaseExcl_eq, restored, getenv_origLdPreloadSet constants origValid _ _ origValid,
        userSegment_eq]
    · simpa [Proc.releaseExcl_eq] using closeFd_clearProtectedCloexec_update constants proc.fds

theorem dmtcpExecvpe_returns_state_sample :
    ldPreload ∉ sampleConstants.importantEnvs ∧ '=' ∉ sampleConstants.origLdPreload ∧
      sampleConstants.origLdPreload ≠ ldPreload ∧
      ∃ final, (dmtcpExecvpe sampleConstants sampleWorld cloexecProc "/bin/true".toList
          (some ["true".toList]) (some ["LD_PRELOAD=a.so".toList])).caller = .returns (-1) final ∧
        (baseName "/bin/true".toList ∉ bypassTools →
          ∃ env, readStrings (sampleWorld.preExec (copiedData sampleConstants "/bin/true".toList
              (some ["true".toList]) (some ["LD_PRELOAD=a.so".toList]))).envp = .ok env ∧
          (∀ name, '=' ∉ name → name ≠ sampleConstants.origLdPreload →
            getenv final.environ name = getenv cloexecProc.environ name) ∧
          getenv final.environ sampleConstants.origLdPreload =
            (if userPreload env ≠ [] then some (userPreload env)
              else (getenv cloexecProc.environ ldPreload).filter fun value => !value.isEmpty).or
              (getenv cloexecProc.environ sampleConstants.origLdPreload) ∧
          final.fds = Function.update (clearProtectedCloexec sampleConstants cloexecProc.fds)
            sampleConstants.protectedLifeboatFd none) := by
  obtain ⟨final, returned, -⟩ := execve_binTrue_failed cloexecProc rfl rfl rfl
  exact ⟨by decide, by decide, by decide, final, returned,
    (dmtcpExecvpe_returns_state sampleConstants (by decide) (by decide) (by decide) sampleWorld
      cloexecProc "/bin/true".toList (some ["true".toList]) (some ["LD_PRELOAD=a.so".toList])
      (by decide) (by decide) (by decide) cString_strncpyPathMax_binTrue
      (fun setuid => by cases setuid) (fun _ temp => by cases temp; rfl) returned).2⟩

/-! ### The copy of the file name -/

/-- A file name of `PATH_MAX` characters or more reaches the `PRE_EXEC` subscribers cut to its
first `PATH_MAX` characters, with no NUL in the buffer. With subscribers that leave it as it is,
the wrapper goes on, and `BaseName` reads past the buffer, where `execve` itself would fail with
`ENAMETOOLONG`. -/
theorem dmtcpExecvpe_long_filename_reads_past_copy (constants : Constants) (world : World)
    (proc : Proc) (filename : Str) (argv envp : Option (List Str))
    (running : isPerformingCkptRestart proc.workerState = false)
    (notSelf : baseName filename ∉ selfTools) (notCommand : baseName filename ≠ dmtcpCommand)
    {fd : Nat} (temp : world.lifeboatTemp = some fd) (unlinked : world.unlinkOk = true)
    (untouched : world.preExec = id) (noNul : nul ∉ filename)
    (long : pathMax ≤ filename.length) :
    (copiedData constants filename argv envp).filename = filename.take pathMax ∧
      nul ∉ (copiedData constants filename argv envp).filename ∧
      (dmtcpExecvpe constants world proc filename argv envp).caller.endedBy =
        some (.fault .undefinedRead) := by
  have copied : (copiedData constants filename argv envp).filename = filename.take pathMax :=
    strncpyPathMax_of_le long
  have unread : cString (world.preExec (copiedData constants filename argv envp)).filename =
      .error .undefinedRead := by
    rw [untouched]
    show cString (strncpyPathMax filename) = _
    rw [cString_strncpyPathMax_eq noNul, if_neg (Nat.not_lt_of_le long)]
  refine ⟨copied, fun member => noNul (List.mem_of_mem_take (copied ▸ member)), ?_⟩
  rw [dmtcpExecvpe_intercept constants world argv envp running notSelf notCommand]
  exact interceptExec_of_cString_error constants proc filename argv envp temp unlinked unread

/-- `/bin/true` with its leading `/` written 4088 times, 4096 characters in all. -/
def longTruePath : Str := (List.replicate 4088 '/' ++ "bin".toList) ++ '/' :: "true".toList

theorem dmtcpExecvpe_long_filename_reads_past_copy_sample :
    isPerformingCkptRestart sampleProc.workerState = false ∧
      baseName longTruePath ∉ selfTools ∧ baseName longTruePath ≠ dmtcpCommand ∧
      sampleWorld.lifeboatTemp = some 4 ∧ sampleWorld.unlinkOk = true ∧
      sampleWorld.preExec = id ∧ nul ∉ longTruePath ∧ pathMax ≤ longTruePath.length ∧
      (copiedData sampleConstants longTruePath (some ["true".toList]) (some [])).filename =
          longTruePath.take pathMax ∧
        nul ∉ (copiedData sampleConstants longTruePath (some ["true".toList]) (some [])).filename ∧
        (dmtcpExecvpe sampleConstants sampleWorld sampleProc longTruePath (some ["true".toList])
          (some [])).caller.endedBy = some (.fault .undefinedRead) := by
  have named : baseName longTruePath = "true".toList := baseName_append_slash _ _ (by decide)
  have noNul : nul ∉ longTruePath := by
    simp only [longTruePath, List.mem_append, List.mem_cons, List.mem_replicate]
    decide
  have long : pathMax ≤ longTruePath.length := by
    rw [longTruePath, List.length_append, List.length_append, List.length_replicate]
    decide
  exact ⟨rfl, named ▸ by decide, named ▸ by decide, rfl, rfl, rfl, noNul, long,
    dmtcpExecvpe_long_filename_reads_past_copy sampleConstants sampleWorld sampleProc
      longTruePath (some ["true".toList]) (some []) rfl (named ▸ by decide) (named ▸ by decide)
      rfl rfl rfl noNul long⟩

/-! ### What the new image inherits -/

/-- Every image the interception proper replaces inherits what a restart needs and nothing else,
for every behaviour of the subscribers: the lifeboat is open at `PROTECTED_LIFEBOAT_FD` without
`FD_CLOEXEC`, every protected descriptor the caller had open is open without it, and every other
descriptor is as the caller had it. -/
theorem dmtcpExecvpe_image_fds (constants : Constants) (world : World) (proc : Proc)
    (filename : Str) (argv envp : Option (List Str))
    (running : isPerformingCkptRestart proc.workerState = false)
    (notSelf : baseName filename ∉ selfTools) (notCommand : baseName filename ≠ dmtcpCommand)
    {path : Str}
    (named : cString (world.preExec (copiedData constants filename argv envp)).filename = .ok path)
    (notBypass : baseName path ∉ bypassTools)
    (tempFree : ∀ fd, world.lifeboatTemp = some fd → proc.fds fd = none)
    {image : Str} {args env : List Str} {final : Proc}
    (replaced : (dmtcpExecvpe constants world proc filename argv envp).caller =
      .ends (.replaced image args env) final) :
    final.fds constants.protectedLifeboatFd = some false ∧
      ∀ fd, fd ≠ constants.protectedLifeboatFd →
        final.fds fd =
          if constants.protectedFdStart ≤ fd ∧ fd < constants.protectedFdEnd then
            (proc.fds fd).map fun _ => false
          else proc.fds fd := by
  rw [dmtcpExecvpe_intercept constants world argv envp running notSelf notCommand] at replaced
  cases lifeboat : getLifeboatFd constants world proc.fds with
  | error fault =>
    rw [interceptExec_of_getLifeboatFd lifeboat] at replaced
    simp [Stage.result, Result.ending] at replaced
  | ok fds =>
  obtain ⟨fd, temp, unlinked⟩ : ∃ fd, world.lifeboatTemp = some fd ∧ world.unlinkOk = true := by
    cases temp : world.lifeboatTemp <;> cases unlinked : world.unlinkOk <;>
      simp [getLifeboatFd, temp, unlinked] at lifeboat ⊢
  rw [interceptExec_eq constants proc filename argv envp fd temp unlinked named,
    changeFd_update_of_free (tempFree fd temp)] at replaced
  dsimp only at replaced
  rw [if_neg notBypass] at replaced
  obtain ⟨newArgv, prepared, environ, ready, rfl⟩ := execIntercepted_replaced replaced
  rw [dmtcpPrepareForExec_ok ready]
  refine ⟨?_, fun other notLifeboat => ?_⟩
  · simp only [clearProtectedCloexec, Function.update_same]
    split <;> rfl
  · simp only [clearProtectedCloexec, Function.update_noteq notLifeboat]

theorem dmtcpExecvpe_image_fds_sample :
    isPerformingCkptRestart cloexecProc.workerState = false ∧
      baseName "/bin/true".toList ∉ selfTools ∧ baseName "/bin/true".toList ≠ dmtcpCommand ∧
      cString (replacingWorld.preExec (copiedData sampleConstants "/bin/true".toList
        (some ["true".toList]) (some ["HOME=/".toList]))).filename = .ok "/bin/true".toList ∧
      baseName "/bin/true".toList ∉ bypassTools ∧
      (∀ fd, replacingWorld.lifeboatTemp = some fd → cloexecProc.fds fd = none) ∧
      ∃ image args env final,
        (dmtcpExecvpe sampleConstants replacingWorld cloexecProc "/bin/true".toList
            (some ["true".toList]) (some ["HOME=/".toList])).caller =
          .ends (.replaced image args env) final ∧
        final.fds sampleConstants.protectedLifeboatFd = some false ∧
        ∀ fd, fd ≠ sampleConstants.protectedLifeboatFd →
          final.fds fd =
            if sampleConstants.protectedFdStart ≤ fd ∧ fd < sampleConstants.protectedFdEnd then
              (cloexecProc.fds fd).map fun _ => false
            else cloexecProc.fds fd :=
  ⟨rfl, by decide, by decide, cString_strncpyPathMax (by decide) (by decide), by decide,
    fun _ temp => by cases temp; rfl, _, _, _, _, rfl,
    dmtcpExecvpe_image_fds sampleConstants replacingWorld cloexecProc "/bin/true".toList
      (some ["true".toList]) (some ["HOME=/".toList]) rfl (by decide) (by decide)
      (cString_strncpyPathMax (by decide) (by decide)) (by decide)
      (fun _ temp => by cases temp; rfl) rfl⟩

end Dmtcp
