/-
This file follows a caller that tries one exec after another with the same environment block,
as a shell or `os.execvpe` does over the directories of `PATH`, and gets every attempt back
because the exec failed. Each such attempt that `dmtcp_execvpe` intercepts in full opens the
lifeboat, clears `FD_CLOEXEC` in the protected range, lets `getUpdatedLdPreload` set
`ENV_VAR_ORIG_LD_PRELOAD` to the segment it appends, and after the failure restores `LD_PRELOAD`
with `restoreUserLDPRELOAD` and closes the lifeboat.

None of this accumulates. What a failed attempt leaves is in closed form below, and it is a
fixed point of every further attempt with the same block: `LD_PRELOAD` is as it was, so the
segment is the same, and `ENV_VAR_ORIG_LD_PRELOAD` already holds it. So after any number of
failed attempts the caller's state is the one the first attempt left, but for `errno` and the
lock record, and its use of the lock over the whole run is matched.
-/

import ExecWrappers.Calls

namespace Dmtcp

/-! ### What a failed attempt leaves -/

/-- The environment a failed attempt leaves, for the user's preload `userPreloadStr`:
`getUpdatedLdPreload`'s `setenv` of `ENV_VAR_ORIG_LD_PRELOAD` to the appended segment, then
`restoreUserLDPRELOAD` of the `LD_PRELOAD` from before the patch. -/
def failedExecEnviron (constants : Constants) (userPreloadStr : Str)
    (environ : Option (List Str)) : Option (List Str) :=
  restoreUserLDPRELOAD (getenv environ ldPreload)
    (origLdPreloadSet constants userPreloadStr environ)

/-- The descriptors a failed attempt leaves: `FD_CLOEXEC` cleared in the protected range, and
the lifeboat closed. -/
def failedExecFds (constants : Constants) (fds : Nat → Option Bool) : Nat → Option Bool :=
  Function.update (clearProtectedCloexec constants fds) constants.protectedLifeboatFd none

theorem failedExecFds_of_free (constants : Constants) {fds : Nat → Option Bool} {fd : Nat}
    (free : fds fd = none) : failedExecFds constants fds fd = none := by
  by_cases lifeboat : fd = constants.protectedLifeboatFd
  · subst lifeboat
    simp [failedExecFds]
  · simp [failedExecFds, lifeboat, clearProtectedCloexec, free]

/-- A second failed attempt leaves the descriptors as the first did. -/
theorem failedExecFds_failedExecFds (constants : Constants) (fds : Nat → Option Bool) :
    failedExecFds constants (failedExecFds constants fds) = failedExecFds constants fds := by
  funext fd
  by_cases lifeboat : fd = constants.protectedLifeboatFd
  · subst lifeboat
    simp [failedExecFds]
  · by_cases range : constants.protectedFdStart ≤ fd ∧ fd < constants.protectedFdEnd <;>
      simp [failedExecFds, lifeboat, clearProtectedCloexec, range, Option.map_map,
        Function.comp_def]

/-- Recording the segment a second time changes nothing: the segment is read from
`LD_PRELOAD`, which the first recording left as it was. -/
theorem origLdPreloadSet_origLdPreloadSet {constants : Constants}
    (origValid : '=' ∉ constants.origLdPreload) (origDistinct : constants.origLdPreload ≠ ldPreload)
    (userPreloadStr : Str) (environ : Option (List Str)) :
    origLdPreloadSet constants userPreloadStr (origLdPreloadSet constants userPreloadStr environ) =
      origLdPreloadSet constants userPreloadStr environ := by
  cases segment : userSegment userPreloadStr environ with
  | none => simp only [origLdPreloadSet, segment]
  | some value =>
    have recorded : origLdPreloadSet constants userPreloadStr environ =
        setenv environ constants.origLdPreload value := by
      simp only [origLdPreloadSet, segment]
    have reads : userSegment userPreloadStr (setenv environ constants.origLdPreload value) =
        some value := by
      rw [← segment]
      simp only [userSegment, getenv_setenv_other environ value ldPreload_valid origValid
        origDistinct.symm]
    rw [recorded, origLdPreloadSet, reads]
    exact setenv_of_getenv (getenv_setenv_self _ _ _)

/-- A second failed attempt with the same user preload leaves the environment as the first
did. -/
theorem failedExecEnviron_failedExecEnviron {constants : Constants}
    (origValid : '=' ∉ constants.origLdPreload) (origDistinct : constants.origLdPreload ≠ ldPreload)
    (userPreloadStr : Str) (environ : Option (List Str)) :
    failedExecEnviron constants userPreloadStr (failedExecEnviron constants userPreloadStr environ) =
      failedExecEnviron constants userPreloadStr environ := by
  simp only [failedExecEnviron, restoreUserLDPRELOAD_origLdPreloadSet origValid origDistinct,
    origLdPreloadSet_origLdPreloadSet origValid origDistinct, restoreUserLDPRELOAD_getenv]

/-! ### Attempts -/

/-- One exec attempt of a caller: the collaborators' behaviour during it, the file name and the
argument vector. -/
structure ExecAttempt where
  world : World
  filename : Str
  argv : Option (List Str)

/-- A caller that tries one exec after another with the environment block `envp`: it goes on
to the next attempt while an attempt returns, and gets `-1` when every attempt returned. -/
def execAttempts (constants : Constants) (envp : Option (List Str)) :
    Proc → List ExecAttempt → Outcome
  | proc, [] => .returns (-1) proc
  | proc, attempt :: attempts =>
    match (dmtcpExecvpe constants attempt.world proc attempt.filename attempt.argv envp).caller with
    | .returns _ proc => execAttempts constants envp proc attempts
    | ended => ended

/-- An attempt that `dmtcp_execvpe` intercepts in full, from a process whose descriptors are
`fds`: the target is none of the programs it refuses or relaunches, the subscribers leave a
readable file name, of no bypass-list program and no setuid `screen`, and leave the environment
block as they found it, and the lifeboat's temporary descriptor is free. -/
structure InterceptedAttempt (constants : Constants) (envp : Option (List Str))
    (fds : Nat → Option Bool) (attempt : ExecAttempt) : Prop where
  notSelf : baseName attempt.filename ∉ selfTools
  notCommand : baseName attempt.filename ≠ dmtcpCommand
  intercepted : ∃ path, cString (attempt.world.preExec
      (copiedData constants attempt.filename attempt.argv envp)).filename = .ok path ∧
    baseName path ∉ bypassTools ∧
    (attempt.world.fs.isSetuid path = true → attempt.world.isScreen path = false)
  envpKept : (attempt.world.preExec (copiedData constants attempt.filename attempt.argv envp)).envp =
    (copiedData constants attempt.filename attempt.argv envp).envp
  tempFree : ∀ fd, attempt.world.lifeboatTemp = some fd → fds fd = none

/-- A failed attempt intercepted in full returns `-1`, leaves the environment and the
descriptors in the closed forms above and every other field as it was, but `errno`, and records
the acquisition and, when it acquired, the release. -/
theorem dmtcpExecvpe_failed_of_intercepted {constants : Constants}
    (notReserved : ldPreload ∉ constants.importantEnvs) {envp : Option (List Str)} {proc : Proc}
    (running : isPerformingCkptRestart proc.workerState = false) {attempt : ExecAttempt}
    (intercepted : InterceptedAttempt constants envp proc.fds attempt) {value : Int}
    {final : Proc}
    (returned : (dmtcpExecvpe constants attempt.world proc attempt.filename attempt.argv
      envp).caller = .returns value final) :
    value = -1 ∧ ∃ errno, final = { proc with
      environ := failedExecEnviron constants (userPreload (copyEnv envp)) proc.environ
      fds := failedExecFds constants proc.fds
      errno
      lockLog := proc.lockLog ++ ([.lockExcl attempt.world.lockAcquired] ++
        if attempt.world.lockAcquired then [.unlock] else []) } := by
  obtain ⟨notSelf, notCommand, ⟨path, named, notBypass, notScreen⟩, envpKept, tempFree⟩ :=
    intercepted
  rw [dmtcpExecvpe_intercept constants _ _ _ running notSelf notCommand] at returned
  obtain ⟨fd, temp, unlinked⟩ := lifeboat_of_interceptExec_returns returned
  rw [interceptExec_eq constants proc _ _ _ fd temp unlinked named,
    changeFd_update_of_free (tempFree fd temp)] at returned
  dsimp only at returned
  rw [if_neg notBypass] at returned
  obtain ⟨newFilename, newArgv, prepared, env, newEnvStrings, environ, errno, ready, reads,
    patched, -, -, rfl, rfl⟩ := execIntercepted_returns returned
  have noScreen : (attempt.world.fs.isSetuid path && attempt.world.isScreen path) = false := by
    cases setuid : attempt.world.fs.isSetuid path <;> simp [notScreen, setuid]
  have preparedEq := dmtcpPrepareForExec_ok ready
  rw [noScreen] at preparedEq
  subst prepared
  have userEnv : env = copyEnv envp := by
    rw [envpKept, copiedData, readStrings_append_null] at reads
    exact (Except.ok.inj reads).symm
  subst env
  have environEq := patchUserEnv_environ_eq notReserved patched
  subst environ
  refine ⟨rfl, errno, ?_⟩
  simp [Proc.releaseExcl_eq, Proc.logLock, failedExecEnviron, failedExecFds,
    closeFd_clearProtectedCloexec_update]

/-! ### A run of failed attempts -/

/-- A failed attempt takes no descriptor an attempt's lifeboat needs. -/
theorem InterceptedAttempt.failedExecFds {constants : Constants} {envp : Option (List Str)}
    {fds : Nat → Option Bool} {attempt : ExecAttempt}
    (intercepted : InterceptedAttempt constants envp fds attempt) :
    InterceptedAttempt constants envp (failedExecFds constants fds) attempt :=
  { intercepted with
    tempFree := fun fd temp => failedExecFds_of_free constants (intercepted.tempFree fd temp) }

/-- A run that returns went on past its first attempt: that attempt returned, and the rest of
the run started from the state it left. -/
theorem execAttempts_cons_returns {constants : Constants} {envp : Option (List Str)}
    {proc : Proc} {attempt : ExecAttempt} {attempts : List ExecAttempt} {value : Int}
    {final : Proc}
    (returned : execAttempts constants envp proc (attempt :: attempts) = .returns value final) :
    ∃ value' next, (dmtcpExecvpe constants attempt.world proc attempt.filename attempt.argv
        envp).caller = .returns value' next ∧
      execAttempts constants envp next attempts = .returns value final := by
  simp only [execAttempts] at returned
  cases stepped : (dmtcpExecvpe constants attempt.world proc attempt.filename attempt.argv
    envp).caller with
  | ends ending next => rw [stepped] at returned; cases returned
  | returns value' next => rw [stepped] at returned; exact ⟨value', next, rfl, returned⟩

/-- From a state a failed attempt leaves as it is, failed attempts change nothing but `errno`
and the lock record, to which they add matched lock use. -/
theorem execAttempts_of_settled {constants : Constants}
    (notReserved : ldPreload ∉ constants.importantEnvs) {envp : Option (List Str)}
    (attempts : List ExecAttempt) :
    ∀ {proc : Proc} {value : Int} {final : Proc},
      execAttempts constants envp proc attempts = .returns value final →
      isPerformingCkptRestart proc.workerState = false →
      failedExecEnviron constants (userPreload (copyEnv envp)) proc.environ = proc.environ →
      failedExecFds constants proc.fds = proc.fds →
      (∀ attempt ∈ attempts, InterceptedAttempt constants envp proc.fds attempt) →
        final = { proc with errno := final.errno, lockLog := final.lockLog } ∧
          ∃ events, final.lockLog = proc.lockLog ++ events ∧ MatchedLockUse events := by
  induction attempts with
  | nil =>
    intro proc value final returned
    cases returned
    exact fun _ _ _ _ => ⟨rfl, [], by simp, by decide⟩
  | cons attempt attempts inductionHypothesis =>
    intro proc value final returned running settledEnviron settledFds intercepted
    obtain ⟨value', next, stepped, returned⟩ := execAttempts_cons_returns returned
    obtain ⟨-, errno, rfl⟩ := dmtcpExecvpe_failed_of_intercepted notReserved running
      (intercepted attempt (List.mem_cons_self _ _)) stepped
    rw [settledEnviron, settledFds] at returned
    obtain ⟨kept, events, logged, matched⟩ := inductionHypothesis returned running settledEnviron
      settledFds fun later member => intercepted later (List.mem_cons_of_mem _ member)
    exact ⟨kept, _, by rw [logged, List.append_assoc], matchedLockUse_append
      (matchedLockUse_release attempt.world.lockAcquired) matched⟩

/-- A caller that tries exec after exec with one environment block, each attempt intercepted in
full, and gets every attempt back is left as the first failed attempt left it, but for `errno`
and the lock record: `LD_PRELOAD`, `ENV_VAR_ORIG_LD_PRELOAD`, every other variable and every
descriptor are as after that attempt however many attempts follow, and the lock is used in
matched pairs over the whole run. -/
theorem execAttempts_settle_after_first (constants : Constants)
    (notReserved : ldPreload ∉ constants.importantEnvs)
    (origValid : '=' ∉ constants.origLdPreload) (origDistinct : constants.origLdPreload ≠ ldPreload)
    (envp : Option (List Str)) (proc : Proc)
    (running : isPerformingCkptRestart proc.workerState = false) (first : ExecAttempt)
    (attempts : List ExecAttempt)
    (intercepted : ∀ attempt ∈ first :: attempts, InterceptedAttempt constants envp proc.fds attempt)
    {value : Int} {final : Proc}
    (returned : execAttempts constants envp proc (first :: attempts) = .returns value final) :
    ∃ afterFirst,
      (dmtcpExecvpe constants first.world proc first.filename first.argv envp).caller =
        .returns (-1) afterFirst ∧
      final = { afterFirst with errno := final.errno, lockLog := final.lockLog } ∧
      MatchedLockUse (lockEvents proc final) := by
  obtain ⟨value', next, stepped, returned⟩ := execAttempts_cons_returns returned
  obtain ⟨rfl, errno, rfl⟩ := dmtcpExecvpe_failed_of_intercepted notReserved running
    (intercepted first (List.mem_cons_self _ _)) stepped
  obtain ⟨kept, events, logged, matched⟩ := execAttempts_of_settled notReserved attempts returned
    running (failedExecEnviron_failedExecEnviron origValid origDistinct _ _)
    (failedExecFds_failedExecFds constants proc.fds)
    fun later member => (intercepted later (List.mem_cons_of_mem _ member)).failedExecFds
  refine ⟨_, stepped, kept, ?_⟩
  rw [lockEvents_append proc _ (by rw [logged, List.append_assoc])]
  exact matchedLockUse_append (matchedLockUse_release first.world.lockAcquired) matched

/-- A search of `PATH` for `true`: `/usr/local/bin/true` fails with `ENOENT`, then
`/usr/bin/true` with `EACCES`. -/
def pathSearchAttempts : List ExecAttempt :=
  [⟨sampleWorld, "/usr/local/bin/true".toList, some ["true".toList]⟩,
    ⟨{ sampleWorld with execErrno := some 13 }, "/usr/bin/true".toList, some ["true".toList]⟩]

theorem execAttempts_settle_after_first_sample :
    (∀ attempt ∈ pathSearchAttempts,
      InterceptedAttempt sampleConstants (some ["LD_PRELOAD=a.so".toList]) sampleProc.fds attempt) ∧
    ∃ final, execAttempts sampleConstants (some ["LD_PRELOAD=a.so".toList]) sampleProc
        pathSearchAttempts = .returns (-1) final ∧
      ∃ afterFirst, (dmtcpExecvpe sampleConstants sampleWorld sampleProc
          "/usr/local/bin/true".toList (some ["true".toList])
          (some ["LD_PRELOAD=a.so".toList])).caller = .returns (-1) afterFirst ∧
        final = { afterFirst with errno := final.errno, lockLog := final.lockLog } ∧
        MatchedLockUse (lockEvents sampleProc final) := by
  have intercepted : ∀ attempt ∈ pathSearchAttempts,
      InterceptedAttempt sampleConstants (some ["LD_PRELOAD=a.so".toList]) sampleProc.fds
        attempt := by
    simp only [pathSearchAttempts, List.mem_cons, List.mem_singleton, List.not_mem_nil, or_false]
    rintro attempt (rfl | rfl) <;>
      exact ⟨by decide, by decide, ⟨_, cString_strncpyPathMax (by decide) (by decide),
        by decide, fun setuid => by cases setuid⟩, rfl, fun _ _ => rfl⟩
  exact ⟨intercepted, _, rfl, execAttempts_settle_after_first sampleConstants (by decide)
    (by decide) (by decide) _ sampleProc rfl _ _ intercepted rfl⟩

end Dmtcp
