/-
This file follows `errno` through a wrapper call whose system call fails, for every behaviour of
the subscribers.

`dmtcp_execvpe` is transparent here. Whatever the `PRE_EXEC` subscribers do, it returns to its
caller only after `_real_execvpe` failed, and then with `-1` and the `errno` the exec set:
`dmtcpProcessFailedExec` saves `errno` around `restoreUserLDPRELOAD`, and nothing after it writes
`errno`. `fork` is not. When `_real_fork` fails it still calls `_real_close` on the child's
connection, which fails with `EBADF` when there is none, and publishes `ATFORK_PARENT` before it
returns, with no `errno` saved around them, so the caller sees whatever the close and the
subscribers left. A failed exec of `dmtcp_command` does not return to its caller at all: the
caller has already exited in the relaunch, and only the forked child sees `-1`.
-/

import ExecWrappers.Calls

namespace Dmtcp

/-! ### Exec -/

theorem realExecvpe_returns {world : World} {proc : Proc} {filename : Str} {argv envp : List Str}
    {value : Int} {final : Proc}
    (returned : realExecvpe world proc filename argv envp = .returns value final) :
    ∃ errno, world.execErrno = some errno ∧ value = -1 ∧ final.errno = errno := by
  unfold realExecvpe at returned
  cases failed : world.execErrno <;> simp only [failed, reduceCtorEq, Outcome.returns.injEq]
    at returned
  obtain ⟨rfl, rfl⟩ := returned
  exact ⟨_, rfl, rfl, rfl⟩

theorem relaunchAfterFork_returns {world : World} {filename : Str}
    {argv envp : Option (List Str)} {outcome : Outcome} {value : Int} {final : Proc}
    (returned : relaunchAfterFork world filename argv envp outcome = .returns value final) :
    ∃ errno, world.execErrno = some errno ∧ value = -1 ∧ final.errno = errno := by
  cases outcome with
  | returns cpid proc =>
    simp only [relaunchAfterFork] at returned
    split_ifs at returned
    exact realExecvpe_returns returned
  | ends ending proc => cases returned

/-- Whatever the `PRE_EXEC` subscribers do, `dmtcp_execvpe` returns to its caller only after
`_real_execvpe` failed, and then returns `-1` with the `errno` the exec set. -/
theorem dmtcpExecvpe_returns_exec_errno (constants : Constants) (world : World) (proc : Proc)
    (filename : Str) (argv envp : Option (List Str)) {value : Int} {final : Proc}
    (returned : (dmtcpExecvpe constants world proc filename argv envp).caller =
      .returns value final) :
    ∃ errno, world.execErrno = some errno ∧ value = -1 ∧ final.errno = errno := by
  unfold dmtcpExecvpe at returned
  dsimp only at returned
  split_ifs at returned
  · exact realExecvpe_returns returned
  · simp at returned
  · exact relaunchAfterFork_returns returned
  unfold interceptExec at returned
  obtain ⟨data, -, returned⟩ := faultIn_bind_returns returned
  obtain ⟨fds, -, returned⟩ := faultIn_bind_returns returned
  obtain ⟨path, -, returned⟩ := faultIn_bind_returns returned
  split_ifs at returned
  · obtain ⟨args, -, returned⟩ := faultIn_bind_returns returned
    obtain ⟨envs, -, returned⟩ := faultIn_bind_returns returned
    exact realExecvpe_returns returned
  · obtain ⟨-, -, -, -, -, -, errno, -, -, -, -, failed, rfl, rfl⟩ :=
      execIntercepted_returns returned
    exact ⟨errno, failed, rfl, by simp [Proc.releaseExcl_eq]⟩

theorem dmtcpExecvpe_returns_exec_errno_sample :
    ∃ final, (dmtcpExecvpe sampleConstants sampleWorld sampleProc "/bin/true".toList
        (some ["true".toList]) (some ["LD_PRELOAD=a.so".toList])).caller = .returns (-1) final ∧
      ∃ errno, sampleWorld.execErrno = some errno ∧ (-1 : Int) = -1 ∧ final.errno = errno := by
  obtain ⟨final, returned, -, -⟩ := execve_binTrue_failed sampleProc rfl rfl rfl
  exact ⟨final, returned, dmtcpExecvpe_returns_exec_errno sampleConstants sampleWorld sampleProc
    "/bin/true".toList (some ["true".toList]) (some ["LD_PRELOAD=a.so".toList]) returned⟩

/-! ### Fork -/

/-- When `_real_fork` fails, `fork` returns `-1` to the caller alone: with the `errno` of the
system call during a checkpoint or a restart, and on the RUNNING path with whatever the
`ATFORK_PARENT` subscribers leave in it, starting from the `errno` of the system call when the
child's coordinator connection was opened, and from the `EBADF` of the failed `_real_close` when
`createNewConnectionBeforeFork` returned `-1`. -/
theorem fork_failed_errno (constants : Constants) (world : World) (proc : Proc) {errno : Int}
    (failed : world.forkResult = .failed errno) :
    ∃ final, fork constants world proc = Result.returning (-1) final ∧
      final.errno = if isPerformingCkptRestart proc.workerState then errno
        else world.hookErrno .atforkParent (if 0 ≤ world.newConnection then errno else ebadf) := by
  cases running : isPerformingCkptRestart proc.workerState
  · rw [fork_failed constants world proc running failed]
    refine ⟨_, rfl, ?_⟩
    by_cases opened : 0 ≤ world.newConnection <;>
      simp [forkParentTail, Proc.releaseExcl_eq, Proc.realClose, forkPrepare, openFd, opened]
  · simp only [fork, running, if_true]
    cases constants.aarch64 <;>
      exact ⟨{ proc with errno }, by simp [realFork, rawSyscallFork, failed], rfl⟩

/-- The sample collaborators when `_real_fork` fails with `EAGAIN` and an `ATFORK_PARENT`
subscriber's own failing call leaves `EINTR` in `errno`. -/
def clobberingWorld : World :=
  { sampleWorld with
    forkResult := .failed 11
    hookErrno := fun event errno => if event = .atforkParent then 4 else errno }

theorem fork_failed_errno_sample :
    clobberingWorld.forkResult = .failed 11 ∧
      ∃ final, fork sampleConstants clobberingWorld sampleProc = Result.returning (-1) final ∧
        final.errno = if isPerformingCkptRestart sampleProc.workerState then 11
          else clobberingWorld.hookErrno .atforkParent
            (if 0 ≤ clobberingWorld.newConnection then 11 else ebadf) :=
  ⟨rfl, fork_failed_errno sampleConstants clobberingWorld sampleProc rfl⟩

/-! ### Where a failure is not transparent -/

/-- A `fork` whose `_real_fork` fails with `EAGAIN` returns `-1` with the `EINTR` its
`ATFORK_PARENT` subscriber left. An `execve` of `dmtcp_command` whose exec fails with `ENOENT`
ends the calling process with status `0`; only the forked child, a new process, gets `-1`. -/
theorem runCall_failure_not_transparent :
    clobberingWorld.forkResult = .failed 11 ∧
      (∃ final, (runCall sampleConstants clobberingWorld sampleProc .fork).caller =
          .returns (-1) final ∧ final.errno = 4) ∧
      sampleWorld.execErrno = some 2 ∧
      (runCall sampleConstants sampleWorld sampleProc (.execve "/usr/bin/dmtcp_command".toList
          (some ["dmtcp_command".toList]) (some []))).caller.endedBy = some (.exited 0 []) ∧
      ∃ child, (runCall sampleConstants sampleWorld sampleProc
          (.execve "/usr/bin/dmtcp_command".toList (some ["dmtcp_command".toList])
            (some []))).child = some (.returns (-1) child) ∧ child.errno = 2 :=
  ⟨rfl, ⟨_, rfl, rfl⟩, rfl, rfl, _, rfl, rfl⟩

end Dmtcp
