/-
This file models the fork side of `execwrappers.cpp`: `pthread_atfork_child`, the child handler
`DmtcpWorker` registers first so that it runs first in every child `libc` forks; `_real_fork`
with that handler; and the wrappers `fork`, `vfork` and `daemon`.

On the RUNNING path `fork` takes the lock, publishes `ATFORK_PREPARE`, records `child_time`,
opens the child's coordinator connection, enables the child handler and forks. Parent and child
then compute the child's identity separately, the parent for `ProcessInfo::insertChild` and the
child for `UniquePid::resetOnFork`, from values fixed before the fork. The parent closes the
child's connection, publishes `ATFORK_PARENT` and releases the lock; the child has reset the
locks in its handler instead. The lemmas here give each branch in closed form.

`daemon` forks through the wrapper and then detaches: the caller never goes on once a child
exists, and the child sends its standard descriptors to `/dev/null` without keeping the
descriptor it opened.
-/

import ExecWrappers.Process

namespace Dmtcp

/-! ### The child handler and `_real_fork` -/

/-- `pthread_atfork_child()`. When the fork wrapper has enabled it, it disables itself, resets
the locks, installs the identity made of the copied parent identity's host id, the child's pid
and `child_time`, resets `ProcessInfo`, and hands `childCoordinatorSocket` to
`CoordinatorAPI::resetOnFork`. Otherwise it does nothing. -/
def pthreadAtforkChild (world : World) (proc : Proc) : Proc :=
  if proc.atforkEnabled then
    { proc.logLock .resetLocks with
      atforkEnabled := false
      identity := ⟨proc.identity.hostid, proc.pid, proc.childTime⟩
      children := world.resetChildren proc.children
      coordinatorSocket := proc.childCoordinatorSocket }
  else proc

/-- `_real_fork()`: `-1` with `errno`, or the child's pid in the parent and `0` in a child that
is a copy of the parent with its own pid, in which the child handler has run. -/
def realFork (world : World) (proc : Proc) : Result :=
  match world.forkResult with
  | .failed errno => Result.returning (-1) { proc with errno }
  | .created childPid =>
    ⟨.returns childPid proc,
      some (.returns 0 (pthreadAtforkChild world { proc with pid := childPid }))⟩

/-- `_real_syscall(SYS_fork)`: the system call, which runs no fork handler. -/
def rawSyscallFork (world : World) (proc : Proc) : Result :=
  match world.forkResult with
  | .failed errno => Result.returning (-1) { proc with errno }
  | .created childPid =>
    ⟨.returns childPid proc, some (.returns 0 { proc with pid := childPid })⟩

/-! ### `fork`, `vfork` and `daemon` -/

/-- The descriptor `CoordinatorAPI::createNewConnectionBeforeFork` opens. -/
def openFd (fds : Nat → Option Bool) (fd : Int) : Nat → Option Bool :=
  if 0 ≤ fd then Function.update fds fd.toNat (some false) else fds

/-- `fork()` on the RUNNING path up to `_real_fork`: the lock, `ATFORK_PREPARE`, `child_time`,
the child's coordinator connection, and the child handler enabled. -/
def forkPrepare (world : World) (proc : Proc) : Proc :=
  let proc := proc.logLock (.lockExcl world.lockAcquired)
  { proc with
    errno := world.hookErrno .atforkPrepare proc.errno
    childTime := world.now
    childCoordinatorSocket := world.newConnection
    fds := openFd proc.fds world.newConnection
    atforkEnabled := true }

/-- `fork()` in the process `_real_fork` returned a pid or `-1` to: the child handler disabled,
`_real_close` of the child's connection, `ATFORK_PARENT`, and the release. -/
def forkParentTail (world : World) (acquired : Bool) (proc : Proc) : Proc :=
  let proc := { proc with atforkEnabled := false }.realClose proc.childCoordinatorSocket
  ({ proc with errno := world.hookErrno .atforkParent proc.errno } : Proc).releaseExcl acquired

/-- `fork()`. During a checkpoint or a restart it is the bare system call (`_real_fork` on
`aarch64`); otherwise the parent records the child's identity with `insertChild` and the child,
whose handler has run, returns `0` with the handler disabled. -/
def fork (constants : Constants) (world : World) (proc : Proc) : Result :=
  if isPerformingCkptRestart proc.workerState then
    if constants.aarch64 then realFork world proc else rawSyscallFork world proc
  else
    let acquired := world.lockAcquired
    let proc := forkPrepare world proc
    let host := proc.identity.hostid
    match world.forkResult with
    | .failed errno => Result.returning (-1) (forkParentTail world acquired { proc with errno })
    | .created childPid =>
      let parent := { proc with
        children := proc.children ++ [(childPid, ⟨host, childPid, proc.childTime⟩)] }
      let child := pthreadAtforkChild world { proc with pid := childPid }
      ⟨.returns childPid (forkParentTail world acquired parent),
        some (.returns 0 { child with atforkEnabled := false })⟩

/-- `vfork()`, which calls the `fork` wrapper. -/
def vfork (constants : Constants) (world : World) (proc : Proc) : Result :=
  fork constants world proc

/-- `ENODEV`. -/
def enodev : Int := 19

/-- `daemon` after `fork()` returned in one of the two processes: `-1` is returned, the parent
calls `_exit(0)`, and the child calls `setsid`, `chdir("/")` unless `nochdir`, and sends its
standard descriptors to `/dev/null` unless `noclose`. -/
def daemonAfterFork (world : World) (nochdir noclose : Bool) : Outcome → Outcome
  | .returns value proc =>
    if value = -1 then .returns (-1) proc
    else if value ≠ 0 then .ends (.exited 0 []) proc
    else match world.setsidErrno with
      | some errno => .returns (-1) { proc with errno }
      | none =>
        if !nochdir && !world.chdirOk then .ends (.fault .assertion) proc
        else if noclose then .returns 0 proc
        else match world.devNull with
          | none => .returns (-1) { proc with errno := enodev }
          | some fd =>
            let fds := Function.update proc.fds fd (some false)
            let fds := Function.update (Function.update (Function.update fds 0 (some false)) 1
              (some false)) 2 (some false)
            .returns 0 { proc with fds := if fd > 2 then Function.update fds fd none else fds }
  | outcome => outcome

/-- `daemon(nochdir, noclose)`. -/
def daemon (constants : Constants) (world : World) (proc : Proc) (nochdir noclose : Bool) :
    Result :=
  let forked := fork constants world proc
  ⟨daemonAfterFork world nochdir noclose forked.caller,
    forked.child.map (daemonAfterFork world nochdir noclose)⟩

/-! ### The branches of `fork` in closed form -/

section ParentTail

variable (world : World) (acquired : Bool) (proc : Proc)

@[simp] theorem forkParentTail_atforkEnabled :
    (forkParentTail world acquired proc).atforkEnabled = false := by
  cases acquired <;> rfl

@[simp] theorem forkParentTail_pid : (forkParentTail world acquired proc).pid = proc.pid := by
  cases acquired <;> rfl

@[simp] theorem forkParentTail_identity :
    (forkParentTail world acquired proc).identity = proc.identity := by
  cases acquired <;> rfl

@[simp] theorem forkParentTail_children :
    (forkParentTail world acquired proc).children = proc.children := by
  cases acquired <;> rfl

@[simp] theorem forkParentTail_coordinatorSocket :
    (forkParentTail world acquired proc).coordinatorSocket = proc.coordinatorSocket := by
  cases acquired <;> rfl

@[simp] theorem forkParentTail_lockLog :
    (forkParentTail world acquired proc).lockLog =
      proc.lockLog ++ if acquired then [.unlock] else [] := by
  cases acquired <;> simp [forkParentTail, Proc.releaseExcl, Proc.logLock, Proc.realClose]

end ParentTail

@[simp] theorem pthreadAtforkChild_of_disabled (world : World) {proc : Proc}
    (disabled : proc.atforkEnabled = false) : pthreadAtforkChild world proc = proc := by
  simp [pthreadAtforkChild, disabled]

theorem pthreadAtforkChild_lockLog (world : World) (proc : Proc) :
    (pthreadAtforkChild world proc).lockLog =
      proc.lockLog ++ if proc.atforkEnabled then [.resetLocks] else [] := by
  unfold pthreadAtforkChild
  split <;> simp [*, Proc.logLock]

theorem fork_failed (constants : Constants) (world : World) (proc : Proc)
    (running : isPerformingCkptRestart proc.workerState = false) {errno : Int}
    (failed : world.forkResult = .failed errno) :
    fork constants world proc =
      Result.returning (-1) (forkParentTail world world.lockAcquired
        { forkPrepare world proc with errno }) := by
  simp [fork, running, failed]

theorem fork_created (constants : Constants) (world : World) (proc : Proc)
    (running : isPerformingCkptRestart proc.workerState = false) {childPid : Nat}
    (created : world.forkResult = .created childPid) :
    fork constants world proc =
      ⟨.returns childPid (forkParentTail world world.lockAcquired
          { forkPrepare world proc with
            children :=
              proc.children ++ [(childPid, ⟨proc.identity.hostid, childPid, world.now⟩)] }),
        some (.returns 0 { pthreadAtforkChild world { forkPrepare world proc with pid := childPid }
          with atforkEnabled := false })⟩ := by
  simp [fork, running, created, forkPrepare, Proc.logLock]

/-- In the child of a RUNNING-path fork, the handler has run: it reset the locks, installed the
identity of the parent's host id, the child's pid and `child_time`, and took over the child's
coordinator connection. -/
theorem pthreadAtforkChild_forkPrepare (world : World) (proc : Proc) (childPid : Nat) :
    pthreadAtforkChild world { forkPrepare world proc with pid := childPid } =
      { forkPrepare world proc with
        pid := childPid
        lockLog := proc.lockLog ++ [.lockExcl world.lockAcquired, .resetLocks]
        atforkEnabled := false
        identity := ⟨proc.identity.hostid, childPid, world.now⟩
        children := world.resetChildren proc.children
        coordinatorSocket := world.newConnection } := by
  simp [pthreadAtforkChild, forkPrepare, Proc.logLock]

/-! ### What parent and child agree on -/

/-- On the RUNNING path, for every outcome of `_real_fork`: parent and child agree on the
child's identity, made of the parent's host id, the child's pid and `child_time`; the child's
coordinator connection is closed in the parent, which keeps its own, and taken over by the child;
and the child handler is disabled in both processes, so that it leaves a later fork's child of
either as it is. -/
theorem fork_running_agreement (constants : Constants) (world : World) (proc : Proc)
    (running : isPerformingCkptRestart proc.workerState = false) :
    (∀ childPid, world.forkResult = .created childPid →
      ∃ parent child,
        fork constants world proc = ⟨.returns childPid parent, some (.returns 0 child)⟩ ∧
        parent.children = proc.children ++ [(childPid, child.identity)] ∧
        child.identity = ⟨proc.identity.hostid, childPid, world.now⟩ ∧
        child.coordinatorSocket = world.newConnection ∧
        parent.coordinatorSocket = proc.coordinatorSocket) ∧
    (0 ≤ world.newConnection →
      (fork constants world proc).caller.proc.fds world.newConnection.toNat = none) ∧
    (∀ outcome ∈
        (fork constants world proc).caller :: (fork constants world proc).child.toList,
      outcome.proc.atforkEnabled = false ∧
      ∀ later childPid, pthreadAtforkChild later { outcome.proc with pid := childPid } =
        { outcome.proc with pid := childPid }) := by
  refine ⟨fun childPid created => ?_, fun opened => ?_, fun outcome member => ?_⟩
  · refine ⟨_, _, fork_created constants world proc running created, ?_, ?_, ?_, ?_⟩ <;>
      simp [pthreadAtforkChild, forkPrepare, Proc.logLock]
  · cases forked : world.forkResult with
    | failed errno =>
      simp [fork_failed constants world proc running forked, forkParentTail, Proc.releaseExcl_eq,
        Proc.realClose, closeFd, openFd, opened, Outcome.proc, forkPrepare]
    | created childPid =>
      simp [fork_created constants world proc running forked, forkParentTail, Proc.releaseExcl_eq,
        Proc.realClose, closeFd, openFd, opened, Outcome.proc, forkPrepare]
  · have disabled : outcome.proc.atforkEnabled = false := by
      cases forked : world.forkResult with
      | failed errno =>
        simp only [fork_failed constants world proc running forked, Result.returning,
          Option.toList_none, List.mem_singleton] at member
        subst member
        simp [Outcome.proc]
      | created childPid =>
        simp only [fork_created constants world proc running forked, Option.toList_some,
          List.mem_cons, List.mem_singleton, List.not_mem_nil, or_false] at member
        rcases member with rfl | rfl <;> simp [Outcome.proc]
    exact ⟨disabled, fun later childPid => pthreadAtforkChild_of_disabled later disabled⟩

theorem fork_running_agreement_sample :
    isPerformingCkptRestart sampleProc.workerState = false ∧
    (∀ childPid, sampleWorld.forkResult = .created childPid →
      ∃ parent child,
        fork sampleConstants sampleWorld sampleProc =
          ⟨.returns childPid parent, some (.returns 0 child)⟩ ∧
        parent.children = sampleProc.children ++ [(childPid, child.identity)] ∧
        child.identity = ⟨sampleProc.identity.hostid, childPid, sampleWorld.now⟩ ∧
        child.coordinatorSocket = sampleWorld.newConnection ∧
        parent.coordinatorSocket = sampleProc.coordinatorSocket) ∧
    (0 ≤ sampleWorld.newConnection →
      (fork sampleConstants sampleWorld sampleProc).caller.proc.fds
        sampleWorld.newConnection.toNat = none) ∧
    (∀ outcome ∈ (fork sampleConstants sampleWorld sampleProc).caller ::
        (fork sampleConstants sampleWorld sampleProc).child.toList,
      outcome.proc.atforkEnabled = false ∧
      ∀ later childPid, pthreadAtforkChild later { outcome.proc with pid := childPid } =
        { outcome.proc with pid := childPid }) :=
  ⟨rfl, fork_running_agreement sampleConstants sampleWorld sampleProc rfl⟩

/-! ### `daemon` detaches -/

/-- A `fork` whose `_real_fork` created a child returns the child's pid in the caller and `0` in
the child, on every path. -/
theorem fork_of_created (constants : Constants) (world : World) (proc : Proc) {childPid : Nat}
    (created : world.forkResult = .created childPid) :
    ∃ parent child,
      fork constants world proc = ⟨.returns childPid parent, some (.returns 0 child)⟩ := by
  cases running : isPerformingCkptRestart proc.workerState
  · exact ⟨_, _, fork_created constants world proc running created⟩
  · simp only [fork, running, if_true]
    cases constants.aarch64 <;> simp [realFork, rawSyscallFork, created]

/-- `dup2` of one descriptor onto standard input, output and error. -/
theorem update_standard_apply (fds : Nat → Option Bool) (value : Option Bool) (fd : Nat) :
    Function.update (Function.update (Function.update fds 0 value) 1 value) 2 value fd =
      if fd ≤ 2 then value else fds fd := by
  rcases fd with _ | _ | _ | fd <;> rfl

/-- The descriptors after `daemon` sent standard input, output and error to `/dev/null`'s
descriptor `null` and closed `null` above `2`. -/
theorem devNull_fds_apply (fds : Nat → Option Bool) (null fd : Nat) :
    (if null > 2 then
      Function.update (Function.update (Function.update (Function.update
        (Function.update fds null (some false)) 0 (some false)) 1 (some false)) 2 (some false))
        null none
    else Function.update (Function.update (Function.update
        (Function.update fds null (some false)) 0 (some false)) 1 (some false)) 2 (some false)) fd =
      if fd ≤ 2 then some false else if null = fd then none else fds fd := by
  by_cases big : null > 2
  · rw [if_pos big, Function.update_apply, update_standard_apply, Function.update_apply]
    split_ifs <;> first | rfl | omega
  · rw [if_neg big, update_standard_apply, Function.update_apply]
    split_ifs <;> first | rfl | omega

/-- The descriptors of a `daemon` child that returns `0`. -/
theorem daemonAfterFork_fds (world : World) (nochdir noclose : Bool) {forked descendant : Proc}
    (returned : daemonAfterFork world nochdir noclose (.returns 0 forked) = .returns 0 descendant)
    (fd : Nat) :
    descendant.fds fd =
      if noclose then forked.fds fd
      else if fd ≤ 2 then some false
      else if world.devNull = some fd then none else forked.fds fd := by
  simp only [daemonAfterFork, if_neg (by decide : (0 : Int) ≠ -1), ne_eq, not_true_eq_false,
    if_false] at returned
  cases setsid : world.setsidErrno with
  | some errno => simp only [setsid] at returned; cases returned
  | none =>
    simp only [setsid] at returned
    split_ifs at returned with chdirFailed closeKept
    · cases returned
      simp [closeKept]
    · cases null : world.devNull with
      | none => simp only [null] at returned; cases returned
      | some nullFd =>
        simp only [null, Outcome.returns.injEq, true_and] at returned
        subst returned
        simp only [if_neg closeKept, Option.some.injEq]
        exact devNull_fds_apply forked.fds nullFd fd

/-- `daemon` detaches, on every path and for every subscriber: once `_real_fork` created a child,
the calling process ends with `_exit(0)` in the state `fork` left it, and a child that returns
`0` has, unless `noclose`, standard input, output and error open without `FD_CLOEXEC`, does not
keep the descriptor `/dev/null` was opened on beyond them, and keeps every other descriptor
`fork` left it. -/
theorem daemon_detaches (constants : Constants) (world : World) (proc : Proc)
    (nochdir noclose : Bool) {childPid : Nat} (created : world.forkResult = .created childPid)
    (positive : 0 < childPid) :
    ∃ parent forked,
      fork constants world proc = ⟨.returns childPid parent, some (.returns 0 forked)⟩ ∧
      (daemon constants world proc nochdir noclose).caller = .ends (.exited 0 []) parent ∧
      ∀ descendant, (daemon constants world proc nochdir noclose).child =
          some (.returns 0 descendant) →
        ∀ fd, descendant.fds fd =
          if noclose then forked.fds fd
          else if fd ≤ 2 then some false
          else if world.devNull = some fd then none else forked.fds fd := by
  obtain ⟨parent, forked, forkEq⟩ := fork_of_created constants world proc created
  have nonzero : (childPid : Int) ≠ 0 := by omega
  have notFailed : (childPid : Int) ≠ -1 := by omega
  refine ⟨parent, forked, forkEq, ?_, fun descendant returned => ?_⟩
  · simp [daemon, forkEq, daemonAfterFork, nonzero, notFailed]
  · simp only [daemon, forkEq, Option.map_some', Option.some.injEq] at returned
    exact daemonAfterFork_fds world nochdir noclose returned

theorem daemon_detaches_sample :
    sampleWorld.forkResult = .created 101 ∧ 0 < 101 ∧
      ∃ parent forked,
        fork sampleConstants sampleWorld sampleProc =
          ⟨.returns 101 parent, some (.returns 0 forked)⟩ ∧
        (daemon sampleConstants sampleWorld sampleProc false false).caller =
          .ends (.exited 0 []) parent ∧
        ∀ descendant, (daemon sampleConstants sampleWorld sampleProc false false).child =
            some (.returns 0 descendant) →
          ∀ fd, descendant.fds fd =
            if false then forked.fds fd
            else if fd ≤ 2 then some false
            else if sampleWorld.devNull = some fd then none else forked.fds fd :=
  ⟨rfl, by decide,
    daemon_detaches sampleConstants sampleWorld sampleProc false false rfl (by decide)⟩

end Dmtcp
