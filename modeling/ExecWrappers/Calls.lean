/-
This file puts the wrappers of `execwrappers.cpp` behind one entry point, a call of any of them
on a process, and states the discipline of the wrapper-execution lock over what a call leaves in
each process it returns in: no release is issued without a hold, and a call that returns to its
caller has released every acquisition that acquired, or reset the locks in a fork child.

`fork`, `vfork` and `daemon` keep the discipline for every outcome of `_real_fork` and every
subscriber. `dmtcp_execvpe` keeps it on the paths that release, but not on two others: a
bypass-list program whose exec fails returns with the lock still held, and the short-lived path
releases even when the acquisition did not acquire, as its own comment warns. The last section
shows that these two are the only ones: every call keeps the discipline in every process it
leaves unless it reaches one of them, proved one stage of `dmtcp_execvpe` at a time.
-/

import ExecWrappers.Intercept
import ExecWrappers.Variadic

namespace Dmtcp

/-! ### Calls -/

/-- A call of one of the wrappers, with its arguments. -/
inductive Call
  | fork
  | vfork
  | daemon (nochdir noclose : Bool)
  | execve (filename : Str) (argv envp : Option (List Str))
  | execv (path : Str) (argv : Option (List Str))
  | execvp (filename : Str) (argv : Option (List Str))
  | execvpe (filename : Str) (argv envp : Option (List Str))
  | execl (path : Str) (arg : Option Str) (args : List VaArg)
  | execlp (file : Str) (arg : Option Str) (args : List VaArg)
  | execle (path : Str) (arg : Option Str) (args : List VaArg)
  | fexecve

/-- The wrapper a call runs. -/
def runCall (constants : Constants) (world : World) (proc : Proc) : Call → Result
  | .fork => fork constants world proc
  | .vfork => vfork constants world proc
  | .daemon nochdir noclose => daemon constants world proc nochdir noclose
  | .execve filename argv envp => execve constants world proc filename argv envp
  | .execv path argv => execv constants world proc path argv
  | .execvp filename argv => execvp constants world proc filename argv
  | .execvpe filename argv envp => execvpe constants world proc filename argv envp
  | .execl path arg args => execl constants world proc path arg args
  | .execlp file arg args => execlp constants world proc file arg args
  | .execle path arg args => execle constants world proc path arg args
  | .fexecve => fexecve proc

/-! ### The lock discipline -/

/-- The calls on the lock a wrapper call made in a process, which started from `before`. -/
def lockEvents (before proc : Proc) : List LockEvent :=
  proc.lockLog.drop before.lockLog.length

/-- The lock discipline in the process an outcome belongs to: a call that returns has used the
lock in matched pairs, and one that ends the process has issued no release without a hold. -/
def LockDiscipline (before : Proc) : Outcome → Prop
  | .returns _ proc => MatchedLockUse (lockEvents before proc)
  | .ends _ proc => (lockEvents before proc).foldl lockStep (some 0) ≠ none

instance : (before : Proc) → (outcome : Outcome) → Decidable (LockDiscipline before outcome)
  | _, .returns _ _ => inferInstanceAs (Decidable (MatchedLockUse _))
  | _, .ends _ _ => inferInstanceAs (Decidable (_ ≠ none))

/-- The lock discipline in the calling process and in the child, if the call forked. -/
def Result.LockDiscipline (before : Proc) (result : Result) : Prop :=
  Dmtcp.LockDiscipline before result.caller ∧
    ∀ child ∈ result.child, Dmtcp.LockDiscipline before child

theorem lockEvents_append (before : Proc) (events : List LockEvent) {proc : Proc}
    (logged : proc.lockLog = before.lockLog ++ events) : lockEvents before proc = events := by
  simp [lockEvents, logged]

/-- A call that used the lock in matched pairs issued no release without a hold. -/
theorem lockStep_ne_none_of_matched {events : List LockEvent} (matched : MatchedLockUse events) :
    events.foldl lockStep (some 0) ≠ none := by
  rw [matched]
  exact Option.some_ne_none 0

/-- An outcome whose lock use is matched keeps the discipline, whether it returns or ends. -/
theorem lockDiscipline_of_matched {before : Proc} {outcome : Outcome}
    (matched : MatchedLockUse (lockEvents before outcome.proc)) :
    LockDiscipline before outcome := by
  rcases outcome with ⟨value, proc⟩ | ⟨ending, proc⟩
  · exact matched
  · exact lockStep_ne_none_of_matched matched

/-- A call that returns having appended matched lock events to the log keeps the discipline. -/
theorem lockDiscipline_returns {before proc : Proc} {events : List LockEvent}
    (logged : proc.lockLog = before.lockLog ++ events) (matched : MatchedLockUse events)
    (value : Int) : LockDiscipline before (.returns value proc) := by
  show MatchedLockUse _
  rwa [lockEvents_append before events logged]

theorem daemonAfterFork_lockLog (world : World) (nochdir noclose : Bool) (value : Int)
    (proc : Proc) :
    (daemonAfterFork world nochdir noclose (.returns value proc)).proc.lockLog = proc.lockLog := by
  simp only [daemonAfterFork]
  cases world.setsidErrno <;> cases world.devNull <;>
    simp only [apply_ite Outcome.proc, apply_ite Proc.lockLog, Outcome.proc.eq_1, Outcome.proc.eq_2,
      ite_self]

/-- `daemon` keeps the discipline `fork` left: it changes no lock state, and a parent that had
matched its lock use exits. -/
theorem lockDiscipline_daemonAfterFork {before : Proc} (world : World) (nochdir noclose : Bool)
    {outcome : Outcome} (disciplined : LockDiscipline before outcome) :
    LockDiscipline before (daemonAfterFork world nochdir noclose outcome) := by
  rcases outcome with ⟨value, proc⟩ | ⟨ending, proc⟩
  · refine lockDiscipline_of_matched ?_
    rw [lockEvents, daemonAfterFork_lockLog]
    exact disciplined
  · exact disciplined

/-- `fork` keeps the lock discipline in both processes, on every path and for every outcome of
`_real_fork`. -/
theorem fork_lockDiscipline (constants : Constants) (world : World) (proc : Proc) :
    (fork constants world proc).LockDiscipline proc := by
  have released (value : Int) (other : Proc)
      (prepared : other.lockLog = proc.lockLog ++ [.lockExcl world.lockAcquired]) :
      LockDiscipline proc (.returns value (forkParentTail world world.lockAcquired other)) :=
    lockDiscipline_returns (by simp [prepared])
      (matchedLockUse_release world.lockAcquired) value
  cases bypass : isPerformingCkptRestart proc.workerState
  · cases forked : world.forkResult with
    | failed errno =>
      rw [fork_failed constants world proc bypass forked]
      exact ⟨released _ _ (by simp [forkPrepare]), by simp [Result.returning]⟩
    | created childPid =>
      rw [fork_created constants world proc bypass forked, pthreadAtforkChild_forkPrepare]
      refine ⟨released _ _ (by simp [forkPrepare]), ?_⟩
      simp only [Option.mem_def, Option.some.injEq, forall_eq']
      exact lockDiscipline_returns rfl (matchedLockUse_reset world.lockAcquired) 0
  · have handled (value : Int) (childPid : Nat) :
        LockDiscipline proc
          (.returns value (pthreadAtforkChild world { proc with pid := childPid })) :=
      lockDiscipline_returns (pthreadAtforkChild_lockLog world { proc with pid := childPid })
        (by cases proc.atforkEnabled <;> decide) value
    have untouched (value : Int) (other : Proc) (same : other.lockLog = proc.lockLog) :
        LockDiscipline proc (.returns value other) :=
      lockDiscipline_returns (by simp [same] : other.lockLog = proc.lockLog ++ []) (by decide) value
    simp only [fork, bypass, if_true]
    cases constants.aarch64 <;> rcases forked : world.forkResult with errno | childPid <;>
      simp [realFork, rawSyscallFork, forked, Result.returning, Result.LockDiscipline, handled,
        untouched]

/-- `daemon` keeps the lock discipline in both processes, on every path and for every outcome
of `_real_fork`. -/
theorem daemon_lockDiscipline (constants : Constants) (world : World) (proc : Proc)
    (nochdir noclose : Bool) :
    (daemon constants world proc nochdir noclose).LockDiscipline proc := by
  have forked := fork_lockDiscipline constants world proc
  refine ⟨lockDiscipline_daemonAfterFork world nochdir noclose forked.1, fun child member => ?_⟩
  obtain ⟨outcome, forkChild, rfl⟩ := Option.mem_map.1 member
  exact lockDiscipline_daemonAfterFork world nochdir noclose (forked.2 outcome forkChild)

/-- `fork`, `vfork` and `daemon` keep the lock discipline in every process, on every path, for
every outcome of `_real_fork` and every subscriber. -/
theorem forkCalls_lockDiscipline (constants : Constants) (world : World) (proc : Proc) :
    (runCall constants world proc .fork).LockDiscipline proc ∧
      (runCall constants world proc .vfork).LockDiscipline proc ∧
      ∀ nochdir noclose,
        (runCall constants world proc (.daemon nochdir noclose)).LockDiscipline proc := by
  have forked := fork_lockDiscipline constants world proc
  exact ⟨forked, forked, daemon_lockDiscipline constants world proc⟩

/-! ### Where `dmtcp_execvpe` breaks the discipline -/

/-- The sample collaborators with the lock taken by a writer: the exclusive acquisition does not
acquire. -/
def busyWorld : World := { sampleWorld with lockAcquired := false }

/-- A failed exec of `ssh`, a bypass-list program, returns with the lock it acquired still held;
and the short-lived path of `/lib/libc.so.6` releases a lock its acquisition did not acquire. -/
theorem runCall_breaks_lock_discipline :
    ¬ LockDiscipline sampleProc (runCall sampleConstants sampleWorld sampleProc
        (.execve "/usr/bin/ssh".toList (some ["ssh".toList]) (some []))).caller ∧
      ¬ LockDiscipline sampleProc (runCall sampleConstants busyWorld sampleProc
        (.execve "/lib/libc.so.6".toList (some ["libc.so.6".toList]) (some []))).caller := by
  constructor
  · rw [runCall, execve, dmtcpExecvpe_intercept _ _ _ _ (by decide) (by decide) (by decide),
      interceptExec_eq _ _ _ _ _ 4 rfl rfl (cString_strncpyPathMax (by decide) (by decide)),
      if_pos (by decide)]
    decide
  · rw [runCall, execve, dmtcpExecvpe_intercept _ _ _ _ (by decide) (by decide) (by decide),
      interceptExec_eq _ _ _ _ _ 4 rfl rfl (cString_strncpyPathMax (by decide) (by decide)),
      if_neg (by decide),
      execIntercepted_of_prepare_error
        (dmtcpPrepareForExec_lib _ _ _ ?lib (?reads : readStrings _ = .ok ["libc.so.6".toList]))]
    case lib => decide
    case reads => rfl
    decide

/-! ### Every other path keeps the discipline -/

/-- The targets `dmtcpPrepareForExec` hands to `execShortLivedProcessAndExit`. -/
def shortLivedTarget (path : Str) : Bool :=
  strStartsWith path libPrefix || strStartsWith path lib64Prefix || strEndsWith path utempterSuffix

/-- The two paths on which `dmtcp_execvpe` breaks the lock discipline: past the acquisition, the
subscribers leave the file name of a bypass-list program whose exec fails while the acquisition
acquired, or of a short-lived target while it did not. -/
def LockBreakingPath (constants : Constants) (world : World) (filename : Str)
    (argv envp : Option (List Str)) : Prop :=
  ∃ path, cString (world.preExec (copiedData constants filename argv envp)).filename = .ok path ∧
    ((baseName path ∈ bypassTools ∧ world.lockAcquired = true ∧ world.execErrno ≠ none) ∨
      (baseName path ∉ bypassTools ∧ world.lockAcquired = false ∧ shortLivedTarget path = true))

/-- A process that ends after the acquisition, with no release, keeps the discipline. -/
theorem lockDiscipline_ends_of_acquired {before proc : Proc} {acquired : Bool}
    (logged : proc.lockLog = before.lockLog ++ [.lockExcl acquired]) (ending : Ending) :
    LockDiscipline before (.ends ending proc) := by
  show (lockEvents before proc).foldl lockStep (some 0) ≠ none
  rw [lockEvents_append before _ logged]
  cases acquired <;> decide

theorem lockDiscipline_ending_of_acquired {before proc : Proc} {acquired : Bool}
    (logged : proc.lockLog = before.lockLog ++ [.lockExcl acquired]) (ending : Ending) :
    (Result.ending ending proc).LockDiscipline before :=
  ⟨lockDiscipline_ends_of_acquired logged ending, by simp [Result.ending]⟩

/-- A call that ends its process or returns without a call on the lock keeps the discipline. -/
theorem lockDiscipline_of_untouched {before : Proc} {outcome : Outcome}
    (same : outcome.proc.lockLog = before.lockLog) : LockDiscipline before outcome :=
  lockDiscipline_of_matched (by rw [lockEvents_append before [] (by simpa using same)]; decide)

theorem lockDiscipline_bind {α : Type} {before : Proc} {exception : Prop} {first : Stage α}
    {next : α → Stage Result}
    (stopped : ∀ result, first = .error result → result.LockDiscipline before ∨ exception)
    (continued : ∀ value, first = .ok value →
      (Stage.result (next value)).LockDiscipline before ∨ exception) :
    (Stage.result (first >>= next)).LockDiscipline before ∨ exception := by
  cases first with
  | error result => exact stopped result rfl
  | ok value => exact continued value rfl

/-- A stage that faults in a process whose only lock call is the acquisition keeps the
discipline. -/
theorem lockDiscipline_faultIn_bind {α : Type} {before proc : Proc} {acquired : Bool}
    {exception : Prop} {step : Except Fault α} {next : α → Stage Result}
    (logged : proc.lockLog = before.lockLog ++ [.lockExcl acquired])
    (continued : ∀ value, step = .ok value →
      (Stage.result (next value)).LockDiscipline before ∨ exception) :
    (Stage.result (faultIn proc step >>= next)).LockDiscipline before ∨ exception := by
  cases step with
  | error fault => exact .inl (lockDiscipline_ending_of_acquired logged _)
  | ok value => exact continued value rfl

/-- `dmtcpPrepareForExec` ends the call in a process whose only lock call is the acquisition,
or on the short-lived path, which releases. -/
theorem dmtcpPrepareForExec_error_lockDiscipline {constants : Constants} {world : World}
    {before proc : Proc} {acquired : Bool}
    (logged : proc.lockLog = before.lockLog ++ [.lockExcl acquired]) {path : Str}
    {argv : PointerArray} {result : Result}
    (ended : dmtcpPrepareForExec constants world proc path argv = .error result) :
    result.LockDiscipline before ∨ (acquired = false ∧ shortLivedTarget path = true) := by
  rcases dmtcpPrepareForExec_error_cases ended with ⟨fault, faulted, sameLog, rfl⟩ | ⟨short, args, rfl⟩
  · exact .inl (lockDiscipline_ending_of_acquired (sameLog.trans logged) _)
  cases acquired
  · exact .inr ⟨rfl, short⟩
  · refine .inl ⟨?_, by simp [execShortLivedProcessAndExit, Result.ending]⟩
    show (lockEvents before _).foldl lockStep (some 0) ≠ none
    rw [lockEvents_append before [.lockExcl true, .unlock]
      (by simp [execShortLivedProcessAndExit, Result.ending, logged])]
    decide

/-- Past `dmtcpPrepareForExec` every path ends in a process whose only lock call is the
acquisition, or returns after the release. -/
theorem execIntercepted_lockDiscipline {constants : Constants} {world : World}
    {before proc : Proc} {acquired : Bool}
    (logged : proc.lockLog = before.lockLog ++ [.lockExcl acquired]) (maxEnv : Nat) (path : Str)
    (data : PreExec) :
    (Stage.result (execIntercepted constants world proc acquired maxEnv path data)).LockDiscipline
        before ∨
      (acquired = false ∧ shortLivedTarget path = true) := by
  unfold execIntercepted
  refine lockDiscipline_bind (fun result failed => dmtcpPrepareForExec_error_lockDiscipline logged
    failed) fun ⟨newFilename, newArgv, prepared⟩ ready => ?_
  have preparedLog : prepared.lockLog = before.lockLog ++ [.lockExcl acquired] := by
    rw [dmtcpPrepareForExec_ok ready]
    exact logged
  dsimp only
  refine lockDiscipline_faultIn_bind preparedLog fun env _ => ?_
  refine lockDiscipline_faultIn_bind preparedLog fun ⟨newEnvStrings, environ⟩ _ => ?_
  dsimp only
  refine lockDiscipline_faultIn_bind preparedLog fun newEnv _ => ?_
  cases newFilename with
  | none =>
    simp only [throw, throwThe, MonadExceptOf.throw, Stage.result]
    exact .inl (lockDiscipline_ending_of_acquired (by exact preparedLog) _)
  | some newFilename =>
    dsimp only
    refine lockDiscipline_faultIn_bind preparedLog fun argv _ => ?_
    refine lockDiscipline_faultIn_bind preparedLog fun envp _ => ?_
    cases failed : world.execErrno with
    | none =>
      simp only [realExecvpe, failed, pure, Except.pure, Stage.result]
      exact .inl ⟨lockDiscipline_ends_of_acquired (by exact preparedLog) _, fun _ member => by
        cases member⟩
    | some errno =>
      simp only [realExecvpe, failed]
      refine lockDiscipline_bind (fun result closeFailed => ?_) fun final closed => ?_
      · unfold dmtcpProcessFailedExec at closeFailed
        dsimp only at closeFailed
        split_ifs at closeFailed
        · cases closeFailed
        · cases closeFailed
          exact .inl (lockDiscipline_ending_of_acquired (by exact preparedLog) _)
      · have finalLog : final.lockLog = before.lockLog ++ [.lockExcl acquired] := by
          unfold dmtcpProcessFailedExec at closed
          dsimp only at closed
          split_ifs at closed
          cases closed
          exact preparedLog
        simp only [pure, Except.pure, Stage.result, Result.returning]
        exact .inl ⟨lockDiscipline_returns (by simp [Proc.releaseExcl_eq, finalLog])
          (matchedLockUse_release acquired) _, fun _ member => by cases member⟩

/-- Past the acquisition, the interception keeps the discipline but on the two breaking
paths. -/
theorem interceptExec_lockDiscipline (constants : Constants) (world : World) (proc : Proc)
    (filename : Str) (argv envp : Option (List Str)) :
    (Stage.result (interceptExec constants world proc filename argv envp)).LockDiscipline proc ∨
      LockBreakingPath constants world filename argv envp := by
  unfold interceptExec
  refine lockDiscipline_faultIn_bind rfl fun data copied => ?_
  rw [preExecData_eq, Except.ok.injEq] at copied
  subst copied
  refine lockDiscipline_faultIn_bind rfl fun fds _ => ?_
  refine lockDiscipline_faultIn_bind rfl fun path named => ?_
  dsimp only
  split_ifs with bypass
  · refine lockDiscipline_faultIn_bind rfl fun args _ => ?_
    refine lockDiscipline_faultIn_bind rfl fun envs _ => ?_
    cases failed : world.execErrno with
    | none =>
      simp only [realExecvpe, failed, pure, Except.pure, Stage.result]
      exact .inl ⟨lockDiscipline_ends_of_acquired rfl _, fun _ member => by cases member⟩
    | some errno =>
      simp only [realExecvpe, failed, pure, Except.pure, Stage.result]
      cases acquired : world.lockAcquired
      · exact .inl ⟨lockDiscipline_returns (by simp [acquired])
          (show MatchedLockUse [.lockExcl false] by decide) _, fun _ member => by cases member⟩
      · exact .inr ⟨path, named, .inl ⟨bypass, acquired, by simp [failed]⟩⟩
  · exact (execIntercepted_lockDiscipline (by exact rfl) _ path _).elim .inl
      fun ⟨unacquired, short⟩ => .inr ⟨path, named, .inr ⟨bypass, unacquired, short⟩⟩

@[simp]
theorem realExecvpe_lockLog (world : World) (proc : Proc) (filename : Str) (argv envp : List Str) :
    (realExecvpe world proc filename argv envp).proc.lockLog = proc.lockLog := by
  unfold realExecvpe
  cases world.execErrno <;> rfl

theorem relaunchAfterFork_lockLog (world : World) (filename : Str) (argv envp : Option (List Str))
    (outcome : Outcome) :
    (relaunchAfterFork world filename argv envp outcome).proc.lockLog = outcome.proc.lockLog := by
  rcases outcome with ⟨cpid, proc⟩ | ⟨ending, proc⟩
  · simp only [relaunchAfterFork]
    split_ifs
    · rfl
    · rfl
    · exact realExecvpe_lockLog ..
  · rfl

/-- `dmtcp_execvpe` keeps the lock discipline in every process, but on the two breaking paths:
the checkpoint bypass and the refusal of DMTCP's own programs make no lock call, the relaunch of
`dmtcp_command` only the child handler's reset, and the interception keeps it elsewhere. -/
theorem dmtcpExecvpe_lockDiscipline (constants : Constants) (world : World) (proc : Proc)
    (filename : Str) (argv envp : Option (List Str)) :
    (dmtcpExecvpe constants world proc filename argv envp).LockDiscipline proc ∨
      isPerformingCkptRestart proc.workerState = false ∧
        LockBreakingPath constants world filename argv envp := by
  unfold dmtcpExecvpe
  dsimp only
  split_ifs with bypass
  · exact .inl ⟨lockDiscipline_of_untouched (realExecvpe_lockLog ..), fun _ member => by cases member⟩
  · exact .inl ⟨lockDiscipline_of_untouched rfl, fun _ member => by cases member⟩
  · refine .inl ⟨lockDiscipline_of_untouched ?_, fun child member => ?_⟩
    · rw [relaunchCommand, relaunchAfterFork_lockLog]
      unfold realFork
      cases world.forkResult <;> rfl
    · obtain ⟨forked, forkChild, rfl⟩ := Option.mem_map.1 member
      refine lockDiscipline_of_matched ?_
      rw [lockEvents, relaunchAfterFork_lockLog]
      cases created : world.forkResult with
      | failed errno =>
        simp only [realFork, created, Result.returning, Option.mem_def, reduceCtorEq] at forkChild
      | created childPid =>
        simp only [realFork, created, Option.mem_def, Option.some.injEq] at forkChild
        subst forkChild
        rw [← lockEvents, Outcome.proc.eq_1, lockEvents_append proc _ (pthreadAtforkChild_lockLog world
          { proc.realClose constants.protectedCoordFd with pid := childPid })]
        split <;> decide
  · exact (interceptExec_lockDiscipline constants world proc filename argv envp).imp_right
      fun breaking => ⟨Bool.eq_false_iff.2 bypass, breaking⟩

/-- `dmtcp_execlpe` keeps the lock discipline, or calls `dmtcp_execvpe` on a breaking path. -/
theorem dmtcpExeclpe_lockDiscipline (constants : Constants) (world : World) (proc : Proc)
    (filename : Str) (arg : Option Str) (args : List VaArg) (envp : Option (List Str)) :
    (dmtcpExeclpe constants world proc filename arg args envp).LockDiscipline proc ∨
      ∃ argv envp', dmtcpExeclpe constants world proc filename arg args envp =
          dmtcpExecvpe constants world proc filename argv envp' ∧
        isPerformingCkptRestart proc.workerState = false ∧
        LockBreakingPath constants world filename argv envp' := by
  have untouchedEnding (ending : Ending) : (Result.ending ending proc).LockDiscipline proc :=
    ⟨lockDiscipline_of_untouched rfl, fun _ member => by cases member⟩
  unfold dmtcpExeclpe
  rcases collectArgv world (initialArgv arg) 0 args with fault | ⟨argv, rest⟩ | _
  · exact .inl (untouchedEnding _)
  · dsimp only
    rcases envpOrNext envp rest with fault | envp' <;> rcases readStrings argv.slots with fault' | strings
    · exact .inl (untouchedEnding _)
    · exact .inl (untouchedEnding _)
    · exact .inl (untouchedEnding _)
    · exact (dmtcpExecvpe_lockDiscipline constants world proc filename _ envp').imp_right
        fun ⟨running, breaking⟩ => ⟨_, envp', rfl, running, breaking⟩
  · exact .inl ⟨lockDiscipline_of_untouched rfl, fun _ member => by cases member⟩

/-- Every wrapper call keeps the lock discipline in every process it leaves, for every outcome
of the operating-system calls and every behaviour of the subscribers, unless it reaches
`dmtcp_execvpe`'s interception on one of the two breaking paths: a bypass-list program whose
exec fails while the acquisition acquired, or a short-lived target while it did not. -/
theorem runCall_lockDiscipline_or_breakingPath (constants : Constants) (world : World)
    (proc : Proc) (call : Call) :
    (runCall constants world proc call).LockDiscipline proc ∨
      ∃ filename argv envp, runCall constants world proc call =
          dmtcpExecvpe constants world proc filename argv envp ∧
        isPerformingCkptRestart proc.workerState = false ∧
        LockBreakingPath constants world filename argv envp := by
  have forked := fork_lockDiscipline constants world proc
  cases call with
  | fork => exact .inl forked
  | vfork => exact .inl forked
  | daemon nochdir noclose => exact .inl (daemon_lockDiscipline constants world proc nochdir noclose)
  | execve filename argv envp | execvpe filename argv envp =>
    exact (dmtcpExecvpe_lockDiscipline constants world proc filename argv envp).imp_right
      fun breaking => ⟨_, _, _, rfl, breaking⟩
  | execv filename argv | execvp filename argv =>
    exact (dmtcpExecvpe_lockDiscipline constants world proc filename argv proc.environ).imp_right
      fun breaking => ⟨_, _, _, rfl, breaking⟩
  | execl filename arg args | execlp filename arg args =>
    exact (dmtcpExeclpe_lockDiscipline constants world proc filename arg args proc.environ).imp_right
      fun ⟨argv, envp, same, breaking⟩ => ⟨filename, argv, envp, same, breaking⟩
  | execle filename arg args =>
    exact (dmtcpExeclpe_lockDiscipline constants world proc filename arg args none).imp_right
      fun ⟨argv, envp, same, breaking⟩ => ⟨filename, argv, envp, same, breaking⟩
  | fexecve => exact .inl ⟨lockDiscipline_of_untouched rfl, fun _ member => by cases member⟩

end Dmtcp
