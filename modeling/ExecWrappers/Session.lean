/-
This file models a checkpoint session on one host as a state machine whose processes call the
`fork` wrapper. A step advances the clock `time(NULL)` reads, ends a live process, or lets a live
process on the RUNNING path call `fork()` with collaborators of its own: whether its acquisition
of the lock acquired, what `_real_fork` returned, what the subscribers did. When `_real_fork`
creates a child, the operating system gives it a pid that no live process holds, and the session
records the fork: the child's pid, the time `child_time` recorded, and the identity the child
installed.

The invariant every reachable session keeps is that each process's identity, live or exited,
carries the session's host and the process's own pid; that no two live processes share a pid;
and that every fork's identity is `UniquePid(host, childPid, child_time)`, with `child_time` the
clock at that fork and the forks in the order of the clock. So the identities of the processes
live at any moment are pairwise distinct, and two forks' identities are equal exactly when the
children got one pid in one second. The identity of a process that has exited is not protected:
the operating system may hand its pid to a new child within the same second, and the run below
does that.

Every step also keeps every process, live or exited, free of the wrapper-execution lock between
calls: the parent releases what its acquisition acquired, and the child resets the locks it
inherits in `pthread_atfork_child`. Both invariants follow from one run lemma over the steps.
-/

import ExecWrappers.Fork

namespace Dmtcp

/-! ### Sessions -/

/-- A fork of the session: the child's pid, the value of `time(NULL)` that `fork()` recorded in
`child_time`, and the identity the child installed. -/
structure ForkRecord where
  pid : Nat
  time : Nat
  identity : UniquePid
deriving DecidableEq, Repr

/-- A checkpoint session on one host: the time `time(NULL)` reads, the live processes, the
processes that have exited in their state at exit, and every fork, oldest first. -/
structure Session where
  clock : Nat
  live : List Proc
  exited : List Proc
  forks : List ForkRecord

/-- A step of a session. -/
inductive SessionStep
  /-- `time(NULL)` advances by some seconds. -/
  | tick (seconds : Nat)
  /-- The live process with this pid exits. -/
  | exit (pid : Nat)
  /-- The live process with pid `parent` calls `fork()` with the collaborators `world`, whose
  `time(NULL)` reads the session's clock. -/
  | fork (parent : Nat) (world : World)

/-- Whether `_real_fork` gives the child a pid that a live process holds, which the operating
system never does. -/
def ForkResult.takesPid (live : List Proc) : ForkResult → Bool
  | .created childPid => (live.map (·.pid)).contains childPid
  | .failed _ => false

/-- The session after the live process `parentPid` returned from `fork()` in the state
`parent`, with the children the call created. -/
def Session.afterFork (session : Session) (parentPid : Nat) (parent : Proc)
    (children : List Proc) : Session :=
  { session with
    live := session.live.map (fun proc => if proc.pid = parentPid then parent else proc) ++
      children
    forks := session.forks ++ children.map fun child =>
      ⟨child.pid, session.clock, child.identity⟩ }

/-- One step of a session, `none` when it is not a step of the session: only a live process on
the RUNNING path forks, and the operating system gives a child a pid no live process holds. -/
def sessionStep (constants : Constants) (session : Session) : SessionStep → Option Session
  | .tick seconds => some { session with clock := session.clock + seconds }
  | .exit pid => some { session with
      live := session.live.filter (·.pid != pid)
      exited := session.exited ++ session.live.filter (·.pid == pid) }
  | .fork parentPid world =>
    let world := { world with now := session.clock }
    match session.live.find? (·.pid == parentPid) with
    | none => none
    | some parent =>
      if isPerformingCkptRestart parent.workerState || world.forkResult.takesPid session.live
      then none
      else match fork constants world parent with
        | ⟨.returns _ parent, child⟩ =>
          some (session.afterFork parentPid parent (child.map Outcome.proc).toList)
        | _ => none

/-- A run of a session through a list of steps, `none` when one of them is not a step. -/
def runSession (constants : Constants) : Session → List SessionStep → Option Session
  | session, [] => some session
  | session, step :: steps =>
    (sessionStep constants session step).bind fun next => runSession constants next steps

/-- A property that every step keeps holds at the end of every run. -/
theorem runSession_of_step {constants : Constants} (Holds : Session → Prop)
    (kept : ∀ {session next : Session} {step : SessionStep}, Holds session →
      sessionStep constants session step = some next → Holds next)
    (steps : List SessionStep) :
    ∀ {session final : Session}, Holds session →
      runSession constants session steps = some final → Holds final := by
  induction steps with
  | nil =>
    intro session final holds ran
    cases ran
    exact holds
  | cons step steps inductionHypothesis =>
    intro session final holds ran
    simp only [runSession] at ran
    rcases stepped : sessionStep constants session step with _ | next
    · simp [stepped] at ran
    · rw [stepped, Option.some_bind] at ran
      exact inductionHypothesis (kept holds stepped) ran

/-! ### What a step does -/

/-- An exit step moves the processes with that pid from the live ones to the exited ones. -/
theorem mem_of_exit {session : Session} {pid : Nat} {proc : Proc}
    (member : proc ∈ session.live.filter (·.pid != pid) ++
      (session.exited ++ session.live.filter (·.pid == pid))) :
    proc ∈ session.live ++ session.exited := by
  simp only [List.mem_append, List.mem_filter] at member ⊢
  tauto

/-- After a fork a process of the session is one it had, the parent's new state, or a child. -/
theorem Session.mem_afterFork {session : Session} {parentPid : Nat} {parent : Proc}
    {children : List Proc} {proc : Proc}
    (member : proc ∈ (session.afterFork parentPid parent children).live ++
      (session.afterFork parentPid parent children).exited) :
    proc ∈ session.live ++ session.exited ∨ proc = parent ∨ proc ∈ children := by
  simp only [Session.afterFork, List.mem_append, List.mem_map] at member
  rcases member with (⟨old, oldLive, rfl⟩ | child) | gone
  · split_ifs
    · exact .inr (.inl rfl)
    · exact .inl (List.mem_append_left _ oldLive)
  · exact .inr (.inr child)
  · exact .inl (List.mem_append_right _ gone)

/-- What a fork step does: the parent keeps its pid and identity and appends its acquisition
and the release to its lock calls, and each child (one when `_real_fork` created it, none when
it failed) has a pid no live process held, the identity of the parent's host, that pid and the
session's time, and the parent's lock calls with the acquisition and the child handler's
reset. -/
theorem sessionStep_fork {constants : Constants} {session next : Session} {parentPid : Nat}
    {world : World} (stepped : sessionStep constants session (.fork parentPid world) = some next) :
    ∃ parent parent' children, parent ∈ session.live ∧ parent.pid = parentPid ∧
      parent'.pid = parent.pid ∧ parent'.identity = parent.identity ∧
      parent'.lockLog = parent.lockLog ++
        ([.lockExcl world.lockAcquired] ++ if world.lockAcquired then [.unlock] else []) ∧
      (children.map (·.pid)).Nodup ∧
      (∀ child ∈ children, child.pid ∉ session.live.map (·.pid) ∧
        child.identity = ⟨parent.identity.hostid, child.pid, session.clock⟩ ∧
        child.lockLog = parent.lockLog ++ [.lockExcl world.lockAcquired, .resetLocks]) ∧
      next = session.afterFork parentPid parent' children := by
  simp only [sessionStep] at stepped
  rcases found : session.live.find? (·.pid == parentPid) with _ | parent
  · simp [found] at stepped
  obtain ⟨named, member⟩ := List.find?_some found, List.mem_of_find?_eq_some found
  simp only [found] at stepped
  by_cases blocked : (isPerformingCkptRestart parent.workerState ||
    ForkResult.takesPid session.live world.forkResult) = true
  · rw [if_pos blocked] at stepped
    cases stepped
  rw [if_neg blocked] at stepped
  simp only [Bool.or_eq_true, not_or, Bool.not_eq_true] at blocked
  obtain ⟨running, fresh⟩ := blocked
  cases forked : world.forkResult with
  | failed errno =>
    rw [fork_failed constants _ parent running (by exact forked)] at stepped
    simp only [Result.returning, Option.map_none', Option.toList_none, Option.some.injEq]
      at stepped
    refine ⟨parent, _, [], member, beq_iff_eq.1 named, ?_, ?_, ?_, List.nodup_nil, by simp,
      stepped.symm⟩ <;> simp [forkPrepare, Proc.logLock]
  | created childPid =>
    rw [fork_created constants _ parent running (by exact forked),
      pthreadAtforkChild_forkPrepare] at stepped
    simp only [Option.map_some', Option.toList_some, Option.some.injEq] at stepped
    refine ⟨parent, _, _, member, beq_iff_eq.1 named, ?_, ?_, ?_, by simp, ?_, stepped.symm⟩
    rotate_right
    · simp only [List.mem_singleton, forall_eq, Outcome.proc]
      rw [forked] at fresh
      refine ⟨fun listed => Bool.false_ne_true (fresh.symm.trans (List.elem_iff.2 listed)), ?_,
        ?_⟩ <;> simp [forkPrepare, Proc.logLock]
    all_goals simp [forkPrepare, Proc.logLock]

/-! ### Identities -/

/-- What a session on host `host` keeps: every process's identity, live or exited, carries the
host and the process's pid; no two live processes share a pid; and every fork's identity is
made of the host, the child's pid and the time the fork recorded, the forks in the order of the
clock and none later than it. -/
structure SessionInvariant (host : Nat) (session : Session) : Prop where
  identity_pid : ∀ proc ∈ session.live ++ session.exited, proc.identity.pid = proc.pid
  identity_host : ∀ proc ∈ session.live ++ session.exited, proc.identity.hostid = host
  pids_nodup : (session.live.map (·.pid)).Nodup
  fork_identity : ∀ record ∈ session.forks, record.identity = ⟨host, record.pid, record.time⟩
  fork_time : ∀ record ∈ session.forks, record.time ≤ session.clock
  forks_sorted : (session.forks.map (·.time)).Sorted (· ≤ ·)

/-- The forks a step records carry the clock: when each child's identity is made of the host,
its pid and the clock, every record keeps its identity and a time no later than the clock, and
the records stay in the order of the clock. -/
theorem SessionInvariant.afterFork_forks {host : Nat} {session : Session}
    (holds : SessionInvariant host session) (parentPid : Nat) (parent : Proc)
    {children : List Proc}
    (childIdentity : ∀ child ∈ children, child.identity = ⟨host, child.pid, session.clock⟩) :
    (∀ record ∈ (session.afterFork parentPid parent children).forks,
        record.identity = ⟨host, record.pid, record.time⟩ ∧ record.time ≤ session.clock) ∧
      ((session.afterFork parentPid parent children).forks.map (·.time)).Sorted (· ≤ ·) := by
  simp only [Session.afterFork, List.mem_append, List.mem_map, List.map_append, List.map_map,
    Function.comp_def, List.Sorted, List.pairwise_append, List.pairwise_map]
  refine ⟨?_, List.pairwise_map.1 holds.forks_sorted,
    List.pairwise_of_forall fun _ _ => le_refl _, ?_⟩
  · rintro record (old | ⟨child, member, rfl⟩)
    · exact ⟨holds.fork_identity record old, holds.fork_time record old⟩
    · exact ⟨childIdentity child member, le_refl _⟩
  · rintro _ ⟨record, oldRecord, rfl⟩ _ ⟨child, -, rfl⟩
    exact holds.fork_time record oldRecord

/-- A fork step keeps the invariant. -/
theorem sessionStep_fork_invariant {constants : Constants} {host : Nat} {session next : Session}
    {parentPid : Nat} {world : World} (holds : SessionInvariant host session)
    (stepped : sessionStep constants session (.fork parentPid world) = some next) :
    SessionInvariant host next := by
  obtain ⟨parent, parent', children, member, named, samePid, sameIdentity, -, childrenNodup,
    childFacts, rfl⟩ := sessionStep_fork stepped
  have parentHolds := holds.identity_pid parent (List.mem_append_left _ member)
  have parentHost := holds.identity_host parent (List.mem_append_left _ member)
  have childIdentity (child : Proc) (listed : child ∈ children) :
      child.identity = ⟨host, child.pid, session.clock⟩ := by
    rw [(childFacts child listed).2.1, parentHost]
  have carried : ∀ proc ∈ (session.afterFork parentPid parent' children).live ++
      (session.afterFork parentPid parent' children).exited,
      proc.identity.pid = proc.pid ∧ proc.identity.hostid = host := by
    intro proc alive
    rcases Session.mem_afterFork alive with old | rfl | child
    · exact ⟨holds.identity_pid proc old, holds.identity_host proc old⟩
    · rw [samePid, sameIdentity]
      exact ⟨parentHolds, parentHost⟩
    · rw [childIdentity proc child]
      exact ⟨rfl, rfl⟩
  have pids : ((session.afterFork parentPid parent' children).live.map (·.pid)) =
      session.live.map (·.pid) ++ children.map (·.pid) := by
    simp only [Session.afterFork, List.map_append, List.map_map]
    congr 1
    refine List.map_congr_left fun proc old => ?_
    by_cases isParent : proc.pid = parentPid
    · obtain rfl : proc = parent :=
        List.inj_on_of_nodup_map holds.pids_nodup old member (isParent.trans named.symm)
      simp [isParent, samePid]
    · simp [isParent]
  have pidsNodup : (session.live.map (·.pid) ++ children.map (·.pid)).Nodup := by
    refine List.nodup_append.2 ⟨holds.pids_nodup, childrenNodup, fun _ old listed => ?_⟩
    obtain ⟨child, childMember, rfl⟩ := List.mem_map.1 listed
    exact (childFacts child childMember).1 old
  obtain ⟨recorded, sorted⟩ := holds.afterFork_forks parentPid parent' childIdentity
  exact ⟨fun proc alive => (carried proc alive).1, fun proc alive => (carried proc alive).2,
    pids ▸ pidsNodup, fun record listed => (recorded record listed).1,
    fun record listed => (recorded record listed).2, sorted⟩

/-- One step keeps the invariant. -/
theorem sessionStep_invariant {constants : Constants} {host : Nat} {session next : Session}
    {step : SessionStep} (holds : SessionInvariant host session)
    (stepped : sessionStep constants session step = some next) :
    SessionInvariant host next := by
  cases step with
  | tick seconds =>
    cases stepped
    exact { holds with
      fork_time := fun record old => (holds.fork_time record old).trans (Nat.le_add_right _ _) }
  | exit pid =>
    cases stepped
    exact { holds with
      identity_pid := fun proc member => holds.identity_pid proc (mem_of_exit member)
      identity_host := fun proc member => holds.identity_host proc (mem_of_exit member)
      pids_nodup := (List.filter_sublist _).map _ |>.nodup holds.pids_nodup }
  | fork parentPid world => exact sessionStep_fork_invariant holds stepped

/-- A whole run keeps the invariant. -/
theorem runSession_invariant {constants : Constants} {host : Nat} (steps : List SessionStep) :
    ∀ {session final : Session}, SessionInvariant host session →
      runSession constants session steps = some final → SessionInvariant host final :=
  runSession_of_step (SessionInvariant host) sessionStep_invariant steps

/-- Under the invariant the live processes' identities are pairwise distinct. -/
theorem SessionInvariant.identities_nodup {host : Nat} {session : Session}
    (holds : SessionInvariant host session) : (session.live.map (·.identity)).Nodup := by
  refine List.Nodup.of_map UniquePid.pid ?_
  rw [List.map_map]
  exact (List.map_congr_left fun proc live =>
    holds.identity_pid proc (List.mem_append_left _ live)) ▸ holds.pids_nodup

/-! ### Identities over a run -/

/-- The sample process alone in a session at time `0`. -/
def sampleSession : Session := ⟨0, [sampleProc], [], []⟩

theorem sampleSession_invariant : SessionInvariant 1 sampleSession :=
  ⟨by simp [sampleSession, sampleProc], by simp [sampleSession, sampleProc],
    by simp [sampleSession], by simp [sampleSession], by simp [sampleSession],
    List.sorted_nil⟩

/-- In every run of a session that starts with the invariant, at the end: the live processes'
identities are pairwise distinct; every process, live or exited, has an identity carrying the
session's host and its own pid; and every identity a fork created is
`UniquePid(host, childPid, child_time)` with `child_time` the clock at that fork, the forks in
the order of the clock, so that two forks' identities are equal exactly when the children got
the same pid in the same second. -/
theorem runSession_identities (constants : Constants) {host : Nat} {initial final : Session}
    (start : SessionInvariant host initial) (steps : List SessionStep)
    (ran : runSession constants initial steps = some final) :
    (final.live.map (·.identity)).Nodup ∧
      (∀ proc ∈ final.live ++ final.exited,
        proc.identity.hostid = host ∧ proc.identity.pid = proc.pid) ∧
      (∀ record ∈ final.forks,
        record.identity = ⟨host, record.pid, record.time⟩ ∧ record.time ≤ final.clock) ∧
      (final.forks.map (·.time)).Sorted (· ≤ ·) ∧
      ∀ first ∈ final.forks, ∀ second ∈ final.forks,
        first.identity = second.identity ↔ first.pid = second.pid ∧ first.time = second.time := by
  have holds := runSession_invariant steps start ran
  refine ⟨holds.identities_nodup, fun proc member =>
    ⟨holds.identity_host proc member, holds.identity_pid proc member⟩,
    fun record member => ⟨holds.fork_identity record member, holds.fork_time record member⟩,
    holds.forks_sorted, fun first firstMember second secondMember => ?_⟩
  rw [holds.fork_identity first firstMember, holds.fork_identity second secondMember]
  simp

/-- The sample collaborators with the child pid `102`. -/
def secondChildWorld : World := { sampleWorld with forkResult := .created 102 }

theorem runSession_identities_sample :
    SessionInvariant 1 sampleSession ∧
      ∃ final, runSession sampleConstants sampleSession
          [.fork 100 sampleWorld, .tick 1, .fork 101 secondChildWorld] = some final ∧
        (final.live.map (·.identity)).Nodup ∧
        (∀ proc ∈ final.live ++ final.exited,
          proc.identity.hostid = 1 ∧ proc.identity.pid = proc.pid) ∧
        (∀ record ∈ final.forks,
          record.identity = ⟨1, record.pid, record.time⟩ ∧ record.time ≤ final.clock) ∧
        (final.forks.map (·.time)).Sorted (· ≤ ·) ∧
        ∀ first ∈ final.forks, ∀ second ∈ final.forks,
          first.identity = second.identity ↔ first.pid = second.pid ∧ first.time = second.time :=
  ⟨sampleSession_invariant, _, rfl,
    runSession_identities sampleConstants sampleSession_invariant
      [.fork 100 sampleWorld, .tick 1, .fork 101 secondChildWorld] rfl⟩

/-- A child exits and the operating system gives its pid to the next child within the same
second: the two forks record one identity, and the exited child shares it with the live one. -/
theorem runSession_reused_pid_repeats_identity :
    ∃ final, runSession sampleConstants sampleSession
        [.fork 100 sampleWorld, .exit 101, .fork 100 sampleWorld] = some final ∧
      ¬ (final.forks.map (·.identity)).Nodup ∧
      ∃ gone ∈ final.exited, ∃ proc ∈ final.live, gone.identity = proc.identity :=
  ⟨_, rfl, by decide, by decide⟩

/-! ### The lock over a run -/

/-- No process of the session, live or exited, holds the wrapper-execution lock between calls:
the lock calls each one has made are matched, every acquisition that acquired released or
reset, and no release issued without one. -/
def LockFree (session : Session) : Prop :=
  ∀ proc ∈ session.live ++ session.exited, MatchedLockUse proc.lockLog

/-- One step keeps every process free of the lock. -/
theorem sessionStep_lockFree {constants : Constants} {session next : Session}
    {step : SessionStep} (free : LockFree session)
    (stepped : sessionStep constants session step = some next) : LockFree next := by
  cases step with
  | tick seconds =>
    cases stepped
    exact free
  | exit pid =>
    cases stepped
    exact fun proc member => free proc (mem_of_exit member)
  | fork parentPid world =>
    obtain ⟨parent, parent', children, member, -, -, -, parentLog, -, childFacts, rfl⟩ :=
      sessionStep_fork stepped
    have parentFree := free parent (List.mem_append_left _ member)
    intro proc alive
    rcases Session.mem_afterFork alive with old | rfl | child
    · exact free proc old
    · rw [parentLog]
      exact matchedLockUse_append parentFree (matchedLockUse_release _)
    · rw [(childFacts proc child).2.2]
      exact matchedLockUse_append parentFree (matchedLockUse_reset _)

theorem sampleSession_lockFree : LockFree sampleSession := by
  simp [LockFree, sampleSession, sampleProc, MatchedLockUse]

/-- In every run of a session that starts with no process holding the wrapper-execution lock,
for every outcome of each fork's acquisition and of each `_real_fork`, every process of the
session at the end, live or exited and the children included, has used the lock in matched
pairs, and at no point of its lock calls has it issued a release without a hold. -/
theorem runSession_lock_free (constants : Constants) {initial final : Session}
    (start : ∀ proc ∈ initial.live ++ initial.exited, MatchedLockUse proc.lockLog)
    (steps : List SessionStep) (ran : runSession constants initial steps = some final) :
    ∀ proc ∈ final.live ++ final.exited, MatchedLockUse proc.lockLog ∧
      ∀ earlier, earlier <+: proc.lockLog → earlier.foldl lockStep (some 0) ≠ none := by
  intro proc member
  have matched := runSession_of_step LockFree sessionStep_lockFree steps start ran proc member
  exact ⟨matched, fun _ isEarlier => matched.releases_held isEarlier⟩

/-- The sample collaborators when the acquisition does not acquire and `_real_fork` creates the
pid `102`. -/
def busyForkWorld : World := { secondChildWorld with lockAcquired := false }

theorem runSession_lock_free_sample :
    (∀ proc ∈ sampleSession.live ++ sampleSession.exited, MatchedLockUse proc.lockLog) ∧
      ∃ final, runSession sampleConstants sampleSession [.fork 100 sampleWorld, .exit 101,
          .fork 100 busyForkWorld] = some final ∧
        ∀ proc ∈ final.live ++ final.exited, MatchedLockUse proc.lockLog ∧
          ∀ earlier, earlier <+: proc.lockLog → earlier.foldl lockStep (some 0) ≠ none :=
  ⟨sampleSession_lockFree, _, rfl,
    runSession_lock_free sampleConstants sampleSession_lockFree
      [.fork 100 sampleWorld, .exit 101, .fork 100 busyForkWorld] rfl⟩

end Dmtcp
