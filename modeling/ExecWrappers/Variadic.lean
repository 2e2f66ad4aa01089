/-
This file models the variadic exec wrappers `execl`, `execlp` and `execle` and the function
they share, `dmtcp_execlpe`, which collects the arguments into an array and calls
`dmtcp_execvpe`.

The array starts as `initial_argv`, `INITIAL_ARGV_MAX` slots on the stack. The loop reads
`argv[i]`, stops at `NULL`, and otherwise stores the next variadic argument at `i + 1`, doubling
the capacity first when `i + 1` reaches it: the first growth `realloc`s from `NULL` and copies the
stack slots with `memcpy`, the later ones `realloc` the heap array. The arguments are a list read
from the front; reading past the arguments the caller passed is undefined.

The loop lemma gives the array in closed form for any number of arguments, so the array
`dmtcp_execvpe` receives is the list of arguments and every store lands inside the array. The one
place the wrappers differ from the array entry points is `execl` and `execlp` with a `NULL`
`environ`: `dmtcp_execlpe` takes that `NULL` for the marker of `execle` and reads an argument
after the terminating `NULL`.
-/

import ExecWrappers.Exec

namespace Dmtcp

/-! ### Variadic arguments and the argument array -/

/-- A variadic argument as the caller passed it. -/
inductive VaArg
  /-- A `const char *`: a string, or `NULL`. -/
  | str (s : Option Str)
  /-- A `char *const *`: the environment `execle` passes after the terminating `NULL`. -/
  | env (envp : Option (List Str))

/-- The slot a `const char *` is stored as. -/
def slotOf : Option Str → Slot
  | none => .null
  | some s => .str s

/-- `argv` of `dmtcp_execlpe`: the capacity `argv_max`, the slots of the array `argv` points to,
and whether that array is still `initial_argv` on the stack. -/
structure ArgvBuffer where
  argvMax : Nat
  slots : PointerArray
  onStack : Bool

/-- `initial_argv` after `argv[0] = arg`. -/
def initialArgv (arg : Option Str) : ArgvBuffer :=
  ⟨initialArgvMax, (List.replicate initialArgvMax .uninit).set 0 (slotOf arg), true⟩

/-- `ENOMEM`, which a failed `realloc` leaves in `errno`. -/
def enomem : Int := 12

/-- The growth at `i == argv_max`: `argv_max *= 2` and `realloc` to the new capacity, of `NULL`
with a `memcpy` of the `i` filled slots while `argv` is the stack array, of the heap array
otherwise; `none` when `realloc` fails. -/
def growArgv (world : World) (argv : ArgvBuffer) (i : Nat) : Option ArgvBuffer :=
  let argvMax := argv.argvMax * 2
  if world.reallocOk argvMax then
    let kept := if argv.onStack then argv.slots.take i else argv.slots
    some ⟨argvMax, kept ++ List.replicate (argvMax - kept.length) .uninit, false⟩
  else none

/-- What the loop of `dmtcp_execlpe` does at `argv[i]` before it reads an argument: it stops at
`NULL`, or stops at a failed `realloc`, or goes on with the array, grown when `i + 1` reached
`argv_max`. -/
inductive LoopHead
  | stop
  | reallocFailed
  | next (argv : ArgvBuffer)

/-- The head of the loop `while (argv[i++] != NULL)`: the read of `argv[i]`, and the growth
when `i + 1 == argv_max`. -/
def loopHead (world : World) (argv : ArgvBuffer) (i : Nat) : Except Fault LoopHead :=
  match argv.slots[i]? with
  | some .null => .ok .stop
  | some (.str _) =>
    match if i + 1 = argv.argvMax then growArgv world argv (i + 1) else some argv with
    | none => .ok .reallocFailed
    | some argv => .ok (.next argv)
  | _ => .error .undefinedRead

/-- How the loop of `dmtcp_execlpe` ends: at the `NULL`, with the array and the arguments not
read, or at a failed `realloc`. -/
inductive Collected
  | done (argv : ArgvBuffer) (rest : List VaArg)
  | reallocFailed

/-- The loop of `dmtcp_execlpe` from index `i`: after its head,
`argv[i + 1] = va_arg(args, const char *)`. A `va_arg` with no string pointer left to read is
undefined. -/
def collectArgv (world : World) (argv : ArgvBuffer) (i : Nat) :
    List VaArg → Except Fault Collected
  | .str s :: rest =>
    (loopHead world argv i).bind fun
      | .stop => .ok (.done argv (.str s :: rest))
      | .reallocFailed => .ok .reallocFailed
      | .next argv =>
        (store argv.slots (i + 1) (slotOf s)).bind fun slots =>
          collectArgv world { argv with slots } (i + 1) rest
  | args =>
    (loopHead world argv i).bind fun
      | .stop => .ok (.done argv args)
      | .reallocFailed => .ok .reallocFailed
      | .next _ => .error .undefinedRead

/-- `if (envp == NULL) envp = va_arg(args, char *const *)`. -/
def envpOrNext : Option (List Str) → List VaArg → Except Fault (Option (List Str))
  | some envp, _ => .ok (some envp)
  | none, .env envp :: _ => .ok envp
  | none, _ => .error .undefinedRead

/-- `dmtcp_execlpe(filename, arg, args, envp)`: `-1` when `realloc` fails, else
`dmtcp_execvpe` of the collected array, read up to its `NULL`. -/
def dmtcpExeclpe (constants : Constants) (world : World) (proc : Proc) (filename : Str)
    (arg : Option Str) (args : List VaArg) (envp : Option (List Str)) : Result :=
  match collectArgv world (initialArgv arg) 0 args with
  | .error fault => Result.ending (.fault fault) proc
  | .ok .reallocFailed => Result.returning (-1) { proc with errno := enomem }
  | .ok (.done argv rest) =>
    match envpOrNext envp rest, readStrings argv.slots with
    | .ok envp, .ok argvStrings =>
      dmtcpExecvpe constants world proc filename (some argvStrings) envp
    | .error fault, _ => Result.ending (.fault fault) proc
    | _, .error fault => Result.ending (.fault fault) proc

/-- `execl(path, arg, ...)`, with the process's `environ`. -/
def execl (constants : Constants) (world : World) (proc : Proc) (path : Str) (arg : Option Str)
    (args : List VaArg) : Result :=
  dmtcpExeclpe constants world proc path arg args proc.environ

/-- `execlp(file, arg, ...)`, with the process's `environ`. -/
def execlp (constants : Constants) (world : World) (proc : Proc) (file : Str) (arg : Option Str)
    (args : List VaArg) : Result :=
  dmtcpExeclpe constants world proc file arg args proc.environ

/-- `execle(path, arg, ..., NULL, envp)`, which passes `NULL` so that `dmtcp_execlpe` reads
`envp` after the terminating `NULL`. -/
def execle (constants : Constants) (world : World) (proc : Proc) (path : Str) (arg : Option Str)
    (args : List VaArg) : Result :=
  dmtcpExeclpe constants world proc path arg args none

/-- The arguments a caller passes after `arg`: the strings, and the terminating `NULL`. -/
def stringArgs (strings : List Str) : List VaArg :=
  strings.map (.str ∘ some) ++ [.str none]

/-! ### The loop in closed form -/

/-- The array holds the strings `done`, then slots no one wrote, up to its capacity. -/
def ArgvBuffer.Holds (argv : ArgvBuffer) (done : List Str) : Prop :=
  done.length ≤ argv.argvMax ∧
    argv.slots = done.map .str ++ List.replicate (argv.argvMax - done.length) .uninit

theorem set_replicate_uninit (front : List Slot) (free : Nat) (value : Slot) :
    (front ++ List.replicate (free + 1) Slot.uninit).set front.length value =
      front ++ value :: List.replicate free Slot.uninit := by
  rw [List.set_append_right _ _ le_rfl]
  simp [List.replicate_succ]

theorem store_of_holds {argv : ArgvBuffer} {done : List Str} (holds : argv.Holds done)
    (room : done.length < argv.argvMax) (value : Slot) :
    store argv.slots done.length value =
      .ok (done.map .str ++ value :: List.replicate (argv.argvMax - done.length - 1) .uninit) := by
  obtain ⟨free, hfree⟩ : ∃ free, argv.argvMax - done.length = free + 1 :=
    ⟨argv.argvMax - done.length - 1, by omega⟩
  have inside : done.length < argv.slots.length := by
    rw [holds.2, List.length_append, List.length_map, List.length_replicate]; omega
  rw [store_of_lt inside, holds.2, hfree, show done.length = (done.map Slot.str).length by simp,
    set_replicate_uninit]
  simp

theorem getElem?_of_holds {argv : ArgvBuffer} {done : List Str} (holds : argv.Holds done)
    (nonempty : done ≠ []) : ∃ s, argv.slots[done.length - 1]? = some (.str s) := by
  have last : done.length - 1 < done.length := by
    have := List.length_pos.2 nonempty; omega
  refine ⟨done[done.length - 1], ?_⟩
  rw [holds.2, List.getElem?_append_left (by simpa using last)]
  simp [last]

/-- One head of the loop: on an array holding its strings it fails only at a failed `realloc`,
and otherwise goes on with an array that holds the same strings and has room for one more. -/
theorem loopHead_of_holds (world : World) {argv : ArgvBuffer} {done : List Str}
    (nonempty : done ≠ []) (holds : argv.Holds done) :
    (loopHead world argv (done.length - 1) = .ok .reallocFailed ∧
      world.reallocOk (argv.argvMax * 2) = false) ∨
    ∃ next, loopHead world argv (done.length - 1) = .ok (.next next) ∧ next.Holds done ∧
      done.length < next.argvMax := by
  obtain ⟨s, read⟩ := getElem?_of_holds holds nonempty
  have positive := List.length_pos.2 nonempty
  have index : done.length - 1 + 1 = done.length := by omega
  unfold loopHead
  rw [read, index]
  by_cases full : done.length = argv.argvMax
  · have kept : (if argv.onStack then argv.slots.take done.length else argv.slots) =
        done.map .str := by
      cases argv.onStack <;> simp [holds.2, full]
    cases grown : world.reallocOk (argv.argvMax * 2)
    · left
      simp [full, growArgv, grown]
    · right
      refine ⟨_, by simp only [full, if_true, growArgv, grown, kept]; rfl,
        ⟨by simp; omega, ?_⟩, by simp; omega⟩
      rw [← full, kept, List.length_map]
  · right
    exact ⟨argv, by simp [full], holds, by have := holds.1; omega⟩

theorem collectArgv_of_null (world : World) {argv : ArgvBuffer} {i : Nat}
    (read : argv.slots[i]? = some .null) (args : List VaArg) :
    collectArgv world argv i args = .ok (.done argv args) := by
  have head : loopHead world argv i = .ok .stop := by simp [loopHead, read]
  rcases args with _ | ⟨_ | _, rest⟩ <;> simp [collectArgv, head, Except.bind]

/-- The loop over the strings and the terminating `NULL` of a call: every store lands inside the
array, and unless a `realloc` fails the loop ends at the `NULL` with every string in the array
and the arguments after the `NULL` unread. -/
theorem collectArgv_stringArgs (world : World) (tail : List VaArg) (strings : List Str) :
    ∀ (done : List Str) (argv : ArgvBuffer), done ≠ [] → argv.Holds done →
      (collectArgv world argv (done.length - 1) (strings.map (.str ∘ some) ++ .str none :: tail) =
          .ok .reallocFailed ∧ ∃ size, world.reallocOk size = false) ∨
      ∃ final, collectArgv world argv (done.length - 1)
          (strings.map (.str ∘ some) ++ .str none :: tail) = .ok (.done final tail) ∧
        readStrings final.slots = .ok (done ++ strings) := by
  induction strings with
  | nil =>
    intro done argv nonempty holds
    have index : done.length - 1 + 1 = done.length := by
      have := List.length_pos.2 nonempty; omega
    rcases loopHead_of_holds world nonempty holds with ⟨failed, grown⟩ |
      ⟨next, head, nextHolds, room⟩
    · exact .inl ⟨by simp [collectArgv, failed, Except.bind], _, grown⟩
    · let final : ArgvBuffer := { next with
        slots := done.map .str ++ .null :: List.replicate (next.argvMax - done.length - 1) .uninit }
      have read : final.slots[done.length]? = some .null := by
        rw [List.getElem?_append_right (by simp)]
        simp
      refine .inr ⟨final, ?_, by simpa using readStrings_append_null done _⟩
      simp only [List.map_nil, List.nil_append, collectArgv, head, Except.bind, slotOf, index,
        store_of_holds nextHolds room]
      exact collectArgv_of_null world read tail
  | cons s strings inductionHypothesis =>
    intro done argv nonempty holds
    have index : done.length - 1 + 1 = done.length := by
      have := List.length_pos.2 nonempty; omega
    rcases loopHead_of_holds world nonempty holds with ⟨failed, grown⟩ |
      ⟨next, head, nextHolds, room⟩
    · exact .inl ⟨by simp [collectArgv, failed, Except.bind], _, grown⟩
    · let grown : ArgvBuffer := { next with
        slots := done.map .str ++ .str s :: List.replicate (next.argvMax - done.length - 1) .uninit }
      have grownHolds : grown.Holds (done ++ [s]) := ⟨by simp [grown]; omega, by simp [grown]; omega⟩
      have stored : collectArgv world argv (done.length - 1)
          ((s :: strings).map (.str ∘ some) ++ .str none :: tail) =
          collectArgv world grown done.length (strings.map (.str ∘ some) ++ .str none :: tail) := by
        simp only [List.map_cons, List.cons_append, Function.comp, collectArgv, head, Except.bind,
          slotOf, index, store_of_holds nextHolds room]
        rfl
      have collected := inductionHypothesis (done ++ [s]) grown (by simp) grownHolds
      rw [List.length_append, List.length_singleton, Nat.add_sub_cancel, List.append_assoc,
        List.singleton_append] at collected
      rwa [stored]

theorem initialArgv_holds (arg : Str) : (initialArgv (some arg)).Holds [arg] := by
  refine ⟨by simp [initialArgv, initialArgvMax], ?_⟩
  show (List.replicate (127 + 1) Slot.uninit).set 0 (.str arg) = _
  rw [List.replicate_succ]
  rfl

/-- `dmtcp_execlpe` on `arg`, strings, the terminating `NULL` and what follows it: `-1` with
`ENOMEM` when a `realloc` fails, and otherwise `dmtcp_execvpe` of the array of `arg` and the
strings, with `envp`, or when `envp` is `NULL` with the argument after the terminating `NULL`. -/
theorem dmtcpExeclpe_stringArgs (constants : Constants) (world : World) (proc : Proc)
    (filename arg : Str) (strings : List Str) (tail : List VaArg) (envp : Option (List Str)) :
    (dmtcpExeclpe constants world proc filename (some arg)
        (strings.map (.str ∘ some) ++ .str none :: tail) envp =
          Result.returning (-1) { proc with errno := enomem } ∧
        ∃ size, world.reallocOk size = false) ∨
      dmtcpExeclpe constants world proc filename (some arg)
          (strings.map (.str ∘ some) ++ .str none :: tail) envp =
        match envpOrNext envp tail with
        | .ok envp => dmtcpExecvpe constants world proc filename (some (arg :: strings)) envp
        | .error fault => Result.ending (.fault fault) proc := by
  have loop := collectArgv_stringArgs world tail strings [arg] _ (by simp) (initialArgv_holds arg)
  simp only [List.length_singleton, Nat.sub_self, List.singleton_append] at loop
  rcases loop with ⟨collected, failure⟩ | ⟨final, collected, read⟩
  · exact .inl ⟨by simp only [dmtcpExeclpe]; rw [collected], failure⟩
  · refine .inr ?_
    simp only [dmtcpExeclpe]
    rw [collected]
    cases next : envpOrNext envp tail <;> simp [read, next]

/-! ### The variadic wrappers against the array ones -/

/-- With every `realloc` succeeding and `environ` set, `execl`, `execlp` and `execle` of `arg`,
strings and the terminating `NULL` are `execv`, `execvp` and `execvpe` of the array of them. -/
theorem execl_execlp_execle_eq_array (constants : Constants) {world : World}
    (allocs : ∀ size, world.reallocOk size = true) {proc : Proc} {environ : List Str}
    (set : proc.environ = some environ) (path arg : Str) (strings : List Str)
    (envp : Option (List Str)) :
    execl constants world proc path (some arg) (stringArgs strings) =
        execv constants world proc path (some (arg :: strings)) ∧
      execlp constants world proc path (some arg) (stringArgs strings) =
        execvp constants world proc path (some (arg :: strings)) ∧
      execle constants world proc path (some arg) (stringArgs strings ++ [.env envp]) =
        execvpe constants world proc path (some (arg :: strings)) envp := by
  have collected (envp : Option (List Str)) (tail : List VaArg) := (dmtcpExeclpe_stringArgs
    constants world proc path arg strings tail envp).resolve_left fun ⟨_, size, failed⟩ => by
      simp [allocs size] at failed
  refine ⟨?_, ?_, ?_⟩
  · simpa [execl, execv, stringArgs, set, envpOrNext] using collected (some environ) []
  · simpa [execlp, execvp, stringArgs, set, envpOrNext] using collected (some environ) []
  · simpa [execle, execvpe, stringArgs, envpOrNext] using collected none [.env envp]

theorem execl_execlp_execle_eq_array_sample :
    (∀ size, sampleWorld.reallocOk size = true) ∧
      sampleProc.environ = some ["DMTCP_HIJACK_LIBS=libdmtcp.so".toList] ∧
      execl sampleConstants sampleWorld sampleProc "/bin/true".toList (some "true".toList)
          (stringArgs ["-v".toList]) =
        execv sampleConstants sampleWorld sampleProc "/bin/true".toList
          (some ["true".toList, "-v".toList]) ∧
      execlp sampleConstants sampleWorld sampleProc "/bin/true".toList (some "true".toList)
          (stringArgs ["-v".toList]) =
        execvp sampleConstants sampleWorld sampleProc "/bin/true".toList
          (some ["true".toList, "-v".toList]) ∧
      execle sampleConstants sampleWorld sampleProc "/bin/true".toList (some "true".toList)
          (stringArgs ["-v".toList] ++ [.env none]) =
        execvpe sampleConstants sampleWorld sampleProc "/bin/true".toList
          (some ["true".toList, "-v".toList]) none :=
  ⟨fun _ => rfl, rfl, execl_execlp_execle_eq_array sampleConstants (fun _ => rfl) rfl _ _ _ _⟩

/-- The sample process during a checkpoint, after `clearenv()` left `environ` `NULL`. -/
def clearedProc : Proc := { sampleProc with workerState := .other, environ := none }

/-- After `clearenv()`, `execl` of a path, one argument and the terminating `NULL` reads a
variadic argument the caller never passed, where `execv` of the same array returns the exec's
error. -/
theorem execl_of_null_environ_reads_past_null :
    (execl sampleConstants sampleWorld clearedProc "/bin/true".toList (some "true".toList)
        (stringArgs [])).caller.endedBy = some (.fault .undefinedRead) ∧
      (execv sampleConstants sampleWorld clearedProc "/bin/true".toList
        (some ["true".toList])).caller = .returns (-1) { clearedProc with errno := 2 } := by
  refine ⟨?_, rfl⟩
  rcases dmtcpExeclpe_stringArgs sampleConstants sampleWorld clearedProc "/bin/true".toList
    "true".toList [] [] none with ⟨-, size, failed⟩ | collected
  · simp [sampleWorld] at failed
  · exact (congrArg (fun result => result.caller.endedBy) collected).trans rfl

end Dmtcp
