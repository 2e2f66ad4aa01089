/-
This file models `execShortLivedProcessAndExit`, the path `dmtcpPrepareForExec` takes for
targets under `/lib/lib`, `/lib64/lib` and for `utempter`: the loader refuses to preload into
them, so the wrapper runs the target under `_real_popen`, reads its output into a buffer of
`100000` bytes, releases the lock, prints the buffer with `printf("%s", buf)` and calls
`_exit(0)`.

Two things are proved about it. The command handed to `_real_popen` is the path and the
arguments joined by single spaces, with no quoting; under `/bin/sh`'s word splitting (modelled
here for commands of plain words) an argument with a blank in it comes back as two words. And
what reaches the caller's standard output is not what the subprocess wrote. `printf` puts the
buffer, cut at `99999` bytes and at its first NUL, into stdout's stdio buffer, and `_exit(0)`
ends the process without flushing it: on a pipe or a file, which stdio buffers fully, an output
shorter than one buffer is never written at all.
-/

import ExecWrappers.Process

namespace Dmtcp

/-! ### The capture path -/

/-- `bufSize` of `execShortLivedProcessAndExit`. -/
def shortLivedBufSize : Nat := 100000

/-- The command `execShortLivedProcessAndExit` runs: the path alone when `argv[0]` is `NULL`,
else the path followed by `" " + argv[i]` for each `i ≥ 1`. -/
def shortLivedCommand (path : Str) : List Str → Str
  | [] => path
  | _ :: args => args.foldl (fun command arg => command ++ ' ' :: arg) path

/-- The buffer after `memset(buf, 0, bufSize)`, `fread(buf, 1, bufSize - 1, output)` and
`buf[bufSize - 1] = '\0'`. -/
def readBuffer (output : List UInt8) : List UInt8 :=
  let read := output.take (shortLivedBufSize - 1)
  (read ++ List.replicate (shortLivedBufSize - read.length) 0).set (shortLivedBufSize - 1) 0

/-- What `printf("%s", buf)` writes: the bytes before the first NUL. -/
def printfString (buf : List UInt8) : List UInt8 := buf.takeWhile (· != 0)

/-- `execShortLivedProcessAndExit(path, argv)`. The release is unconditional: the function sets
its own `__wrapperExecutionLockAcquired = true` before `WRAPPER_EXECUTION_RELEASE_EXCL_LOCK()`.
`printf` puts the bytes into stdout's stream, and `_exit(0)` does not flush it: the process has
written what the stream handed to `write` on its own. -/
def execShortLivedProcessAndExit (world : World) (proc : Proc) (path : Str) (argv : List Str) :
    Result :=
  let proc := { proc with environ := unsetenv proc.environ ldPreload }
  let buf := readBuffer (world.popenOutput (shortLivedCommand path argv))
  Result.ending (.exited 0 (world.stdoutWrites (printfString buf))) (proc.logLock .unlock)

/-! ### What the capture path prints -/

theorem takeWhile_append_zero (bytes tail : List UInt8) :
    (bytes ++ 0 :: tail).takeWhile (· != 0) = bytes.takeWhile (· != 0) := by
  induction bytes with
  | nil => simp
  | cons byte bytes inductionHypothesis => simp [List.takeWhile_cons, inductionHypothesis]

/-- The bytes printed are the output cut at `bufSize - 1` bytes and at its first NUL. -/
theorem printfString_readBuffer (output : List UInt8) :
    printfString (readBuffer output) =
      (output.take (shortLivedBufSize - 1)).takeWhile (· != 0) := by
  have positive : 0 < shortLivedBufSize := by decide
  have read := List.length_take_le (shortLivedBufSize - 1) output
  obtain ⟨free, hfree⟩ : ∃ free,
      shortLivedBufSize - (output.take (shortLivedBufSize - 1)).length = free + 1 :=
    ⟨_, (Nat.succ_pred_eq_of_pos (by omega)).symm⟩
  rw [readBuffer, List.set_append_right _ _ read, hfree, List.set_replicate_self,
    List.replicate_succ, printfString, takeWhile_append_zero]

/-- `execShortLivedProcessAndExit` always ends the process with `_exit(0)`, after printing
the subprocess's output cut at `bufSize - 1` bytes and at its first NUL. -/
theorem execShortLivedProcessAndExit_eq (world : World) (proc : Proc) (path : Str)
    (argv : List Str) :
    execShortLivedProcessAndExit world proc path argv =
      Result.ending (.exited 0 (world.stdoutWrites (((world.popenOutput
          (shortLivedCommand path argv)).take (shortLivedBufSize - 1)).takeWhile (· != 0))))
        ({ proc with environ := unsetenv proc.environ ldPreload }.logLock .unlock) := by
  rw [execShortLivedProcessAndExit, printfString_readBuffer]

/-- A fully buffered stream writes nothing of less than one buffer. -/
theorem fullyBuffered_of_lt {size : Nat} (large : 128 ≤ size) {data : List UInt8}
    (short : data.length < size) : fullyBuffered size data = [] := by
  rw [fullyBuffered, if_pos large, Nat.mod_eq_of_lt short, Nat.sub_self, List.take_zero]

/-- On a fully buffered standard output, a pipe or a file, whose buffer of `size` bytes is
empty: when the subprocess writes fewer bytes than that, the capture path writes none of them.
`printf` leaves them in the stream's buffer, and `_exit(0)` does not flush it. -/
theorem execShortLivedProcessAndExit_loses_short_output (world : World) (proc : Proc)
    (path : Str) (argv : List Str) (size : Nat) (buffered : world.stdoutWrites = fullyBuffered size)
    (large : 128 ≤ size) (short : (world.popenOutput (shortLivedCommand path argv)).length < size) :
    ∃ proc', execShortLivedProcessAndExit world proc path argv =
      Result.ending (.exited 0 []) proc' := by
  have printed : (((world.popenOutput (shortLivedCommand path argv)).take
      (shortLivedBufSize - 1)).takeWhile (· != 0)).length ≤
        (world.popenOutput (shortLivedCommand path argv)).length :=
    ((List.takeWhile_prefix _).trans (List.take_prefix _ _)).length_le
  exact ⟨_, by rw [execShortLivedProcessAndExit_eq, buffered, fullyBuffered_of_lt large (by omega)]⟩

/-- The sample collaborators when the captured program prints `hello` and a newline. -/
def helloWorld : World := { sampleWorld with popenOutput := fun _ => [104, 101, 108, 108, 111, 10] }

theorem execShortLivedProcessAndExit_loses_short_output_sample :
    helloWorld.stdoutWrites = fullyBuffered 4096 ∧ 128 ≤ 4096 ∧
      (helloWorld.popenOutput (shortLivedCommand "/lib/libc.so.6".toList [])).length < 4096 ∧
      ∃ proc', execShortLivedProcessAndExit helloWorld sampleProc "/lib/libc.so.6".toList [] =
        Result.ending (.exited 0 []) proc' :=
  ⟨rfl, by decide, by decide,
    execShortLivedProcessAndExit_loses_short_output helloWorld sampleProc _ _ 4096 rfl (by decide)
      (by decide)⟩

/-! ### Word splitting by `/bin/sh` -/

/-- Where `/bin/sh` stands in reading a command: outside quotes, inside single or double
quotes, or right after a backslash outside or inside double quotes. -/
inductive Quoting
  | unquoted
  | backslash
  | single
  | double
  | doubleBackslash
deriving DecidableEq, Repr

/-- The characters that end a simple command outside quotes, or redirect it. -/
def shellOperator (c : Char) : Bool := c ∈ ['|', '&', ';', '<', '>', '(', ')', '\n']

/-- The characters that start an expansion outside quotes: parameters, commands and
pathnames. -/
def shellExpansion (c : Char) : Bool := c ∈ ['$', '`', '*', '?', '[']

/-- `/bin/sh` reading a command made of literal words (POSIX token recognition and quote
removal), one character at a time: the words read so far, the word being read (`none` between
words), and the quoting in force. The result is `none` when the command is not a single simple
command of literal words: it holds an operator, an expansion, a comment or an unterminated
quote. -/
def shellWordsFrom : Str → Quoting → Option Str → List Str → Option (List Str)
  | [], quoting, word, words => if quoting = .unquoted then some (words ++ word.toList) else none
  | c :: rest, .unquoted, word, words =>
    if c = '\\' then shellWordsFrom rest .backslash word words
    else if c = ' ' ∨ c = '\t' then shellWordsFrom rest .unquoted none (words ++ word.toList)
    else if c = '\'' then shellWordsFrom rest .single (some (word.getD [])) words
    else if c = '"' then shellWordsFrom rest .double (some (word.getD [])) words
    else if shellOperator c ∨ shellExpansion c ∨ (word = none ∧ (c = '#' ∨ c = '~')) then
      none
    else shellWordsFrom rest .unquoted (some (word.getD [] ++ [c])) words
  | c :: rest, .backslash, word, words =>
    if c = '\n' then shellWordsFrom rest .unquoted word words
    else shellWordsFrom rest .unquoted (some (word.getD [] ++ [c])) words
  | c :: rest, .single, word, words =>
    if c = '\'' then shellWordsFrom rest .unquoted word words
    else shellWordsFrom rest .single (some (word.getD [] ++ [c])) words
  | c :: rest, .double, word, words =>
    if c = '\\' then shellWordsFrom rest .doubleBackslash word words
    else if c = '"' then shellWordsFrom rest .unquoted word words
    else if c = '$' ∨ c = '`' then none
    else shellWordsFrom rest .double (some (word.getD [] ++ [c])) words
  | c :: rest, .doubleBackslash, word, words =>
    if c ∈ ['$', '`', '"', '\\'] then
      shellWordsFrom rest .double (some (word.getD [] ++ [c])) words
    else if c = '\n' then shellWordsFrom rest .double word words
    else shellWordsFrom rest .double (some (word.getD [] ++ ['\\', c])) words

/-- The words `/bin/sh -c command` runs, when the command is one simple command of literal
words. -/
def shellWords (command : Str) : Option (List Str) := shellWordsFrom command .unquoted none []

/-! ### The command string under word splitting -/

/-- The command joins the arguments with bare spaces: an argument with a blank in it, under the
`/lib/lib` prefix that sends a target to the capture path, is read back by `/bin/sh` as two
words. -/
theorem shellWords_shortLivedCommand_blank :
    shellWords (shortLivedCommand "/lib/libc.so.6".toList ["libc.so.6".toList, "a b".toList]) =
      some ["/lib/libc.so.6".toList, "a".toList, "b".toList] := by
  decide

end Dmtcp
