/-
This file models how `dmtcp_execvpe` builds the environment of the new image: `isImportantEnv`,
`getUpdatedLdPreload` and `patchUserEnv`. `patchUserEnv` makes three passes: over the user's
entries, keeping those that are neither reserved nor `LD_PRELOAD=` and remembering the last
`LD_PRELOAD=` value; over `ourImportantEnvs`, adding one entry per reserved variable from the
user's preload or the process's own environment; and last the `LD_PRELOAD=` entry whose value
`getUpdatedLdPreload` computes from the configured injection list.

Each loop gets one lemma giving its closed form, and `patchUserEnv_eq` assembles them. From it
the layout of the result follows: the kept user entries in order, at most one entry per reserved
name, and exactly one `LD_PRELOAD=` entry, which is last.
-/

import ExecWrappers.Process

namespace Dmtcp

/-- `"LD_PRELOAD="`. -/
def ldPreloadPrefix : Str := ldPreload ++ ['=']

/-- `isImportantEnv(str)`: the entry's name is one of `ourImportantEnvs`. -/
def isImportantEnv (constants : Constants) (str : Str) : Bool :=
  constants.importantEnvs.contains (entryName str)

/-- One pass of `patchUserEnv`'s loop over the user's entries, on `(result, userPreloadStr)`. -/
def userEntryStep (constants : Constants) (state : List Str × Str) (entry : Str) :
    List Str × Str :=
  if isImportantEnv constants entry then state
  else if strStartsWith entry ldPreloadPrefix then (state.1, entry.drop ldPreloadPrefix.length)
  else (state.1 ++ [entry], state.2)

/-- The entry `patchUserEnv`'s loop over `ourImportantEnvs` adds for the reserved name `e`:
the user's preload for `ENV_VAR_ORIG_LD_PRELOAD` when there is one, else the process's value. -/
def reservedEntry (constants : Constants) (environ : Option (List Str)) (userPreloadStr : Str)
    (e : Str) : Option Str :=
  if e = constants.origLdPreload ∧ userPreloadStr ≠ [] then some (assignment e userPreloadStr)
  else (getenv environ e).map (assignment e)

/-- The library list of `getUpdatedLdPreload` and `is32bitElf`: `ENV_VAR_HIJACK_LIBS`, or
`ENV_VAR_HIJACK_LIBS_M32` when that is set and `Util::elfType` finds a 32-bit ELF. -/
def hijackList (constants : Constants) (fs : FileSystem) (filename : Str)
    (environ : Option (List Str)) (preload : Str) : Str × Bool :=
  match getenv environ constants.hijackLibsM32 with
  | none => (preload, false)
  | some preloadM32 =>
    match fs.elfType filename with
    | none => (preload, false)
    | some (isElf, is32bitElf) => (if isElf && is32bitElf then preloadM32 else preload, is32bitElf)

/-- A library that does not exist at its path is looked up in the installation. -/
def resolveLibrary (fs : FileSystem) (is32bitElf : Bool) (library : Str) : Str :=
  if fs.fileExists library then library else fs.getPath (baseName library) is32bitElf

/-- `pluginLibraries` before the user's segment: the resolved entries of the library list. -/
def pluginLibraries (constants : Constants) (fs : FileSystem) (filename : Str)
    (environ : Option (List Str)) (preload : Str) : List Str :=
  let (preload, is32bitElf) := hijackList constants fs filename environ preload
  (tokenizeString preload [':']).map (resolveLibrary fs is32bitElf)

/-- The segment `getUpdatedLdPreload` appends: `currLdPreload` when non-empty, else the
process's own `LD_PRELOAD` when non-empty. -/
def userSegment (currLdPreload : Str) (environ : Option (List Str)) : Option Str :=
  if currLdPreload ≠ [] then some currLdPreload
  else match getenv environ ldPreload with
    | some preloadEnv => if preloadEnv ≠ [] then some preloadEnv else none
    | none => none

/-- `getUpdatedLdPreload(filename, currLdPreload)`: the new `LD_PRELOAD` value, and the
environment after the `setenv` of `ENV_VAR_ORIG_LD_PRELOAD` to the appended segment. A `string`
built from an unset `ENV_VAR_HIJACK_LIBS` is undefined. -/
def getUpdatedLdPreload (constants : Constants) (fs : FileSystem) (filename currLdPreload : Str)
    (environ : Option (List Str)) : Except Fault (Str × Option (List Str)) :=
  match getenv environ constants.hijackLibs with
  | none => .error .undefinedRead
  | some preload =>
    let libraries := pluginLibraries constants fs filename environ preload
    match userSegment currLdPreload environ with
    | some segment =>
      .ok (joinPreload (libraries ++ [segment]),
        setenv environ constants.origLdPreload segment)
    | none => .ok (joinPreload libraries, environ)

/-- `patchUserEnv(env, filename)`, with the process environment it reads and leaves. -/
def patchUserEnv (constants : Constants) (fs : FileSystem) (env : List Str) (filename : Str)
    (environ : Option (List Str)) : Except Fault (List Str × Option (List Str)) :=
  let (result, userPreloadStr) := env.foldl (userEntryStep constants) ([], [])
  let result := constants.importantEnvs.foldl
    (fun result e => result ++ (reservedEntry constants environ userPreloadStr e).toList) result
  (getUpdatedLdPreload constants fs filename userPreloadStr environ).map
    fun (newPreload, environ) => (result ++ [ldPreloadPrefix ++ newPreload], environ)

/-! ### The passes in closed form -/

/-- A user entry `patchUserEnv` keeps: not reserved, and not `LD_PRELOAD=`. -/
def userKept (constants : Constants) (entry : Str) : Bool :=
  !isImportantEnv constants entry && !strStartsWith entry ldPreloadPrefix

/-- The user's preload in an environment block: the value of its last `LD_PRELOAD=` entry, and
the empty string when it has none. -/
def userPreload (env : List Str) : Str :=
  (((env.filter (strStartsWith · ldPreloadPrefix)).getLast?).map
    (·.drop ldPreloadPrefix.length)).getD []

theorem ldPreloadPrefix_append (value : Str) :
    ldPreloadPrefix ++ value = assignment ldPreload value := by
  simp [ldPreloadPrefix, assignment]

theorem userKept_iff (constants : Constants) (entry : Str) :
    userKept constants entry = true ↔
      entryName entry ∉ constants.importantEnvs ∧ strStartsWith entry ldPreloadPrefix = false := by
  simp [userKept, isImportantEnv]

theorem ldPreload_valid : '=' ∉ ldPreload := by decide

theorem strStartsWith_ldPreloadPrefix (entry : Str) :
    strStartsWith entry ldPreloadPrefix = matchesName ldPreload entry := rfl

theorem isImportantEnv_iff (constants : Constants) (entry : Str) :
    isImportantEnv constants entry = true ↔ entryName entry ∈ constants.importantEnvs := by
  simp [isImportantEnv]

/-- An `LD_PRELOAD=` entry is not reserved. -/
theorem isImportantEnv_of_ldPreload {constants : Constants}
    (notReserved : ldPreload ∉ constants.importantEnvs) {entry : Str}
    (preloadEntry : strStartsWith entry ldPreloadPrefix = true) :
    isImportantEnv constants entry = false := by
  rw [strStartsWith_ldPreloadPrefix] at preloadEntry
  refine Bool.eq_false_iff.2 fun reserved => notReserved ?_
  rwa [isImportantEnv_iff, entryName_of_matchesName ldPreload_valid preloadEntry] at reserved

theorem foldl_userEntryStep (constants : Constants)
    (notReserved : ldPreload ∉ constants.importantEnvs) (env result : List Str)
    (userPreloadStr : Str) :
    env.foldl (userEntryStep constants) (result, userPreloadStr) =
      (result ++ env.filter (userKept constants),
        (((env.filter (strStartsWith · ldPreloadPrefix)).getLast?).map
          (·.drop ldPreloadPrefix.length)).getD userPreloadStr) := by
  induction env generalizing result userPreloadStr with
  | nil => simp
  | cons entry env inductionHypothesis =>
    by_cases reserved : isImportantEnv constants entry = true
    · have notPreload : strStartsWith entry ldPreloadPrefix = false := by
        cases preloadEntry : strStartsWith entry ldPreloadPrefix
        · rfl
        · rw [isImportantEnv_of_ldPreload notReserved preloadEntry] at reserved
          cases reserved
      simp [userEntryStep, reserved, notPreload, userKept, inductionHypothesis]
    · by_cases preloadEntry : strStartsWith entry ldPreloadPrefix = true
      · simp only [List.foldl_cons, userEntryStep, reserved, preloadEntry, if_true,
          Bool.false_eq_true, if_false, inductionHypothesis, List.filter_cons, userKept]
        rw [List.getLast?_cons]
        cases (env.filter (strStartsWith · ldPreloadPrefix)).getLast? <;> simp
      · simp [userEntryStep, reserved, preloadEntry, userKept, inductionHypothesis]

theorem foldl_reservedEntry (constants : Constants) (environ : Option (List Str))
    (userPreloadStr : Str) (names result : List Str) :
    names.foldl
        (fun result e => result ++ (reservedEntry constants environ userPreloadStr e).toList)
        result =
      result ++ names.filterMap (reservedEntry constants environ userPreloadStr) := by
  induction names generalizing result with
  | nil => simp
  | cons e names inductionHypothesis =>
    rw [List.foldl_cons, inductionHypothesis, List.filterMap_cons]
    cases reservedEntry constants environ userPreloadStr e <;> simp

/-- `patchUserEnv` in closed form: the kept user entries, one entry per reserved variable that
has a value, and the `LD_PRELOAD=` entry. -/
theorem patchUserEnv_eq (constants : Constants)
    (notReserved : ldPreload ∉ constants.importantEnvs) (fs : FileSystem) (env : List Str)
    (filename : Str) (environ : Option (List Str)) :
    patchUserEnv constants fs env filename environ =
      (getUpdatedLdPreload constants fs filename (userPreload env) environ).map
        fun (newPreload, environ') =>
          (env.filter (userKept constants) ++
              constants.importantEnvs.filterMap
                (reservedEntry constants environ (userPreload env)) ++
              [ldPreloadPrefix ++ newPreload], environ') := by
  simp only [patchUserEnv, foldl_userEntryStep constants notReserved, List.nil_append,
    foldl_reservedEntry, userPreload]

/-- The patched environment has at most one entry more than the user's entries and the
reserved names together. -/
theorem patchUserEnv_length_le {constants : Constants}
    (notReserved : ldPreload ∉ constants.importantEnvs) {fs : FileSystem} {env result : List Str}
    {filename : Str} {environ environ' : Option (List Str)}
    (ok : patchUserEnv constants fs env filename environ = .ok (result, environ')) :
    result.length ≤ env.length + constants.importantEnvs.length + 1 := by
  rw [patchUserEnv_eq constants notReserved] at ok
  cases updated : getUpdatedLdPreload constants fs filename (userPreload env) environ with
  | error fault => simp [updated, Except.map] at ok
  | ok value =>
    simp only [updated, Except.map, Except.ok.injEq, Prod.mk.injEq] at ok
    rw [← ok.1]
    have kept := List.length_filter_le (userKept constants) env
    have reserved := List.length_filterMap_le
      (reservedEntry constants environ (userPreload env)) constants.importantEnvs
    simp only [List.length_append, List.length_singleton]
    omega

theorem getUpdatedLdPreload_eq (constants : Constants) (fs : FileSystem)
    {environ : Option (List Str)} {preload : Str}
    (hijack : getenv environ constants.hijackLibs = some preload) (filename currLdPreload : Str) :
    getUpdatedLdPreload constants fs filename currLdPreload environ =
      .ok (joinPreload (pluginLibraries constants fs filename environ preload ++
          (userSegment currLdPreload environ).toList),
        match userSegment currLdPreload environ with
        | some segment => setenv environ constants.origLdPreload segment
        | none => environ) := by
  simp only [getUpdatedLdPreload, hijack]
  cases userSegment currLdPreload environ <;> simp

/-- The library list reads only `ENV_VAR_HIJACK_LIBS_M32` of the process environment. -/
theorem pluginLibraries_congr (constants : Constants) (fs : FileSystem) (filename : Str)
    {environ environ' : Option (List Str)}
    (same : getenv environ' constants.hijackLibsM32 = getenv environ constants.hijackLibsM32)
    (preload : Str) :
    pluginLibraries constants fs filename environ' preload =
      pluginLibraries constants fs filename environ preload := by
  simp only [pluginLibraries, hijackList, same]

theorem userSegment_of_ne_nil {currLdPreload : Str} (given : currLdPreload ≠ [])
    (environ : Option (List Str)) : userSegment currLdPreload environ = some currLdPreload := by
  simp [userSegment, given]

/-- The library list and `is32bitElf` of `getUpdatedLdPreload`, spelled out. -/
theorem hijackList_eq (constants : Constants) (fs : FileSystem) (filename : Str)
    (environ : Option (List Str)) (preload : Str) :
    hijackList constants fs filename environ preload =
      (if (getenv environ constants.hijackLibsM32).isSome ∧
          fs.elfType filename = some (true, true) then
        (getenv environ constants.hijackLibsM32).getD []
      else preload,
      (getenv environ constants.hijackLibsM32).isSome &&
        ((fs.elfType filename).map Prod.snd).getD false) := by
  unfold hijackList
  cases getenv environ constants.hijackLibsM32 with
  | none => simp
  | some preloadM32 =>
    rcases fs.elfType filename with _ | ⟨_ | _, _ | _⟩ <;> simp

/-- The segment `getUpdatedLdPreload` appends, spelled out. -/
theorem userSegment_eq (currLdPreload : Str) (environ : Option (List Str)) :
    userSegment currLdPreload environ =
      if currLdPreload ≠ [] then some currLdPreload
      else (getenv environ ldPreload).filter fun value => !value.isEmpty := by
  unfold userSegment
  split_ifs
  · rfl
  · cases getenv environ ldPreload with
    | none => rfl
    | some value => cases value <;> simp [Option.filter]

/-- The value `getUpdatedLdPreload` gives `LD_PRELOAD`, spelled out: the `:`-join of the
tokenized library list, `ENV_VAR_HIJACK_LIBS_M32` for a 32-bit ELF when that is set and
`ENV_VAR_HIJACK_LIBS` otherwise, each library kept where it exists and else looked up by its
base name, followed by `currLdPreload` when non-empty, else by the process's non-empty
`LD_PRELOAD`. -/
theorem joinPreload_pluginLibraries (constants : Constants) (fs : FileSystem) (filename : Str)
    (environ : Option (List Str)) (preload currLdPreload : Str) :
    joinPreload (pluginLibraries constants fs filename environ preload ++
        (userSegment currLdPreload environ).toList) =
      [':'].intercalate ((tokenizeString
          (if (getenv environ constants.hijackLibsM32).isSome ∧
              fs.elfType filename = some (true, true) then
            (getenv environ constants.hijackLibsM32).getD []
          else preload) [':']).map (fun library =>
          if fs.fileExists library then library
          else fs.getPath (baseName library) ((getenv environ constants.hijackLibsM32).isSome &&
            ((fs.elfType filename).map Prod.snd).getD false)) ++
        (if currLdPreload ≠ [] then some currLdPreload
          else (getenv environ ldPreload).filter fun value => !value.isEmpty).toList) := by
  rw [joinPreload_eq_intercalate, userSegment_eq, pluginLibraries, hijackList_eq]
  rfl

/-- `getUpdatedLdPreload` writes no variable but `ENV_VAR_ORIG_LD_PRELOAD`. -/
theorem getUpdatedLdPreload_environ {constants : Constants} {fs : FileSystem}
    {filename currLdPreload newPreload : Str} {environ environ' : Option (List Str)}
    (ok : getUpdatedLdPreload constants fs filename currLdPreload environ =
      .ok (newPreload, environ')) :
    environ' = environ ∨
      ∃ segment, environ' = setenv environ constants.origLdPreload segment := by
  unfold getUpdatedLdPreload at ok
  split at ok
  · cases ok
  · split at ok <;> cases ok
    · exact .inr ⟨_, rfl⟩
    · exact .inl rfl

theorem patchUserEnv_environ {constants : Constants} {fs : FileSystem} {env result : List Str}
    {filename : Str} {environ environ' : Option (List Str)}
    (ok : patchUserEnv constants fs env filename environ = .ok (result, environ')) :
    environ' = environ ∨
      ∃ segment, environ' = setenv environ constants.origLdPreload segment := by
  unfold patchUserEnv at ok
  cases updated : getUpdatedLdPreload constants fs filename
    (env.foldl (userEntryStep constants) ([], [])).2 environ with
  | error fault => simp [updated, Except.map] at ok
  | ok value =>
    obtain ⟨newPreload, environ''⟩ := value
    simp only [updated, Except.map, Except.ok.injEq, Prod.mk.injEq] at ok
    exact ok.2 ▸ getUpdatedLdPreload_environ updated

/-- The process environment `getUpdatedLdPreload` leaves: `ENV_VAR_ORIG_LD_PRELOAD` set to the
segment it appends, when it appends one. -/
def origLdPreloadSet (constants : Constants) (currLdPreload : Str)
    (environ : Option (List Str)) : Option (List Str) :=
  match userSegment currLdPreload environ with
  | some segment => setenv environ constants.origLdPreload segment
  | none => environ

/-- The process environment `patchUserEnv` leaves. -/
theorem patchUserEnv_environ_eq {constants : Constants}
    (notReserved : ldPreload ∉ constants.importantEnvs) {fs : FileSystem} {env result : List Str}
    {filename : Str} {environ environ' : Option (List Str)}
    (ok : patchUserEnv constants fs env filename environ = .ok (result, environ')) :
    environ' = origLdPreloadSet constants (userPreload env) environ := by
  rw [patchUserEnv_eq constants notReserved] at ok
  cases hijack : getenv environ constants.hijackLibs with
  | none => simp [getUpdatedLdPreload, hijack, Except.map] at ok
  | some preload =>
    rw [getUpdatedLdPreload_eq constants fs hijack] at ok
    simp only [Except.map, Except.ok.injEq, Prod.mk.injEq] at ok
    exact ok.2.symm

/-! ### The reserved entries -/

/-- The entry added for a reserved variable is named by it. -/
theorem entryName_of_reservedEntry {constants : Constants} {environ : Option (List Str)}
    {userPreloadStr e entry : Str} (valid : '=' ∉ e)
    (added : reservedEntry constants environ userPreloadStr e = some entry) :
    entryName entry = e := by
  unfold reservedEntry at added
  split at added
  · cases added
    exact entryName_assignment e _ valid
  · obtain ⟨value, -, rfl⟩ := Option.map_eq_some'.1 added
    exact entryName_assignment e value valid

theorem entryName_of_mem_reservedEntries {constants : Constants} {environ : Option (List Str)}
    {userPreloadStr entry : Str} {names : List Str} (valid : ∀ name ∈ names, '=' ∉ name)
    (member : entry ∈ names.filterMap (reservedEntry constants environ userPreloadStr)) :
    entryName entry ∈ names := by
  obtain ⟨e, reserved, added⟩ := List.mem_filterMap.1 member
  exact (entryName_of_reservedEntry (valid e reserved) added) ▸ reserved

/-- Over a list of distinct variable names, the reserved pass adds at most one entry per name. -/
theorem countP_reservedEntries_le (constants : Constants) (environ : Option (List Str))
    (userPreloadStr : Str) {names : List Str} (distinct : names.Nodup)
    (valid : ∀ name ∈ names, '=' ∉ name) (name : Str) :
    (names.filterMap (reservedEntry constants environ userPreloadStr)).countP
      (fun entry => entryName entry = name) ≤ 1 := by
  induction names with
  | nil => simp
  | cons e names inductionHypothesis =>
    obtain ⟨fresh, distinct⟩ := List.nodup_cons.1 distinct
    have restValid : ∀ name ∈ names, '=' ∉ name := fun n member => valid n (by simp [member])
    rw [List.filterMap_cons]
    cases added : reservedEntry constants environ userPreloadStr e with
    | none => exact inductionHypothesis distinct restValid
    | some entry =>
      have headName := entryName_of_reservedEntry (valid e (by simp)) added
      by_cases named : e = name
      · subst named
        have noOther : (names.filterMap (reservedEntry constants environ userPreloadStr)).countP
            (fun entry => entryName entry = e) = 0 := by
          rw [List.countP_eq_zero]
          intro other member sameName
          exact fresh (of_decide_eq_true sameName ▸
            entryName_of_mem_reservedEntries restValid member)
        simp [List.countP_cons, noOther, headName]
      · simpa [List.countP_cons, headName, named] using inductionHypothesis distinct restValid

/-! ### The layout of the patched environment -/

theorem entryName_ldPreloadEntry (value : Str) :
    entryName (ldPreloadPrefix ++ value) = ldPreload := by
  rw [ldPreloadPrefix_append]
  exact entryName_assignment ldPreload value ldPreload_valid

/-- An entry named by a reserved variable is not an `LD_PRELOAD=` entry. -/
theorem strStartsWith_of_reserved {constants : Constants}
    (notReserved : ldPreload ∉ constants.importantEnvs) {entry : Str}
    (named : entryName entry ∈ constants.importantEnvs) :
    strStartsWith entry ldPreloadPrefix = false :=
  Bool.eq_false_iff.2 fun preloadEntry => by
    rw [← isImportantEnv_iff, isImportantEnv_of_ldPreload notReserved preloadEntry] at named
    cases named

theorem filter_userKept (constants : Constants) (env : List Str) :
    env.filter (userKept constants) = env.filter (fun entry =>
      entryName entry ∉ constants.importantEnvs ∧ ¬ strStartsWith entry ldPreloadPrefix) := by
  refine List.filter_congr fun entry _ => ?_
  simp [userKept, isImportantEnv]

/-- The patched environment, for reserved names that are distinct variable names other than
`LD_PRELOAD` and a process environment that sets `ENV_VAR_HIJACK_LIBS`: the user's entries that
are neither reserved nor `LD_PRELOAD=`, in order; then entries named by reserved variables,
`ENV_VAR_ORIG_LD_PRELOAD` carrying the user's non-empty preload; and last the `LD_PRELOAD=`
entry. Its value is the `:`-join of the tokenized library list (`ENV_VAR_HIJACK_LIBS_M32` for a
32-bit ELF target when that is set, else `ENV_VAR_HIJACK_LIBS`), each library kept where it
exists and else looked up by its base name, followed by the user's non-empty preload, or else
the process's non-empty `LD_PRELOAD`. No reserved name occurs twice, and `LD_PRELOAD=` occurs
once. -/
theorem patchUserEnv_layout (constants : Constants) (names : ReservedNames constants)
    (fs : FileSystem) {environ : Option (List Str)} {preload : Str}
    (hijack : getenv environ constants.hijackLibs = some preload) (env : List Str)
    (filename : Str) :
    let m32 := getenv environ constants.hijackLibsM32
    let is32bitElf := m32.isSome && ((fs.elfType filename).map Prod.snd).getD false
    let list :=
      if m32.isSome ∧ fs.elfType filename = some (true, true) then m32.getD [] else preload
    let libraries := (tokenizeString list [':']).map fun library =>
      if fs.fileExists library then library else fs.getPath (baseName library) is32bitElf
    let segment := if userPreload env ≠ [] then some (userPreload env)
      else (getenv environ ldPreload).filter fun value => !value.isEmpty
    ∃ result reserved environ',
      patchUserEnv constants fs env filename environ = .ok (result, environ') ∧
      result = env.filter (fun entry => entryName entry ∉ constants.importantEnvs ∧
          ¬ strStartsWith entry ldPreloadPrefix) ++ reserved ++
        [ldPreloadPrefix ++ [':'].intercalate (libraries ++ segment.toList)] ∧
      (∀ entry ∈ reserved, entryName entry ∈ constants.importantEnvs) ∧
      (constants.origLdPreload ∈ constants.importantEnvs → userPreload env ≠ [] →
        assignment constants.origLdPreload (userPreload env) ∈ reserved) ∧
      (∀ name ∈ constants.importantEnvs,
        result.countP (fun entry => entryName entry = name) ≤ 1) ∧
      result.countP (fun entry => strStartsWith entry ldPreloadPrefix) = 1 := by
  intro m32 is32bitElf list libraries segment
  set reserved := constants.importantEnvs.filterMap
    (reservedEntry constants environ (userPreload env))
  have reservedNamed : ∀ entry ∈ reserved, entryName entry ∈ constants.importantEnvs :=
    fun entry member => entryName_of_mem_reservedEntries names.valid member
  refine ⟨_, reserved, _, by
    rw [patchUserEnv_eq constants names.ldPreload_not_mem, getUpdatedLdPreload_eq constants fs
      hijack]; rfl, by rw [filter_userKept, joinPreload_pluginLibraries], reservedNamed, ?_, ?_,
    ?_⟩
  · intro origReserved nonempty
    exact List.mem_filterMap.2 ⟨_, origReserved, by simp [reservedEntry, nonempty]⟩
  · intro name reservedName
    have userNone : (env.filter (userKept constants)).countP
        (fun entry => entryName entry = name) = 0 :=
      List.countP_eq_zero.2 fun entry member sameName =>
        ((userKept_iff constants entry).1 (List.mem_filter.1 member).2).1
          (of_decide_eq_true sameName ▸ reservedName)
    have lastNot : ∀ value, entryName (ldPreloadPrefix ++ value) ≠ name := by
      intro value
      rw [entryName_ldPreloadEntry]
      rintro rfl
      exact names.ldPreload_not_mem reservedName
    simpa [List.countP_append, userNone, lastNot] using
      countP_reservedEntries_le constants environ (userPreload env) names.nodup names.valid name
  · have userNone : (env.filter (userKept constants)).countP
        (fun entry => strStartsWith entry ldPreloadPrefix) = 0 :=
      List.countP_eq_zero.2 fun entry member => by
        simp [((userKept_iff constants entry).1 (List.mem_filter.1 member).2).2]
    have reservedNone : reserved.countP (fun entry => strStartsWith entry ldPreloadPrefix) = 0 := by
      rw [List.countP_eq_zero]
      intro entry member
      simp [strStartsWith_of_reserved names.ldPreload_not_mem (reservedNamed entry member)]
    rw [List.countP_append, List.countP_append, userNone, reservedNone]
    simp [strStartsWith]

theorem patchUserEnv_layout_sample :
    ReservedNames sampleConstants ∧
      getenv (some ["DMTCP_HIJACK_LIBS=libdmtcp.so".toList]) sampleConstants.hijackLibs =
        some "libdmtcp.so".toList ∧
      let environ := some ["DMTCP_HIJACK_LIBS=libdmtcp.so".toList]
      let env := ["HOME=/".toList, "LD_PRELOAD=a.so".toList]
      let filename := "/bin/true".toList
      let m32 := getenv environ sampleConstants.hijackLibsM32
      let is32bitElf :=
        m32.isSome && ((sampleFileSystem.elfType filename).map Prod.snd).getD false
      let list := if m32.isSome ∧ sampleFileSystem.elfType filename = some (true, true) then
        m32.getD [] else "libdmtcp.so".toList
      let libraries := (tokenizeString list [':']).map fun library =>
        if sampleFileSystem.fileExists library then library
        else sampleFileSystem.getPath (baseName library) is32bitElf
      let segment := if userPreload env ≠ [] then some (userPreload env)
        else (getenv environ ldPreload).filter fun value => !value.isEmpty
      ∃ result reserved environ',
        patchUserEnv sampleConstants sampleFileSystem env filename environ =
          .ok (result, environ') ∧
        result = env.filter (fun entry => entryName entry ∉ sampleConstants.importantEnvs ∧
            ¬ strStartsWith entry ldPreloadPrefix) ++ reserved ++
          [ldPreloadPrefix ++ [':'].intercalate (libraries ++ segment.toList)] ∧
        (∀ entry ∈ reserved, entryName entry ∈ sampleConstants.importantEnvs) ∧
        (sampleConstants.origLdPreload ∈ sampleConstants.importantEnvs → userPreload env ≠ [] →
          assignment sampleConstants.origLdPreload (userPreload env) ∈ reserved) ∧
        (∀ name ∈ sampleConstants.importantEnvs,
          result.countP (fun entry => entryName entry = name) ≤ 1) ∧
        result.countP (fun entry => strStartsWith entry ldPreloadPrefix) = 1 :=
  ⟨sampleConstants_reservedNames, by decide,
    patchUserEnv_layout sampleConstants sampleConstants_reservedNames sampleFileSystem
      (by decide) _ _⟩

end Dmtcp
