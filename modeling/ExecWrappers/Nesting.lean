/-
This file follows one environment through a nested exec. `patchUserEnv` builds the new image's
environment `E1`; the new image restores `LD_PRELOAD` to the user's preload, which in `E1` only
`ENV_VAR_ORIG_LD_PRELOAD` records (`restoreUserLDPRELOAD` of its value), and hands that
environment `E1'` to user code, which may exec again with `envp = environ`.

When the user's own block carried a non-empty `LD_PRELOAD=`, the reserved pass writes it to
`ENV_VAR_ORIG_LD_PRELOAD` in `E1`, and patching `E1'` reproduces `E1` entry for entry: the
libraries are injected once and the user's preload survives at any depth. When the preload
came from the process's own `LD_PRELOAD` instead, `E1` carries no such entry. The reserved pass
reads `ENV_VAR_ORIG_LD_PRELOAD` before `getUpdatedLdPreload` sets it, so only the process's
environment learns the appended segment; the new image finds no user preload to restore and
unsets `LD_PRELOAD`, and the nested exec drops the user's library.
-/

import ExecWrappers.Exec

namespace Dmtcp

/-! ### Reading a patched environment -/

/-- The value the reserved pass of `patchUserEnv` gives the reserved variable `e`: the user's
preload for `ENV_VAR_ORIG_LD_PRELOAD` when there is one, else the process's value. -/
def reservedValue (constants : Constants) (environ : Option (List Str)) (userPreloadStr e : Str) :
    Option Str :=
  if e = constants.origLdPreload ∧ userPreloadStr ≠ [] then some userPreloadStr
  else getenv environ e

theorem reservedEntry_eq (constants : Constants) (environ : Option (List Str))
    (userPreloadStr e : Str) :
    reservedEntry constants environ userPreloadStr e =
      (reservedValue constants environ userPreloadStr e).map (assignment e) := by
  unfold reservedEntry reservedValue
  split_ifs <;> rfl

theorem find?_matchesName_eq_none {name : Str} (valid : '=' ∉ name) {entries : List Str}
    (unnamed : ∀ entry ∈ entries, entryName entry ≠ name) :
    entries.find? (matchesName name) = none :=
  List.find?_eq_none.2 fun entry member found =>
    unnamed entry member (entryName_of_matchesName valid found)

/-- The first entry of a reserved variable among the reserved pass's entries is the one the
pass wrote for it. -/
theorem find?_reservedEntries (constants : Constants) (environ : Option (List Str))
    (userPreloadStr : Str) {names : List Str} (distinct : names.Nodup)
    (valid : ∀ name ∈ names, '=' ∉ name) {e : Str} (member : e ∈ names) :
    (names.filterMap (reservedEntry constants environ userPreloadStr)).find? (matchesName e) =
      reservedEntry constants environ userPreloadStr e := by
  induction names with
  | nil => cases member
  | cons name names inductionHypothesis =>
    obtain ⟨fresh, distinct⟩ := List.nodup_cons.1 distinct
    have restValid : ∀ n ∈ names, '=' ∉ n :=
      fun n other => valid n (List.mem_cons_of_mem _ other)
    rw [List.filterMap_cons]
    by_cases same : name = e
    · subst same
      have rest : (names.filterMap (reservedEntry constants environ userPreloadStr)).find?
          (matchesName name) = none :=
        find?_matchesName_eq_none (valid name (List.mem_cons_self _ _)) fun entry other named =>
          fresh (named ▸ entryName_of_mem_reservedEntries restValid other)
      rw [reservedEntry_eq]
      cases reservedValue constants environ userPreloadStr name <;>
        simp [rest, matchesName_assignment_self]
    · have unmatched (value : Str) : matchesName e (assignment name value) = false :=
        Bool.eq_false_iff.2 fun found => same ((matchesName_assignment value
          (valid e member) (valid name (List.mem_cons_self _ _))).1 found).symm
      have later := inductionHypothesis distinct restValid
        ((List.mem_cons.1 member).resolve_left (Ne.symm same))
      rw [reservedEntry_eq constants environ userPreloadStr name]
      cases reservedValue constants environ userPreloadStr name <;> simp [later, unmatched]

section Patched

variable (constants : Constants) (environ : Option (List Str)) (env : List Str)
  (userPreloadStr : Str)

/-- A patched environment with its `LD_PRELOAD=` entry carrying `value`. -/
def patchedWith (value : Str) : List Str :=
  env.filter (userKept constants) ++
    constants.importantEnvs.filterMap (reservedEntry constants environ userPreloadStr) ++
    [ldPreloadPrefix ++ value]

/-- Reading a reserved variable from a patched environment gives the value the reserved pass
wrote, whatever the `LD_PRELOAD=` entry says. -/
theorem getenv_patchedWith (names : ReservedNames constants) (value : Str) {e : Str}
    (member : e ∈ constants.importantEnvs) :
    getenv (some (patchedWith constants environ env userPreloadStr value)) e =
      reservedValue constants environ userPreloadStr e := by
  have valid := names.valid e member
  have userNone : (env.filter (userKept constants)).find? (matchesName e) = none :=
    find?_matchesName_eq_none valid fun entry kept named =>
      ((userKept_iff constants entry).1 (List.mem_filter.1 kept).2).1 (named ▸ member)
  have lastNone : [ldPreloadPrefix ++ value].find? (matchesName e) = none :=
    find?_matchesName_eq_none valid fun entry last named => by
      rw [List.mem_singleton.1 last, entryName_ldPreloadEntry] at named
      exact names.ldPreload_not_mem (named ▸ member)
  simp only [getenv, patchedWith, Option.some_bind, List.find?_append, userNone, lastNone,
    Option.none_or, Option.or_none, find?_reservedEntries constants environ userPreloadStr
      names.nodup names.valid member, reservedEntry_eq, Option.map_map]
  cases reservedValue constants environ userPreloadStr e <;> simp [assignment_drop]

/-- No entry of a patched environment before its last names `LD_PRELOAD`. -/
theorem matchesName_ldPreload_of_front (names : ReservedNames constants) :
    ∀ entry ∈ env.filter (userKept constants) ++
      constants.importantEnvs.filterMap (reservedEntry constants environ userPreloadStr),
      matchesName ldPreload entry = false := by
  intro entry member
  rw [← strStartsWith_ldPreloadPrefix]
  rcases List.mem_append.1 member with kept | reserved
  · exact ((userKept_iff constants entry).1 (List.mem_filter.1 kept).2).2
  · exact strStartsWith_of_reserved names.ldPreload_not_mem
      (entryName_of_mem_reservedEntries names.valid reserved)

/-- Setting `LD_PRELOAD` in a patched environment rewrites its last entry. -/
theorem setEntry_patchedWith (names : ReservedNames constants) (value value' : Str) :
    setEntry ldPreload value' (patchedWith constants environ env userPreloadStr value) =
      patchedWith constants environ env userPreloadStr value' := by
  rw [patchedWith, patchedWith, setEntry_append_of_unmatched value'
      (matchesName_ldPreload_of_front constants environ env userPreloadStr names),
    ldPreloadPrefix_append, ldPreloadPrefix_append]
  simp [setEntry, matchesName_assignment_self]

/-- `LD_PRELOAD` in a patched environment reads as its last entry's value. -/
theorem getenv_patchedWith_ldPreload (names : ReservedNames constants) (value : Str) :
    getenv (some (patchedWith constants environ env userPreloadStr value)) ldPreload =
      some value := by
  have front := List.find?_eq_none.2 fun entry member => Bool.eq_false_iff.1
    (matchesName_ldPreload_of_front constants environ env userPreloadStr names entry member)
  rw [getenv, patchedWith, Option.some_bind, List.find?_append, front, Option.none_or,
    ldPreloadPrefix_append]
  simp [matchesName_assignment_self, assignment_drop]

/-- A variable neither reserved nor `LD_PRELOAD` reads in a patched environment as in the user's
block: every entry of its name is kept, and none is added. -/
theorem getenv_patchedWith_user (names : ReservedNames constants) (value : Str) {name : Str}
    (valid : '=' ∉ name) (notReserved : name ∉ constants.importantEnvs)
    (notPreload : name ≠ ldPreload) :
    getenv (some (patchedWith constants environ env userPreloadStr value)) name =
      getenv (some env) name := by
  have keptNamed (entry : Str) (found : matchesName name entry = true) :
      userKept constants entry = true := by
    have named := entryName_of_matchesName valid found
    refine (userKept_iff constants entry).2 ⟨named ▸ notReserved, Bool.eq_false_iff.2 fun start => ?_⟩
    rw [strStartsWith_ldPreloadPrefix] at start
    exact notPreload (named.symm.trans (entryName_of_matchesName ldPreload_valid start))
  have userPart : (env.filter (userKept constants)).find? (matchesName name) =
      env.find? (matchesName name) := by
    rw [List.find?_filter]
    congr 1
    funext entry
    cases found : matchesName name entry <;> simp [found, keptNamed entry]
  have reservedNone : (constants.importantEnvs.filterMap
      (reservedEntry constants environ userPreloadStr)).find? (matchesName name) = none :=
    find?_matchesName_eq_none valid fun entry reserved named =>
      notReserved (named ▸ entryName_of_mem_reservedEntries names.valid reserved)
  have lastNone : [ldPreloadPrefix ++ value].find? (matchesName name) = none :=
    find?_matchesName_eq_none valid fun entry last named => by
      rw [List.mem_singleton.1 last, entryName_ldPreloadEntry] at named
      exact notPreload named.symm
  simp only [getenv, patchedWith, Option.some_bind, List.find?_append, userPart, reservedNone,
    lastNone, Option.or_none]

/-- The user's preload in a patched environment is its `LD_PRELOAD=` entry's value. -/
theorem userPreload_patchedWith (value : Str) :
    userPreload (patchedWith constants environ env userPreloadStr value) = value := by
  have last : strStartsWith (ldPreloadPrefix ++ value) ldPreloadPrefix = true := by
    simp [strStartsWith, List.isPrefixOf_iff_prefix]
  simp [userPreload, patchedWith, List.filter_append, last, List.drop_left]

/-- `patchUserEnv` keeps of a patched environment exactly the user entries it kept before. -/
theorem filter_userKept_patchedWith (names : ReservedNames constants) (value : Str) :
    (patchedWith constants environ env userPreloadStr value).filter (userKept constants) =
      env.filter (userKept constants) := by
  have reservedDropped : (constants.importantEnvs.filterMap
      (reservedEntry constants environ userPreloadStr)).filter (userKept constants) = [] :=
    List.filter_eq_nil_iff.2 fun entry reserved kept => ((userKept_iff constants entry).1 kept).1
      (entryName_of_mem_reservedEntries names.valid reserved)
  have lastDropped : userKept constants (ldPreloadPrefix ++ value) = false := by
    simp [userKept, strStartsWith, List.isPrefixOf_iff_prefix]
  simp [patchedWith, List.filter_append, List.filter_filter, reservedDropped, lastDropped]

end Patched

/-- The new image's environment as `getenv` reads it. A reserved variable has the value the
reserved pass gives it, the process's value or, for `ENV_VAR_ORIG_LD_PRELOAD`, the user's
non-empty preload; `LD_PRELOAD` is the `:`-join of the tokenized library list
(`ENV_VAR_HIJACK_LIBS_M32` for a 32-bit ELF target when that is set, else `ENV_VAR_HIJACK_LIBS`),
each library kept where it exists and else looked up by its base name, followed by the user's,
or else the process's, non-empty preload; and every other variable reads as in the user's block,
unset where the block does not set it. -/
theorem patchUserEnv_getenv (constants : Constants) (names : ReservedNames constants)
    (fs : FileSystem) {environ : Option (List Str)} {preload : Str}
    (hijack : getenv environ constants.hijackLibs = some preload) (env : List Str)
    (filename : Str) :
    let m32 := getenv environ constants.hijackLibsM32
    let is32bitElf := m32.isSome && ((fs.elfType filename).map Prod.snd).getD false
    let list :=
      if m32.isSome ∧ fs.elfType filename = some (true, true) then m32.getD [] else preload
    let libraries := (tokenizeString list [':']).map fun library =>
      if fs.fileExists library then library else fs.getPath (baseName library) is32bitElf
    let segment := if userPreload env ≠ [] then some (userPreload env)
      else (getenv environ ldPreload).filter fun value => !value.isEmpty
    ∃ result environ',
      patchUserEnv constants fs env filename environ = .ok (result, environ') ∧
      ∀ name, '=' ∉ name →
        getenv (some result) name =
          if name ∈ constants.importantEnvs then
            reservedValue constants environ (userPreload env) name
          else if name = ldPreload then some ([':'].intercalate (libraries ++ segment.toList))
          else getenv (some env) name := by
  intro m32 is32bitElf list libraries segment
  refine ⟨patchedWith constants environ env (userPreload env)
      (joinPreload (pluginLibraries constants fs filename environ preload ++
        (userSegment (userPreload env) environ).toList)),
    origLdPreloadSet constants (userPreload env) environ, ?_, fun name valid => ?_⟩
  · rw [patchUserEnv_eq constants names.ldPreload_not_mem, getUpdatedLdPreload_eq constants fs hijack]
    rfl
  split_ifs with reserved preloadName
  · exact getenv_patchedWith constants environ env _ names _ reserved
  · subst preloadName
    rw [getenv_patchedWith_ldPreload constants environ env _ names, joinPreload_pluginLibraries]
  · exact getenv_patchedWith_user constants environ env _ names _ valid reserved preloadName

theorem patchUserEnv_getenv_sample :
    ReservedNames sampleConstants ∧
      getenv (some ["DMTCP_HIJACK_LIBS=libdmtcp.so".toList]) sampleConstants.hijackLibs =
        some "libdmtcp.so".toList ∧
      let environ := some ["DMTCP_HIJACK_LIBS=libdmtcp.so".toList]
      let env := ["HOME=/".toList, "LD_PRELOAD=a.so".toList, "DMTCP_HIJACK_LIBS=b.so".toList]
      let filename := "/bin/true".toList
      let m32 := getenv environ sampleConstants.hijackLibsM32
      let is32bitElf :=
        m32.isSome && ((sampleFileSystem.elfType filename).map Prod.snd).getD false
      let list := if m32.isSome ∧ sampleFileSystem.elfType filename = some (true, true) then
        m32.getD [] else "libdmtcp.so".toList
      let libraries := (tokenizeString list [':']).map fun library =>
        if sampleFileSystem.fileExists library then library
        else sampleFileSystem.getPath (baseName library) is32bitElf
      let segment := if userPreload env ≠ [] then some (userPreload env)
        else (getenv environ ldPreload).filter fun value => !value.isEmpty
      ∃ result environ',
        patchUserEnv sampleConstants sampleFileSystem env filename environ =
          .ok (result, environ') ∧
        ∀ name, '=' ∉ name →
          getenv (some result) name =
            if name ∈ sampleConstants.importantEnvs then
              reservedValue sampleConstants environ (userPreload env) name
            else if name = ldPreload then some ([':'].intercalate (libraries ++ segment.toList))
            else getenv (some env) name := by
  have hijack : getenv (some ["DMTCP_HIJACK_LIBS=libdmtcp.so".toList]) sampleConstants.hijackLibs =
      some "libdmtcp.so".toList := by decide
  exact ⟨sampleConstants_reservedNames, hijack,
    patchUserEnv_getenv sampleConstants sampleConstants_reservedNames sampleFileSystem hijack _ _⟩

/-! ### A nested exec -/

/-- What a nested exec relies on of `constants.h`: `ourImportantEnvs` are reserved names that
include `ENV_VAR_ORIG_LD_PRELOAD`, `ENV_VAR_HIJACK_LIBS` and `ENV_VAR_HIJACK_LIBS_M32`, the last
two distinct from the first. -/
structure InjectionNames (constants : Constants) : Prop where
  reserved : ReservedNames constants
  orig_mem : constants.origLdPreload ∈ constants.importantEnvs
  hijack_mem : constants.hijackLibs ∈ constants.importantEnvs
  m32_mem : constants.hijackLibsM32 ∈ constants.importantEnvs
  hijack_ne : constants.hijackLibs ≠ constants.origLdPreload
  m32_ne : constants.hijackLibsM32 ≠ constants.origLdPreload

theorem sampleConstants_injectionNames : InjectionNames sampleConstants :=
  ⟨sampleConstants_reservedNames, by decide, by decide, by decide, by decide, by decide⟩

/-- When the user's environment block carries a non-empty `LD_PRELOAD=`, a nested exec is
stable: the environment the new image restores `LD_PRELOAD` in patches back to exactly the
environment `patchUserEnv` built, so the libraries are injected once and the user's preload
and every reserved entry are carried unchanged, at any depth. -/
theorem patchUserEnv_nested_of_userPreload (constants : Constants)
    (names : InjectionNames constants) (fs : FileSystem) {environ : Option (List Str)}
    {preload : Str} (hijack : getenv environ constants.hijackLibs = some preload)
    (env : List Str) (filename : Str) (userGiven : userPreload env ≠ []) :
    ∃ patched environ',
      patchUserEnv constants fs env filename environ = .ok (patched, environ') ∧
      ∃ image environ'', restoreUserLDPRELOAD (getenv (some patched) constants.origLdPreload)
          (some patched) = some image ∧
        patchUserEnv constants fs image filename (some image) = .ok (patched, environ'') := by
  have reserved := names.reserved
  set u := userPreload env
  set libraries := pluginLibraries constants fs filename environ preload
  set patched := patchedWith constants environ env u (joinPreload (libraries ++ [u]))
  have imageEq : restoreUserLDPRELOAD (getenv (some patched) constants.origLdPreload)
      (some patched) = some (patchedWith constants environ env u u) := by
    rw [getenv_patchedWith constants environ env u reserved _ names.orig_mem, reservedValue,
      if_pos ⟨rfl, userGiven⟩, restoreUserLDPRELOAD, setenv, Option.getD_some,
      setEntry_patchedWith constants environ env u reserved]
  set image := patchedWith constants environ env u u
  have reads {e : Str} (member : e ∈ constants.importantEnvs)
      (other : e ≠ constants.origLdPreload) :
      getenv (some image) e = getenv environ e := by
    rw [getenv_patchedWith constants environ env u reserved u member, reservedValue,
      if_neg fun named => other named.1]
  have sameReserved : constants.importantEnvs.filterMap (reservedEntry constants (some image) u) =
      constants.importantEnvs.filterMap (reservedEntry constants environ u) := by
    refine List.filterMap_congr fun e member => ?_
    rw [reservedEntry_eq, reservedEntry_eq, reservedValue, reservedValue]
    split_ifs with orig
    · rfl
    · rw [reads member fun named => orig ⟨named, userGiven⟩]
  have imageHijack : getenv (some image) constants.hijackLibs = some preload := by
    rw [reads names.hijack_mem names.hijack_ne, hijack]
  refine ⟨patched, setenv environ constants.origLdPreload u, ?first, image,
    setenv (some image) constants.origLdPreload u,
    imageEq, ?nested⟩
  case first =>
    rw [patchUserEnv_eq constants reserved.ldPreload_not_mem,
      getUpdatedLdPreload_eq constants fs hijack, userSegment_of_ne_nil userGiven]
    rfl
  case nested =>
    rw [patchUserEnv_eq constants reserved.ldPreload_not_mem,
      getUpdatedLdPreload_eq constants fs imageHijack, userPreload_patchedWith,
      userSegment_of_ne_nil userGiven,
      pluginLibraries_congr constants fs filename (reads names.m32_mem names.m32_ne),
      filter_userKept_patchedWith constants environ env u reserved, sameReserved]
    rfl

theorem patchUserEnv_nested_of_userPreload_sample :
    InjectionNames sampleConstants ∧
      getenv (some ["DMTCP_HIJACK_LIBS=libdmtcp.so".toList]) sampleConstants.hijackLibs =
        some "libdmtcp.so".toList ∧
      userPreload ["HOME=/".toList, "LD_PRELOAD=a.so".toList] ≠ [] ∧
      ∃ patched environ',
        patchUserEnv sampleConstants sampleFileSystem ["HOME=/".toList, "LD_PRELOAD=a.so".toList]
            "/bin/true".toList (some ["DMTCP_HIJACK_LIBS=libdmtcp.so".toList]) =
          .ok (patched, environ') ∧
        ∃ image environ'', restoreUserLDPRELOAD
            (getenv (some patched) sampleConstants.origLdPreload) (some patched) = some image ∧
          patchUserEnv sampleConstants sampleFileSystem image "/bin/true".toList (some image) =
            .ok (patched, environ'') := by
  have hijack : getenv (some ["DMTCP_HIJACK_LIBS=libdmtcp.so".toList]) sampleConstants.hijackLibs =
      some "libdmtcp.so".toList := by decide
  exact ⟨sampleConstants_injectionNames, hijack, by decide,
    patchUserEnv_nested_of_userPreload sampleConstants sampleConstants_injectionNames
      sampleFileSystem hijack _ _ (by decide)⟩

end Dmtcp
