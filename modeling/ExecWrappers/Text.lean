/-
This file fixes how the exec wrappers' strings are read. A C string or a `std::string` of
`execwrappers.cpp` is the list of its characters, without the terminating NUL; a `char *` that
may be `NULL` is an `Option` of one. The helpers are the string operations the wrappers call:
the prefix and suffix tests of `Util`, `jalib::Filesystem::BaseName`, `tokenizeString`, the
`:`-join at the end of `getUpdatedLdPreload`, and the name of an environment entry as
`isImportantEnv` cuts it. The files that define the first four are not among the sources, so
they are modelled from what the spec and the call sites say they do.

The lemmas are the two facts every later proof about environments uses: an entry
`name=value` written for a name without `=` has that name, and it is found by `getenv` for that
name and for no other.
-/

import Mathlib

namespace Dmtcp

/-- A C string or `std::string`: its characters, without the terminating NUL. -/
abbrev Str := List Char

/-- Modelled from the spec: `Util::strStartsWith` (util.cpp, not under src/), whether `str`
begins with `pattern`. -/
def strStartsWith (str pattern : Str) : Bool := pattern.isPrefixOf str

/-- Modelled from the spec: `Util::strEndsWith` (util.cpp, not under src/), whether `str`
ends with `pattern`. -/
def strEndsWith (str pattern : Str) : Bool := pattern.isSuffixOf str

/-- Modelled from the spec: `jalib::Filesystem::BaseName` (jalib, not under src/), the part of
a path after its last `/`; the wrappers dispatch on it by name. -/
def baseName (path : Str) : Str := (path.reverse.takeWhile (· != '/')).reverse

/-- Modelled from the spec: `tokenizeString` (tokenize.cpp, not under src/) cuts a
`delims`-separated list into its non-empty pieces. -/
def tokenizeString (str delims : Str) : List Str :=
  (str.splitOnP fun c => delims.contains c).filter fun piece => !piece.isEmpty

/-- The `:`-join at the end of `getUpdatedLdPreload`: the first library, then `":" + library`
for each further one, and the empty string when there is none. -/
def joinPreload : List Str → Str
  | [] => []
  | first :: rest => rest.foldl (fun newPreload library => newPreload ++ ':' :: library) first

/-- The name of an environment entry as `isImportantEnv` cuts it,
`str.substr(0, str.find("="))`: the whole entry when it has no `=`. -/
def entryName (entry : Str) : Str := entry.takeWhile (· != '=')

/-- The entry `name=value` that `setenv` and `patchUserEnv` write. -/
def assignment (name value : Str) : Str := name ++ '=' :: value

/-- `getenv`'s test for an entry of `name`: the entry begins with `name=`. -/
def matchesName (name entry : Str) : Bool := (name ++ ['=']).isPrefixOf entry

/-! ### Entries and names -/

theorem entryName_assignment (name value : Str) (valid : '=' ∉ name) :
    entryName (assignment name value) = name := by
  have named : ∀ c ∈ name, (c != '=') = true := fun c member => by
    simpa using fun equal : c = '=' => valid (equal ▸ member)
  simp [entryName, assignment, List.takeWhile_append_of_pos named]

theorem matchesName_iff (name entry : Str) :
    matchesName name entry = true ↔ ∃ value, entry = assignment name value := by
  simp only [matchesName, List.isPrefixOf_iff_prefix, List.IsPrefix, assignment]
  constructor
  · rintro ⟨value, rfl⟩
    exact ⟨value, by simp⟩
  · rintro ⟨value, rfl⟩
    exact ⟨value, by simp⟩

theorem matchesName_assignment_self (name value : Str) :
    matchesName name (assignment name value) = true :=
  (matchesName_iff name _).2 ⟨value, rfl⟩

/-- An entry found for a name without `=` has that name. -/
theorem entryName_of_matchesName {name entry : Str} (valid : '=' ∉ name)
    (found : matchesName name entry = true) : entryName entry = name := by
  obtain ⟨value, rfl⟩ := (matchesName_iff name entry).1 found
  exact entryName_assignment name value valid

/-- `name=value` is found for `other` only when `other` is `name`. -/
theorem matchesName_assignment {other name : Str} (value : Str) (validOther : '=' ∉ other)
    (validName : '=' ∉ name) :
    matchesName other (assignment name value) = true ↔ other = name := by
  constructor
  · intro found
    rw [← entryName_of_matchesName validOther found, entryName_assignment name value validName]
  · rintro rfl
    exact matchesName_assignment_self other value

theorem assignment_drop (name value : Str) :
    (assignment name value).drop (name.length + 1) = value := by
  simp [assignment, List.drop_append_eq_append_drop]

/-! ### Base names -/

/-- The base name of a path is what follows its last `/`. -/
theorem baseName_append_slash (dir name : Str) (noSlash : '/' ∉ name) :
    baseName (dir ++ '/' :: name) = name := by
  have kept : ∀ c ∈ name.reverse, (c != '/') = true := fun c member => by
    simpa using fun equal : c = '/' => noSlash (equal ▸ List.mem_reverse.1 member)
  simp [baseName, List.takeWhile_append_of_pos kept]

/-! ### The `:`-join -/

/-- Appending a library to a non-empty list appends `":" + library` to the join. -/
theorem joinPreload_append_single (libraries : List Str) (library : Str) :
    joinPreload (libraries ++ [library]) =
      if libraries = [] then library else joinPreload libraries ++ ':' :: library := by
  cases libraries with
  | nil => rfl
  | cons first rest => simp [joinPreload, List.foldl_append]

theorem foldl_colon_eq (rest : List Str) (newPreload : Str) :
    rest.foldl (fun newPreload library => newPreload ++ ':' :: library) newPreload =
      newPreload ++ (rest.map (':' :: ·)).flatten := by
  induction rest generalizing newPreload with
  | nil => simp
  | cons library rest inductionHypothesis => simp [inductionHypothesis]

theorem intercalate_colon_cons (first : Str) (rest : List Str) :
    [':'].intercalate (first :: rest) = first ++ (rest.map (':' :: ·)).flatten := by
  induction rest generalizing first with
  | nil => simp [List.intercalate]
  | cons library rest inductionHypothesis =>
    simp only [List.intercalate, List.intersperse_cons₂, List.flatten_cons] at inductionHypothesis ⊢
    simp [inductionHypothesis]

/-- The join is the standard `:`-intercalation. -/
theorem joinPreload_eq_intercalate (libraries : List Str) :
    joinPreload libraries = [':'].intercalate libraries := by
  cases libraries with
  | nil => rfl
  | cons first rest => rw [joinPreload, foldl_colon_eq, intercalate_colon_cons]

end Dmtcp
