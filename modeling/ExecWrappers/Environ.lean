/-
This file models the process environment the wrappers read and write through libc. The
environment `environ` is an array of entries `name=value`, or `NULL` after `clearenv`;
`getenv` returns the value of the first entry of the name, `setenv(name, value, 1)` rewrites
that entry or adds one at the end, and `unsetenv` removes every entry of the name. These are
glibc's semantics, the collaborator the wrappers call.

The frame lemmas say that writing one variable changes no other: for names without `=`,
`getenv` of any other name reads the same after `setenv` or `unsetenv`. Every statement about
what an exec attempt leaves in the environment is assembled from them.
-/

import ExecWrappers.Text

namespace Dmtcp

/-- `getenv(name)`: the value of the first entry of `name`. -/
def getenv (environ : Option (List Str)) (name : Str) : Option Str :=
  environ.bind fun entries => (entries.find? (matchesName name)).map (·.drop (name.length + 1))

/-- The entries after `setenv(name, value, 1)`: the first entry of `name` is rewritten, or
`name=value` is added last. -/
def setEntry (name value : Str) : List Str → List Str
  | [] => [assignment name value]
  | entry :: entries =>
    if matchesName name entry then assignment name value :: entries
    else entry :: setEntry name value entries

/-- `setenv(name, value, 1)`; on a `NULL` environment it creates one. -/
def setenv (environ : Option (List Str)) (name value : Str) : Option (List Str) :=
  some (setEntry name value (environ.getD []))

/-- `unsetenv(name)`: every entry of `name` is removed. -/
def unsetenv (environ : Option (List Str)) (name : Str) : Option (List Str) :=
  environ.map (·.filter fun entry => !matchesName name entry)

/-! ### Reading back what was written -/

theorem find?_setEntry_self (name value : Str) (entries : List Str) :
    (setEntry name value entries).find? (matchesName name) = some (assignment name value) := by
  induction entries with
  | nil => simp [setEntry, matchesName_assignment_self]
  | cons entry entries inductionHypothesis =>
    by_cases found : matchesName name entry = true
    · simp [setEntry, found, matchesName_assignment_self]
    · simp [setEntry, found, inductionHypothesis]

@[simp]
theorem getenv_setenv_self (environ : Option (List Str)) (name value : Str) :
    getenv (setenv environ name value) name = some value := by
  simp [getenv, setenv, find?_setEntry_self, assignment_drop]

theorem find?_setEntry_other {other name : Str} (value : Str) (validOther : '=' ∉ other)
    (validName : '=' ∉ name) (distinct : other ≠ name) (entries : List Str) :
    (setEntry name value entries).find? (matchesName other) =
      entries.find? (matchesName other) := by
  have written : matchesName other (assignment name value) = false :=
    Bool.eq_false_iff.2 fun found =>
      distinct ((matchesName_assignment value validOther validName).1 found)
  induction entries with
  | nil => simp [setEntry, written]
  | cons entry entries inductionHypothesis =>
    by_cases found : matchesName name entry = true
    · obtain ⟨old, rfl⟩ := (matchesName_iff name entry).1 found
      have replaced : matchesName other (assignment name old) = false :=
        Bool.eq_false_iff.2 fun found =>
          distinct ((matchesName_assignment old validOther validName).1 found)
      simp [setEntry, found, written, replaced]
    · simp [setEntry, found, List.find?_cons, inductionHypothesis]

theorem setEntry_append_of_unmatched {name : Str} (value : Str) {entries : List Str}
    (unmatched : ∀ entry ∈ entries, matchesName name entry = false) (rest : List Str) :
    setEntry name value (entries ++ rest) = entries ++ setEntry name value rest := by
  induction entries with
  | nil => rfl
  | cons entry entries inductionHypothesis =>
    simp [setEntry, unmatched entry (List.mem_cons_self _ _),
      inductionHypothesis fun other member => unmatched other (List.mem_cons_of_mem _ member)]

/-- Setting one variable leaves every other one as it was. -/
theorem getenv_setenv_other (environ : Option (List Str)) {other name : Str} (value : Str)
    (validOther : '=' ∉ other) (validName : '=' ∉ name) (distinct : other ≠ name) :
    getenv (setenv environ name value) other = getenv environ other := by
  cases environ <;>
    simp [getenv, setenv, find?_setEntry_other value validOther validName distinct]

/-- Setting a variable to the value it has changes nothing. -/
theorem setenv_of_getenv {environ : Option (List Str)} {name value : Str}
    (has : getenv environ name = some value) : setenv environ name value = environ := by
  cases environ with
  | none => cases has
  | some entries =>
    simp only [getenv, Option.some_bind, Option.map_eq_some'] at has
    obtain ⟨entry, found, rfl⟩ := has
    simp only [setenv, Option.getD_some, Option.some.injEq]
    induction entries with
    | nil => cases found
    | cons head entries inductionHypothesis =>
      by_cases named : matchesName name head = true
      · obtain rfl : head = entry := by simpa [named] using found
        obtain ⟨old, rfl⟩ := (matchesName_iff name head).1 named
        simp [setEntry, named, assignment_drop]
      · simp only [List.find?_cons, named] at found
        simp [setEntry, named, inductionHypothesis found]

@[simp]
theorem getenv_unsetenv_self (environ : Option (List Str)) (name : Str) :
    getenv (unsetenv environ name) name = none := by
  cases environ <;> simp [getenv, unsetenv, List.find?_filter]

/-- Removing a variable that is not set changes nothing. -/
theorem unsetenv_of_getenv {environ : Option (List Str)} {name : Str}
    (unset : getenv environ name = none) : unsetenv environ name = environ := by
  cases environ with
  | none => rfl
  | some entries =>
    simp only [getenv, Option.some_bind, Option.map_eq_none', List.find?_eq_none] at unset
    simp only [unsetenv, Option.map_some', Option.some.injEq, List.filter_eq_self]
    intro entry member
    simp [unset entry member]

/-- Removing one variable leaves every other one as it was. -/
theorem getenv_unsetenv_other (environ : Option (List Str)) {other name : Str}
    (validOther : '=' ∉ other) (validName : '=' ∉ name) (distinct : other ≠ name) :
    getenv (unsetenv environ name) other = getenv environ other := by
  cases environ with
  | none => rfl
  | some entries =>
    have kept : ∀ entry, matchesName other entry = true → matchesName name entry = false := by
      intro entry found
      obtain ⟨value, rfl⟩ := (matchesName_iff other entry).1 found
      exact Bool.eq_false_iff.2 fun named =>
        distinct ((matchesName_assignment value validName validOther).1 named).symm
    have sameTest : (fun entry =>
        decide ((!matchesName name entry) = true ∧ matchesName other entry = true)) =
          matchesName other := by
      funext entry
      cases found : matchesName other entry
      · simp
      · simp [kept entry found]
    simp only [getenv, unsetenv, Option.map_some', Option.some_bind, List.find?_filter, sameTest]

end Dmtcp
