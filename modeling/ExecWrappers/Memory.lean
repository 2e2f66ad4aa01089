/-
This file models the arrays of C strings the exec wrappers build and hand on: `copyEnv`, which
copies a NULL-terminated array into a vector, `stringVectorToPointerArray`, which lays a
vector out in a fresh allocation of `len` slots and stores `NULL` after it, and the reads of
such an array up to its `NULL`. A slot is uninitialized until it is written; a store past the
end of the allocation and a read of an uninitialized slot are faults, and so is a failed
`JASSERT`.

The lemmas say exactly when `stringVectorToPointerArray` stays inside its allocation: when the
vector is shorter than `len`. The array then holds the vector and `NULL` after it, and reading
it back gives the vector. When the vector has exactly `len` entries the `JASSERT` passes and the
`NULL` is stored one slot past the end.
-/

import ExecWrappers.Environ

namespace Dmtcp

/-- What ends a process without a return to its caller, other than an exit or an exec: a
failed `JASSERT`, or a step whose behaviour C leaves undefined, where the model stops. -/
inductive Fault
  /-- A `JASSERT` failed. -/
  | assertion
  /-- A store past the end of an allocation. -/
  | outOfBounds
  /-- A read of memory the program never wrote: an uninitialized slot, an unterminated
  buffer, or a variadic argument the caller did not pass. -/
  | undefinedRead
deriving DecidableEq, Repr

/-- A slot of an array of `char *`. -/
inductive Slot
  | uninit
  | null
  | str (s : Str)
deriving DecidableEq, Repr

/-- An allocated array of `char *`, one entry per slot. -/
abbrev PointerArray := List Slot

/-- The store `array[index] = value` into an allocation of `array.length` slots. -/
def store (array : PointerArray) (index : Nat) (value : Slot) : Except Fault PointerArray :=
  if index < array.length then .ok (array.set index value) else .error .outOfBounds

/-- The loop `result[i] = s[i].c_str()` of `stringVectorToPointerArray`, from slot `index`. -/
def storeStrings : PointerArray → Nat → List Str → Except Fault PointerArray
  | array, _, [] => .ok array
  | array, index, s :: rest =>
    (store array index (.str s)).bind fun array => storeStrings array (index + 1) rest

/-- `stringVectorToPointerArray(s, len)`: `JASSERT(len >= s.size())`, a fresh allocation of
`len` slots, the strings of `s`, and `result[s.size()] = NULL`. -/
def stringVectorToPointerArray (s : List Str) (len : Nat) : Except Fault PointerArray :=
  if len < s.length then .error .assertion
  else (storeStrings (List.replicate len .uninit) 0 s).bind fun result =>
    store result s.length .null

/-- The strings of a NULL-terminated array, read while `env[i] != NULL`. -/
def readStrings : PointerArray → Except Fault (List Str)
  | [] => .error .outOfBounds
  | .uninit :: _ => .error .undefinedRead
  | .null :: _ => .ok []
  | .str s :: rest => (readStrings rest).map (s :: ·)

/-- `copyEnv`: the entries of a NULL-terminated array, and none for `NULL`. -/
def copyEnv (envp : Option (List Str)) : List Str := envp.getD []

/-! ### Laying out a vector -/

theorem store_of_lt {array : PointerArray} {index : Nat} (inside : index < array.length)
    (value : Slot) : store array index value = .ok (array.set index value) := by
  simp [store, inside]

theorem storeStrings_replicate (done rest : List Str) (free : Nat)
    (fits : rest.length ≤ free) :
    storeStrings (done.map .str ++ List.replicate free .uninit) done.length rest =
      .ok ((done ++ rest).map .str ++ List.replicate (free - rest.length) .uninit) := by
  induction rest generalizing done free with
  | nil => simp [storeStrings]
  | cons s rest inductionHypothesis =>
    obtain ⟨free, rfl⟩ : ∃ remaining, free = remaining + 1 :=
      ⟨free - 1, by simp at fits; omega⟩
    have stored : (done.map Slot.str ++ List.replicate (free + 1) Slot.uninit).set done.length
        (.str s) = (done ++ [s]).map .str ++ List.replicate free Slot.uninit := by
      rw [List.set_append_right _ _ (by simp)]
      simp [List.replicate_succ]
    have inside :
        done.length < (done.map Slot.str ++ List.replicate (free + 1) Slot.uninit).length := by
      simp
    have next := inductionHypothesis (done ++ [s]) free (by simpa using fits)
    simp only [storeStrings, store_of_lt inside, Except.bind, stored]
    simpa using next

/-- A vector shorter than `len` is laid out with `NULL` after it, inside the allocation. -/
theorem stringVectorToPointerArray_of_lt {s : List Str} {len : Nat} (fits : s.length < len) :
    stringVectorToPointerArray s len =
      .ok (s.map .str ++ .null :: List.replicate (len - s.length - 1) .uninit) := by
  have laidOut := storeStrings_replicate [] s len fits.le
  simp only [List.map_nil, List.nil_append, List.length_nil] at laidOut
  obtain ⟨free, hfree⟩ : ∃ free, len - s.length = free + 1 :=
    ⟨len - s.length - 1, by omega⟩
  have stored : (s.map Slot.str ++ List.replicate (len - s.length) Slot.uninit).set s.length
      .null = s.map .str ++ .null :: List.replicate (len - s.length - 1) Slot.uninit := by
    rw [List.set_append_right _ _ (by simp), hfree]
    simp [List.replicate_succ]
  have inside : s.length < (s.map Slot.str ++ List.replicate (len - s.length) Slot.uninit).length :=
    by simp; omega
  simp only [stringVectorToPointerArray, show ¬len < s.length by omega, if_false, laidOut,
    Except.bind, store_of_lt inside, stored]

/-- A vector of exactly `len` strings passes the `JASSERT`, and its `NULL` is stored past the
end of the allocation. -/
theorem stringVectorToPointerArray_length (s : List Str) :
    stringVectorToPointerArray s s.length = .error .outOfBounds := by
  have laidOut := storeStrings_replicate [] s s.length le_rfl
  simp only [List.map_nil, List.nil_append, List.length_nil, Nat.sub_self,
    List.replicate_zero, List.append_nil] at laidOut
  simp [stringVectorToPointerArray, laidOut, Except.bind, store]

/-- A vector longer than `len` fails the `JASSERT`. -/
theorem stringVectorToPointerArray_of_gt {s : List Str} {len : Nat} (over : len < s.length) :
    stringVectorToPointerArray s len = .error .assertion := by
  simp [stringVectorToPointerArray, over]

/-- The call succeeds exactly when the vector is shorter than `len`. -/
theorem stringVectorToPointerArray_ok_iff (s : List Str) (len : Nat) :
    (∃ array, stringVectorToPointerArray s len = .ok array) ↔ s.length < len := by
  constructor
  · rintro ⟨array, laidOut⟩
    rcases Nat.lt_trichotomy s.length len with fits | same | over
    · exact fits
    · rw [← same, stringVectorToPointerArray_length] at laidOut
      cases laidOut
    · rw [stringVectorToPointerArray_of_gt over] at laidOut
      cases laidOut
  · intro fits
    exact ⟨_, stringVectorToPointerArray_of_lt fits⟩

/-! ### Reading an array back -/

theorem readStrings_append_null (s : List Str) (rest : PointerArray) :
    readStrings (s.map .str ++ .null :: rest) = .ok s := by
  induction s with
  | nil => rfl
  | cons head tail inductionHypothesis =>
    simp [readStrings, inductionHypothesis, Except.map]

/-- An array laid out by `stringVectorToPointerArray` reads back as the vector. -/
theorem readStrings_of_stringVectorToPointerArray {s : List Str} {len : Nat}
    {array : PointerArray} (laidOut : stringVectorToPointerArray s len = .ok array) :
    readStrings array = .ok s := by
  have fits := (stringVectorToPointerArray_ok_iff s len).1 ⟨array, laidOut⟩
  rw [stringVectorToPointerArray_of_lt fits] at laidOut
  cases laidOut
  exact readStrings_append_null s _

end Dmtcp
