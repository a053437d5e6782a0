import Mathlib

/-! Faults, pointer-sized arithmetic, and bounds-checked reads of byte slices. -/

namespace IpDiscovery

/-- The contents of a byte slice or a byte vector. -/
abbrev Bytes := List UInt8

/-- How a function body leaves without a value: by an error, by a panic, or not at all. -/
inductive Fault (ε : Type) where
  | err (error : ε)
  | panic
  | hang
deriving DecidableEq, Repr

/-- A computation that may return an error text or panic. -/
abbrev Run (α : Type) := Except (Fault String) α

section Control

variable {ε δ α β : Type}

/-- The error of an option that should have held a value. -/
def okOr (value : Option α) (error : ε) : Except (Fault ε) α :=
  match value with
  | some value => .ok value
  | none => .error (.err error)

/-- `if bad { return Err(error); }`. -/
def failIf (bad : Prop) [Decidable bad] (error : ε) : Except (Fault ε) Unit :=
  if bad then .error (.err error) else .ok ()

/-- `map_err`, which changes nothing but a returned error. -/
def mapErr (rename : ε → δ) : Except (Fault ε) α → Except (Fault δ) α
  | .ok value => .ok value
  | .error (.err error) => .error (.err (rename error))
  | .error .panic => .error .panic
  | .error .hang => .error .hang

/-- A value that is there is taken. -/
@[simp] theorem okOr_some (value : α) (error : ε) : okOr (some value) error = .ok value := rfl

/-- A success has no error to rename. -/
@[simp] theorem mapErr_ok (rename : ε → δ) (value : α) :
    mapErr rename (.ok value) = .ok value := rfl

/-- An option that was unwrapped held the value that came out. -/
theorem okOr_eq_ok {value : Option α} {error : ε} {result : α}
    (unwrapped : okOr value error = .ok result) : value = some result := by
  -- The empty option answers with its error.
  cases value with
  | none => cases unwrapped
  | some found => cases unwrapped; rfl

/-- A guard that does not hold is passed. -/
theorem failIf_neg {bad : Prop} [Decidable bad] (fine : ¬ bad) (error : ε) :
    failIf bad error = .ok () := if_neg fine

/-- A guard that holds is an error. -/
theorem failIf_pos {bad : Prop} [Decidable bad] (failed : bad) (error : ε) :
    failIf bad error = .error (.err error) := if_pos failed

/-- A passed check did not find its failure. -/
theorem failIf_eq_ok {bad : Prop} [Decidable bad] {error : ε} {result : Unit}
    (passed : failIf bad error = .ok result) : ¬ bad := by
  -- The failing branch returns an error.
  intro failed
  rw [failIf_pos failed] at passed
  cases passed

/-- Renaming errors neither makes nor loses a success. -/
theorem mapErr_eq_ok {rename : ε → δ} {run : Except (Fault ε) α} {value : α} :
    mapErr rename run = .ok value ↔ run = .ok value := by
  cases run with
  | ok found => simp [mapErr]
  | error fault => cases fault <;> simp [mapErr]

/-- A sequenced computation that succeeds has succeeded at its first step. -/
theorem bind_eq_ok {first : Except ε α} {next : α → Except ε β} {result : β}
    (ran : (first >>= next) = .ok result) :
    ∃ value, first = .ok value ∧ next value = .ok result := by
  -- An error of the first step would have been the whole answer.
  cases first with
  | error fault => cases ran
  | ok value => exact ⟨value, rfl, ran⟩

/-- A sequence succeeds exactly when its steps do. -/
theorem bind_eq_ok_iff {first : Except ε α} {next : α → Except ε β} {result : β} :
    (first >>= next) = .ok result ↔ ∃ value, first = .ok value ∧ next value = .ok result := by
  constructor
  · exact bind_eq_ok
  · rintro ⟨value, rfl, onward⟩
    exact onward

/-- A guard is passed exactly where it does not hold. -/
theorem failIf_eq_ok_iff {bad : Prop} [Decidable bad] {error : ε} {result : Unit} :
    failIf bad error = .ok result ↔ ¬ bad :=
  ⟨failIf_eq_ok, fun fine => failIf_neg fine error⟩

/-- An option succeeds exactly with the value it holds. -/
theorem okOr_eq_ok_iff {value : Option α} {error : ε} {result : α} :
    okOr value error = .ok result ↔ value = some result := by
  constructor
  · exact okOr_eq_ok
  · rintro rfl
    rfl

/-- What follows a success goes on with its value. -/
@[simp] theorem ok_bind (value : α) (next : α → Except ε β) :
    ((.ok value : Except ε α) >>= next) = next value := rfl

/-- A body that neither panics nor hangs: it returns a value or an error. -/
def Safe (run : Except (Fault ε) α) : Prop := run ≠ .error .panic ∧ run ≠ .error .hang

/-- A success is safe. -/
theorem Safe.ok (value : α) : Safe (.ok value : Except (Fault ε) α) := by
  constructor <;> intro fault <;> cases fault

/-- An error that was reported is safe. -/
theorem Safe.err (error : ε) : Safe (.error (.err error) : Except (Fault ε) α) := by
  constructor <;> intro fault <;> cases fault

/-- A guard is safe, whichever way it goes. -/
theorem Safe.failIf (bad : Prop) [Decidable bad] (error : ε) :
    Safe (failIf bad error) := by
  unfold IpDiscovery.failIf
  split
  · exact .err error
  · exact .ok ()

/-- A sequence is safe where its first step is, and whatever follows a value of that step. -/
theorem Safe.bind {first : Except (Fault ε) α} {next : α → Except (Fault ε) β}
    (returned : Safe first) (onward : ∀ value, first = .ok value → Safe (next value)) :
    Safe (first >>= next) := by
  -- A first step without a value is the whole body.
  cases first with
  | ok value => exact onward value rfl
  | error fault =>
    cases fault with
    | err error => exact .err error
    | panic => exact absurd rfl returned.1
    | hang => exact absurd rfl returned.2

/-- A body whose only way out without a value is one of the listed errors. -/
def FailsWith (errors : List ε) (run : Except (Fault ε) α) : Prop :=
  ∀ fault, run = .error fault → ∃ error ∈ errors, fault = .err error

/-- A success fails with no error at all. -/
theorem FailsWith.ok (errors : List ε) (value : α) :
    FailsWith errors (.ok value : Except (Fault ε) α) := by
  intro fault failed
  cases failed

/-- A guard fails with its own error. -/
theorem FailsWith.failIf (bad : Prop) [Decidable bad] {errors : List ε} {error : ε}
    (listed : error ∈ errors) : FailsWith errors (failIf bad error) := by
  intro fault failed
  unfold IpDiscovery.failIf at failed
  split at failed <;> cases failed
  exact ⟨error, listed, rfl⟩

/-- An absent value fails with its own error. -/
theorem FailsWith.okOr (value : Option α) {errors : List ε} {error : ε}
    (listed : error ∈ errors) : FailsWith errors (okOr value error) := by
  intro fault failed
  cases value <;> cases failed
  exact ⟨error, listed, rfl⟩

/-- A sequence fails only with what its first step or the rest fails with. -/
theorem FailsWith.bind {errors : List ε} {first : Except (Fault ε) α}
    {next : α → Except (Fault ε) β} (returned : FailsWith errors first)
    (onward : ∀ value, first = .ok value → FailsWith errors (next value)) :
    FailsWith errors (first >>= next) := by
  -- A first step without a value is the whole body.
  cases first with
  | ok value => exact onward value rfl
  | error fault =>
    intro fault' failed
    cases failed
    exact returned fault rfl

/-- Failing with errors alone leaves no panic and no hang. -/
theorem FailsWith.safe {errors : List ε} {run : Except (Fault ε) α}
    (fails : FailsWith errors run) : Safe run := by
  constructor
  · intro panicked
    obtain ⟨_, _, same⟩ := fails _ panicked
    cases same
  · intro hung
    obtain ⟨_, _, same⟩ := fails _ hung
    cases same

/-- An error that is not listed does not come out. -/
theorem FailsWith.ne {errors : List ε} {run : Except (Fault ε) α} {error : ε}
    (fails : FailsWith errors run) (unlisted : error ∉ errors) : run ≠ .error (.err error) := by
  intro failed
  obtain ⟨found, listed, same⟩ := fails _ failed
  cases same
  exact unlisted listed

end Control

/-! ## Pointer-sized integers -/

/-- A machine the code may be compiled for, known by the width of its `usize`. -/
structure Target where
  usizeBits : Nat
  wide : 32 ≤ usizeBits

/-- The 64-bit machine the concrete runs are evaluated on. -/
def Target.x64 : Target := ⟨64, by omega⟩

/-- The largest `usize`. -/
def Target.usizeMax (target : Target) : Nat := 2 ^ target.usizeBits - 1

/-- The largest number of bytes one slice may hold, which is `isize::MAX`. -/
def Target.isizeMax (target : Target) : Nat := 2 ^ (target.usizeBits - 1) - 1

/-- Every machine addresses at least the 32-bit range. -/
theorem Target.usizeMax_ge (target : Target) : 2 ^ 32 - 1 ≤ target.usizeMax := by
  -- Widening the word only raises the power of two.
  have wider : 2 ^ 32 ≤ 2 ^ target.usizeBits := Nat.pow_le_pow_right (by omega) target.wide
  unfold Target.usizeMax
  omega

/-- Every machine holds slices of up to a 31-bit length. -/
theorem Target.isizeMax_ge (target : Target) : 2 ^ 31 - 1 ≤ target.isizeMax := by
  have wider : 2 ^ 31 ≤ 2 ^ (target.usizeBits - 1) :=
    Nat.pow_le_pow_right (by omega) (by have := target.wide; omega)
  unfold Target.isizeMax
  omega

/-- Half of the address range is left above the largest slice. -/
theorem Target.isizeMax_room (target : Target) :
    target.isizeMax + 2 ^ 31 ≤ target.usizeMax := by
  -- The signed bound is one bit narrower, and that bit is worth at least 2^31.
  have wider : 2 ^ 31 ≤ 2 ^ (target.usizeBits - 1) :=
    Nat.pow_le_pow_right (by omega) (by have := target.wide; omega)
  have doubled : 2 ^ target.usizeBits = 2 * 2 ^ (target.usizeBits - 1) := by
    rw [← Nat.pow_succ']
    congr 1
    have := target.wide
    omega
  unfold Target.usizeMax Target.isizeMax
  omega

/-- `usize::checked_add`. -/
def Target.checkedAdd (target : Target) (left right : Nat) : Option Nat :=
  if left + right ≤ target.usizeMax then some (left + right) else none

/-- The `+` of `usize`, whose overflow is a panic. -/
def Target.add (target : Target) (left right : Nat) : Run Nat :=
  match target.checkedAdd left right with
  | some sum => .ok sum
  | none => .error .panic

/-- A sum that fits is a checked sum. -/
theorem Target.checkedAdd_fits {target : Target} {left right : Nat}
    (fits : left + right ≤ target.usizeMax) :
    target.checkedAdd left right = some (left + right) := by
  simp [Target.checkedAdd, fits]

/-- A sum that fits does not overflow. -/
theorem Target.add_fits {target : Target} {left right : Nat}
    (fits : left + right ≤ target.usizeMax) : target.add left right = .ok (left + right) := by
  simp [Target.add, Target.checkedAdd_fits fits]

/-- A checked sum that exists is the sum. -/
theorem Target.checkedAdd_eq_some {target : Target} {left right sum : Nat}
    (added : target.checkedAdd left right = some sum) : sum = left + right := by
  -- The overflowing case has no sum.
  unfold Target.checkedAdd at added
  split at added
  · simpa using added.symm
  · cases added

/-- A sum that did not panic is the sum. -/
theorem Target.add_eq_ok {target : Target} {left right sum : Nat}
    (added : target.add left right = .ok sum) : sum = left + right := by
  -- An overflow would have been a panic.
  unfold Target.add at added
  cases checked : target.checkedAdd left right with
  | none => simp [checked] at added
  | some total =>
    simp only [checked, Except.ok.injEq] at added
    exact added ▸ Target.checkedAdd_eq_some checked

/-! ## Byte slices -/

/-- A byte slice as the machine can hold it: never longer than `isize::MAX`. -/
structure Slice (target : Target) where
  bytes : Bytes
  sized : bytes.length ≤ target.isizeMax

/-- `data.len()`. -/
def Slice.length {target : Target} (data : Slice target) : Nat := data.bytes.length

/-- Positions a little past the end of a slice do not overflow. -/
theorem Slice.room {target : Target} (data : Slice target) :
    data.length + 2 ^ 31 ≤ target.usizeMax := by
  have bounded := target.isizeMax_room
  have sized := data.sized
  unfold Slice.length
  omega

/-- `data[position]`, which panics past the end. -/
def index (data : Bytes) (position : Nat) : Run UInt8 :=
  match data[position]? with
  | some byte => .ok byte
  | none => .error .panic

/-- `data[start..stop]`, which panics unless the range is ordered and inside the slice. -/
def slice (data : Bytes) (start stop : Nat) : Run Bytes :=
  if start ≤ stop ∧ stop ≤ data.length then .ok ((data.drop start).take (stop - start))
  else .error .panic

/-- A byte read from a suffix is the byte at the shifted position. -/
theorem index_drop (data : Bytes) (start offset : Nat) :
    index (data.drop start) offset = index data (start + offset) := by
  simp [index]

/-- The byte at a position is the first one behind it. -/
theorem index_of_drop {data rest : Bytes} {position : Nat} {byte : UInt8}
    (suffix : data.drop position = byte :: rest) : index data position = .ok byte := by
  -- The byte at a position opens the suffix that starts there.
  have read := index_drop data position 0
  rw [suffix] at read
  simpa [index] using read.symm

/-- A byte that could be read opens the suffix at its position. -/
theorem drop_of_index {data : Bytes} {position : Nat} {byte : UInt8}
    (read : index data position = .ok byte) :
    data.drop position = byte :: data.drop (position + 1) := by
  -- A successful read is inside the slice.
  unfold index at read
  cases found : data[position]? with
  | none => simp [found] at read
  | some value =>
    simp only [found, Except.ok.injEq] at read
    subst read
    obtain ⟨inside, same⟩ := List.getElem?_eq_some_iff.mp found
    rw [List.drop_eq_getElem_cons inside, same]

/-- A read inside the slice succeeds. -/
theorem index_inside {data : Bytes} {position : Nat} (inside : position < data.length) :
    index data position = .ok data[position] := by
  simp [index, inside]

/-- There is a byte at every position inside a slice. -/
theorem Slice.index_exists {target : Target} (data : Slice target) {position : Nat}
    (inside : position < data.length) : ∃ byte, index data.bytes position = .ok byte :=
  ⟨_, index_inside inside⟩

/-- A range that is ordered and inside can be cut out. -/
theorem slice_inside {data : Bytes} {start stop : Nat} (ordered : start ≤ stop)
    (inside : stop ≤ data.length) :
    slice data start stop = .ok ((data.drop start).take (stop - start)) := by
  simp [slice, ordered, inside]

/-- A sum with room below the largest `usize` is safe. -/
theorem Target.add_safe {target : Target} {left right : Nat}
    (fits : left + right ≤ target.usizeMax) : Safe (target.add left right) :=
  Target.add_fits fits ▸ .ok _

/-- A read inside the slice is safe. -/
theorem Slice.index_safe {target : Target} (data : Slice target) {position : Nat}
    (inside : position < data.length) : Safe (index data.bytes position) :=
  index_inside (show position < data.bytes.length from inside) ▸ .ok _

/-- A range that could be taken was ordered, inside the slice, and exactly as long as asked. -/
theorem slice_eq_ok {data part : Bytes} {start stop : Nat}
    (taken : slice data start stop = .ok part) :
    start ≤ stop ∧ stop ≤ data.length ∧ part = (data.drop start).take (stop - start) := by
  -- The failing ranges panic.
  unfold slice at taken
  split at taken
  · rename_i valid
    exact ⟨valid.1, valid.2, by simpa using taken.symm⟩
  · cases taken

/-- A string of at least four bytes opens with four bytes. -/
theorem split_four {data : Bytes} (long : 4 ≤ data.length) :
    ∃ a b c d rest, data = a :: b :: c :: d :: rest := by
  -- Shorter strings contradict the bound.
  match data, long with
  | a :: b :: c :: d :: rest, _ => exact ⟨a, b, c, d, rest, rfl⟩

/-- A byte array of a fixed length. -/
structure Octets (count : Nat) where
  bytes : Bytes
  sized : bytes.length = count
deriving DecidableEq, Repr

/-- Octets are equal where their bytes are. -/
@[ext] theorem Octets.ext {count : Nat} {left right : Octets count}
    (same : left.bytes = right.bytes) : left = right := by
  cases left; cases right; cases same; rfl

/-- `copy_from_slice` into an array, which panics unless the lengths agree. -/
def copyFromSlice (count : Nat) (source : Bytes) : Run (Octets count) :=
  if sized : source.length = count then .ok ⟨source, sized⟩ else .error .panic

/-- A byte string as an array, where it has the right length. -/
def Octets.ofBytes? (count : Nat) (source : Bytes) : Option (Octets count) :=
  if sized : source.length = count then some ⟨source, sized⟩ else none

/-- Bytes of the right number are copied. -/
theorem copyFromSlice_sized {count : Nat} {source : Bytes} (sized : source.length = count) :
    copyFromSlice count source = .ok ⟨source, sized⟩ := by
  simp [copyFromSlice, sized]

/-- Bytes of the right number are octets. -/
theorem Octets.ofBytes?_sized {count : Nat} {source : Bytes} (sized : source.length = count) :
    Octets.ofBytes? count source = some ⟨source, sized⟩ := by
  simp [Octets.ofBytes?, sized]

/-- Octets are made of exactly their own bytes. -/
theorem Octets.ofBytes?_eq_some {count : Nat} {source : Bytes} {octets : Octets count} :
    Octets.ofBytes? count source = some octets ↔ octets.bytes = source := by
  -- The array and its bytes determine each other.
  constructor
  · intro built
    unfold Octets.ofBytes? at built
    split at built <;> cases built
    rfl
  · rintro rfl
    exact Octets.ofBytes?_sized octets.sized

/-- The bytes of octets are copied back into them. -/
theorem copyFromSlice_octets {count : Nat} (octets : Octets count) :
    copyFromSlice count octets.bytes = .ok octets := by
  simp [copyFromSlice, octets.sized]

/-- What was copied are the bytes of the source. -/
theorem copyFromSlice_eq_ok {count : Nat} {source : Bytes} {octets : Octets count}
    (copied : copyFromSlice count source = .ok octets) : octets.bytes = source := by
  -- Only a source of the right length is copied.
  unfold copyFromSlice at copied
  split at copied
  · cases copied; rfl
  · cases copied

end IpDiscovery
