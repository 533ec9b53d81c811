import Mathlib

/-! How a call of a Go function ends, and the built-in map and slice
operations whose failure is a run-time panic rather than an `error`. -/

namespace Cadvisor.Go

/-- A Go run-time panic, by the run-time error it raises. -/
inductive Panic where
  /-- `index out of range [index] with length length` -/
  | indexOutOfRange (index length : Nat)
  /-- `assignment to entry in nil map` -/
  | nilMapWrite
  /-- `invalid memory address or nil pointer dereference`, at the named nil value. -/
  | nilDereference (value : String)
  deriving DecidableEq, Repr

/-- One call of a Go function: it returns its results with a nil `error`,
returns a non-nil `error` (by its message), or panics. -/
inductive GoResult (α : Type) where
  | ok (value : α)
  | error (message : String)
  | panic (cause : Panic)
  deriving DecidableEq, Repr

namespace GoResult

variable {α β : Type}

/-- An `error` or a panic ends the calling function at once. -/
def bind : GoResult α → (α → GoResult β) → GoResult β
  | ok value, next => next value
  | error message, _ => error message
  | panic cause, _ => panic cause

instance : Monad GoResult where
  pure := ok
  bind := bind

instance : MonadExceptOf String GoResult where
  throw := error
  tryCatch result handler := match result with
    | error message => handler message
    | other => other

@[simp] theorem pure_eq (value : α) : (pure value : GoResult α) = ok value := rfl

@[simp] theorem ok_bind (value : α) (next : α → GoResult β) : (ok value >>= next) = next value := rfl

@[simp] theorem error_bind (message : String) (next : α → GoResult β) :
    (error message >>= next) = error message := rfl

@[simp] theorem panic_bind (cause : Panic) (next : α → GoResult β) :
    (panic cause >>= next) = panic cause := rfl

@[simp] theorem throw_eq (message : String) : (throw message : GoResult α) = error message := rfl

/-- A callee's `(value, error)` result, returned as it is. -/
def ofExcept : Except String α → GoResult α
  | .ok value => ok value
  | .error message => error message

theorem bind_eq_ok {result : GoResult α} {next : α → GoResult β} {value : β} :
    (result >>= next) = ok value ↔ ∃ first, result = ok first ∧ next first = ok value := by
  cases result <;> simp

theorem bind_eq_panic {result : GoResult α} {next : α → GoResult β} {cause : Panic} :
    (result >>= next) = panic cause ↔ result = panic cause ∨ ∃ first, result = ok first ∧ next first = panic cause := by
  cases result <;> simp

end GoResult

/-- A Go function whose results include its `error` returns them all, or panics. -/
abbrev Panicking (α : Type) := Except Panic α

@[simp] theorem panicking_pure {α : Type} (value : α) : (pure value : Panicking α) = .ok value := rfl

@[simp] theorem panicking_ok_bind {α β : Type} (value : α) (next : α → Panicking β) :
    ((Except.ok value : Panicking α) >>= next) = next value := rfl

@[simp] theorem panicking_error_bind {α β : Type} (cause : Panic) (next : α → Panicking β) :
    ((Except.error cause : Panicking α) >>= next) = .error cause := rfl

/-- Dereferencing the pointer `value`, named as in the source. -/
def deref {α : Type} (pointer : Option α) (value : String) : Panicking α :=
  match pointer with
  | some target => .ok target
  | none => .error (.nilDereference value)

/-- The slice index expression `xs[i]`. -/
def index {α : Type} (xs : List α) (i : Nat) : GoResult α :=
  match xs[i]? with
  | some value => .ok value
  | none => .panic (.indexOutOfRange i xs.length)

/-- A non-nil Go `map[string]V`: each key occurs once. -/
structure StrMap (β : Type) where
  entries : List (String × β)
  nodup : (entries.map Prod.fst).Nodup
  deriving DecidableEq

namespace StrMap

variable {β : Type}

/-- `make(map[string]V)` -/
def empty : StrMap β := ⟨[], List.nodup_nil⟩

/-- The comma-ok read `v, ok := m[key]`. -/
def get? (m : StrMap β) (key : String) : Option β := m.entries.lookup key

theorem lookup_filter_of_ne (entries : List (String × β)) {key other : String}
    (different : other ≠ key) :
    (entries.filter (fun entry => entry.1 != key)).lookup other = entries.lookup other := by
  induction entries with
  | nil => rfl
  | cons entry rest ih =>
    by_cases same : entry.1 = key
    · have skipped : (other == key) = false := by simp [different]
      simp [List.filter_cons, same, List.lookup, skipped, ih]
    · by_cases found : other = entry.1
      · simp [List.filter_cons, same, List.lookup, found]
      · simp [List.filter_cons, same, List.lookup, found, ih]

private theorem insert_nodup (m : StrMap β) (key : String) (value : β) :
    (((key, value) :: m.entries.filter (fun entry => entry.1 != key)).map Prod.fst).Nodup := by
  simp only [List.map_cons, List.nodup_cons, List.mem_map, List.mem_filter]
  refine ⟨fun ⟨entry, ⟨_, fresh⟩, same⟩ => by simp [same] at fresh, ?_⟩
  exact m.nodup.sublist (List.Sublist.map _ (List.filter_sublist _))

/-- The assignment `m[key] = value` on a non-nil map. -/
def insert (m : StrMap β) (key : String) (value : β) : StrMap β :=
  ⟨(key, value) :: m.entries.filter (fun entry => entry.1 != key), insert_nodup m key value⟩

@[simp] theorem get?_empty (key : String) : (empty : StrMap β).get? key = none := rfl

@[simp] theorem get?_insert_self (m : StrMap β) (key : String) (value : β) :
    (m.insert key value).get? key = some value := by
  simp [insert, get?, List.lookup]

theorem get?_insert_of_ne (m : StrMap β) {key other : String} (value : β)
    (different : other ≠ key) : (m.insert key value).get? other = m.get? other := by
  have skipped : (other == key) = false := by simp [different]
  simp [insert, get?, List.lookup, skipped, lookup_filter_of_ne _ different]

theorem get?_insert (m : StrMap β) (key : String) (value : β) (other : String) :
    (m.insert key value).get? other = if other = key then some value else m.get? other := by
  by_cases same : other = key
  · subst same; simp
  · simp [same, get?_insert_of_ne m value same]

/-- A fold whose every step either sets `key` to the value `update` gives for the
element or leaves it alone: the last value set wins. -/
theorem foldl_get? {γ : Type} (step : StrMap β → γ → StrMap β) (update : γ → Option β)
    (key : String) (stepGet : ∀ m x, (step m x).get? key = (update x).or (m.get? key)) :
    ∀ (xs : List γ) (m : StrMap β),
      (xs.foldl step m).get? key = ((xs.filterMap update).getLast?).or (m.get? key)
  | [], m => by simp
  | x :: xs, m => by
    rw [List.foldl_cons, foldl_get? step update key stepGet xs, stepGet]
    cases set : update x with
    | none => simp [List.filterMap_cons, set]
    | some value =>
      simp only [List.filterMap_cons, set, Option.or_some, List.getLast?_cons]
      cases (xs.filterMap update).getLast? <;> rfl

end StrMap

/-- A Go `map[string]string` value, `none` being the nil map: it reads as empty. -/
def mapGet? (m : Option (StrMap String)) (key : String) : Option String :=
  m.bind (·.get? key)

/-- The assignment `m[key] = value`, which panics on a nil map. -/
def mapAssign (m : Option (StrMap String)) (key value : String) : GoResult (StrMap String) :=
  match m with
  | some present => .ok (present.insert key value)
  | none => .panic .nilMapWrite

/-- The plain read `m[key]`, the zero value `""` for a missing key. -/
def mapIndex (m : Option (StrMap String)) (key : String) : String :=
  (mapGet? m key).getD ""

end Cadvisor.Go
