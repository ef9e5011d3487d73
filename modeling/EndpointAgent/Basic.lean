import Mathlib

/-!
# Shared vocabulary of the agent model

Go errors as the text `Error()` prints together with the sentinel that `errors.Is`
finds in their wrap chain, the `time.Duration` unit, and raw file contents.
-/

set_option autoImplicit false

namespace EndpointAgent

/-- The sentinel errors of `internal/config/errors.go`. -/
inductive Sentinel where
  | configNotFound
  | notBootstrapped
  | invalidBootstrap
  | invalidRuntime
  | certExpired
  | bootstrapInProgress
  deriving DecidableEq, Repr

/-- The text `errors.New` gives each sentinel. -/
def Sentinel.text : Sentinel → String
  | .configNotFound => "config file not found"
  | .notBootstrapped => "agent not bootstrapped"
  | .invalidBootstrap => "invalid bootstrap configuration"
  | .invalidRuntime => "invalid runtime configuration"
  | .certExpired => "certificate expired"
  | .bootstrapInProgress => "bootstrap already in progress"

/-- A Go `error` value. `sentinel` is what `errors.Is` can recover through `%w`
wrapping; errors built from `fmt.Errorf` without `%w` of a sentinel carry none. -/
structure GoError where
  sentinel : Option Sentinel
  text : String
  deriving DecidableEq, Repr

namespace GoError

/-- `errors.New(text)`. -/
def new (text : String) : GoError := ⟨none, text⟩

/-- A sentinel used as an error value. -/
def ofSentinel (sentinel : Sentinel) : GoError := ⟨some sentinel, sentinel.text⟩

/-- `fmt.Errorf("<context>: %w", inner)`: the text grows, the chain is kept. -/
def wrap (context : String) (inner : GoError) : GoError :=
  ⟨inner.sentinel, context ++ ": " ++ inner.text⟩

/-- `fmt.Errorf("%w: <detail>", inner)`: the wrapped error comes first. -/
def wrapDetail (inner : GoError) (detail : String) : GoError :=
  ⟨inner.sentinel, inner.text ++ ": " ++ detail⟩

/-- `errors.Is(err, sentinel)`. -/
def is (err : GoError) (sentinel : Sentinel) : Bool := err.sentinel == some sentinel

@[simp] theorem wrap_sentinel (context : String) (inner : GoError) :
    (wrap context inner).sentinel = inner.sentinel := rfl

@[simp] theorem wrapDetail_sentinel (inner : GoError) (detail : String) :
    (wrapDetail inner detail).sentinel = inner.sentinel := rfl

end GoError

/-- A `do` sequence of two unit checks succeeds exactly when both do. -/
@[simp] theorem except_bind_unit_eq_ok {ε : Type} (first : Except ε Unit)
    (rest : Unit → Except ε Unit) :
    (first >>= rest) = .ok () ↔ first = .ok () ∧ rest () = .ok () := by
  cases first <;> simp [bind, Except.bind]

/-- A `do` step `let a ← x` succeeds exactly when `x` does and the rest does on its value. -/
theorem except_bind_eq_ok {ε α β : Type} (x : Except ε α) (rest : α → Except ε β) (b : β) :
    (x >>= rest) = .ok b ↔ ∃ a, x = .ok a ∧ rest a = .ok b := by
  cases x <;> simp [bind, Except.bind]

/-- Wrapping the error leaves a success as it is. -/
theorem except_mapError_eq_ok {ε ε' α : Type} (x : Except ε α) (wrap : ε → ε') (a : α) :
    x.mapError wrap = .ok a ↔ x = .ok a := by
  cases x <;> simp [Except.mapError]

theorem except_map_eq_ok {ε α β : Type} (f : α → β) (x : Except ε α) (b : β) :
    f <$> x = .ok b ↔ ∃ a, x = .ok a ∧ f a = b := by
  cases x <;> simp [Functor.map, Except.map]

/-- The guard `if cond { return err }`. -/
def failIf {ε : Type} (cond : Prop) [Decidable cond] (err : ε) : Except ε Unit :=
  if cond then .error err else .ok ()

@[simp] theorem failIf_eq_ok {ε : Type} (cond : Prop) [Decidable cond] (err : ε) :
    failIf cond err = .ok () ↔ ¬cond := by
  unfold failIf; split <;> simp_all

/-- One second of `time.Duration` (nanoseconds). -/
def second : Int := 1000000000

/-- One minute of `time.Duration`. -/
def minute : Int := 60 * second

/-- One hour of `time.Duration`. -/
def hour : Int := 60 * minute

/-- Contents of a file, byte by byte. -/
abbrev Bytes := List UInt8

/-- The byte of an ASCII character. -/
def ascii (c : Char) : UInt8 := c.toNat.toUInt8

/-- The bytes of an ASCII text. -/
def asciiBytes (text : String) : Bytes := text.data.map ascii

end EndpointAgent
