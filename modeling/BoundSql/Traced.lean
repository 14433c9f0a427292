import BoundSql.Error

/-!
# Traced computations

A computation that fails or succeeds and leaves a trace either way: what it did
before it failed is not lost. The trace of a sequence of computations is the
concatenation of their traces up to the first failure.
-/

namespace BoundSql

/-- A result with the trace of how it came about. -/
structure Traced (ε α : Type) where
  trace : List ε
  result : Except Error α

namespace Traced

variable {ε ι α β : Type}

/-- A result without a trace. -/
def ofExcept (result : Except Error α) : Traced ε α :=
  ⟨[], result⟩

/-- A failure without a trace. -/
def fail (error : Error) : Traced ε α :=
  ofExcept (.error error)

/-- A trace of one entry. -/
def note (entry : ε) : Traced ε Unit :=
  ⟨[entry], .ok ()⟩

/-- Go on with the value of a computation, unless it failed. -/
def andThen (first : Traced ε α) (next : α → Traced ε β) : Traced ε β :=
  match first.result with
  | .ok value => ⟨first.trace ++ (next value).trace, (next value).result⟩
  | .error error => ⟨first.trace, .error error⟩

instance : Monad (Traced ε) where
  pure value := ofExcept (.ok value)
  bind := andThen

/-- The same computation with other entries. -/
def mapTrace (f : ε → ι) (computation : Traced ε α) : Traced ι α :=
  ⟨computation.trace.map f, computation.result⟩

@[simp] theorem result_pure (value : α) : (pure value : Traced ε α).result = .ok value := rfl

theorem result_bind (first : Traced ε α) (next : α → Traced ε β) :
    (first >>= next).result = first.result.bind fun value => (next value).result := by
  cases first with
  | mk trace result => cases result <;> rfl

end Traced
end BoundSql
