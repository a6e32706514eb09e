import Mathlib.Data.List.Basic
import Mathlib.Tactic.Common

/-!
# Streams behind a reader

A *reader* gives out what it has piece by piece (`Reader`): asked for up to so many elements,
it puts some of them into memory, says how many, and is in another state. Whatever the states
are, there is behind them a stream of what is still to come, when the reader keeps its word
(`Reader.Serves`): what it puts into memory is the next of the stream, and no more than what it
was asked for; it says how much that is; it says *none* at the end of the stream only; and when
it breaks off with an exception, it has given out nothing.
-/

/-- **What a reader does** when it is asked: what it says, which is a number or an exception,
what it puts into memory, and the state it is in. -/
structure Reads (τ β ε : Type) where
  /-- The number it returns, or the exception. -/
  out : Except ε ℕ
  /-- What it puts into memory. -/
  bytes : List β
  /-- Its state afterwards. -/
  next : τ

/-- **A reader**: asked for up to so many elements, in a state. -/
abbrev Reader (τ β ε : Type) : Type := τ → ℕ → Reads τ β ε

namespace Reader

variable {τ β ε : Type}

/-- **The reader keeps its word**: behind each state there is a stream of what is still to
come, and this is what the reader gives out. -/
structure Serves (read : Reader τ β ε) (stream : τ → List β) : Prop where
  /-- What is given out is the next of the stream. -/
  next : ∀ s n, stream s = (read s n).bytes ++ stream (read s n).next
  /-- It is as much as the reader says, and no more than it was asked for. -/
  count : ∀ s n k, (read s n).out = .ok k → (read s n).bytes.length = k ∧ k ≤ n
  /-- Nothing is given out at the end only. -/
  ends : ∀ s n, 0 < n → (read s n).out = .ok 0 → stream s = []
  /-- Nothing is given out with an exception. -/
  breaks : ∀ s n e, (read s n).out = .error e → (read s n).bytes = []

end Reader
