import Mathlib

/-!
# Errors

The crate's error type.  Functions that return `Result<T>` in the source return
`Except Error T` here.  Two `Error::Io` values never compare equal in the
source; the model keeps only the kind of the underlying error.
-/

namespace Iec60870

/-- A string of octets, as it travels on the wire. -/
abbrev Octets := List UInt8

/-- Everything that can go wrong encoding, decoding or transporting an ASDU. -/
inductive Error
  | typeIdentifier
  | causeZero
  | commonAddrZero
  | param
  | invalidTimeTag
  | originAddrFit
  | commonAddrFit
  | infoObjAddrFit
  | infoObjIndexFit
  | inroGroupNumFit
  | lengthOutOfRange
  | notAnyObjInfo
  | typeIdNotMatch
  | cmdCause
  | unexpectedEof
  | sendTimeout
  | fileNotFound
  | noTransfer
  | transferBusy
  | fileChecksum
  | fileServiceUnsupported
  | useClosedConnection
  | bufferFull
  /-- `failed` of `total` sessions could not accept the ASDU. -/
  | partialBroadcast (failed total : ℕ)
  | sendQueueFull
  | notActive
  | linkNotActive
  | timeoutT1
  | frame (what : String)
  | apci (what : String)
  | trailingOctets
  | config (what : String)
  | invalidAddress (what : String)
  | io (kind : String)
  deriving DecidableEq, Repr

/-! ### Taking a fallible computation apart -/

theorem bind_eq_ok {ε α β : Type} {x : Except ε α} {f : α → Except ε β} {r : β} :
    (x >>= f) = .ok r ↔ ∃ a, x = .ok a ∧ f a = .ok r := by
  cases x <;> simp [bind, Except.bind]

theorem map_eq_ok {ε α β : Type} {x : Except ε α} {f : α → β} {r : β} :
    (f <$> x) = .ok r ↔ ∃ a, x = .ok a ∧ f a = r := by
  cases x <;> simp [Functor.map, Except.map]

end Iec60870
