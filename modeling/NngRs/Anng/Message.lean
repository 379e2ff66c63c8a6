/-
**The `Message` wrapper: an owned message pointer and a read position.**

`M` stands for the library's message objects, reached through their pointers. `intoPtr` forgets the
wrapper and keeps the object; `fromRawUnchecked` wraps an object again, at read position zero.
-/

import Mathlib.Logic.Basic

namespace NngRs.Anng

/-- `Message { inner, pos }`. -/
structure Message (M : Type) where
  inner : M
  /-- Current position for reading operations (used by `Buf`). -/
  pos : Nat
deriving DecidableEq, Repr

namespace Message

variable {M : Type}

/-- `Message::from_raw_unchecked`. -/
def fromRawUnchecked (msg : M) : Message M := { inner := msg, pos := 0 }

/-- `Message::into_ptr`. -/
def intoPtr (message : Message M) : M := message.inner

@[simp] theorem intoPtr_mk (msg : M) (pos : Nat) : (Message.mk msg pos).intoPtr = msg := rfl

@[simp] theorem inner_fromRawUnchecked (msg : M) : (fromRawUnchecked msg).inner = msg := rfl

end Message

end NngRs.Anng
