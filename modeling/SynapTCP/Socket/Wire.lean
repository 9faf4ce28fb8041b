import Mathlib.Data.List.Basic

namespace SynapTCP

/-! # The descriptor behind a socket

A wire is what the kernel will answer to the calls of one receive operation
after another: the results of `read` and the results of the `FIONREAD` poll,
each in order.  A finished list of reads stands for a peer that stays silent:
every further `read` fails.
-/

abbrev Bytes := List UInt8

/-- What one successful `read` into the 128-byte buffer hands over. -/
structure Chunk where
  bytes : Bytes
  nonempty : bytes ≠ []
  bounded : bytes.length ≤ 128
deriving DecidableEq

/-- As much as the buffer holds of the bytes. -/
def Chunk.of (first : UInt8) (rest : Bytes) : Chunk where
  bytes := first :: rest.take 127
  nonempty := List.cons_ne_nil first (rest.take 127)
  bounded := Nat.succ_le_succ (List.length_take_le 127 rest)

inductive ReadResult where
  | chunk (piece : Chunk)
  | failed
deriving DecidableEq

namespace ReadResult

def bytes : ReadResult → Bytes
  | .chunk piece => piece.bytes
  | .failed => []

@[simp] theorem bytes_chunk (piece : Chunk) : (ReadResult.chunk piece).bytes = piece.bytes := rfl

@[simp] theorem bytes_failed : ReadResult.failed.bytes = [] := rfl

end ReadResult

/-- All bytes that a list of reads hands over. -/
def delivered (reads : List ReadResult) : Bytes :=
  reads.flatMap ReadResult.bytes

@[simp] theorem delivered_nil : delivered [] = [] := rfl

@[simp] theorem delivered_cons (read : ReadResult) (reads : List ReadResult) :
    delivered (read :: reads) = read.bytes ++ delivered reads := rfl

@[simp] theorem delivered_append (left right : List ReadResult) :
    delivered (left ++ right) = delivered left ++ delivered right := by
  simp [delivered]

/-- `stray` is the byte of memory just past the end of a gathered buffer, for
the one copy in the source that can run over that end. -/
structure Wire where
  polls : List Bool
  reads : List ReadResult
  stray : UInt8
deriving DecidableEq

namespace Wire

def unread (wire : Wire) : Bytes := delivered wire.reads

/-- `before` hands over exactly `bytes` on the way to `after`. -/
def Reads (before : Wire) (bytes : Bytes) (after : Wire) : Prop :=
  ∃ taken, before.reads = taken ++ after.reads ∧ delivered taken = bytes

theorem Reads.refl (wire : Wire) : wire.Reads [] wire := ⟨[], rfl, rfl⟩

theorem Reads.trans {before middle after : Wire} {first second : Bytes}
    (left : before.Reads first middle) (right : middle.Reads second after) :
    before.Reads (first ++ second) after := by
  obtain ⟨taken, split, bytes⟩ := left
  obtain ⟨more, splitMore, moreBytes⟩ := right
  exact ⟨taken ++ more, by rw [split, splitMore, List.append_assoc],
    by rw [delivered_append, bytes, moreBytes]⟩

theorem Reads.unread {before after : Wire} {bytes : Bytes} (reads : before.Reads bytes after) :
    before.unread = bytes ++ after.unread := by
  obtain ⟨taken, split, handed⟩ := reads
  simp only [Wire.unread, split, delivered_append, handed]

theorem Reads.unique {before after : Wire} {first second : Bytes}
    (left : before.Reads first after) (right : before.Reads second after) : first = second :=
  List.append_cancel_right (left.unread.symm.trans right.unread)

end Wire

end SynapTCP
