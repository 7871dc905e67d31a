import Mathlib.Data.List.Basic
/-!
# Buffers and chunks

Copying into a buffer, and the pieces or chunks a stream is cut into: the
pieces are of one size, a chunk is an address and the elements from there
on, and `Contiguous` chunks follow each other without a gap.
-/

namespace CanGui

variable {α : Type*}

/-! ## Buffers -/

/-- `memcpy` into a buffer at an offset. -/
def copyInto (buffer : List α) (offset : Nat) (source : List α) : List α :=
  buffer.take offset ++ source ++ buffer.drop (offset + source.length)

section Buffers

variable {buffer source : List α} {offset : Nat}

theorem length_copyInto (h : offset + source.length ≤ buffer.length) :
    (copyInto buffer offset source).length = buffer.length := by
  simp only [copyInto, List.length_append, List.length_take, List.length_drop]
  omega

/-- What is in front of the end of the copy: what was in front of the
offset, then the source. -/
theorem take_copyInto (source : List α) (h : offset ≤ buffer.length) :
    (copyInto buffer offset source).take (offset + source.length) =
      buffer.take offset ++ source := by
  rw [copyInto]
  refine List.take_left' ?_
  rw [List.length_append, List.length_take, Nat.min_eq_left h]

/-- A copy of one element more. -/
theorem copyInto_concat (source : List α) (value : α) (h : offset + source.length < buffer.length) :
    copyInto buffer offset (source ++ [value]) =
      (copyInto buffer offset source).set (offset + source.length) value := by
  have hfront : (buffer.take offset ++ source).length = offset + source.length := by
    rw [List.length_append, List.length_take]
    omega
  have hnext : buffer.drop (offset + source.length) =
      buffer[offset + source.length] :: buffer.drop (offset + source.length + 1) :=
    List.drop_eq_getElem_cons h
  rw [copyInto, copyInto, hnext, List.set_append, if_neg (by omega), hfront, Nat.sub_self,
    List.set_cons_zero, List.length_append, List.length_singleton, ← List.append_assoc,
    List.append_assoc, List.singleton_append, Nat.add_assoc]

/-- A store that fails outside of the buffer. -/
def store (buffer : List α) (index : Nat) (value : α) : Option (List α) :=
  if index < buffer.length then some (buffer.set index value) else none

/-- A loop that copies element by element, and fails at the first index
outside of a buffer. -/
def copyLoop (buffer : List α) (offset : Nat) (source : List α) (start : Nat) :
    Nat → Option (List α)
  | 0 => some buffer
  | count + 1 => do
    let buffer ← copyLoop buffer offset source start count
    let value ← source[start + count]?
    store buffer (offset + count) value

/-- Within the buffers the loop is a copy. -/
theorem copyLoop_eq {start count : Nat} (hbuffer : offset + count ≤ buffer.length)
    (hsource : start + count ≤ source.length) :
    copyLoop buffer offset source start count =
      some (copyInto buffer offset ((source.drop start).take count)) := by
  induction count with
  | zero =>
    rw [copyLoop, List.take_zero, copyInto, List.append_nil, List.length_nil, Nat.add_zero,
      List.take_append_drop]
  | succ count ih =>
    have hlength : ((source.drop start).take count).length = count := by
      rw [List.length_take, List.length_drop]
      omega
    have hlast : (source.drop start).take (count + 1) =
        (source.drop start).take count ++ [source[start + count]] := by
      rw [List.take_add_one, List.getElem?_drop, List.getElem?_eq_getElem (by omega)]
      rfl
    have hstored : offset + count <
        (copyInto buffer offset ((source.drop start).take count)).length := by
      rw [length_copyInto (by rw [hlength]; omega)]
      omega
    rw [copyLoop, ih (by omega) (by omega), hlast, copyInto_concat _ _ (by rw [hlength]; omega),
      hlength, List.getElem?_eq_getElem (by omega)]
    exact if_pos hstored

end Buffers

/-! ## Pieces of one size -/

/-- Piece `k` of a stream in pieces of a size; the last may be short. -/
def pieceAt (stream : List α) (size k : Nat) : List α := (stream.drop (size * k)).take size

/-- The first pieces are the stream, cut. -/
theorem flatten_pieceAt (stream : List α) (size n : Nat) :
    ((List.range n).map (pieceAt stream size)).flatten = stream.take (size * n) := by
  induction n with
  | zero => rfl
  | succ n ih =>
    rw [List.range_succ, List.map_append, List.flatten_append, ih, Nat.mul_succ, List.take_add]
    exact congrArg _ List.flatten_singleton

/-! ## Chunks -/

/-- The elements of the chunks, one after the other. -/
def joined (chunks : List (Nat × List α)) : List α := chunks.flatMap Prod.snd

/-- Nonempty chunks, the first at `start` and each of the others where the
one before it ends. -/
def Contiguous : Nat → List (Nat × List α) → Prop
  | _, [] => True
  | start, (address, data) :: rest =>
    address = start ∧ data ≠ [] ∧ Contiguous (start + data.length) rest

section Chunks

variable {start : Nat} {chunks rest : List (Nat × List α)} {data : List α}

@[simp] theorem joined_nil : joined ([] : List (Nat × List α)) = [] := rfl

@[simp] theorem joined_append : joined (chunks ++ rest) = joined chunks ++ joined rest :=
  List.flatMap_append

@[simp] theorem joined_singleton {address : Nat} : joined [(address, data)] = data := by
  simp [joined]

/-- A further chunk goes where the chunks so far end. -/
theorem Contiguous.concat (h : Contiguous start chunks) (hdata : data ≠ []) :
    Contiguous start (chunks ++ [(start + (joined chunks).length, data)]) := by
  induction chunks generalizing start with
  | nil => exact ⟨rfl, hdata, trivial⟩
  | cons chunk chunks ih =>
    obtain ⟨address, first⟩ := chunk
    obtain ⟨haddress, hfirst, hrest⟩ := h
    refine ⟨haddress, hfirst, ?_⟩
    have hnext := ih hrest
    rwa [Nat.add_assoc, ← List.length_append] at hnext

/-- Contiguous chunks lie between their start and their end. -/
theorem Contiguous.bounds (h : Contiguous start chunks) :
    ∀ chunk ∈ chunks, start ≤ chunk.1 ∧
      chunk.1 + chunk.2.length ≤ start + (joined chunks).length := by
  induction chunks generalizing start with
  | nil => intro chunk hmem; exact absurd hmem List.not_mem_nil
  | cons first chunks ih =>
    obtain ⟨address, data⟩ := first
    obtain ⟨rfl, -, hrest⟩ := h
    intro chunk hmem
    have hlen : (joined ((address, data) :: chunks)).length =
        data.length + (joined chunks).length := by simp [joined]
    rcases List.mem_cons.1 hmem with rfl | hmem
    · dsimp only
      omega
    · have := ih hrest chunk hmem
      omega

end Chunks

end CanGui
