import SecureBinding.Go.Strings

/-!
# Go.Bufio

`bufio.Writer` over a `bytes.Buffer`: what was written is delivered to the buffer underneath
when the writer is full or flushed, and is held back otherwise.
-/

namespace SecureBinding.Go.Bufio

/-- The size of a writer of `bufio.NewWriter`. -/
def defaultBufSize : Nat := 4096

/-- A writer: the bytes it holds back, and those that reached the buffer underneath. -/
structure Writer where
  buffered : Bytes
  delivered : Bytes
  fits : buffered.length ≤ defaultBufSize

/-- `bufio.NewWriter` of an empty buffer. -/
def newWriter : Writer := ⟨[], [], Nat.zero_le _⟩

/-- `Write` when nothing is held back: what does not fit is delivered at once. -/
def writeEmpty (delivered p : Bytes) : Writer :=
  if h : p.length ≤ defaultBufSize then ⟨p, delivered, h⟩
  else ⟨[], delivered ++ p, Nat.zero_le _⟩

/-- `Write`. A write that does not fit fills the buffer, and the rest of it finds the
buffer empty. -/
def Writer.write (w : Writer) (p : Bytes) : Writer :=
  if h : (w.buffered ++ p).length ≤ defaultBufSize then ⟨w.buffered ++ p, w.delivered, h⟩
  else if w.buffered = [] then writeEmpty w.delivered p
  else
    let n := defaultBufSize - w.buffered.length
    writeEmpty (w.delivered ++ w.buffered ++ p.take n) (p.drop n)

theorem delivered_write_of_length_le {p : Bytes} (h : p.length ≤ defaultBufSize) :
    (newWriter.write p).delivered = [] := by
  have hfits : (newWriter.buffered ++ p).length ≤ defaultBufSize := h
  rw [Writer.write, dif_pos hfits]
  rfl

/-- A text longer than the buffer passes a new writer at once. -/
theorem delivered_write_of_lt_length {p : Bytes} (h : defaultBufSize < p.length) :
    (newWriter.write p).delivered = p := by
  have hlong : ¬ (newWriter.buffered ++ p).length ≤ defaultBufSize := Nat.not_le.mpr h
  have hemp : newWriter.buffered = [] := rfl
  rw [Writer.write, dif_neg hlong, if_pos hemp, writeEmpty, dif_neg (Nat.not_le.mpr h)]
  rfl

end SecureBinding.Go.Bufio
