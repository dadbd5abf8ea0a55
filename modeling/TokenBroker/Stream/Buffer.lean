/-!
# Bytes on their way

What is written to a stream waits in a buffer until the other end reads it, and the buffer has room
for so much only.

* The bytes are cut into chunks.  A chunk takes up more room than it has bytes, and gives it back as
  a whole when its last byte is read.
* `Buffer.offer` is one call of a writer.  As long as not all room is taken, another chunk is let
  in, so the last one may go beyond the capacity.
* A writer that was refused is told that there is room again only when more than three quarters of
  the capacity are free; until then `Buffer.refusing` holds.
* `Buffer.consume` is what reading does.
-/

set_option autoImplicit false

namespace TokenBroker

namespace Chunk

/-- The size of a page, of which most of the room is made. -/
def pageSize : Nat := 4096

/-- The largest number of bytes that the head of a chunk holds. -/
def headMax : Nat := 3776

/-- The largest number of bytes of a chunk: a full head and eight pages. -/
def maxSize : Nat := headMax + 8 * pageSize

/-- The first multiple of a unit that is not below a number. -/
def roundUp (unit n : Nat) : Nat := (n + unit - 1) / unit * unit

/-- How many of the bytes of a chunk are in pages; the others are in its head. -/
def paged (n : Nat) : Nat :=
  if n ≤ headMax then 0 else min n (roundUp pageSize (n - headMax))

/-- The room that a head takes up: its bytes and 320 more in a block of a power of two, and 256 for
the record that leads there. -/
def headRoom (n : Nat) : Nat :=
  let needed := roundUp 64 n + 320
  256 + (([512, 1024, 2048].find? fun block => needed ≤ block).getD 4096)

/-- The room that a chunk of so many bytes takes up. -/
def roomFor (n : Nat) : Nat := headRoom (n - paged n) + roundUp pageSize (paged n)

end Chunk

/-- Bytes of a chunk that were not read, and the room that the chunk takes up. -/
structure Chunk where
  left : Nat
  room : Nat
  deriving DecidableEq

/-- What is on its way on a stream, in order. -/
structure Buffer where
  chunks : List Chunk := []
  /-- A writer was refused, and was not told of any room since. -/
  refusing : Bool := false
  deriving DecidableEq

namespace Buffer

/-- The room of a buffer. -/
def capacity : Nat := 212992

/-- The room that is taken. -/
def taken (b : Buffer) : Nat := b.chunks.foldl (fun n chunk => n + chunk.room) 0

/-- The number of bytes that were not read. -/
def size (b : Buffer) : Nat := b.chunks.foldl (fun n chunk => n + chunk.left) 0

/-- Let in chunks of `n` bytes in all, until all room is taken; the answer is how many bytes came
in. -/
def fill (b : Buffer) (n : Nat) : Nat × Buffer :=
  if _h : n = 0 then (0, b)
  else if capacity ≤ b.taken then (0, { b with refusing := true })
  else
    let k := min n Chunk.maxSize
    let result := fill { b with chunks := b.chunks ++ [⟨k, Chunk.roomFor k⟩] } (n - k)
    (k + result.1, result.2)
termination_by n
decreasing_by
  have : 0 < Chunk.maxSize := by decide
  omega

/-- Offer `n` bytes; the answer is how many of them are let in. -/
def offer (b : Buffer) (n : Nat) : Nat × Buffer := if b.refusing then (0, b) else b.fill n

/-- Read `n` bytes off the front of chunks. -/
def dropBytes : Nat → List Chunk → List Chunk
  | _, [] => []
  | n, chunk :: rest =>
    if chunk.left ≤ n then dropBytes (n - chunk.left) rest
    else { chunk with left := chunk.left - n } :: rest

/-- Read `n` bytes. -/
def consume (b : Buffer) (n : Nat) : Buffer :=
  let b := { b with chunks := dropBytes n b.chunks }
  { b with refusing := b.refusing && decide (capacity ≤ 4 * b.taken) }

end Buffer
end TokenBroker
