import TokenBroker.Stream.Socket
import TokenBroker.Wire.Header
/-!
# A plain client

One end of a connection to a daemon, as a client holds it that reads responses from it.  The client
reads a piece at a time, and reads on only as long as the response that it waits for is not
complete; so a piece may hold the beginning of later responses, too.

* `Caller.readOn` is all the reading that can be done now.
* `Caller.takeResponse?` takes a complete response out of what was read.
-/

set_option autoImplicit false

namespace TokenBroker
namespace Simulation

/-- One end of a connection to a daemon. -/
structure Caller where
  name : String
  number : Nat
  socket : Socket := {}
  /-- What was read and did not make up a response yet, in pieces, the last one first. -/
  pieces : List Bytes := []
  /-- Whether it has said that it will send nothing more. -/
  finished : Bool := false

namespace Caller

/-- The largest number of bytes that are read at a time. -/
def pieceMax : Nat := 4096

/-- What was read and did not make up a response yet. -/
def held (c : Caller) : Bytes := c.pieces.reverse.flatten

/-- How many bytes have to be read before more is known of the response that comes next. -/
def lacking (c : Caller) : Nat :=
  let held := c.held
  match ResponseHeader.decode? (held.take Header.size) with
  | none => Header.size - held.length
  | some header => Header.size + header.dataSize.toNat - held.length

/-- Read once; the answer is how many bytes there were. -/
def read (c : Caller) : Nat × Caller :=
  let piece := c.socket.unread.take pieceMax
  let socket := { c.socket with unread := c.socket.unread.drop pieceMax }
  (piece.length, { c with socket := socket, pieces := piece :: c.pieces })

/-- Read until there are `lacking` bytes more, or nothing is left; the answer is how many bytes were
read. -/
def readFor (c : Caller) (lacking : Nat) : Nat × Caller :=
  if _h : lacking = 0 then (0, c)
  else
    let (n, more) := c.read
    if _hn : n = 0 then (0, c)
    else
      let (rest, c) := more.readFor (lacking - n)
      (n + rest, c)
termination_by lacking

/-- Read a header and then its payload, as far as they are there; the answer is how many bytes were
read. -/
def readOn (c : Caller) : Nat × Caller :=
  let (n, c) := c.readFor c.lacking
  let (m, c) := c.readFor c.lacking
  (n + m, c)

/-- Take the first response out of what was read, if it is complete. -/
def takeResponse? (c : Caller) : Option ((ResponseHeader × Bytes) × Caller) :=
  let held := c.held
  match ResponseHeader.decode? (held.take Header.size) with
  | none => none
  | some header =>
    let rest := held.drop Header.size
    let n := header.dataSize.toNat
    if n ≤ rest.length then some ((header, rest.take n), { c with pieces := [rest.drop n] })
    else none

end Caller
end Simulation
end TokenBroker
