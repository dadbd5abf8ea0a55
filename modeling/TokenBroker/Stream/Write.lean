import TokenBroker.Bytes.LittleEndian
import TokenBroker.Stream.Error
/-!
# Gathered writes

A message is written from several segments.  The socket may accept only a part of what it is
offered at a time, so the writer goes on with the rest until nothing is left.

* `Segments.advance` takes so many bytes off the front of a list of segments, together with all
  segments that are used up.
* `writeSegments` is the loop, given how much the socket accepts at each call.
-/

set_option autoImplicit false

namespace TokenBroker

namespace Segments

/-- The number of bytes of all segments. -/
def size (segments : List Bytes) : Nat := segments.flatten.length

/-- Take `n` bytes off the front, and every segment that is empty then. -/
def advance (n : Nat) : List Bytes → List Bytes
  | [] => []
  | segment :: rest =>
    if segment.length ≤ n then advance (n - segment.length) rest
    else segment.drop n :: rest

end Segments

/-- How a write ended. -/
inductive WriteEnd where
  | complete (written : Nat)
  | failed (error : ConnectionError)
  /-- The socket takes nothing for now, and did not say so before. -/
  | blocked (written : Nat)
  deriving DecidableEq

/-- Go on writing segments.  `accepted` says how many bytes the socket takes at each further call;
the answer is how the write ends and what is delivered by these calls. -/
def writeLoop (expected written : Nat) (segments : List Bytes) (accepted : List Nat) :
    WriteEnd × Bytes :=
  match segments, accepted with
  | [], _ => (.complete written, [])
  | _ :: _, [] => (.blocked written, [])
  | segment :: rest, offer :: later =>
    let n := min offer (Segments.size (segment :: rest))
    if n = 0 then (.failed (.shortWrite written expected), [])
    else
      let result :=
        writeLoop expected (written + n) (Segments.advance n (segment :: rest)) later
      (result.1, (segment :: rest).flatten.take n ++ result.2)
termination_by structural accepted

/-- Write a message from segments.  Leading empty segments are dropped first, so that the socket is
never offered nothing. -/
def writeSegments (segments : List Bytes) (accepted : List Nat) : WriteEnd × Bytes :=
  writeLoop (Segments.size segments) 0 (Segments.advance 0 segments) accepted

/-- Go on writing one piece, of which `rest` is left. -/
def writeRest (expected written : Nat) (rest : Bytes) (accepted : List Nat) : WriteEnd × Bytes :=
  match rest, accepted with
  | [], _ => (.complete written, [])
  | _ :: _, [] => (.blocked written, [])
  | byte :: more, offer :: later =>
    let n := min offer (byte :: more).length
    if n = 0 then (.failed (.shortWrite written expected), [])
    else
      let result := writeRest expected (written + n) ((byte :: more).drop n) later
      (result.1, (byte :: more).take n ++ result.2)
termination_by structural accepted

/-- Write a message from one piece. -/
def writeWhole (bytes : Bytes) (accepted : List Nat) : WriteEnd × Bytes :=
  writeRest bytes.length 0 bytes accepted

end TokenBroker
