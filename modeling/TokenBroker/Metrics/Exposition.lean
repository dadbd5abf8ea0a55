import TokenBroker.Decimal.Shortest
import TokenBroker.Metrics.Basic
/-!
# The text form of metrics

Metrics are read by a monitoring system as lines of text: for each family two comments and the
values.  Families stand in the order of their names, and the values of a family in the order of
their labels.  Every number is written as a float.
-/

set_option autoImplicit false

namespace TokenBroker
namespace Metrics

/-- What is said about a family: its name, what it counts, and of which type it is. -/
def heading (name help type : String) : List String :=
  ["# HELP " ++ name ++ " " ++ help, "# TYPE " ++ name ++ " " ++ type]

/-- The value of a label, with the characters escaped that would end it. -/
def escapeLabel (value : String) : String :=
  String.ofList (value.toList.flatMap fun c =>
    if c = '\\' then ['\\', '\\']
    else if c = '\n' then ['\\', 'n']
    else if c = '\"' then ['\\', '\"']
    else [c])

/-- Labels with their values, in braces. -/
def labelText (labels : List (String × String)) : String :=
  "\x7b"
    ++ String.intercalate "," (labels.map fun (name, value) =>
      name ++ "=\"" ++ escapeLabel value ++ "\"")
    ++ "\x7d"

/-- A count as a float. -/
def countText (n : Nat) : String := Decimal.text (UInt64.ofNat n).toFloat

/-- A level, which may be negative, as a float. -/
def levelText (n : Int) : String :=
  if n < 0 then "-" ++ countText n.natAbs else countText n.natAbs

/-- The lines of a histogram. -/
def histogramLines (name : String) (h : Histogram) : List String :=
  let bucket (bound : String) (n : Nat) : String :=
    name ++ "_bucket" ++ labelText [("le", bound)] ++ " " ++ countText n
  h.bounds.map (fun bound => bucket (Decimal.text bound) (h.upTo bound))
    ++ [bucket "+Inf" h.count, name ++ "_sum " ++ Decimal.text h.sum,
      name ++ "_count " ++ countText h.count]

/-- The order of pairs of labels. -/
def labelsBefore (a b : String × String) : Bool :=
  if a.1 = b.1 then !decide (b.2 < a.2) else decide (a.1 < b.1)

/-- The lines of the commands, none at all if there was no command. -/
def commandLines (m : Metrics) : List String :=
  let name := "teebroker_commands_total"
  if m.responses.isEmpty then []
  else
    heading name "Commands handled, by outcome" "counter"
      ++ (m.keys.mergeSort labelsBefore).map fun key =>
        name ++ labelText [("command", key.1), ("result", key.2)] ++ " " ++ countText (m.count key)

/-- All metrics as lines of text. -/
def exposition (m : Metrics) : List String :=
  heading "teebroker_active_connections" "Number of connected clients" "gauge"
    ++ ["teebroker_active_connections " ++ levelText m.activeConnections]
    ++ m.commandLines
    ++ heading "teebroker_payload_size_bytes" "Command payload size in bytes" "histogram"
    ++ histogramLines "teebroker_payload_size_bytes" m.payloadSize
    ++ heading "teebroker_request_duration_seconds" "Command handling time in seconds" "histogram"
    ++ histogramLines "teebroker_request_duration_seconds" m.requestDuration
    ++ heading "teebroker_sequence_gaps_total"
      "Command ids that did not follow the previous one" "counter"
    ++ ["teebroker_sequence_gaps_total " ++ countText m.sequenceGaps]
    ++ heading "teebroker_storage_errors_total"
      "Registry operations that failed in storage" "counter"
    ++ ["teebroker_storage_errors_total " ++ countText m.storageErrors]

/-- What a request to the metrics server is answered with, whatever it asks for. -/
structure HttpReply where
  status : String
  contentType : String
  body : List String

/-- The answer of the metrics server. -/
def httpReply (m : Metrics) : HttpReply := ⟨"HTTP/1.1 200 OK", "text/plain", m.exposition⟩

end Metrics
end TokenBroker
