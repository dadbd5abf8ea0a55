import TokenBroker.CommandLine.Grammar
/-!
# Arguments of the daemon

The daemon is told where its settings are: a main file, and any number of files that are laid over
it.
-/

set_option autoImplicit false

namespace TokenBroker
namespace Daemon

open CommandLine

/-- All that the daemon is told. -/
structure Arguments where
  settings : String := "teebrokerd.toml"
  /-- Whether more is logged. -/
  verbose : Bool := false
  /-- The files laid over the main one, in order. -/
  overlays : List String := []
  endpoint : Option String := none
  deriving DecidableEq

/-- What the daemon understands. -/
def grammar : Grammar where
  rules := [⟨"config", some 'c', .value .text false⟩, ⟨"verbose", some 'v', .switch⟩,
    ⟨"overlay", none, .value .text true⟩, ⟨"endpoint", none, .value .text false⟩, helpRule,
    versionRule]
  operands := 0
  commands := []

/-- What the words of a command line mean. -/
def Arguments.ofWords (words : List String) : Except Detour Arguments := do
  let (s, _) ← grammar.scan {} words
  let base : Arguments := {}
  return ⟨(s.value? "config").getD base.settings, s.has "verbose", s.values "overlay",
    s.value? "endpoint"⟩

end Daemon
end TokenBroker
