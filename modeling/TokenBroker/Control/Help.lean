import TokenBroker.CommandLine.Report
/-!
# Help of the control program

The texts that the control program prints about itself.
-/

set_option autoImplicit false

namespace TokenBroker
namespace Control

/-- The name of the control program and its version. -/
def versionText : String := "teebrokerctl 0.4.0\n"

/-- How the control program is called. -/
def usageText : String := "Usage: teebrokerctl [OPTIONS] <COMMAND>\n"

/-- Lines as a text. -/
def unlines (lines : List String) : String := String.join (lines.map fun line => line ++ "\n")

/-- What the control program is for, and all that it understands. -/
def overview : List String :=
  ["CLI tool for storing and inspecting teebroker auth tokens",
    "",
    "Usage: teebrokerctl [OPTIONS] <COMMAND>",
    "",
    "Commands:",
    "  store   Store (or replace) the auth token",
    "  read    Print the stored auth token as hex",
    "  delete  Delete the auth token",
    "  ping    Check that the daemon accepts connections",
    "  help    Print this message or the help of the given subcommand(s)",
    "",
    "Options:",
    "  -c, --config <CONFIG>          Client configuration file",
    "      --endpoint <ENDPOINT>      Daemon endpoint (`#name` for an abstract socket, "
      ++ "otherwise a path)",
    "      --timeout-ms <TIMEOUT_MS>  Response timeout in ms (0 = wait forever)",
    "  -h, --help                     Print help",
    "  -V, --version                  Print version"]

/-- What a command is for, and what it understands. -/
def commandHelp : String → List String
  | "store" =>
    ["Store (or replace) the auth token",
      "",
      "Usage: teebrokerctl store [OPTIONS] [HEX]",
      "",
      "Arguments:",
      "  [HEX]  Token bytes as hex",
      "",
      "Options:",
      "      --file <FILE>  Read the token from a file",
      "  -h, --help         Print help"]
  | "read" =>
    ["Print the stored auth token as hex",
      "",
      "Usage: teebrokerctl read [OPTIONS]",
      "",
      "Options:",
      "      --out <OUT>  Write the raw token to a file instead",
      "  -h, --help       Print help"]
  | "delete" =>
    ["Delete the auth token", "", "Usage: teebrokerctl delete", "", "Options:",
      "  -h, --help  Print help"]
  | "ping" =>
    ["Check that the daemon accepts connections", "", "Usage: teebrokerctl ping", "", "Options:",
      "  -h, --help  Print help"]
  | _ =>
    ["Print this message or the help of the given subcommand(s)",
      "",
      "Usage: teebrokerctl help [COMMAND]...",
      "",
      "Arguments:",
      "  [COMMAND]...  Print help for the subcommand(s)"]

/-- Help on a command, or on the program. -/
def helpText : Option String → String
  | none => unlines overview
  | some command => unlines (commandHelp command)

end Control
end TokenBroker
