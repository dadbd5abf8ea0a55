import TokenBroker.Text.Unprintable
/-!
# Quoted text

Messages quote a name that came from outside, so that it reads unambiguously whatever it holds:
the quote mark and the backslash are escaped, the common control characters have short forms, any
other character that cannot be seen is written by its code, and the rest stands as it is.
-/

set_option autoImplicit false

namespace TokenBroker
namespace Quoted

/-- A character inside quotes made of the mark `quote`. -/
def escape (quote : Char) (c : Char) : List Char :=
  if c = '\x00' then ['\\', '0']
  else if c = '\t' then ['\\', 't']
  else if c = '\r' then ['\\', 'r']
  else if c = '\n' then ['\\', 'n']
  else if c = '\\' then ['\\', '\\']
  else if c = quote then ['\\', quote]
  else if Unprintable.contains c then
    ['\\', 'u', '\x7b'] ++ Nat.toDigits 16 c.toNat ++ ['\x7d']
  else [c]

/-- A text in double quotes. -/
def string (text : String) : String :=
  String.ofList (['\"'] ++ text.toList.flatMap (escape '\"') ++ ['\"'])

/-- A single character in single quotes. -/
def char (c : Char) : String :=
  String.ofList (['\''] ++ escape '\'' c ++ ['\''])

end Quoted
end TokenBroker
