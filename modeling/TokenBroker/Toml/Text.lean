import TokenBroker.Toml.Scalar
/-!
# Strings, keys and blank space in TOML

Strings come in four kinds: with or without escapes, and on one line or on several.  A line break in
a string of several lines always reads as a single line feed.
-/

set_option autoImplicit false

namespace TokenBroker
namespace Toml

/-! ## Blank space -/

/-- Whether a character is blank within a line. -/
def isBlank (c : Char) : Bool := c = ' ' || c = '\t'

/-- What follows blanks. -/
def skipBlanks (input : List Char) : List Char := input.dropWhile isBlank

/-- Whether a character may stand in a comment: anything but control characters. -/
def isCommentChar (c : Char) : Bool := c = '\t' || (' ' ≤ c && c ≠ '\x7f')

/-- Read a line break. -/
def lineBreak : Scanner Unit
  | '\n' :: rest => some ((), rest)
  | '\x0d' :: '\n' :: rest => some ((), rest)
  | _ => none

/-- What follows a comment, if there is one. -/
def skipComment : List Char → List Char
  | '#' :: rest => rest.dropWhile isCommentChar
  | input => input

/-- Read the end of a line, blanks and a comment included.  The end of the document will do. -/
def endOfLine : Scanner Unit := fun input =>
  match skipComment (skipBlanks input) with
  | [] => some ((), [])
  | rest => lineBreak rest

/-- What follows blanks, comments and line breaks; `fuel` bounds the number of lines. -/
def skipLines : Nat → List Char → List Char
  | 0, input => input
  | fuel + 1, input =>
    let rest := skipBlanks input
    match lineBreak (skipComment rest) with
    | some ((), rest) => skipLines fuel rest
    | none => rest

/-- What follows blanks, comments and line breaks. -/
def skipSpace (input : List Char) : List Char := skipLines (input.length + 1) input

/-! ## Strings -/

/-- The character of a code point, surrogates being none. -/
def scalar? (n : Nat) : Option Char :=
  if h : n.isValidChar then some (Char.ofNatAux n h) else none

/-- Read the code of a character, in so many digits. -/
def codePoint (count : Nat) : Scanner Char := fun input =>
  match exactly isHexDigit count input with
  | none => none
  | some (cs, rest) => (scalar? (numberOf 16 cs)).map fun c => (c, rest)

/-- Read what follows a backslash. -/
def escape : Scanner Char
  | 'b' :: rest => some ('\x08', rest)
  | 't' :: rest => some ('\t', rest)
  | 'n' :: rest => some ('\n', rest)
  | 'f' :: rest => some ('\x0c', rest)
  | 'r' :: rest => some ('\x0d', rest)
  | '\"' :: rest => some ('\"', rest)
  | '\\' :: rest => some ('\\', rest)
  | 'u' :: rest => codePoint 4 rest
  | 'U' :: rest => codePoint 8 rest
  | _ => none

/-- Read the rest of a string with escapes on one line; `fuel` bounds its length. -/
def basicRest : Nat → Scanner (List Char)
  | 0, _ => none
  | _ + 1, [] => none
  | _ + 1, '\"' :: rest => some ([], rest)
  | fuel + 1, '\\' :: rest =>
    match escape rest with
    | none => none
    | some (c, rest) => (basicRest fuel rest).map fun (cs, rest) => (c :: cs, rest)
  | fuel + 1, c :: rest =>
    if isCommentChar c then (basicRest fuel rest).map fun (cs, rest) => (c :: cs, rest) else none

/-- Read the rest of a string without escapes on one line. -/
def literalRest : List Char → Option (List Char × List Char)
  | [] => none
  | '\'' :: rest => some ([], rest)
  | c :: rest =>
    if isCommentChar c then (literalRest rest).map fun (cs, rest) => (c :: cs, rest) else none

/-- Read the end of a string of several lines: three marks, before which two more may stand that
belong to the string. -/
def closing (mark : Char) : Scanner (List Char) := fun input =>
  let marks := (input.takeWhile (· = mark)).length
  if marks < 3 then none
  else
    let extra := min (marks - 3) 2
    some (List.replicate extra mark, input.drop (extra + 3))

/-- What follows blanks and line breaks; `fuel` bounds the number of lines. -/
def skipBreaks : Nat → List Char → List Char
  | 0, input => input
  | fuel + 1, input =>
    let rest := skipBlanks input
    match lineBreak rest with
    | some ((), rest) => skipBreaks fuel rest
    | none => rest

/-- What follows blanks and line breaks, if at least one line break is there. -/
def continuation : Scanner Unit := fun input =>
  match lineBreak (skipBlanks input) with
  | none => none
  | some ((), rest) => some ((), skipBreaks (rest.length + 1) rest)

/-- Read the rest of a string of several lines; `fuel` bounds its length. -/
def multilineRest (mark : Char) (escapes : Bool) : Nat → Scanner (List Char)
  | 0, _ => none
  | _ + 1, [] => none
  | fuel + 1, c :: rest =>
    match closing mark (c :: rest) with
    | some (cs, rest) => some (cs, rest)
    | none =>
      match lineBreak (c :: rest) with
      | some ((), rest) =>
        (multilineRest mark escapes fuel rest).map fun (cs, rest) => ('\n' :: cs, rest)
      | none =>
        if escapes && c = '\\' then
          match continuation rest with
          | some ((), rest) => multilineRest mark escapes fuel rest
          | none =>
            match escape rest with
            | none => none
            | some (c, rest) =>
              (multilineRest mark escapes fuel rest).map fun (cs, rest) => (c :: cs, rest)
        else if isCommentChar c then
          (multilineRest mark escapes fuel rest).map fun (cs, rest) => (c :: cs, rest)
        else none

/-- A line break right after the opening marks is no part of the string. -/
def skipFirstBreak (input : List Char) : List Char :=
  match lineBreak input with
  | some ((), rest) => rest
  | none => input

/-- Read a string of any kind. -/
def string : Scanner String := fun input =>
  let read :=
    match input with
    | '\"' :: '\"' :: '\"' :: rest => multilineRest '\"' true input.length (skipFirstBreak rest)
    | '\'' :: '\'' :: '\'' :: rest => multilineRest '\'' false input.length (skipFirstBreak rest)
    | '\"' :: rest => basicRest input.length rest
    | '\'' :: rest => literalRest rest
    | _ => none
  read.map fun (cs, rest) => (String.ofList cs, rest)

/-! ## Keys -/

/-- Whether a character may stand in a key without quotes. -/
def isBareChar (c : Char) : Bool := c.isAlphanum || c = '-' || c = '_'

/-- Read one part of a key. -/
def keyPart : Scanner String := fun input =>
  match input with
  | '\"' :: rest => (basicRest input.length rest).map fun (cs, rest) => (String.ofList cs, rest)
  | '\'' :: rest => (literalRest rest).map fun (cs, rest) => (String.ofList cs, rest)
  | _ =>
    let cs := input.takeWhile isBareChar
    if cs.isEmpty then none else some (String.ofList cs, input.drop cs.length)

/-- Read the parts of a key after the first; `fuel` bounds their number. -/
def moreParts : Nat → Scanner (List String)
  | 0, _ => none
  | fuel + 1, '.' :: rest =>
    match keyPart (skipBlanks rest) with
    | none => none
    | some (part, rest) =>
      (moreParts fuel (skipBlanks rest)).map fun (parts, rest) => (part :: parts, rest)
  | _ + 1, input => some ([], input)

/-- The number of parts that a key must not reach. -/
def maxDepth : Nat := 80

/-- Read a key, with the blanks around it.  The answer is its last part and the parts before it. -/
def key : Scanner (List String × String) := fun input =>
  match keyPart (skipBlanks input) with
  | none => none
  | some (first, rest) =>
    match moreParts (input.length + 1) (skipBlanks rest) with
    | none => none
    | some (parts, rest) =>
      let all := first :: parts
      if all.length ≥ maxDepth then none
      else some ((all.dropLast, all.getLast (List.cons_ne_nil first parts)), rest)

end Toml
end TokenBroker
