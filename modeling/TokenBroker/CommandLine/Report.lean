/-!
# What a program leaves

A program that ends leaves what it printed, and a complaint unless it succeeded.  The complaint
decides the exit status.
-/

set_option autoImplicit false

namespace TokenBroker
namespace CommandLine

/-- Why a program does not succeed. -/
inductive Complaint where
  /-- The command line makes no sense; what it should look like is told. -/
  | unusable (usage : String)
  /-- A file of settings is malformed.  The context is what was being done, if that is told. -/
  | malformed (context : List String)
  /-- An error, and then what each is due to. -/
  | failed (chain : List String)
  /-- There is no token. -/
  | absent
  /-- The program breaks off. -/
  | aborted
  deriving DecidableEq

/-- What a program leaves. -/
structure Report where
  output : String := ""
  complaint : Option Complaint := none
  deriving DecidableEq

/-! ## Errors in words -/

/-- The lines of a text. -/
def splitLines (text : List Char) : List (List Char) :=
  text.foldr (fun c lines =>
    match lines with
    | [] => [[c]]
    | line :: rest => if c = '\n' then [] :: line :: rest else (c :: line) :: rest) [[]]

/-- So many spaces. -/
def spaces (n : Nat) : String := String.ofList (List.replicate n ' ')

/-- A text whose first line starts in one way and whose other lines start in another. -/
def hanging (first others : String) (text : String) : String :=
  first ++ String.intercalate ("\n" ++ others) ((splitLines text.toList).map String.ofList)

/-- One of several causes: its number takes up seven columns. -/
def numberedCause (n : Nat) (text : String) : String :=
  let digits := toString n
  hanging (spaces (5 - digits.length) ++ digits ++ ": ") (spaces 7) text

/-- The causes of an error, each on lines of its own.  A single one has no number. -/
def causes : List String → List String
  | [text] => [hanging (spaces 4) (spaces 4) text]
  | texts => texts.zipIdx.map fun (text, n) => numberedCause n text

/-- An error and its causes in words. -/
def failureText : List String → String
  | [] => ""
  | [text] => "Error: " ++ text ++ "\n"
  | text :: rest =>
    "Error: " ++ text ++ "\n\nCaused by:\n" ++ String.intercalate "\n" (causes rest) ++ "\n"

/-! ## Ends -/

/-- A complaint in words. -/
def Complaint.text : Complaint → String
  | unusable usage => usage
  | malformed context => failureText (context ++ ["malformed settings"])
  | failed chain => failureText chain
  | absent => "No auth token stored\n"
  | aborted => ""

/-- The exit status of a program with a complaint. -/
def Complaint.status : Complaint → Nat
  | unusable _ => 2
  | malformed _ => 1
  | failed _ => 1
  | absent => 2
  | aborted => 101

namespace Report

/-- The report of a program that has nothing but a complaint. -/
def ofComplaint (complaint : Complaint) : Report := ⟨"", some complaint⟩

/-- The exit status. -/
def status (r : Report) : Nat :=
  match r.complaint with
  | none => 0
  | some complaint => complaint.status

/-- What the program prints beside its output. -/
def errorText (r : Report) : String :=
  match r.complaint with
  | none => ""
  | some complaint => complaint.text

end Report
end CommandLine
end TokenBroker
