import CommandLine.Fault.Code

namespace CommandLine

/-- What the program around a parse provides. -/
structure Host where
  /-- The name of the program, if it sets one. -/
  name : Option String
  /-- The path that the program was called by. -/
  path : String
  /-- Styles by the names of the parts that they apply to. -/
  styles : List (String × String)
  /-- Labels that stand for codes. -/
  labels : List (FaultCode × String)
  /-- Documentation of codes. -/
  docs : List (FaultCode × String)

namespace Host

/-- The part of a path after its last slash. -/
def baseName (path : String) : String :=
  String.ofList (path.toList.reverse.takeWhile (· != '/')).reverse

/-- The program name where neither a name nor a path gives one. -/
def fallbackName : String := "argosy"

/-- The name of the program in headers. -/
def programName (host : Host) : String :=
  match host.name with
  | some name => name
  | none => if baseName host.path = "" then fallbackName else baseName host.path

/-- The label of a code: the one that the host sets, else its number. -/
def label (host : Host) (code : FaultCode) : String :=
  (host.labels.lookup code).getD (toString code.number)

/-- The documentation of a code. -/
def doc? (host : Host) (code : FaultCode) : Option String :=
  host.docs.lookup code

/-- The error of asking for the documentation of what is no code. -/
def noCodeMessage : String :=
  "getdoc() argument must be a fault-code"

end Host

end CommandLine
