import CommandLine.Fault.Basic

namespace CommandLine

open Text

/-- Where an event belongs. -/
inductive Channel where
  | outcome
  | arity
  | positional
  | parsing
  deriving DecidableEq, Repr

/-- The name of a channel. -/
def Channel.name : Channel → String
  | outcome => "argosy.outcome"
  | arity => "argosy.arity"
  | positional => "argosy.positional"
  | parsing => "argosy.parser"

/-- Something that a parse did. -/
inductive Event where
  | matched (p : Parameter) (value : Value)
  /-- A second match of a parameter, which changed nothing. -/
  | refused (p : Parameter)
  | recorded (fault : Fault)
  | withdrew (fault : Fault)
  /-- A flag was given more tokens than it takes; the fault stands unless positions claim them. -/
  | overflowed (p : Parameter) (surplus : Nat)
  /-- One boolean literal went to all flags of a group. -/
  | broadcast (literal : String) (group : String)
  /-- A flag of the command line was passed over since its parameter is matched. -/
  | repeated (p : Parameter) (flag : String)
  /-- A position was passed over since its parameter is matched. -/
  | positionTaken (p : Parameter)
  /-- A position was passed over since no leftover can go to it. -/
  | positionEmpty (p : Parameter)
  | applied (p : Parameter) (fallback : String)

namespace Event

/-- The channel of an event. -/
def channel : Event → Channel
  | matched .. | refused .. | recorded .. | withdrew .. => .outcome
  | overflowed .. | broadcast .. => .arity
  | positionTaken .. | positionEmpty .. => .positional
  | repeated .. | applied .. => .parsing

/-- An event as a log line. -/
def message : Event → String
  | matched p value => "matched " ++ p.label ++ " -> " ++ value.display
  | refused p => "option " ++ p.label ++ " matched twice"
  | recorded fault => "recorded " ++ fault.kind.name ++ ": " ++ fault.message
  | withdrew fault => "withdrew " ++ fault.kind.name ++ ": " ++ fault.message
  | overflowed p surplus =>
    p.label ++ " overflows by " ++ toString surplus ++ " token(s); pending positional binding"
  | broadcast literal group => "broadcasting " ++ quoted literal ++ " to " ++ group
  | repeated p flag => "ignoring repeated " ++ p.label ++ " at " ++ flag
  | positionTaken p =>
    p.label ++ " already matched by flag; skipping positional slot " ++ p.positionText
  | positionEmpty p => "no leftover for positional slot " ++ p.positionText
  | applied p fallback => "applying default " ++ quoted fallback ++ " to " ++ p.label

end Event

end CommandLine
