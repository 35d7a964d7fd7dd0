import CommandLine.Outcome
import CommandLine.Report.Notice

namespace CommandLine

/-- One or more faults together. -/
structure FaultGroup where
  faults : List Fault
  nonempty : faults ≠ []

/-- The error of making a group without faults. -/
def FaultGroup.emptyMessage : String :=
  "second argument (exceptions) must be a non-empty sequence"

/-- What faults are selected by. -/
inductive FaultSelector where
  | kind (kind : FaultKind)
  /-- All faults. -/
  | anyFault
  /-- A group as a whole. -/
  | wholeGroup
  deriving DecidableEq, Repr

namespace FaultGroup

/-- The group of faults, if there is one. -/
def ofList? (faults : List Fault) : Option FaultGroup :=
  if h : faults ≠ [] then some ⟨faults, h⟩ else none

/-- The headline of a group. -/
def headline : String := "bad parse"

/-- The name of the type of a group. -/
def typeName : String := "ParseExit"

/-- A group as one line: its headline and how many faults it has. -/
def summary (g : FaultGroup) : String :=
  headline ++ " (" ++ toString g.faults.length ++ " sub-exception" ++
    (if g.faults.length = 1 then "" else "s") ++ ")"

/-- Whether selectors take a fault. -/
def takes (selectors : List FaultSelector) (fault : Fault) : Bool :=
  selectors.contains .anyFault || selectors.contains (.kind fault.kind)

/-- The part of a group that selectors take and the part that they leave; a group that is taken as a
whole leaves nothing. -/
def split (g : FaultGroup) (selectors : List FaultSelector) : Option FaultGroup × Option FaultGroup :=
  if selectors.contains .wholeGroup then (some g, none)
  else
    let (taken, left) := g.faults.partition (takes selectors)
    (ofList? taken, ofList? left)

/-- The part of a group that selectors take. -/
def subgroup? (g : FaultGroup) (selectors : List FaultSelector) : Option FaultGroup :=
  (g.split selectors).1

section

variable (setter : Typesetter) (host : Host)

/-- What the header over a group is put together from: the program and the headline. -/
def headerParts (colorful : Bool) : List StyledText := [
  separator setter "[ ", renderText setter host colorful .programName host.programName,
  separator setter " — ", renderText setter host colorful .groupTitle (Text.title headline),
  separator setter " ]"]

/-- The header over a group. -/
def header (colorful : Bool) : StyledText :=
  setter.assemble (headerParts setter host colorful)

/-- A header over the reports of members, or all of them in a panel. -/
def layout (colorful fancy : Bool) (members : List Layout) : Layout :=
  let header := header setter host colorful
  if fancy then .panel (.group members) header none
  else .group (.text header :: members)

/-- The share of the console that the members of a group take: two thirds. -/
def memberShare : Value :=
  .float (.ofRatio false 2 3)

/-- How the members of a group are rendered: as the group is, and in panels of their share of the
console. -/
def memberOptions (colorful fancy : Bool) : RenderingOptions :=
  ⟨colorful, fancy, some memberShare⟩

/-- The report of notices that are grouped as faults are; it is refused when a notice is. -/
def renderNotices (colorful fancy : Bool) (notices : List Notice) : Except RenderError Layout :=
  (notices.mapM fun n : Notice =>
    (n.restyle (memberOptions colorful fancy)).render setter host).map (layout setter host colorful fancy)

/-- The report of a group. -/
def render (colorful fancy : Bool) (g : FaultGroup) : Except RenderError Layout :=
  renderNotices setter host colorful fancy (g.faults.map (.ofFault .usual))

end

end FaultGroup

/-- The report of a list of faults; nothing is printed when there are none. -/
def report (setter : Typesetter) (host : Host) (colorful fancy : Bool) (faults : List Fault) :
    Except RenderError (Option Layout) :=
  match FaultGroup.ofList? faults with
  | none => .ok none
  | some g => (g.render setter host colorful fancy).map some

/-- An outcome without faults, or the group of its faults. -/
def Outcome.check (o : Outcome) : Except FaultGroup Outcome :=
  match FaultGroup.ofList? o.faults with
  | none => .ok o
  | some g => .error g

end CommandLine
