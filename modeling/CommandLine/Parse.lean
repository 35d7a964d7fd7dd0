import CommandLine.Collector.Binding
import CommandLine.Word.Stream

namespace CommandLine

/-- The state after some phrases: the collector, and the resolutions whose overflow is pending. -/
structure Progress where
  collector : Collector
  overflows : List Resolution

namespace Collector

/-- The parameters of a flag that are not matched yet, each once; the others are noted. -/
def freshOf (flag : Word) (fresh : List Parameter) :
    List Parameter → Collector → Collector × List Parameter
  | [], c => (c, fresh)
  | p :: rest, c =>
    if c.matched p || fresh.contains p then freshOf flag fresh rest (c.note (.repeated p flag.text))
    else freshOf flag (fresh ++ [p]) rest c

/-- Enters the values of resolutions. -/
def enterAll (resolutions : List Resolution) (c : Collector) : Collector :=
  resolutions.foldl (fun c r => c.enter r.parameter r.value) c

/-- Confirms or withdraws a pending overflow. It is withdrawn when every surplus word was claimed;
otherwise the parameter has no value. -/
def settleOverflow (claimed : List Nat) (c : Collector) (r : Resolution) : Collector :=
  match r.pending with
  | none => c
  | some recorded =>
    if r.surplus.all fun w => claimed.contains w.index then c.withdraw recorded
    else c.nullify r.parameter

/-- Applies the fallback of a parameter that is not matched. -/
def applyFallback (converter : Converter) (c : Collector) (p : Parameter) : Collector :=
  match p.fallback with
  | none => c
  | some fallback =>
    if c.matched p then c
    else
      let (c, value) := (c.note (.applied p fallback)).convert converter p none
        (p.fallbackTokens fallback)
      c.enter p value

/-- Reports a required parameter that is not matched. -/
def reportMissing (c : Collector) (p : Parameter) : Collector :=
  if p.required && !c.matched p then (c.record (.missing p)).1 else c

end Collector

namespace Progress

/-- The state before the first phrase: the opening literals are left over. -/
def start (schema : Schema) (opening : List Word) : Progress :=
  ⟨(Collector.new schema).leaveAll opening, []⟩

/-- Matches fresh parameters of a flag against the run after it; what they do not take is left. -/
def matchGroup (converter : Converter) (fresh : List Parameter) (phrase : Phrase) (s : Progress) :
    Progress :=
  let (c, resolutions) := s.collector.resolveGroup converter fresh phrase.head phrase.run
  let taken := (resolutions.map (·.taken.length)).foldl max 0
  ⟨(c.enterAll resolutions).leaveAll (phrase.run.drop taken),
    s.overflows ++ resolutions.filter (·.pending.isSome)⟩

/-- Reads a phrase. -/
def readPhrase (converter : Converter) (s : Progress) (phrase : Phrase) : Progress :=
  match phrase.flag with
  | .unrecognised =>
    { s with collector :=
        (s.collector.record (s.collector.unrecognisedFault phrase.head)).1.leaveAll phrase.run }
  | .recognised parameters =>
    match s.collector.freshOf phrase.head [] parameters with
    | (c, []) => { s with collector := c.leaveAll phrase.run }
    | (c, fresh) => matchGroup converter fresh phrase { s with collector := c }

/-- Reads phrases in order. -/
def readPhrases (converter : Converter) (s : Progress) (phrases : List Phrase) : Progress :=
  phrases.foldl (readPhrase converter) s

/-- The state after all flags of a command line. -/
def ofStream (converter : Converter) (schema : Schema) (stream : Stream) : Progress :=
  (start schema stream.opening).readPhrases converter stream.phrases

/-- Binds the positions, then confirms or withdraws the pending overflows. -/
def bindPositions (converter : Converter) (s : Progress) : Collector :=
  let (c, leftovers) := s.collector.bind converter
  let claimed := (leftovers.filter (·.claimant.isSome)).map (·.word.index)
  s.overflows.foldl (Collector.settleOverflow claimed) c

end Progress

/-- The collector at the end of a parse of words. -/
def collect (converter : Converter) (schema : Schema) (words : List Word) : Collector :=
  let bound := (Progress.ofStream converter schema (.ofWords schema words)).bindPositions converter
  let filled := schema.parameters.foldl (Collector.applyFallback converter) bound
  schema.parameters.foldl Collector.reportMissing filled

/-- The outcome of a parse of a command line. -/
def parse (converter : Converter) (schema : Schema) (texts : List String) : Outcome :=
  (collect converter schema (Word.ofTexts 0 texts)).freeze

end CommandLine
