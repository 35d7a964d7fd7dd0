import CommandLine.Collector.Resolution

namespace CommandLine

/-- A leftover with the parameter that claimed it, if one did. -/
structure Leftover where
  word : Word
  claimant : Option Parameter
  deriving DecidableEq

/-- Claims of leftovers by their places; the latest claim of a place comes first. -/
abbrev Claims := List (Nat × Parameter)

namespace Collector

/-- Binds parameters in order against the leftovers that none before them claimed. -/
def bindEach (converter : Converter) :
    List Parameter → List Word → Collector → Collector × Claims
  | [], _, c => (c, [])
  | p :: rest, words, c =>
    if c.matched p then bindEach converter rest words (c.note (.positionTaken p))
    else
      match words, p.eligible words with
      | anchor :: _, _ :: _ =>
        let (c, r) := c.resolve converter p anchor words true
        let c := c.enter p r.value
        let (c, later) := bindEach converter rest (words.drop r.taken.length) c
        (c, later ++ r.taken.map fun w => (w.index, p))
      | _, _ => bindEach converter rest words (c.note (.positionEmpty p))

/-- Binds the positions of the schema and tells who claimed each leftover. -/
def bind (converter : Converter) (c : Collector) : Collector × List Leftover :=
  let (bound, claims) := c.bindEach converter c.schema.positionals c.leftovers
  (bound, c.leftovers.map fun w => ⟨w, claims.lookup w.index⟩)

end Collector

end CommandLine
