import CommandLine.Annotation.Basic
import CommandLine.Failure

namespace CommandLine

/-- What a converter is asked: raw tokens and the type to make of them. -/
structure Request where
  tokens : List String
  target : Annotation

/-- Turns requests into values; `earlier` are the requests made before, in order. -/
structure Converter where
  convert (earlier : List Request) (request : Request) : Except Failure Value

namespace Converter

/-- A converter without a memory. -/
def ofFunction (f : Request → Except Failure Value) : Converter :=
  ⟨fun _ request => f request⟩

/-- The answer of a converter depends on nothing but the request. -/
def Stateless (converter : Converter) : Prop :=
  ∀ earlier request, converter.convert earlier request = converter.convert [] request

theorem stateless_ofFunction (f : Request → Except Failure Value) : (ofFunction f).Stateless :=
  fun _ _ => rfl

end Converter

end CommandLine
