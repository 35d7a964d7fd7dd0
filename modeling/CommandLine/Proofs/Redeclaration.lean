import CommandLine.Proofs.Acceptance
import CommandLine.Proofs.Agreement
import CommandLine.Proofs.Order.Faults
import CommandLine.Proofs.Paraphrase.Bundle

namespace CommandLine

namespace Match

variable {converter : Converter} {p : Parameter} {fallback : String}

end Match

section

variable (converter : Converter) (schema : Schema) (texts : List String)

end

section

variable {s t : Schema} (hperm : t.parameters.Perm s.parameters) (converter : Converter)

include hperm

end

end CommandLine
