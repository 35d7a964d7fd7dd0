import CommandLine.Parse

namespace CommandLine

/-- What a caller may put in the place of a converter. -/
inductive ConverterChoice where
  /-- None: standard conversion. -/
  | standard
  | custom (converter : Converter)
  /-- An object that does not convert. -/
  | unusable

/-- What a caller may parse against. -/
inductive SchemaSource where
  | schema (s : Schema)
  /-- Objects that a schema is made of when the parse starts. -/
  | entries (entries : List SchemaEntry)

/-- A wrong use of a parser, as opposed to a fault of the command line. -/
inductive UsageError where
  | schema (cause : SchemaError)
  | converterUnusable
  /-- A token that is no text, by the name of its type. -/
  | tokenNotText (typeName : String)

/-- Whether a schema refuses an object for its type or for a conflict. -/
def SchemaError.category : SchemaError → Failure.Category
  | notParameter _ => .type
  | _ => .value

/-- A refusal of a schema as a failure. -/
def SchemaError.failure (e : SchemaError) : Failure :=
  ⟨e.category, e.message⟩

/-- A wrong use as a failure. -/
def UsageError.failure : UsageError → Failure
  | schema cause => cause.failure
  | converterUnusable => .ofType "Parser() argument must implement convert(tokens, target)"
  | tokenNotText typeName =>
    .ofType ("parse() tokens must be strings, not " ++ Text.quoted typeName)

/-- A converter that is ready to parse. -/
structure Parser where
  converter : Converter

/-- The schema of a source. -/
def SchemaSource.toSchema : SchemaSource → Except UsageError Schema
  | schema s => .ok s
  | entries es => (Schema.ofList es).mapError .schema

/-- Tokens that are texts. -/
def textTokens : List Value → Except UsageError (List String)
  | [] => .ok []
  | .text s :: rest => (s :: ·) <$> textTokens rest
  | v :: _ => .error (.tokenNotText v.typeName)

namespace Parser

/-- The parser of a choice. -/
def ofChoice : ConverterChoice → Except UsageError Parser
  | .standard => .ok ⟨.standard⟩
  | .custom converter => .ok ⟨converter⟩
  | .unusable => .error .converterUnusable

/-- Parses tokens: the schema is made before the tokens are looked at. -/
def run (parser : Parser) (source : SchemaSource) (tokens : List Value) :
    Except UsageError Collector := do
  let schema ← source.toSchema
  let texts ← textTokens tokens
  .ok (collect parser.converter schema (Word.ofTexts 0 texts))

end Parser

theorem textTokens_map_text (texts : List String) : textTokens (texts.map .text) = .ok texts := by
  induction texts with
  | nil => rfl
  | cons s rest ih => simp [textTokens, ih, Functor.map, Except.map]

/-- Texts against a schema always parse. -/
theorem Parser.run_texts (parser : Parser) (schema : Schema) (texts : List String) :
    ∃ c, parser.run (.schema schema) (texts.map .text) = .ok c ∧
      c.freeze = parse parser.converter schema texts := by
  refine ⟨_, ?_, rfl⟩
  simp [run, SchemaSource.toSchema, textTokens_map_text, bind, Except.bind]

end CommandLine
