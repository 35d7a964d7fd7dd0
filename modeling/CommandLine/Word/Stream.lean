import CommandLine.Word.Basic

namespace CommandLine

/-- What a flag word stands for. -/
inductive Flag where
  /-- Declared parameters, in the order in which the word spells them. -/
  | recognised (parameters : List Parameter)
  /-- No declared parameter. -/
  | unrecognised
  deriving DecidableEq

/-- The flag that a reading is, if it is one. -/
def Reading.flag? : Reading → Option Flag
  | .long p => some (.recognised [p])
  | .group ps => some (.recognised ps)
  | .unrecognised => some .unrecognised
  | .literal => none

/-- A flag and the literals up to the next flag. -/
structure Phrase where
  head : Word
  flag : Flag
  run : List Word
  deriving DecidableEq

/-- The words of a phrase. -/
def Phrase.words (phrase : Phrase) : List Word :=
  phrase.head :: phrase.run

/-- A command line cut at its flags. -/
structure Stream where
  /-- The literals before the first flag. -/
  opening : List Word
  phrases : List Phrase
  deriving DecidableEq

namespace Stream

/-- Puts a word in front of a stream. -/
def cons (s : Schema) (w : Word) (stream : Stream) : Stream :=
  match (s.read w.text).flag? with
  | none => { stream with opening := w :: stream.opening }
  | some flag => ⟨[], ⟨w, flag, stream.opening⟩ :: stream.phrases⟩

/-- Cuts words at the flags of a schema. -/
def ofWords (s : Schema) : List Word → Stream
  | [] => ⟨[], []⟩
  | w :: rest => cons s w (ofWords s rest)

/-- The words of a stream in order. -/
def words (stream : Stream) : List Word :=
  stream.opening ++ stream.phrases.flatMap Phrase.words

theorem words_cons (s : Schema) (w : Word) (stream : Stream) :
    (cons s w stream).words = w :: stream.words := by
  unfold cons
  split
  · rfl
  · simp [words, Phrase.words]

/-- Cutting loses no word and keeps their order. -/
theorem words_ofWords (s : Schema) (ws : List Word) : (ofWords s ws).words = ws := by
  induction ws with
  | nil => rfl
  | cons w rest ih => rw [ofWords, words_cons, ih]

end Stream

end CommandLine
