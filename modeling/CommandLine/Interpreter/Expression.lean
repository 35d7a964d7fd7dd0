import CommandLine.Interpreter.Token

namespace CommandLine.Interpreter

/-- A reader of tokens. What it cannot read is refused as a whole: no rule of the grammar needs a second
try. -/
abbrev Reader := StateT (List Token) Option

/-- Passes one of some signs, if one of them is next. -/
def passes (signs : List String) : Reader Bool := fun tokens =>
  match tokens with
  | .sign text :: rest => if signs.contains text then some (true, rest) else some (false, tokens)
  | _ => some (false, tokens)

/-- Passes a sign, which has to be next. -/
def expects (text : String) : Reader Unit := do
  guard (← passes [text])

/-- Whether one of some signs is next. -/
def isNext (signs : List String) : Reader Bool := fun tokens =>
  match tokens with
  | .sign text :: _ => some (signs.contains text, tokens)
  | _ => some (false, tokens)

/-- Passes a name. -/
def readName : Reader (List Char) := fun tokens =>
  match tokens with
  | .name letters :: rest => some (letters, rest)
  | _ => none

/-- Passes a name with a sign behind it, if they are next. -/
def readNameBefore? (text : String) : Reader (Option (List Char)) := fun tokens =>
  match tokens with
  | .name letters :: .sign sign :: rest =>
    if sign = text then some (some letters, rest) else some (none, tokens)
  | _ => some (none, tokens)

/-- Passes quotations that stand side by side; bytes and texts do not mix. -/
def readQuotations (isBytes : Bool) : List Token → Option (Unit × List Token)
  | .quotation other :: rest => if other = isBytes then readQuotations isBytes rest else none
  | tokens => some ((), tokens)

/-- A parameter of a function, or one of the signs between parameters. -/
inductive Formal where
  | plain (name : List Char) (hasFallback : Bool)
  /-- The parameters in front are not given by name. -/
  | slash
  /-- Any further arguments, perhaps with a name; the parameters behind are given by name. -/
  | star (name : Option (List Char))
  /-- Any further arguments that are given by name. -/
  | doubleStar (name : List Char)

namespace Formal

/-- The name of a parameter. -/
def name? : Formal → Option (List Char)
  | plain name _ => some name
  | slash => none
  | star name => name
  | doubleStar name => some name

/-- Whether parameters behind a star, which needs one of them if it has no name, may follow. -/
def areNamed (needsOne : Bool) : List Formal → Bool
  | [] => !needsOne
  | plain _ _ :: rest => areNamed false rest
  | [doubleStar _] => !needsOne
  | _ => false

/-- Whether parameters may follow one another: behind one with a fallback all have one, until a star. -/
def areOrdered (canSlash hasFallback : Bool) : List Formal → Bool
  | [] => true
  | plain _ fallback :: rest =>
    (fallback || !hasFallback) && areOrdered canSlash fallback rest
  | slash :: rest => canSlash && areOrdered false hasFallback rest
  | star name :: rest => areNamed name.isNone rest
  | [doubleStar _] => true
  | doubleStar _ :: _ => false

/-- Whether parameters are well formed. No two of them have one name. -/
def areFormed (formals : List Formal) : Bool :=
  areOrdered (!formals.head? matches some slash) false formals &&
    decide (formals.filterMap name?).Nodup

end Formal

/-- What stands in a call. -/
inductive Actual where
  | value
  /-- The items of a value. -/
  | items
  | keyword (name : List Char)
  /-- The fields of a record. -/
  | fields
  deriving DecidableEq

/-- Whether the arguments of a call may follow one another: values stand in front of everything that is
given by name, and no name is given twice. -/
def areActuals (actuals : List Actual) : Bool :=
  let behind := actuals.dropWhile fun a => a = .value || a = .items
  decide (.value ∉ behind ∧ .items ∉ behind.dropWhile (· ≠ .fields) ∧
    (actuals.filterMap fun a => match a with
      | .keyword name => some name
      | _ => none).Nodup)

/-- Operators that stand between two operands. -/
def operators : List String :=
  ["+", "-", "*", "/", "//", "%", "@", "**", "<<", ">>", "&", "|", "^"]

/-- Operators that compare two operands. -/
def comparisons : List String :=
  ["<", ">", "<=", ">=", "==", "!=", "in", "not", "is"]

mutual

/-- Reads a value: a choice under a condition, or a function. Here and below, the answer tells whether
something can be assigned to what was read, and the fuel bounds the rules that are open. -/
def readValue : Nat → Reader Bool
  | 0 => failure
  | fuel + 1 => do
    if ← passes ["lambda"] then
      let formals ← readFormals fuel
      guard (Formal.areFormed formals)
      let _ ← readValue fuel
      return false
    else
      let isTarget ← readChoice fuel
      if ← passes ["if"] then
        let _ ← readChoice fuel
        expects "else"
        let _ ← readValue fuel
        return false
      else return isTarget

/-- Reads the parameters of a function and the sign behind them. -/
def readFormals : Nat → Reader (List Formal)
  | 0 => failure
  | fuel + 1 => do
    if ← passes [":"] then return []
    let formal ← do
      if ← passes ["/"] then pure .slash
      else if ← passes ["**"] then pure (.doubleStar (← readName))
      else if ← passes ["*"] then
        if ← isNext [",", ":"] then pure (.star none) else pure (.star (some (← readName)))
      else
        let name ← readName
        if ← passes ["="] then
          let _ ← readValue fuel
          pure (.plain name true)
        else pure (.plain name false)
    if ← passes [","] then return formal :: (← readFormals fuel)
    expects ":"
    return [formal]

/-- Reads values that are combined by truth. -/
def readChoice : Nat → Reader Bool
  | 0 => failure
  | fuel + 1 => do
    if ← passes ["not"] then
      let _ ← readChoice fuel
      return false
    else
      let isTarget ← readOperands fuel true
      if ← passes ["and", "or"] then
        let _ ← readChoice fuel
        return false
      else return isTarget

/-- Reads operands with operators between them. -/
def readOperands : Nat → Bool → Reader Bool
  | 0, _ => failure
  | fuel + 1, compares => do
    let isTarget ← readOperand fuel
    if ← passes operators then
      let _ ← readOperands fuel compares
      return false
    else if compares && (← isNext comparisons) then
      if ← passes ["not"] then expects "in"
      else if ← passes ["is"] then let _ ← passes ["not"]
      else let _ ← passes comparisons
      let _ ← readOperands fuel true
      return false
    else return isTarget

/-- Reads an operand with the signs around it. -/
def readOperand : Nat → Reader Bool
  | 0 => failure
  | fuel + 1 => do
    if ← passes ["+", "-", "~"] then
      let _ ← readOperand fuel
      return false
    else
      let isTarget ← readAtom fuel
      readTrailers fuel isTarget

/-- Reads what stands behind an atom: names of members, items and calls. -/
def readTrailers : Nat → Bool → Reader Bool
  | 0, _ => failure
  | fuel + 1, isTarget => do
    if ← passes ["."] then
      let _ ← readName
      readTrailers fuel true
    else if ← passes ["["] then
      readSlices fuel
      readTrailers fuel true
    else if ← passes ["("] then
      let actuals ← readActuals fuel true
      guard (areActuals actuals)
      readTrailers fuel false
    else return isTarget

/-- Reads the places of items and the bracket behind them. -/
def readSlices : Nat → Reader Unit
  | 0 => failure
  | fuel + 1 => do
    if ← passes ["*"] then let _ ← readOperands fuel false
    else
      unless ← isNext [":"] do readNamed fuel
      if ← passes [":"] then
        unless ← isNext [":", ",", "]"] do let _ ← readValue fuel
        if ← passes [":"] then
          unless ← isNext [",", "]"] do let _ ← readValue fuel
    if ← passes [","] then
      if ← passes ["]"] then return
      readSlices fuel
    else expects "]"

/-- Reads the arguments of a call and the bracket behind them. -/
def readActuals : Nat → Bool → Reader (List Actual)
  | 0, _ => failure
  | fuel + 1, isFirst => do
    if ← passes [")"] then return []
    let actual ← do
      if ← passes ["**"] then
        let _ ← readValue fuel
        pure .fields
      else if ← passes ["*"] then
        let _ ← readValue fuel
        pure .items
      else
        match ← readNameBefore? "=" with
        | some name =>
          let _ ← readValue fuel
          pure (.keyword name)
        | none =>
          readNamed fuel
          pure .value
    if isFirst && actual = .value && (← isNext ["for"]) then
      readLoops fuel
      expects ")"
      return [actual]
    if ← passes [","] then return actual :: (← readActuals fuel false)
    expects ")"
    return [actual]

/-- Reads a value that may get a name. -/
def readNamed : Nat → Reader Unit
  | 0 => failure
  | fuel + 1 => do
    let _ ← readNameBefore? ":="
    let _ ← readValue fuel

/-- Reads the loops of a comprehension. -/
def readLoops : Nat → Reader Unit
  | 0 => failure
  | fuel + 1 => do
    if ← passes ["for"] then
      readTargets fuel
      let _ ← readChoice fuel
      readLoops fuel
    else if ← passes ["if"] then
      let _ ← readChoice fuel
      readLoops fuel

/-- Reads what the values of a loop are assigned to, and the word behind it. -/
def readTargets : Nat → Reader Unit
  | 0 => failure
  | fuel + 1 => do
    let _ ← passes ["*"]
    let isTarget ← readOperand fuel
    guard isTarget
    if ← passes ["in"] then return
    expects ","
    unless ← passes ["in"] do readTargets fuel

/-- Reads items in parentheses or brackets, and the bracket behind them. A single starred item needs a
comma in parentheses. -/
def readItems : Nat → Bool → String → Reader Bool
  | 0, _, _ => failure
  | fuel + 1, isFirst, closing => do
    if ← passes [closing] then return true
    let isStarred ← passes ["*"]
    let name? ← if isStarred then pure none else readNameBefore? ":="
    let isTarget ← if isStarred then readOperands fuel false else readValue fuel
    if isFirst && !isStarred && (← isNext ["for"]) then
      readLoops fuel
      expects closing
      return false
    if ← passes [","] then
      let areTargets ← readItems fuel false closing
      return isTarget && name?.isNone && areTargets
    expects closing
    guard (!(isFirst && isStarred && closing == ")"))
    return isTarget && name?.isNone

/-- Reads the entries of a set or of a record and the bracket behind them. -/
def readEntries : Nat → Bool → Option Bool → Reader Unit
  | 0, _, _ => failure
  | fuel + 1, isFirst, isRecord? => do
    if ← passes ["\x7d"] then return
    let (isRecord, isLoop) ← do
      if ← passes ["**"] then
        let _ ← readOperands fuel false
        pure (true, false)
      else if ← passes ["*"] then
        let _ ← readOperands fuel false
        pure (false, false)
      else
        readNamed fuel
        if ← passes [":"] then
          let _ ← readValue fuel
          pure (true, true)
        else pure (false, true)
    guard (isRecord?.all (· == isRecord))
    if isFirst && isLoop && (← isNext ["for"]) then
      readLoops fuel
      expects "\x7d"
    else if ← passes [","] then readEntries fuel false (some isRecord)
    else expects "\x7d"

/-- Reads a name, a constant or something in brackets. -/
def readAtom : Nat → Reader Bool
  | 0 => failure
  | fuel + 1 => do
    if ← passes ["("] then readItems fuel true ")"
    else if ← passes ["["] then readItems fuel true "]"
    else if ← passes ["\x7b"] then
      readEntries fuel true none
      return false
    else
      match ← get with
      | .name _ :: rest =>
        set rest
        return true
      | .constant :: rest =>
        set rest
        return false
      | .quotation isBytes :: rest =>
        set rest
        readQuotations isBytes
        return false
      | _ => failure

end

/-- Reads values with commas between them up to the end of the text, where lines may end. -/
def readValues : Nat → Reader Unit
  | 0 => failure
  | fuel + 1 => do
    let _ ← readValue fuel
    if ← passes [","] then
      if (← get) matches [] | .lineEnd :: _ then pure () else readValues fuel

/-- The characters of which an expression is read. What starts with a star stands for the items of a
value and is read in a place for items. -/
def readableForm (text : String) : List Char :=
  match text.toList with
  | '*' :: rest => "(*".toList ++ rest ++ ",)[0]".toList
  | cs => cs

/-- Whether a text is an expression, which starts in the first column. -/
def readsExpression (text : String) : Bool :=
  let cs := readableForm text
  let fuel := 16 * (cs.length + 1)
  if text.startsWith " " || text.startsWith "\t" then false
  else
    match readTokens fuel 0 cs with
    | some tokens =>
      match (readValues fuel).run (tokens.dropWhile (· matches .lineEnd)) with
      | some (_, rest) => rest.all (· matches .lineEnd)
      | none => false
    | none => false

example : readsExpression "list[int]" = true := by decide +kernel

example : readsExpression "two words" = false := by decide +kernel

end CommandLine.Interpreter
