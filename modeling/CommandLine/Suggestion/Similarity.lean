namespace CommandLine.Similarity

/-- A common block: where it starts in each of two texts, and its length. -/
structure Block where
  left : Nat
  right : Nat
  size : Nat
  deriving DecidableEq, Repr

/-- The length of the common front of two texts, as far as its characters may be matched. -/
def commonFront (eligible : Char → Bool) : List Char → List Char → Nat
  | x :: xs, y :: ys => if x = y && eligible x then commonFront eligible xs ys + 1 else 0
  | _, _ => 0

/-- The blocks of eligible characters from one place in a text and each place from `right` on in
another, the text from the one place and the other text from `right` on being given. -/
def rowBlocks (eligible : Char → Bool) (left : Nat) (xs : List Char) (right : Nat) :
    List Char → List Block
  | [] => []
  | y :: ys =>
    ⟨left, right, commonFront eligible xs (y :: ys)⟩ ::
      rowBlocks eligible left xs (right + 1) ys

/-- The blocks of eligible characters from each pair of places, earlier places in the first text
first and of these earlier places in the second; `left` is the place at which the given part of the
first text starts. -/
def blocks (eligible : Char → Bool) (left : Nat) (b : List Char) : List Char → List Block
  | [] => []
  | x :: xs =>
    rowBlocks eligible left (x :: xs) 0 b ++ blocks eligible (left + 1) b xs

/-- The first block of greatest length; an empty block at the front when none has a character. -/
def longest (candidates : List Block) : Block :=
  candidates.foldl (fun best block => if best.size < block.size then block else best) ⟨0, 0, 0⟩

/-- Extends a block on both sides over equal characters, eligible or not. -/
def Block.extend (a b : List Char) (block : Block) : Block :=
  let before := commonFront (fun _ => true) (a.take block.left).reverse (b.take block.right).reverse
  let after := commonFront (fun _ => true) (a.drop (block.left + block.size))
    (b.drop (block.right + block.size))
  ⟨block.left - before, block.right - before, before + block.size + after⟩

/-- The block that is matched first. -/
def firstMatch (eligible : Char → Bool) (a b : List Char) : Block :=
  (longest (blocks eligible 0 b a)).extend a b

/-- The number of matched characters of two texts. -/
def matched (eligible : Char → Bool) (a b : List Char) : Nat :=
  match firstMatch eligible a b with
  | ⟨left, right, size⟩ =>
    if _hblock : 0 < size ∧ left < a.length then
      matched eligible (a.take left) (b.take right) + size +
        matched eligible (a.drop (left + size)) (b.drop (right + size))
    else 0
termination_by a.length
decreasing_by
  · simp only [List.length_take]
    omega
  · simp only [List.length_drop]
    omega

/-- The length from which on a text has frequent characters. -/
def longTextLength : Nat := 200

/-- The characters that start no block in a text: in a long text those that make up more than about
a hundredth of it. -/
def frequentChars (text : List Char) : List Char :=
  if text.length < longTextLength then []
  else text.eraseDups.filter fun c => text.length / 100 + 1 < text.count c

/-- A share of characters. -/
structure Ratio where
  matched : Nat
  total : Nat
  deriving DecidableEq, Repr

/-- The order of shares. -/
def Ratio.lt (a b : Ratio) : Bool :=
  a.matched * b.total < b.matched * a.total

/-- The similarity of a candidate to a typed text: twice the matched characters of all characters
of both. -/
def ratio (candidate typed : List Char) : Ratio :=
  let frequent := frequentChars typed
  ⟨2 * matched (!frequent.contains ·) candidate typed, candidate.length + typed.length⟩

/-- Whether a share is at least three fifths. -/
def Ratio.isClose (r : Ratio) : Bool :=
  3 * r.total ≤ 5 * r.matched

end CommandLine.Similarity
