namespace CommandLine.Text

/-- The front of a text of at most `limit` bytes; what is left of a character that is cut becomes
the replacement character. -/
def clip (limit : Nat) : List Char → List Char
  | [] => []
  | c :: rest =>
    if c.utf8Size ≤ limit then c :: clip (limit - c.utf8Size) rest
    else if limit = 0 then []
    else ['\ufffd']

/-- The front of a text of at most `limit` bytes. -/
def clipped (limit : Nat) (s : String) : String :=
  String.ofList (clip limit s.toList)

/-- The bytes that a text takes. -/
def byteSize : List Char → Nat
  | [] => 0
  | c :: rest => c.utf8Size + byteSize rest

/-- A text of no more bytes than the limit stays whole. -/
theorem clip_eq_self {limit : Nat} {cs : List Char} (h : byteSize cs ≤ limit) :
    clip limit cs = cs := by
  induction cs generalizing limit with
  | nil => rfl
  | cons c rest ih =>
    rw [byteSize] at h
    unfold clip
    rw [if_pos (by omega), ih (by omega)]

end CommandLine.Text
