namespace SchemaPlan.Text.Quoted

/-- The text with every `mark` written twice. -/
def encode (mark : Char) : List Char → List Char
  | [] => []
  | c :: cs => if c = mark then mark :: mark :: encode mark cs else c :: encode mark cs

def quote (mark : Char) (s : String) : String :=
  String.ofList (mark :: (encode mark s.toList ++ [mark]))

/-- What stands before the first mark that is not doubled, read back, and what follows that mark. -/
def takeQuoted (mark : Char) : List Char → Option (List Char × List Char)
  | [] => none
  | [c] => if c = mark then some ([], []) else none
  | c :: d :: cs =>
    if c = mark then
      if d = mark then (takeQuoted mark cs).map fun (s, rest) => (mark :: s, rest)
      else some ([], d :: cs)
    else (takeQuoted mark (d :: cs)).map fun (s, rest) => (c :: s, rest)

def unquote (mark : Char) : List Char → Option (List Char × List Char)
  | [] => none
  | c :: cs => if c = mark then takeQuoted mark cs else none

variable {mark : Char}

@[simp] theorem encode_nil : encode mark [] = [] := rfl

theorem takeQuoted_encode (s rest : List Char) (h : rest.head? ≠ some mark) :
    takeQuoted mark (encode mark s ++ mark :: rest) = some (s, rest) := by
  induction s with
  | nil =>
    cases rest with
    | nil => simp [takeQuoted]
    | cons d rest =>
      have hd : d ≠ mark := by simpa using h
      simp [takeQuoted, hd]
  | cons c s ih =>
    by_cases hc : c = mark
    · subst hc
      simp [encode, takeQuoted, ih]
    · cases hs : encode mark s ++ mark :: rest with
      | nil => simp at hs
      | cons d t =>
        rw [hs] at ih
        simp [encode, hc, takeQuoted, hs, ih]

theorem toList_quote (s : String) :
    (quote mark s).toList = mark :: (encode mark s.toList ++ [mark]) := by
  simp [quote]

theorem unquote_quote (s : String) (rest : List Char) (h : rest.head? ≠ some mark) :
    unquote mark ((quote mark s).toList ++ rest) = some (s.toList, rest) := by
  simp [toList_quote, unquote, takeQuoted_encode s.toList rest h]

end SchemaPlan.Text.Quoted
