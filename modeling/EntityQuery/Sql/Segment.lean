import EntityQuery.Text.Basic

namespace EntityQuery.Sql

/-- A part of a statement's text: a reference to a field by the session's alias, a placeholder, or
anything else, which is copied. Quoted runs, cast targets, numbers and words that begin with a
dollar sign are copied whole, so nothing inside them is taken for a reference. -/
inductive Segment
  | verbatim (text : List Char)
  | field (name : List Char)
  | placeholder (name : List Char) (inList : Bool)
deriving DecidableEq, Repr

/-- The text that a segment was read from. -/
def Segment.source (qualifier : List Char) : Segment → List Char
  | verbatim text => text
  | field name => qualifier ++ '.' :: name
  | placeholder name _ => ':' :: name

/-- The characters that begin a word. -/
def isWordStart (c : Char) : Bool :=
  c == '_' || c.isAlpha

/-- The characters that continue a word. -/
def isWordChar (c : Char) : Bool :=
  c == '_' || c.isAlphanum

def startsWord : List Char → Bool
  | [] => false
  | c :: _ => isWordStart c

/-- The end of a quoted run behind its opening quote. A doubled quote stands for itself, and a run
that is not closed reaches to the end. Gives the run and what follows. -/
def quotedRun (quote : Char) : List Char → List Char × List Char
  | [] => ([], [])
  | [c] => ([c], [])
  | c :: d :: rest =>
    if c = quote then
      if d = quote then
        let (run, after) := quotedRun quote rest
        (c :: d :: run, after)
      else ([c], d :: rest)
    else
      let (run, after) := quotedRun quote (d :: rest)
      (c :: run, after)

/-- Whether a placeholder is the sole item of a list behind `IN`. `before` is the text in front of
it, last character first, and `after` the text behind it. -/
def isListItem (before after : List Char) : Bool :=
  match before.dropWhile Text.isAsciiBlank, after.dropWhile Text.isAsciiBlank with
  | '(' :: before, ')' :: _ =>
    match before.dropWhile Text.isAsciiBlank with
    | n :: i :: rest =>
      n.toLower == 'n' && i.toLower == 'i' && !rest.head?.any isWordChar
    | _ => false
  | _, _ => false

/-- The first segment of a text that begins with the character `c`, and what follows it. -/
def firstSegment (qualifier before : List Char) (c : Char) (rest : List Char) :
    Segment × List Char :=
  if c = '\x27' ∨ c = '\x22' then
    let (run, after) := quotedRun c rest
    (.verbatim (c :: run), after)
  else if c = ':' ∧ rest.head? = some ':' then
    let target := rest.tail
    (.verbatim (':' :: ':' :: target.takeWhile isWordChar), target.dropWhile isWordChar)
  else if c = ':' ∧ startsWord rest then
    let after := rest.dropWhile isWordChar
    (.placeholder (rest.takeWhile isWordChar) (isListItem before after), after)
  else if c.isDigit ∨ c = '$' then
    (.verbatim (c :: rest.takeWhile isWordChar), rest.dropWhile isWordChar)
  else if isWordStart c then
    let word := c :: rest.takeWhile isWordChar
    let after := rest.dropWhile isWordChar
    if word = qualifier ∧ after.head? = some '.' ∧ startsWord after.tail then
      (.field (after.tail.takeWhile isWordChar), after.tail.dropWhile isWordChar)
    else (.verbatim word, after)
  else (.verbatim [c], rest)

private theorem length_dropWhile_le (p : Char → Bool) (cs : List Char) :
    (cs.dropWhile p).length ≤ cs.length :=
  (List.dropWhile_sublist p).length_le

theorem quotedRun_length (quote : Char) (cs : List Char) :
    (quotedRun quote cs).2.length ≤ cs.length := by
  fun_induction quotedRun quote cs <;> simp_all <;> omega

/-- Behind the first segment there is less than before, since the segment has at least the character
`c`. -/
theorem firstSegment_length (qualifier before : List Char) (c : Char) (rest : List Char) :
    (firstSegment qualifier before c rest).2.length ≤ rest.length := by
  have hrest := length_dropWhile_le isWordChar rest
  have htail := length_dropWhile_le isWordChar rest.tail
  have hafter := length_dropWhile_le isWordChar (rest.dropWhile isWordChar).tail
  have hquoted := quotedRun_length c rest
  simp only [List.length_tail] at htail hafter
  rw [firstSegment]
  split
  · exact hquoted
  · split
    · simp only
      omega
    · split
      · exact hrest
      · split
        · exact hrest
        · split
          · simp only
            split
            · simp only
              omega
            · exact hrest
          · exact Nat.le_refl _

/-- The segments of a text, in order. `before` is the text that was read already, last character
first. -/
def segmentsFrom (qualifier before : List Char) : List Char → List Segment
  | [] => []
  | c :: rest =>
    let read := firstSegment qualifier before c rest
    read.1 :: segmentsFrom qualifier ((read.1.source qualifier).reverse ++ before) read.2
termination_by cs => cs.length
decreasing_by
  have hshorter := firstSegment_length qualifier before c rest
  simp only [List.length_cons]
  omega

/-- The segments of a text. -/
def segments (qualifier text : String) : List Segment :=
  segmentsFrom qualifier.toList [] text.toList

end EntityQuery.Sql
