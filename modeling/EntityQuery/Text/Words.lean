import EntityQuery.Text.Letters

namespace EntityQuery.Text

/-- The case of the last letter read in the current word; a word without letters has none. -/
inductive WordCase
  | none
  | lower
  | upper
deriving DecidableEq, Repr

/-- The case of a word after one more character; a character without case changes nothing. -/
def WordCase.after (mode : WordCase) (c : Char) : WordCase :=
  if isLower c then .lower else if isUpper c then .upper else mode

/-- Splits a stretch of letters and numbers into words. `word` holds the current word's
characters so far, last one first, and `mode` its case. -/
def wordsFrom (word : List Char) (mode : WordCase) : List Char → List (List Char)
  | [] => []
  | [c] => [(c :: word).reverse]
  | c :: next :: rest =>
    if mode.after c = .lower ∧ isUpper next then
      (c :: word).reverse :: wordsFrom [] .none (next :: rest)
    else if mode = .upper ∧ isUpper c ∧ isLower next then
      word.reverse :: wordsFrom [c] .none (next :: rest)
    else
      wordsFrom (c :: word) (mode.after c) (next :: rest)

/-- The words of a name, in order. A word ends at every character that is neither letter nor number,
between a lower-case and an upper-case letter, and before the last capital of a run of capitals that
a lower-case letter follows. Numbers never split: `createdAt2Go` has the words `created`, `At2` and
`Go`. -/
def words (name : List Char) : List (List Char) :=
  (name.splitOnP fun c => !isAlphanumeric c).flatMap (wordsFrom [] .none)

/-- A word in lower case. A capital sigma that ends the word takes the final form. -/
def lowerWord : List Char → List Char
  | [] => []
  | [c] => if c == 'Σ' then ['ς'] else lowerImage c
  | c :: rest => lowerImage c ++ lowerWord rest

/-- A word in lower case but for its first character. -/
def capitalWord : List Char → List Char
  | [] => []
  | c :: rest => upperImage c ++ lowerWord rest

/-- `created_at`: the words in lower case, joined by underscores. -/
def snakeCase (name : String) : String :=
  String.ofList (['_'].intercalate ((words name.toList).map lowerWord))

/-- `createdAt`: the first word in lower case, the others capitalised, joined without a mark. -/
def lowerCamelCase (name : String) : String :=
  String.ofList <|
    match words name.toList with
    | [] => []
    | first :: rest => lowerWord first ++ rest.flatMap capitalWord

end EntityQuery.Text
