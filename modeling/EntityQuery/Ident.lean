import EntityQuery.Error

namespace EntityQuery

/-- The words that cannot name a table, a column or a table alias without quotes. -/
def reservedWords : List String :=
  ["all", "analyse", "analyze", "and", "any", "array", "as", "asc", "asymmetric",
    "authorization", "binary", "both", "case", "cast", "check", "collate", "collation",
    "column", "concurrently", "constraint", "create", "cross", "current_catalog",
    "current_date", "current_role", "current_schema", "current_time", "current_timestamp",
    "current_user", "default", "deferrable", "desc", "distinct", "do", "else", "end",
    "except", "false", "fetch", "for", "foreign", "freeze", "from", "full", "grant", "group",
    "having", "ilike", "in", "initially", "inner", "intersect", "into", "is", "isnull",
    "join", "lateral", "leading", "left", "like", "limit", "localtime", "localtimestamp",
    "natural", "not", "notnull", "null", "offset", "on", "only", "or", "order", "outer",
    "overlaps", "placing", "primary", "references", "returning", "right", "select",
    "session_user", "similar", "some", "symmetric", "system_user", "table", "tablesample",
    "then", "to", "trailing", "true", "union", "unique", "user", "using", "variadic",
    "verbose", "when", "where", "window", "with"]

/-- Reserved words are reserved in any case. -/
def isReserved (word : String) : Bool :=
  reservedWords.contains (Text.asciiLower word)

/-- The character that encloses a quoted name. -/
def quoteMark : Char := '\x22'

/-- The body of a quoted name, with each quote mark written twice. -/
def escapeQuotes : List Char → List Char
  | [] => []
  | c :: rest => if c = quoteMark then c :: c :: escapeQuotes rest else c :: escapeQuotes rest

/-- A name in double quotes. -/
def quoted (name : String) : String :=
  String.ofList (quoteMark :: escapeQuotes name.toList ++ [quoteMark])

/-- The rendered form of an unquoted word: a reserved word is quoted, in the lower case that it
would be folded to. -/
def sqlWord (word : String) : String :=
  if isReserved word then quoted (Text.asciiLower word) else word

/-- One part of an identifier. An unquoted part is a letter or underscore followed by letters,
digits, underscores and dollar signs; a quoted part is any text that is not empty, in double quotes,
with each double quote inside written twice. -/
inductive Ident.Part
  | unquoted (text : String)
  | quoted (name : String)
deriving DecidableEq, Repr

/-- A possibly qualified identifier, such as a table in a schema: one or more parts, which are
joined by dots. -/
structure Ident where
  parts : List Ident.Part
deriving DecidableEq, Repr

namespace Ident

/-- The characters that begin an unquoted part. -/
def isStart (c : Char) : Bool :=
  c == '_' || c.isAlpha

/-- The characters that continue an unquoted part. -/
def isContinue (c : Char) : Bool :=
  c == '_' || c == '$' || c.isAlphanum

/-- Reads the rest of a quoted name behind its opening quote. Gives the name and what follows
the closing quote, or nothing when the name is not closed. -/
def readQuoted : List Char → Option (List Char × List Char)
  | [] => none
  | [c] => if c = quoteMark then some ([], []) else none
  | c :: d :: rest =>
    if c = quoteMark then
      if d = quoteMark then (readQuoted rest).map fun (name, after) => (quoteMark :: name, after)
      else some ([], d :: rest)
    else (readQuoted (d :: rest)).map fun (name, after) => (c :: name, after)

/-- Whether a character can stand in an unquoted part, at its beginning or later. -/
def isFitting (first : Bool) (c : Char) : Bool :=
  if first then isStart c else isContinue c

/-- Reads the characters of an unquoted part up to a dot or the end. The first character that
cannot stand at its place is the error. -/
def readUnquoted (first : Bool) : List Char → Except Char (List Char × List Char)
  | [] => .ok ([], [])
  | c :: rest =>
    if c = '.' then .ok ([], c :: rest)
    else if isFitting first c then
      match readUnquoted false rest with
      | .error found => .error found
      | .ok (word, after) => .ok (c :: word, after)
    else .error c

/-- Reads one part of the identifier `text` from the characters that are left of it. -/
def readPart (text : String) (cs : List Char) : Except IdentFault (Part × List Char) :=
  if cs.head? = some quoteMark then
    match readQuoted cs.tail with
    | none => .error .unclosedQuote
    | some (name, after) =>
      if name = [] then .error .emptyQuoted else .ok (.quoted (String.ofList name), after)
  else
    match readUnquoted true cs with
    | .error found => .error (.badCharacter found text)
    | .ok (word, after) =>
      if word = [] then .error (.emptySegment text)
      else .ok (.unquoted (String.ofList word), after)

/-- Behind a quoted name there is less than before. -/
theorem readQuoted_length {cs name after : List Char} (h : readQuoted cs = some (name, after)) :
    after.length < cs.length := by
  fun_induction readQuoted cs generalizing name after with
  | case1 => simp at h
  | case2 =>
    simp only [Option.some.injEq, Prod.mk.injEq] at h
    obtain ⟨-, rfl⟩ := h
    simp
  | case3 => simp at h
  | case4 rest ih =>
    obtain ⟨⟨inner, left⟩, hread, heq⟩ := Option.map_eq_some_iff.1 h
    simp only [Prod.mk.injEq] at heq
    obtain ⟨-, rfl⟩ := heq
    have hshorter := ih hread
    simp only [List.length_cons]
    omega
  | case5 =>
    simp only [Option.some.injEq, Prod.mk.injEq] at h
    obtain ⟨-, rfl⟩ := h
    simp
  | case6 c d rest hc ih =>
    obtain ⟨⟨inner, left⟩, hread, heq⟩ := Option.map_eq_some_iff.1 h
    simp only [Prod.mk.injEq] at heq
    obtain ⟨-, rfl⟩ := heq
    have hshorter := ih hread
    simp only [List.length_cons] at hshorter ⊢
    omega

/-- The text is the word and what stands behind it. -/
theorem readUnquoted_length {first : Bool} {cs word after : List Char}
    (h : readUnquoted first cs = .ok (word, after)) : word.length + after.length = cs.length := by
  fun_induction readUnquoted first cs generalizing word after with
  | case1 =>
    simp only [Except.ok.injEq, Prod.mk.injEq] at h
    obtain ⟨rfl, rfl⟩ := h
    rfl
  | case2 =>
    simp only [Except.ok.injEq, Prod.mk.injEq] at h
    obtain ⟨rfl, rfl⟩ := h
    simp
  | case3 => simp at h
  | case4 first c rest hdot hfit inner left hread ih =>
    simp only [Except.ok.injEq, Prod.mk.injEq] at h
    obtain ⟨rfl, rfl⟩ := h
    have hsum := ih hread
    simp only [List.length_cons]
    omega
  | case5 => simp at h

/-- Behind a part there is less than before, so the parts of a text can be read one after the
other. -/
theorem readPart_length {text : String} {cs after : List Char} {part : Part}
    (h : readPart text cs = .ok (part, after)) : after.length < cs.length := by
  rw [readPart] at h
  split at h
  · split at h
    · simp at h
    · rename_i name left hread
      split at h
      · simp at h
      · simp only [Except.ok.injEq, Prod.mk.injEq] at h
        obtain ⟨-, rfl⟩ := h
        have hshorter := readQuoted_length hread
        simp only [List.length_tail] at hshorter
        omega
  · split at h
    · simp at h
    · rename_i word left hread
      split at h
      · simp at h
      · rename_i hne
        simp only [Except.ok.injEq, Prod.mk.injEq] at h
        obtain ⟨-, rfl⟩ := h
        have hsum := readUnquoted_length hread
        have hpos := List.length_pos_iff.2 hne
        omega

/-- Reads all parts of the identifier `text` from the characters that are left of it. -/
def readParts (text : String) (cs : List Char) : Except IdentFault (List Part) :=
  match _hpart : readPart text cs with
  | .error fault => .error fault
  | .ok (part, []) => .ok [part]
  | .ok (part, c :: after) =>
    if c = '.' then
      if after = [] then .error .trailingDot
      else (readParts text after).map (part :: ·)
    else .error (.missingDot c)
termination_by cs.length
decreasing_by
  have hshorter := readPart_length ‹_›
  simp only [List.length_cons] at hshorter
  omega

def parse (text : String) : Except IdentFault Ident :=
  if text.toList = [] then .error .empty
  else if text.toList.contains '\x00' then .error .nul
  else (readParts text text.toList).map Ident.mk

/-- Reads an identifier that has to be a single unquoted word, as aliases are. -/
def parseAlias (text : String) : Except IdentFault Ident :=
  match parse text with
  | .error fault => .error fault
  | .ok ⟨[.unquoted word]⟩ => .ok ⟨[.unquoted word]⟩
  | .ok _ => .error (.notSingleWord text)

/-- The rendered form of one part. -/
def Part.toSql : Part → String
  | unquoted text => sqlWord text
  | quoted name => EntityQuery.quoted name

/-- The rendered form of an identifier. -/
def toSql (ident : Ident) : String :=
  ".".intercalate (ident.parts.map Part.toSql)

end Ident

/-- The rendered form of a possibly qualified table name. A text that is no identifier is left
as it is. -/
def sqlTable (name : String) : String :=
  match Ident.parse name with
  | .ok ident => ident.toSql
  | .error _ => name

end EntityQuery
