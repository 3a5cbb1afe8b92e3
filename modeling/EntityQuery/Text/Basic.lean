namespace EntityQuery.Text

/-! ### ASCII letters and words -/

/-- A text with its ASCII capitals in lower case. -/
def asciiLower (s : String) : String :=
  String.ofList (s.toList.map Char.toLower)

/-- Equality up to the case of ASCII letters. -/
def sameIgnoringCase (s t : String) : Bool :=
  asciiLower s == asciiLower t

/-- A word: an ASCII letter or underscore, then ASCII letters, digits and underscores. -/
def isAsciiWord (s : String) : Bool :=
  match s.toList with
  | [] => false
  | c :: rest => (c == '_' || c.isAlpha) && rest.all fun c => c == '_' || c.isAlphanum

/-! ### Blanks -/

/-- The characters with the Unicode property White_Space. -/
def isBlank (c : Char) : Bool :=
  let n := c.toNat
  (9 ≤ n && n ≤ 13) || n == 32 || n == 133 || n == 160 || n == 5760 ||
    (8192 ≤ n && n ≤ 8202) || n == 8232 || n == 8233 || n == 8239 || n == 8287 || n == 12288

/-- Space, tab, line feed, form feed and carriage return. -/
def isAsciiBlank (c : Char) : Bool :=
  c == ' ' || c == '\t' || c == '\n' || c == '\r' || c.toNat == 12

/-- What is left of a text after its leading blanks. -/
def trimStart (cs : List Char) : List Char :=
  cs.dropWhile isBlank

/-- What is left of a text before its trailing blanks. -/
def trimEnd (cs : List Char) : List Char :=
  (cs.reverse.dropWhile isBlank).reverse

/-- A text without the blanks at its two ends. -/
def trimmed (s : String) : String :=
  String.ofList (trimEnd (trimStart s.toList))

/-! ### Decimal digits -/

def digitValue (c : Char) : Nat :=
  c.toNat - 48

def digitsValue (cs : List Char) : Nat :=
  cs.foldl (fun n c => 10 * n + digitValue c) 0

/-- Reads a text that consists of at least one digit. -/
def digits? (cs : List Char) : Option Nat :=
  if cs.isEmpty || !cs.all Char.isDigit then none else some (digitsValue cs)

/-- Reads digits with an optional plus sign in front. -/
def natural? (cs : List Char) : Option Nat :=
  match cs with
  | '+' :: rest => digits? rest
  | _ => digits? cs

/-- Reads digits with an optional sign in front. -/
def integer? (cs : List Char) : Option Int :=
  match cs with
  | '-' :: rest => (digits? rest).map fun n => -(n : Int)
  | _ => (natural? cs).map fun n => (n : Int)

/-! ### Segments of paths -/

/-- What follows the last occurrence of a mark, if the mark occurs. -/
def afterLast? (mark : List Char) : List Char → Option (List Char)
  | [] => none
  | c :: rest => (afterLast? mark rest).or (mark.isPrefixOf? (c :: rest))

/-- The part of a name behind the last occurrence of a mark, or the whole name. -/
def lastSegment (mark name : String) : String :=
  match afterLast? mark.toList name.toList with
  | some segment => String.ofList segment
  | none => name

end EntityQuery.Text
