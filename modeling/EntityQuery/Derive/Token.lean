import EntityQuery.Derive.Comment
import EntityQuery.Derive.Literal
import EntityQuery.Text.Basic

namespace EntityQuery.Derive

open Text

/-- What kind of token a piece of source text is. -/
inductive TokenKind
  | word
  | lifetime
  /-- A text in quotes, with what it stands for. -/
  | text (value : String)
  | literal
  | mark (c : Char)
  | arrow
deriving DecidableEq, Repr

/-- A token with its source text. -/
structure Token where
  kind : TokenKind
  source : String
deriving DecidableEq, Repr

/-- The characters between tokens: white space and the marks of the writing direction. -/
def isGap (c : Char) : Bool :=
  isBlank c || c == Char.ofNat 0x200e || c == Char.ofNat 0x200f

/-- The characters that a word may begin with. -/
def isWordStart (c : Char) : Bool :=
  c == '_' || c.isAlpha || (128 ≤ c.toNat && !isGap c)

/-- The characters that a word may have behind its first one. -/
def isWordChar (c : Char) : Bool :=
  isWordStart c || c.isDigit

/-- The marks, brackets among them. -/
def marks : List Char :=
  "!#$%&*+,-./:;<=>?@^|~()[]\x7b\x7d".toList

/-- A quoted text and what stands behind it and its suffix. -/
def textToken? (body : Option (List Char × List Char)) : Option (TokenKind × List Char) :=
  body.bind fun (body, after) =>
    (unescape? body).map fun value =>
      (.text (String.ofList value), after.dropWhile isWordChar)

/-- A text in quotes whose body stands for itself. -/
def rawTextToken? (cs : List Char) : Option (TokenKind × List Char) :=
  let hashes := (cs.takeWhile (· == '#')).length
  match cs.drop hashes with
  | '\x22' :: rest =>
    (rawQuoted? hashes rest).map fun (body, after) =>
      (.text (String.ofList body), after.dropWhile isWordChar)
  | _ => none

/-- A literal that is no text, and what stands behind it. -/
def otherLiteral? (body : Option (List Char × List Char)) : Option (TokenKind × List Char) :=
  body.map fun (_, after) => (.literal, after.dropWhile isWordChar)

/-- The token that a word with the given rest begins: some words are the beginning of a literal. -/
def wordToken? (word rest : List Char) : Option (TokenKind × List Char) :=
  match String.ofList word, rest with
  | "b", '\x22' :: body => otherLiteral? (quoted? '\x22' body)
  | "c", '\x22' :: body => otherLiteral? (quoted? '\x22' body)
  | "b", '\x27' :: body => otherLiteral? (quoted? '\x27' body)
  | "r", '\x22' :: _ => rawTextToken? rest
  | "r", '#' :: c :: name =>
    if isWordStart c then some (.word, name.dropWhile isWordChar) else rawTextToken? rest
  | "br", '\x22' :: _ => otherLiteral? ((rawTextToken? rest).map fun (_, after) => ([], after))
  | "br", '#' :: _ => otherLiteral? ((rawTextToken? rest).map fun (_, after) => ([], after))
  | _, _ => some (.word, rest)

/-- What stands behind a number. A point belongs to it if a digit follows. -/
def afterNumber (cs : List Char) : List Char :=
  match cs.dropWhile isWordChar with
  | '.' :: c :: rest => if c.isDigit then rest.dropWhile isWordChar else '.' :: c :: rest
  | rest => rest

/-- The first token of a text, or nothing for a gap, and what stands behind it. Beyond ASCII, only
words and what stands in literals and comments has characters. -/
def piece? (cs : List Char) : Option (Option TokenKind × List Char) :=
  let token := fun (kind, rest) => (some kind, rest)
  match cs with
  | [] => none
  | '/' :: '/' :: rest => some (none, rest.dropWhile (· != '\n'))
  | '/' :: '*' :: rest => (afterComment? 0 rest).map fun rest => (none, rest)
  | '-' :: '>' :: rest => some (some .arrow, rest)
  | '\x22' :: rest => (textToken? (quoted? '\x22' rest)).map token
  | '\x27' :: '\\' :: rest => (otherLiteral? (quoted? '\x27' ('\\' :: rest))).map token
  | '\x27' :: c :: '\x27' :: rest => if c = '\x27' then none else some (some .literal, rest)
  | '\x27' :: c :: rest =>
    if isWordStart c then some (some .lifetime, rest.dropWhile isWordChar) else none
  | c :: rest =>
    if isGap c then some (none, rest)
    else if isWordStart c then
      (wordToken? (cs.takeWhile isWordChar) (cs.dropWhile isWordChar)).map token
    else if c.isDigit then some (some .literal, afterNumber cs)
    else if marks.contains c then some (some (.mark c), rest)
    else none

def Token.ofMark (c : Char) : Token :=
  ⟨.mark c, String.singleton c⟩

def DocComment.attribute (comment : DocComment) : List Token :=
  .ofMark '#' :: (if comment.inner then [.ofMark '!'] else []) ++
    [.ofMark '[', ⟨.word, "doc"⟩, .ofMark '=',
      ⟨.text (String.ofList comment.text), String.ofList (quote comment.text)⟩, .ofMark ']']

/-- The first tokens of a text, none for a gap, and what stands behind them. -/
def firstTokens? (cs : List Char) : Option (List Token × List Char) :=
  match DocComment.read? cs with
  | some (comment, rest) => some (comment.attribute, rest)
  | none =>
    (piece? cs).map fun (kind?, rest) =>
      let source := String.ofList (cs.take (cs.length - rest.length))
      ((kind?.map fun kind => ⟨kind, source⟩).toList, rest)

/-- The tokens of a text, if it consists of tokens and gaps. -/
def scan? (cs : List Char) : Option (List Token) :=
  match firstTokens? cs with
  | none => if cs.isEmpty then some [] else none
  | some (tokens, rest) =>
    if rest.length < cs.length then (scan? rest).map (tokens ++ ·) else none
termination_by cs.length

/-- The bracket that closes a bracket. -/
def closing? (c : Char) : Option Char :=
  [('(', ')'), ('[', ']'), ('\x7b', '\x7d')].lookup c

/-- Whether every bracket is closed by its own kind; `pending` are the brackets to come. -/
def isBalanced (pending : List Char) : List Token → Bool
  | [] => pending.isEmpty
  | ⟨.mark c, _⟩ :: rest =>
    match closing? c with
    | some close => isBalanced (close :: pending) rest
    | none =>
      if c = ')' ∨ c = ']' ∨ c = '\x7d' then
        pending.head? == some c && isBalanced pending.tail rest
      else isBalanced pending rest
  | _ :: rest => isBalanced pending rest

/-- The tokens of a text whose brackets are closed. -/
def tokens? (s : String) : Option (List Token) :=
  (scan? s.toList).bind fun tokens => if isBalanced [] tokens then some tokens else none

/-- The text of tokens, without white space. -/
def compact (tokens : List Token) : String :=
  String.ofList ((tokens.flatMap fun t => t.source.toList).filter fun c => !isBlank c)

end EntityQuery.Derive
