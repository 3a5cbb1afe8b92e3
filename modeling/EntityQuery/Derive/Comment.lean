namespace EntityQuery.Derive

/-- What stands behind the end of a comment of the given depth of nesting. -/
def afterComment? (depth : Nat) : List Char → Option (List Char)
  | '*' :: '/' :: rest => if depth = 0 then some rest else afterComment? (depth - 1) rest
  | '/' :: '*' :: rest => afterComment? (depth + 1) rest
  | _ :: rest => afterComment? depth rest
  | [] => none

/-- A comment that documents what follows it or, as an inner one, what it stands in. It stands for
an attribute that holds its text; all other comments stand for nothing. -/
structure DocComment where
  inner : Bool
  text : List Char
deriving DecidableEq, Repr

namespace DocComment

/-- A comment up to the end of its line, which is not part of it. -/
def ofLine (inner : Bool) (cs : List Char) : DocComment × List Char :=
  let line := cs.takeWhile (· != '\n')
  let rest := cs.dropWhile (· != '\n')
  if rest.isEmpty || line.getLast? != some '\r' then (⟨inner, line⟩, rest)
  else (⟨inner, line.dropLast⟩, rest)

/-- A comment up to its closing mark. -/
def ofBlock? (inner : Bool) (cs : List Char) : Option (DocComment × List Char) :=
  (afterComment? 0 cs).map fun rest => (⟨inner, cs.take (cs.length - rest.length - 2)⟩, rest)

/-- The comment with which a text begins, if it documents something, and what stands behind it.
With more slashes or asterisks than it needs it documents nothing. -/
def read? : List Char → Option (DocComment × List Char)
  | '/' :: '/' :: '/' :: rest => if rest.head? == some '/' then none else some (ofLine false rest)
  | '/' :: '/' :: '!' :: rest => some (ofLine true rest)
  | '/' :: '*' :: '*' :: rest =>
    if rest.head? == some '*' || rest.head? == some '/' then none else ofBlock? false rest
  | '/' :: '*' :: '!' :: rest => ofBlock? true rest
  | _ => none

end DocComment

end EntityQuery.Derive
