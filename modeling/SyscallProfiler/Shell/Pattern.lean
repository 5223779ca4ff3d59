/-!
# Patterns

A pattern is matched against the whole of a text. Quoted characters stand for themselves.
-/

namespace SyscallProfiler.Shell

/-- A character that knows whether it was quoted. -/
structure Mark where
  char : Char
  quoted : Bool
deriving DecidableEq, Repr, Inhabited

/-- What one place of a pattern matches. -/
inductive PatternItem where
  | exactly (c : Char)
  | any
  /-- Any text. -/
  | stretch
  /-- A character in one of the ranges, or in none of them. -/
  | range (negated : Bool) (ranges : List (Char × Char))
deriving DecidableEq, Repr, Inhabited

namespace Pattern

/-- The characters of the classes that have names. -/
def classes : List (String × List (Char × Char)) :=
  [("alpha", [('A', 'Z'), ('a', 'z')]), ("digit", [('0', '9')]),
    ("alnum", [('0', '9'), ('A', 'Z'), ('a', 'z')]), ("upper", [('A', 'Z')]),
    ("lower", [('a', 'z')]), ("space", [('\t', '\r'), (' ', ' ')]),
    ("blank", [('\t', '\t'), (' ', ' ')]), ("xdigit", [('0', '9'), ('A', 'F'), ('a', 'f')]),
    ("punct", [('!', '/'), (':', '@'), ('[', '\x60'), ('\x7b', '~')]),
    ("cntrl", [('\x00', '\x1f'), ('\x7f', '\x7f')]), ("print", [(' ', '~')]),
    ("graph", [('!', '~')])]

/-- The characters of the class whose name stands between colons, and what follows its closing
bracket. -/
def class? (marks : List Mark) : Option (List (Char × Char) × List Mark) :=
  match marks with
  | colon :: rest =>
    if colon.char = ':' then
      let name := rest.takeWhile fun m => m.char.isAlpha
      match rest.drop name.length with
      | second :: bracket :: later =>
        if second.char = ':' && bracket.char = ']' then
          (classes.find? fun (n, _) => n == String.ofList (name.map (·.char))).map
            fun (_, ranges) => (ranges, later)
        else none
      | _ => none
    else none
  | [] => none

/-- The ranges up to a closing bracket, and what follows it. A bracket that comes first stands for
itself. -/
def ranges : (fuel : Nat) → (first : Bool) → List Mark →
    Option (List (Char × Char) × List Mark)
  | 0, _, _ => none
  | fuel + 1, first, marks =>
    match marks with
    | [] => none
    | m :: rest =>
      if m.char = ']' && !m.quoted && !first then some ([], rest)
      else
        match (if m.char = '[' && !m.quoted then class? rest else none) with
        | some (found, later) =>
          (ranges fuel false later).map fun (rs, after) => (found ++ rs, after)
        | none =>
          match rest with
          | hyphen :: high :: later =>
            if hyphen.char = '-' && !hyphen.quoted && high.char != ']' then
              (ranges fuel false later).map fun (rs, after) => ((m.char, high.char) :: rs, after)
            else (ranges fuel false rest).map fun (rs, after) => ((m.char, m.char) :: rs, after)
          | _ => (ranges fuel false rest).map fun (rs, after) => ((m.char, m.char) :: rs, after)

def items : (fuel : Nat) → List Mark → List PatternItem
  | 0, _ => []
  | _, [] => []
  | fuel + 1, m :: rest =>
    if m.quoted then .exactly m.char :: items fuel rest
    else if m.char = '*' then .stretch :: items fuel rest
    else if m.char = '?' then .any :: items fuel rest
    else if m.char = '\\' then
      match rest with
      | n :: later => .exactly n.char :: items fuel later
      | [] => [.exactly '\\']
    else if m.char = '[' then
      let (negated, inner) :=
        match rest with
        | n :: later =>
          if n.char = '!' && !n.quoted then (true, later) else (false, rest)
        | [] => (false, rest)
      match ranges (inner.length + 1) true inner with
      | some (rs, after) => .range negated rs :: items fuel after
      | none => .exactly '[' :: items fuel rest
    else .exactly m.char :: items fuel rest

def ofMarks (marks : List Mark) : List PatternItem := items (marks.length + 1) marks

def accepts : PatternItem → Char → Bool
  | .exactly d, c => c = d
  | .any, _ => true
  | .stretch, _ => true
  | .range negated rs, c => (rs.any fun (low, high) => low ≤ c && c ≤ high) != negated

def matches_ : List PatternItem → List Char → Bool
  | [], text => text.isEmpty
  | .stretch :: rest, [] => matches_ rest []
  | .stretch :: rest, c :: text => matches_ rest (c :: text) || matches_ (.stretch :: rest) text
  | _ :: _, [] => false
  | item :: rest, c :: text => accepts item c && matches_ rest text
termination_by pattern text => pattern.length + text.length

/-- Whether marked characters hold something that makes them more than a text. -/
def isPattern (marks : List Mark) : Bool :=
  marks.any fun m => !m.quoted && (m.char = '*' || m.char = '?' || m.char = '[')

/-- The ways to split a text in two, shortest first part first. -/
def splits : List Char → List (List Char × List Char)
  | [] => [([], [])]
  | c :: rest => ([], c :: rest) :: (splits rest).map fun (front, back) => (c :: front, back)

/-- The text without the shortest or the longest beginning that matches. -/
def cutStart (longest : Bool) (pattern : List PatternItem) (text : List Char) : List Char :=
  let candidates := if longest then (splits text).reverse else splits text
  match candidates.find? fun (front, _) => matches_ pattern front with
  | some (_, back) => back
  | none => text

/-- The text without the shortest or the longest end that matches. -/
def cutEnd (longest : Bool) (pattern : List PatternItem) (text : List Char) : List Char :=
  let candidates := if longest then splits text else (splits text).reverse
  match candidates.find? fun (_, back) => matches_ pattern back with
  | some (front, _) => front
  | none => text

end Pattern

end SyscallProfiler.Shell
