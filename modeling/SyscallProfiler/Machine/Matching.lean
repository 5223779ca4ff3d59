import SyscallProfiler.Shell.Pattern
import SyscallProfiler.Json.Number

/-!
# Regular expressions

Basic and extended expressions, with groups, back references and what is usually added to them. A
match begins as far to the left as possible, and of those that begin there the longest counts.
Octets are read as characters one by one.
-/

namespace SyscallProfiler.Machine

/-- A regular expression. -/
inductive Regex where
  | empty
  | any
  /-- A character in one of the ranges, or in none of them. -/
  | range (negated : Bool) (ranges : List (Char × Char))
  | lineStart
  | lineEnd
  /-- A place between a character of a word and something else, or no such place. -/
  | wordEdge (isEdge : Bool)
  | wordStart
  | wordEnd
  | group (n : Nat) (r : Regex)
  /-- The same text as a group. -/
  | same (n : Nat)
  | both (first second : Regex)
  | either (first second : Regex)
  | repeated (r : Regex) (least : Nat) (most : Option Nat)
deriving Repr, Inhabited

namespace Regex

def exactly (c : Char) : Regex := .range false [(c, c)]

def wordRanges : List (Char × Char) := [('0', '9'), ('A', 'Z'), ('a', 'z'), ('_', '_')]

def spaceRanges : List (Char × Char) := [('\t', '\r'), (' ', ' ')]

def within (rs : List (Char × Char)) (c : Char) : Bool :=
  rs.any fun (low, high) => low ≤ c && c ≤ high

/-! ## Reading expressions -/

/-- How an expression is written. -/
structure Style where
  extended : Bool
  ignoresCase : Bool
deriving DecidableEq, Repr, Inhabited

/-- What reading an expression works with. -/
structure Reading where
  text : List Char
  /-- How many groups have begun. -/
  groups : Nat

def bothCases (rs : List (Char × Char)) : List (Char × Char) :=
  rs.flatMap fun (low, high) =>
    let clip (a b : Char) : Option (Char × Char) :=
      let l := if low ≤ a then a else low
      let h := if high ≤ b then high else b
      if l ≤ h then some (l, h) else none
    let shift (back : Bool) (r : Char × Char) : Char × Char :=
      let move (c : Char) : Char := Char.ofNat (if back then c.toNat - 32 else c.toNat + 32)
      (move r.1, move r.2)
    (low, high) :: ((clip 'a' 'z').map (shift true)).toList ++
      ((clip 'A' 'Z').map (shift false)).toList

def ofRanges (style : Style) (negated : Bool) (rs : List (Char × Char)) : Regex :=
  .range negated (if style.ignoresCase then bothCases rs else rs)

/-- The characters that have a meaning after a backslash where expressions are not extended. -/
def basicOperators : List Char := ['(', ')', '\x7b', '\x7d', '|', '+', '?']

def escaped? (style : Style) : Char → Option Regex
  | 'w' => some (.range false wordRanges)
  | 'W' => some (.range true wordRanges)
  | 's' => some (.range false spaceRanges)
  | 'S' => some (.range true spaceRanges)
  | 'b' => some (.wordEdge true)
  | 'B' => some (.wordEdge false)
  | '<' => some .wordStart
  | '>' => some .wordEnd
  | 'n' => some (exactly '\n')
  | 't' => some (exactly '\t')
  | '\x60' => some .lineStart
  | '\x27' => some .lineEnd
  | c =>
    if '1' ≤ c && c ≤ '9' then some (.same (Json.digitValue c))
    else if style.extended || !basicOperators.contains c then
      some (ofRanges style false [(c, c)])
    else none

/-- The bounds of a repetition between braces, and what follows the closing one. -/
def bounds? (style : Style) (text : List Char) : Option (Nat × Option Nat × List Char) :=
  let close (least : Nat) (most : Option Nat) : List Char → Option (Nat × Option Nat × List Char)
    | '\\' :: '\x7d' :: rest => if style.extended then none else some (least, most, rest)
    | '\x7d' :: rest => if style.extended then some (least, most, rest) else none
    | _ => none
  let low := text.takeWhile Json.isDigit
  let rest := text.drop low.length
  match rest with
  | ',' :: later =>
    let high := later.takeWhile Json.isDigit
    let most := if high.isEmpty then none else some (Json.ofDigits high)
    close (Json.ofDigits low) most (later.drop high.length)
  | rest => if low.isEmpty then none else close (Json.ofDigits low) (some (Json.ofDigits low)) rest

/-- The repetition that stands at the beginning of a text, and what follows it. -/
def repetition? (style : Style) (text : List Char) :
    Option (Except String (Nat × Option Nat × List Char)) :=
  let braces (rest : List Char) : Option (Except String (Nat × Option Nat × List Char)) :=
    match bounds? style rest with
    | some found => some (.ok found)
    | none =>
      if style.extended then none else some (.error "Unmatched \\\x7b")
  match text with
  | '*' :: rest => some (.ok (0, none, rest))
  | '\\' :: '+' :: rest => if style.extended then none else some (.ok (1, none, rest))
  | '\\' :: '?' :: rest => if style.extended then none else some (.ok (0, some 1, rest))
  | '\\' :: '\x7b' :: rest => if style.extended then none else braces rest
  | '+' :: rest => if style.extended then some (.ok (1, none, rest)) else none
  | '?' :: rest => if style.extended then some (.ok (0, some 1, rest)) else none
  | '\x7b' :: rest => if style.extended then braces rest else none
  | _ => none

/-- Whether a text begins with what ends an alternative. -/
def endsBranch (style : Style) (inner : Bool) : List Char → Bool
  | [] => true
  | '\\' :: '|' :: _ => !style.extended
  | '\\' :: ')' :: _ => !style.extended && inner
  | '|' :: _ => style.extended
  | ')' :: _ => style.extended && inner
  | _ => false

mutual

def readEither (style : Style) (inner : Bool) :
    (fuel : Nat) → Reading → Except String (Regex × Reading)
  | 0, _ => .error "Regular expression too big"
  | fuel + 1, s => do
    let (first, s) ← readBranch style inner fuel true .empty s
    match s.text with
    | '\\' :: '|' :: rest =>
      if style.extended then return (first, s)
      else
        let (second, s) ← readEither style inner fuel { s with text := rest }
        return (.either first second, s)
    | '|' :: rest =>
      if style.extended then
        let (second, s) ← readEither style inner fuel { s with text := rest }
        return (.either first second, s)
      else return (first, s)
    | _ => return (first, s)

/-- Reads what stands one after the other; `before` has been read already. -/
def readBranch (style : Style) (inner : Bool) :
    (fuel : Nat) → (atStart : Bool) → Regex → Reading → Except String (Regex × Reading)
  | 0, _, _, _ => .error "Regular expression too big"
  | fuel + 1, atStart, before, s => do
    if endsBranch style inner s.text then return (before, s)
    else
      let (r, s) ← readAtom style inner fuel atStart s
      let plain :=
        match r with
        | .lineStart => !style.extended
        | _ => false
      let (r, s) ← if plain then pure (r, s) else readRepeats style fuel r s
      readBranch style inner fuel plain (.both before r) s

def readAtom (style : Style) (inner : Bool) :
    (fuel : Nat) → (atStart : Bool) → Reading → Except String (Regex × Reading)
  | 0, _, _ => .error "Regular expression too big"
  | fuel + 1, atStart, s => do
    let group (rest : List Char) : Except String (Regex × Reading) := do
      let n := s.groups + 1
      let (r, s) ← readEither style true fuel ⟨rest, n⟩
      match s.text with
      | '\\' :: ')' :: later =>
        if style.extended then .error "Unmatched ( or \\("
        else return (.group n r, { s with text := later })
      | ')' :: later =>
        if style.extended then return (.group n r, { s with text := later })
        else .error "Unmatched ( or \\("
      | _ => .error "Unmatched ( or \\("
    match s.text with
    | [] => return (.empty, s)
    | '\\' :: '(' :: rest =>
      if style.extended then return (exactly '(', { s with text := rest }) else group rest
    | '\\' :: c :: rest =>
      match escaped? style c with
      | some r => return (r, { s with text := rest })
      | none =>
        if c = ')' then .error "Unmatched ) or \\)"
        else if atStart then return (exactly c, { s with text := rest })
        else .error "Invalid preceding regular expression"
    | ['\\'] => .error "Trailing backslash"
    | '(' :: rest =>
      if style.extended then group rest else return (exactly '(', { s with text := rest })
    | '.' :: rest => return (.any, { s with text := rest })
    | '^' :: rest =>
      if style.extended || atStart then return (.lineStart, { s with text := rest })
      else return (exactly '^', { s with text := rest })
    | '$' :: rest =>
      if style.extended || endsBranch style inner rest then
        return (.lineEnd, { s with text := rest })
      else return (exactly '$', { s with text := rest })
    | '[' :: rest =>
      let (negated, inside) :=
        match rest with
        | '^' :: later => (true, later)
        | _ => (false, rest)
      match Shell.Pattern.ranges (inside.length + 1) true
          (inside.map fun c => ⟨c, false⟩) with
      | some (rs, after) =>
        return (ofRanges style negated rs, { s with text := after.map (·.char) })
      | none => .error "Unmatched [, [^, [:, [., or [="
    | c :: rest => return (ofRanges style false [(c, c)], { s with text := rest })

def readRepeats (style : Style) :
    (fuel : Nat) → Regex → Reading → Except String (Regex × Reading)
  | 0, r, s => .ok (r, s)
  | fuel + 1, r, s =>
    match repetition? style s.text with
    | none => .ok (r, s)
    | some (.error e) => .error e
    | some (.ok (least, most, rest)) =>
      readRepeats style fuel (.repeated r least most) { s with text := rest }

end

def read (style : Style) (text : List Char) : Except String Regex := do
  -- a star that comes first stands for itself
  let text :=
    match text with
    | '*' :: rest => if style.extended then text else '\\' :: '*' :: rest
    | '^' :: '*' :: rest => if style.extended then text else '^' :: '\\' :: '*' :: rest
    | text => text
  let (r, s) ← readEither style false (8 * text.length + 16) ⟨text, 0⟩
  if s.text.isEmpty then return r else .error "Unmatched ) or \\)"

def literally (style : Style) (text : List Char) : Regex :=
  text.foldl (fun r c => .both r (ofRanges style false [(c, c)])) .empty

def refersBack : Regex → Bool
  | .same _ => true
  | .group _ r => refersBack r
  | .both a b => refersBack a || refersBack b
  | .either a b => refersBack a || refersBack b
  | .repeated r _ _ => refersBack r
  | _ => false

/-! ## Matching

Places in a text are counted from its beginning. -/

/-- Whether a place has a character of a word before it or after it. -/
def inWord (text : Array Char) (i : Nat) : Bool :=
  ((text[i]?).map (within wordRanges)).getD false

def isEdge (text : Array Char) (i : Nat) : Bool :=
  (i > 0 && inWord text (i - 1)) != inWord text i

/-- Whether an item that stands for one character matches at a place; nothing if it is not of that
kind. -/
def single? (r : Regex) (text : Array Char) (i : Nat) : Option Bool :=
  match r with
  | .any => some (i < text.size)
  | .range negated rs => some (((text[i]?).map fun c => within rs c != negated).getD false)
  | _ => none

/-- Whether an item that matches nothing but a place matches there. -/
def holdsAt (r : Regex) (text : Array Char) (i : Nat) : Bool :=
  match r with
  | .lineStart => i = 0
  | .lineEnd => i = text.size
  | .wordEdge wanted => isEdge text i == wanted
  | .wordStart => inWord text i && isEdge text i
  | .wordEnd => !inWord text i && isEdge text i
  | _ => true

/-- Steps on from places until nothing new is reached: all places after at least `least` and at
most `most` steps. -/
def steps (step : List Nat → List Nat) :
    (fuel : Nat) → (least : Nat) → (most : Option Nat) → (seen places : List Nat) → List Nat
  | 0, _, _, seen, _ => seen
  | fuel + 1, least, most, seen, places =>
    let seen := if least = 0 then seen ++ places else seen
    if places.isEmpty || most = some 0 then seen
    else
      let next := (step places).eraseDups
      let next := if least = 0 then next.filter fun i => !seen.contains i else next
      steps step fuel (least - 1) (most.map (· - 1)) seen next

/-- The places that are reached from a place by characters that an item matches, one after the
other. -/
def run (accepts : Nat → Bool) : (fuel : Nat) → (i : Nat) → List Nat
  | 0, i => [i]
  | fuel + 1, i => i :: if accepts i then run accepts fuel (i + 1) else []

/-- The places that an expression without back references reaches from some places. -/
def ends (text : Array Char) : Regex → List Nat → List Nat
  | .both a b, places => ends text b (ends text a places)
  | .either a b, places => (ends text a places ++ ends text b places).eraseDups
  | .group _ r, places => ends text r places
  | .repeated r least most, places =>
    match single? r text 0, places with
    | some _, [i] =>
      let reached := run (fun i => (single? r text i).getD false) (text.size + 1 - i) i
      let reached := reached.drop least
      (most.map fun n => reached.take (n + 1 - least)).getD reached
    | _, places => steps (ends text r) (text.size + least + 2) least most [] places
  | r, places =>
    match single? r text 0 with
    | some _ => (places.filter fun i => (single? r text i).getD false).map (· + 1)
    | none => places.filter (holdsAt r text)

/-- What groups have matched: the places where each begins and ends. -/
abbrev Groups := List (Nat × Nat × Nat)

/-- Repeats a way to match as often as possible before going on. -/
def repeatThen (step : Nat → Groups → (Nat → Groups → Option Groups) → Option Groups)
    (andThen : Nat → Groups → Option Groups) :
    (fuel : Nat) → (least : Nat) → (most : Option Nat) → Nat → Groups → Option Groups
  | 0, _, _, i, groups => andThen i groups
  | fuel + 1, least, most, i, groups =>
    let more :=
      if most = some 0 then none
      else
        step i groups fun j groups =>
          if j = i && least = 0 then none
          else repeatThen step andThen fuel (least - 1) (most.map (· - 1)) j groups
    match more with
    | some found => some found
    | none => if least = 0 then andThen i groups else none

/-- Matches an expression from a place and goes on from where it ends. -/
def matchThen (text : Array Char) :
    Regex → Nat → Groups → (Nat → Groups → Option Groups) → Option Groups
  | .both a b, i, groups, andThen =>
    matchThen text a i groups fun j groups => matchThen text b j groups andThen
  | .either a b, i, groups, andThen =>
    match matchThen text a i groups andThen with
    | some found => some found
    | none => matchThen text b i groups andThen
  | .group n r, i, groups, andThen =>
    matchThen text r i groups fun j groups =>
      andThen j ((n, i, j) :: groups.filter fun (k, _) => k != n)
  | .repeated r least most, i, groups, andThen =>
    repeatThen (fun i groups andThen => matchThen text r i groups andThen) andThen
      (text.size + least + 2) least most i groups
  | .same n, i, groups, andThen =>
    match groups.find? fun (k, _) => k == n with
    | none => none
    | some (_, low, high) =>
      let wanted := text.extract low high
      if text.extract i (i + wanted.size) == wanted then andThen (i + wanted.size) groups else none
  | r, i, groups, andThen =>
    match single? r text i with
    | some true => andThen (i + 1) groups
    | some false => none
    | none => if holdsAt r text i then andThen i groups else none

/-- The place where the longest match from a place ends. -/
def longest? (r : Regex) (back : Bool) (text : Array Char) (i : Nat) : Option Nat :=
  if back then
    (matchThen text r i [] fun j groups => some ((0, i, j) :: groups)).bind fun groups =>
      (groups.find? fun (k, _) => k == 0).map fun (_, _, j) => j
  else
    match ends text r [i] with
    | [] => none
    | places => some (places.foldl max 0)

def groupsOf (r : Regex) (text : Array Char) (i j : Nat) : Groups :=
  (matchThen text r i [] fun k groups => if k = j then some groups else none).getD []

/-- The first match that begins at a place or after it: where it begins and ends. -/
def find? (r : Regex) (text : Array Char) (start : Nat) : Option (Nat × Nat) :=
  let back := refersBack r
  (List.range (text.size + 1 - start)).findSome? fun k =>
    (longest? r back text (start + k)).map fun j => (start + k, j)

def isIn (r : Regex) (text : List Char) : Bool := (find? r text.toArray 0).isSome

end Regex

end SyscallProfiler.Machine
