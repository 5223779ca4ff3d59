import SyscallProfiler.Machine.Filters.Characters

/-!
# Filters that compare lines

Sorting, counting equal lines that follow each other, and what two sorted files have in common.
-/

namespace SyscallProfiler.Machine

namespace Filter

/-! ## Sorting -/

/-- How a key is compared. -/
structure KeyOrder where
  numeric : Bool
  reversed : Bool
  folded : Bool
  /-- Whether blanks at the beginning do not count. -/
  unblanked : Bool
  /-- Whether only letters, digits and blanks count. -/
  plain : Bool
deriving DecidableEq, Repr

/-- A part of a line that is compared. -/
structure SortKey where
  /-- The field and the character in it where the key begins, counted from zero. -/
  start : Nat × Nat
  /-- The field and the number of characters in it where the key ends; zero characters stand for
  the whole field. -/
  finish : Option (Nat × Nat)
  order : KeyOrder
deriving Repr

def orderOf (has : Char → Bool) : KeyOrder :=
  ⟨has 'n' || has 'g' || has 'h', has 'r', has 'f', has 'b', has 'd'⟩

/-- Whether a character separates fields where nothing else is said. -/
def isGap (c : Char) : Bool := c = ' ' || c = '\t'

/-- The fields of a line. Without a separator a field begins with the blanks before it. -/
def fieldsOf (separator : Option Char) (line : List Char) : List (List Char) :=
  match separator with
  | some c => line.splitOn c
  | none => go (line.length + 1) line
where
  /-- Divides a line at its blanks. -/
  go : (fuel : Nat) → List Char → List (List Char)
    | 0, _ => []
    | _, [] => []
    | fuel + 1, text =>
      let gap := text.takeWhile isGap
      let rest := text.drop gap.length
      let word := rest.takeWhile fun c => !isGap c
      (gap ++ word) :: go fuel (rest.drop word.length)

def SortKey.part (k : SortKey) (separator : Option Char) (line : List Char) : List Char :=
  let fields := fieldsOf separator line
  let joint := separator.toList
  let skip (text : List Char) : List Char :=
    if k.order.unblanked then text.dropWhile isGap else text
  let cut : List (List Char) :=
    match k.finish with
    | none => fields
    | some (field, 0) => fields.take (field + 1)
    | some (field, n) =>
      fields.take field ++ ((fields[field]?).map fun f =>
        let blanks := if k.order.unblanked then (f.takeWhile isGap).length else 0
        f.take (blanks + n)).toList
  let begun := cut.drop k.start.1
  match begun with
  | [] => []
  | first :: rest => joint.intercalate ((skip first).drop k.start.2 :: rest)

/-- A number at the beginning of a text: its sign, whole part and fraction. -/
def numberAhead (text : List Char) : Int × List Char :=
  let text := text.dropWhile isGap
  let (negative, digits) :=
    match text with
    | '-' :: rest => (true, rest)
    | rest => (false, rest)
  let whole := digits.takeWhile Json.isDigit
  let fraction :=
    match digits.drop whole.length with
    | '.' :: rest => rest.takeWhile Json.isDigit
    | _ => []
  -- enough places for a comparison
  let n : Int := Json.ofDigits (whole ++ (fraction ++ List.replicate 30 '0').take 30)
  (if negative then -n else n, fraction)

def compareTexts (a b : List Char) : Ordering :=
  match a, b with
  | [], [] => .eq
  | [], _ => .lt
  | _, [] => .gt
  | x :: xs, y :: ys => (compare x.toNat y.toNat).then (compareTexts xs ys)

def KeyOrder.compare (o : KeyOrder) (a b : List Char) : Ordering :=
  let shape (text : List Char) : List Char :=
    let text := if o.unblanked then text.dropWhile isGap else text
    let text := if o.plain then text.filter fun c => c.isAlphanum || isGap c else text
    if o.folded then text.map Char.toUpper else text
  let found :=
    if o.numeric then Ord.compare (numberAhead a).1 (numberAhead b).1
    else compareTexts (shape a) (shape b)
  if o.reversed then found.swap else found

/-- One end of a key: field, character and letters. -/
def keyEnd (text : List Char) : Option (Nat × Nat × List Char) :=
  let field := text.takeWhile Json.isDigit
  let rest := text.drop field.length
  if field.isEmpty then none
  else
    match rest with
    | '.' :: later =>
      let char := later.takeWhile Json.isDigit
      some (Json.ofDigits field, Json.ofDigits char, later.drop char.length)
    | letters => some (Json.ofDigits field, 0, letters)

/-- The key that an option describes. Without letters of its own it has the order of the whole. -/
def keyOf (called : String) (standard : KeyOrder) (text : String) :
    Except (String × Nat) SortKey :=
  let (front, back) := (text.toList.takeWhile (· != ','), text.toList.dropWhile (· != ','))
  let bad {α : Type} (what : String) (part : List Char) : Except (String × Nat) α :=
    .error (s!"{called}: invalid number {what}: invalid count at start of " ++
      Text.Quoting.always (String.ofList part), 2)
  match keyEnd front with
  | none => bad "at field start" front
  | some (field, char, letters) =>
    let key (finish : Option (Nat × Nat)) (more : List Char) : SortKey :=
      let all := letters ++ more
      ⟨(field - 1, char - 1), finish, if all.isEmpty then standard else orderOf all.contains⟩
    match back with
    | [] => .ok (key none [])
    | _ :: text =>
      match keyEnd text with
      | none => bad "after \x27,\x27" text
      | some (field, char, more) => .ok (key (some (field - 1, char)) more)

/-- Leaves the first of several lines that compare equal. -/
def firsts (compare : List Char → List Char → Ordering) : List (List Char) → List (List Char)
  | [] => []
  | line :: rest =>
    match firsts compare rest with
    | [] => [line]
    | next :: more => if compare line next == .eq then line :: more else line :: next :: more

/-- The first line that is out of order, with its number. -/
def disorder? (wrong : List Char → List Char → Bool) : (number : Nat) → List (List Char) →
    Option (Nat × List Char)
  | number, a :: b :: rest =>
    if wrong a b then some (number + 1, b) else disorder? wrong (number + 1) (b :: rest)
  | _, _ => none

def sortWork (called : String) (args : List String) : Plan := do
  let d ← demand called
    ⟨"bdfghinrRVcCmsuz", "ktoST",
      [("key", 'k'), ("field-separator", 't'), ("numeric-sort", 'n'), ("reverse", 'r'),
        ("unique", 'u'), ("ignore-case", 'f'), ("ignore-leading-blanks", 'b'), ("output", 'o'),
        ("stable", 's'), ("check", 'c'), ("general-numeric-sort", 'g'), ("merge", 'm'),
        ("dictionary-order", 'd'), ("zero-terminated", 'z')], false⟩ 2 args
  let standard := orderOf d.has
  let separator ←
    match (d.value? 't').map String.toList with
    | none => pure none
    | some [c] => pure (some c)
    | some ['\\', '0'] => pure (some '\x00')
    | some [] => throw (s!"{called}: empty tab", 2)
    | some text =>
      throw (s!"{called}: multi-character tab " ++ Text.Quoting.always (String.ofList text), 2)
  let keys ← (d.values 'k').mapM (keyOf called standard)
  let byKeys (a b : List Char) : Ordering :=
    if keys.isEmpty then standard.compare a b
    else
      keys.foldl (fun o k => o.then (k.order.compare (k.part separator a) (k.part separator b))) .eq
  let lastResort (a b : List Char) : Ordering :=
    if d.has 's' || d.has 'u' then .eq
    else if standard.reversed then (compareTexts a b).swap
    else compareTexts a b
  let order (a b : List Char) : Ordering := (byKeys a b).then (lastResort a b)
  let ending := if d.has 'z' then '\x00' else '\n'
  let sources := sourcesOf d.operands
  let finish (all : List Gathered) : Result :=
    let lines := all.flatMap fun g => linesOf (charsOf g.content) ending
    if d.hasAny "cC" then
      let wrong (a b : List Char) : Bool :=
        if d.has 'u' then byKeys a b != .lt else order a b == .gt
      match disorder? wrong 1 lines with
      | none => ⟨[], "", 0, []⟩
      | some (n, line) =>
        let place := (all.head?.map (·.name)).getD "-"
        ⟨[], if d.has 'C' then "" else
          s!"{called}: {place}:{n}: disorder: {String.ofList line}\n", 1, []⟩
    else
      let sorted := lines.mergeSort fun a b => order a b != .gt
      let kept := if d.has 'u' then firsts byKeys sorted else sorted
      let output := octetsOf (unlines kept ending)
      match d.value? 'o' with
      | some path => ⟨[], "", 0, [(path, output)]⟩
      | none => ⟨output, "", 0, []⟩
  return { whole sources (fun _ => []) with finish }

/-! ## Equal lines -/

/-- A line with how often it follows itself. -/
def runsOf (same : List Char → List Char → Bool) : List (List Char) → List (Nat × List Char)
  | [] => []
  | line :: rest =>
    match runsOf same rest with
    | [] => [(1, line)]
    | (n, next) :: more =>
      if same line next then (n + 1, line) :: more else (1, line) :: (n, next) :: more

def skipAhead (fields chars : Nat) (line : List Char) : List Char :=
  let rest := (List.range fields).foldl (fun (text : List Char) _ =>
    (text.dropWhile isGap).dropWhile fun c => !isGap c) line
  rest.drop chars

def uniqWork (called : String) (args : List String) : Plan := do
  let d ← demand called
    ⟨"cdiuDz", "fsw",
      [("count", 'c'), ("repeated", 'd'), ("ignore-case", 'i'), ("unique", 'u'),
        ("skip-fields", 'f'), ("skip-chars", 's'), ("check-chars", 'w'), ("all-repeated", 'D')],
      false⟩ 1 args
  let number (c : Char) (standard : Nat) : Nat :=
    ((d.value? c).map fun text => Json.ofDigits (text.toList.takeWhile Json.isDigit)).getD standard
  match d.operands[2]? with
  | some extra =>
    throw (usage called s!"extra operand {Text.Quoting.always extra}" 1)
  | none =>
    let key (line : List Char) : List Char :=
      let text := skipAhead (number 'f' 0) (number 's' 0) line
      let text := if (d.value? 'w').isSome then text.take (number 'w' 0) else text
      if d.has 'i' then text.map Char.toUpper else text
    let same (a b : List Char) : Bool := key a == key b
    let put (output : List UInt8) : Result :=
      match d.operands[1]? with
      | some path => if path = "-" then ⟨output, "", 0, []⟩ else ⟨[], "", 0, [(path, output)]⟩
      | none => ⟨output, "", 0, []⟩
    let finish (all : List Gathered) : Result :=
      let found := runsOf same (all.flatMap fun g => lines g.content)
      let kept := found.filter fun (n, _) =>
        (!d.has 'd' && !d.has 'u') || (d.has 'd' && n > 1) || (d.has 'u' && n = 1)
      put (ofLines (kept.map fun (n, line) =>
        if d.has 'c' then (padLeft 7 (toString n)).toList ++ ' ' :: line else line))
    return { linewise (sourcesOf (d.operands.take 1)) (fun _ => []) with finish }

/-! ## Common lines -/

/-- Lines of two sorted lists: in the first only, in the second only, or in both. -/
def commonLines : (fuel : Nat) → List (List Char) → List (List Char) → List (Nat × List Char)
  | 0, _, _ => []
  | _, [], bs => bs.map fun b => (2, b)
  | _, as, [] => as.map fun a => (1, a)
  | fuel + 1, a :: as, b :: bs =>
    match compareTexts a b with
    | .lt => (1, a) :: commonLines fuel as (b :: bs)
    | .gt => (2, b) :: commonLines fuel (a :: as) bs
    | .eq => (3, a) :: commonLines fuel as bs

def commWork (called : String) (args : List String) : Plan := do
  let d ← demand called ⟨"123", "", [], false⟩ 1 args
  match d.operands with
  | [one, two] =>
    let column (k : Nat) : Char := Char.ofNat (48 + k)
    return whole [one, two] fun all =>
      match all with
      | [a, b] =>
        let as := lines a.content
        let bs := lines b.content
        let shown := (commonLines (as.length + bs.length + 1) as bs).filter fun (k, _) =>
          !d.has (column k)
        ofLines (shown.map fun (k, line) =>
          let before := ((List.range (k - 1)).filter fun i => !d.has (column (i + 1))).length
          List.replicate before '\t' ++ line)
      | _ => []
  | [] => throw (usage called "missing operand" 1)
  | [one] => throw (usage called s!"missing operand after {Text.Quoting.always one}" 1)
  | _ :: _ :: extra :: _ =>
    throw (usage called s!"extra operand {Text.Quoting.always extra}" 1)

end Filter

end SyscallProfiler.Machine
