import SyscallProfiler.Toml.Datetime

/-!
# TOML documents

A document is read into items, with the keys of each table in the order in which they first appear,
and items have the same tree as JSON. A table remembers how it came about, because that decides
what may still be added to it: a table is opened by one header, or grown by dotted keys, or written
in one piece.
-/

namespace SyscallProfiler.Toml

/-- What a key stands for while a document is being read. -/
inductive Item where
  /-- A string, a number or a truth value. -/
  | scalar (v : Json)
  /-- A date or a time. -/
  | moment (text : String)
  /-- A list written in one piece. -/
  | list (elements : List Item)
  /-- A table written in one piece, to which nothing can be added. -/
  | closed (items : List (String × Item))
  /-- A table. It is `implicit` until a header opens it, and `dotted` if keys with dots made it. -/
  | table (implicit dotted : Bool) (items : List (String × Item))
  /-- A list of tables, each opened by a header. -/
  | tables (elements : List Item)
deriving Inhabited

namespace Item

/-- The key under which a tree holds a date or a time. -/
def momentKey : String := "$__toml_private_datetime"

mutual

def toJson : Item → Json
  | .scalar v => v
  | .moment text => .obj [(momentKey, .str text)]
  | .list elements => .arr (elementsToJson elements)
  | .closed items => .obj (itemsToJson items)
  | .table _ _ items => .obj (itemsToJson items)
  | .tables elements => .arr (elementsToJson elements)

def itemsToJson : List (String × Item) → Json.Fields
  | [] => []
  | (k, item) :: rest => (k, toJson item) :: itemsToJson rest

def elementsToJson : List Item → List Json
  | [] => []
  | item :: rest => toJson item :: elementsToJson rest

end

def emptyTable (implicit dotted : Bool) : Item := .table implicit dotted []

/-- The table as one that was written in one piece. -/
def close : Item → Item
  | .table _ _ items => .closed items
  | item => item

def get? (key : String) : Item → Option Item
  | .table _ _ items | .closed items => Json.lookup key items
  | _ => none

end Item

/-- Replaces the item of a key, or adds it after all others. -/
def setItem (key : String) (item : Item) : List (String × Item) → List (String × Item)
  | [] => [(key, item)]
  | (k, i) :: rest => if k = key then (key, item) :: rest else (k, i) :: setItem key item rest

/-- Changes the table that a path leads to. Tables that are missing on the way are made, implicit;
`dotted` says that the path comes from a dotted key, which may not enter a table that a header
opened. Of a list of tables the last is meant. -/
def descend (dotted : Bool) (change : Item → Option Item) : List String → Item → Option Item
  | [], table => change table
  | key :: path, .table implicit dotted' items =>
    let child := (Json.lookup key items).getD (Item.emptyTable true dotted)
    match child with
    | .table isImplicit _ _ =>
      if dotted && !isImplicit then none
      else (descend dotted change path child).map fun t =>
        .table implicit dotted' (setItem key t items)
    | .tables elements =>
      match elements.getLast? with
      | some last => (descend dotted change path last).map fun t =>
        .table implicit dotted' (setItem key (.tables (elements.dropLast ++ [t])) items)
      | none => none
    | _ => none
  | _ :: _, _ => none

/-- Binds a key, given by its parts, in a table. -/
def bind? (key : List String) (v : Item) (table : Item) : Option Item :=
  let path := key.dropLast
  let change : Item → Option Item
    | .table implicit dotted items =>
      match key.getLast? with
      | none => none
      | some name =>
        if dotted == path.isEmpty then none
        else if (Json.lookup name items).isSome then none
        else some (.table implicit dotted (items ++ [(name, v)]))
    | _ => none
  descend (!path.isEmpty) change path table

/-! ## Values -/

/-- Reads the values of a list whose opening bracket has been read. `fuel` bounds their number. -/
def readItems (readItem : List Char → Option (Item × List Char)) :
    (fuel : Nat) → List Char →
    Option (List Item × List Char)
  | 0, _ => none
  | fuel + 1, text =>
    match skipLines text.length text with
    | ']' :: rest => some ([], rest)
    | later => do
      let (v, after) ← readItem later
      match skipLines after.length after with
      | ',' :: rest => do
        let (vs, final) ← readItems readItem fuel rest
        return (v :: vs, final)
      | ']' :: rest => return ([v], rest)
      | _ => none

/-- Reads a key, an equals sign and a value. -/
def readBinding (readItem : List Char → Option (Item × List Char)) (text : List Char) :
    Option ((List String × Item) × List Char) := do
  let (key, rest) ← readKey text
  let '=' :: rest := skipBlanks rest | none
  let (v, rest) ← readItem (skipBlanks rest)
  return ((key, v), rest)

/-- Reads the bindings of a table that is written in one piece, after its opening brace, into a
table. `fuel` bounds their number. -/
def readBindings (readItem : List Char → Option (Item × List Char)) :
    (fuel : Nat) → Item → List Char →
    Option (Item × List Char)
  | 0, _, _ => none
  | fuel + 1, table, text => do
    let ((key, v), rest) ← readBinding readItem (skipBlanks text)
    let table ← bind? key v table
    match skipBlanks rest with
    | ',' :: later => readBindings readItem fuel table later
    | '}' :: later => return (table, later)
    | _ => none

/-- Reads a value that may open `depth` levels of lists and tables. -/
def readValue : (depth : Nat) → List Char → Option (Item × List Char)
  | _, [] => none
  | depth, c :: rest =>
    if c = '[' then
      match depth with
      | 0 => none
      | depth + 1 => do
        let (vs, later) ← readItems (readValue depth) (rest.length + 1) rest
        return (.list vs, later)
    else if c = '{' then
      match depth with
      | 0 => none
      | depth + 1 =>
        match skipBlanks rest with
        | '}' :: later => some (.closed [], later)
        | later => do
          let (table, final) ←
            readBindings (readValue depth) (later.length + 1) (Item.emptyTable false false) later
          return (table.close, final)
    else if c = '"' || c = apostrophe then
      (readString (c :: rest)).map fun (s, later) => (.scalar (.str s), later)
    else if c = 't' then
      match rest with
      | 'r' :: 'u' :: 'e' :: later => some (.scalar (.bool true), later)
      | _ => none
    else if c = 'f' then
      match rest with
      | 'a' :: 'l' :: 's' :: 'e' :: later => some (.scalar (.bool false), later)
      | _ => none
    else if startsDate (c :: rest) then
      (readDatetime (c :: rest)).map fun (text, later) => (.moment text, later)
    else if startsTime (c :: rest) then
      (readTime (c :: rest)).map fun (time, later) => (.moment time, later)
    else (readNumber (c :: rest)).map fun (v, later) => (.scalar v, later)

/-- How deep lists and tables that are written in one piece may be nested. -/
def maxDepth : Nat := 79

/-! ## Documents -/

/-- A document that is being read: what has been closed, and the table that is open. -/
structure Draft where
  root : Item
  /-- The path of the open table; empty before the first header. -/
  path : List String
  /-- Whether the open table is an element of a list of tables. -/
  element : Bool
  table : Item

def Draft.empty : Draft :=
  ⟨Item.emptyTable false false, [], false, Item.emptyTable false false⟩

def removeKey (key : String) (items : List (String × Item)) : List (String × Item) :=
  items.filter fun (k, _) => k != key

/-- Closes the open table and puts it into its place. -/
def Draft.close (d : Draft) : Option Item :=
  match d.path.getLast? with
  | none => some d.table
  | some name =>
    let change : Item → Option Item
      | .table implicit dotted items =>
        match Json.lookup name items with
        | none =>
          let item := if d.element then Item.tables [d.table] else d.table
          some (.table implicit dotted (items ++ [(name, item)]))
        | some (.tables elements) =>
          if d.element then
            some (.table implicit dotted (setItem name (.tables (elements ++ [d.table])) items))
          else none
        | some (.table true _ _) =>
          if d.element then none
          else some (.table implicit dotted (setItem name d.table items))
        | some _ => none
      | _ => none
    descend false change d.path.dropLast d.root

def itemsAt? : List String → Item → Option (List (String × Item))
  | [], .table _ _ items => some items
  | key :: path, .table _ _ items =>
    match Json.lookup key items with
    | some (.tables elements) => elements.getLast?.bind (itemsAt? path)
    | some item => itemsAt? path item
    | none => none
  | _, _ => none

/-- Opens the table that a header names. A table that exists because others lie in it may still be
opened; one that a header opened or that dotted keys grew may not. -/
def openTable (path : List String) (root : Item) : Option Draft :=
  match path.getLast? with
  | none => none
  | some name => do
    let parent := path.dropLast
    -- the table as it is so far, and the document without it
    let root ← descend false some parent root
    let before := (itemsAt? parent root).bind (Json.lookup name)
    let cleared ← descend false
      (fun
        | .table implicit dotted items => some (.table implicit dotted (removeKey name items))
        | _ => none)
      parent root
    match before with
    | none => some ⟨cleared, path, false, Item.emptyTable false false⟩
    | some (.table true false items) => some ⟨cleared, path, false, .table false false items⟩
    | some _ => none

/-- Opens a new element of the list of tables that a header names. -/
def openElement (path : List String) (root : Item) : Option Draft :=
  match path.getLast? with
  | none => none
  | some name => do
    let root ← descend false
      (fun
        | .table implicit dotted items =>
          match Json.lookup name items with
          | none => some (.table implicit dotted (items ++ [(name, .tables [])]))
          | some (.tables _) => some (.table implicit dotted items)
          | some _ => none
        | _ => none)
      path.dropLast root
    some ⟨root, path, true, Item.emptyTable false false⟩

/-- Reads one line: nothing, a header, or a binding. -/
def readLine (d : Draft) (text : List Char) : Option (Draft × List Char) :=
  match skipBlanks text with
  | '[' :: '[' :: rest => do
    let (path, rest) ← readKey rest
    let ']' :: ']' :: rest := skipBlanks rest | none
    let root ← d.close
    let d ← openElement path root
    return (d, ← lineEnd? rest)
  | '[' :: rest => do
    let (path, rest) ← readKey rest
    let ']' :: rest := skipBlanks rest | none
    let root ← d.close
    let d ← openTable path root
    return (d, ← lineEnd? rest)
  | text =>
    match lineEnd? text with
    | some rest => some (d, rest)
    | none => do
      let ((key, v), rest) ← readBinding (readValue maxDepth) text
      let table ← bind? key v d.table
      return ({ d with table }, ← lineEnd? rest)

/-- Reads lines up to the end of the text. `fuel` bounds their number. -/
def readLines : (fuel : Nat) → Draft → List Char → Option Draft
  | _, d, [] => some d
  | 0, _, _ => none
  | fuel + 1, d, text => do
    let (d, rest) ← readLine d text
    readLines fuel d rest

/-- Reads a text as a TOML document. A byte-order mark at its beginning is passed over. -/
def read (text : String) : Option Item := do
  let cs :=
    match text.toList with
    | c :: rest => if c.toNat = 0xFEFF then rest else c :: rest
    | [] => []
  let d ← readLines (cs.length + 1) Draft.empty cs
  d.close

end SyscallProfiler.Toml
