import SyscallProfiler.Machine.Filters.Characters
import SyscallProfiler.Machine.Filters.Counting
import SyscallProfiler.Machine.Filters.Editor
import SyscallProfiler.Machine.Filters.Order
import SyscallProfiler.Machine.Filters.Search

/-!
# All filters by name

What a filter does follows from its name, its arguments and, for a few of them, from files that it
looks at before it starts.
-/

namespace SyscallProfiler.Machine

namespace Filter

/-- What filters find out about files without reading them piece by piece. -/
structure Surroundings where
  /-- The content of the file at a path. -/
  content : String → Option (List UInt8)
  /-- The names in the directory at a path. -/
  names : String → Option (List String)

/-! ## The editor -/

/-- The letters of an editor that take no value and may stand before the one for editing in
place. -/
def editorFlags : List Char := ['n', 'E', 'r', 's', 'u', 'z']

/-- Writes the option for editing in place as a word, so that what follows it in the same argument
is its value. -/
def spellInPlace (arg : String) : List String :=
  if arg = "--in-place" then ["--in-place="]
  else
    match arg.toList with
    | '-' :: letters =>
      let before := letters.takeWhile editorFlags.contains
      match letters.drop before.length with
      | 'i' :: ending =>
        (if before.isEmpty then [] else [String.ofList ('-' :: before)]) ++
          ["--in-place=" ++ String.ofList ending]
      | _ => [arg]
    | _ => [arg]

def editorKnowledge : Knowledge :=
  ⟨"nErsuz", "efli",
    [("quiet", 'n'), ("silent", 'n'), ("expression", 'e'), ("file", 'f'), ("in-place", 'i'),
      ("regexp-extended", 'E'), ("separate", 's'), ("line-length", 'l'), ("unbuffered", 'u'),
      ("null-data", 'z')], false⟩

def editorUsage (called : String) : String :=
  s!"Usage: {called} [OPTION]... \x7bscript-only-if-no-other-script\x7d [input-file]..."

/-- The name under which a file is kept that is edited in place. -/
def keptName (ending path : String) : String :=
  if ending.toList.contains '*' then
    String.ofList (ending.toList.flatMap fun c => if c = '*' then path.toList else [c])
  else path ++ ending

/-- Lets an editor work on all that has been read, or on each source by itself. Gives the status,
and what is written to files. -/
def editAll (style : Edit.Style) (inPlace : Option String) (separate : Bool)
    (all : List Gathered) : Result :=
  match inPlace with
  | some ending =>
    let states := all.map fun g => (g, Edit.run style [g])
    let kept := if ending = "" then [] else all.map fun g => (keptName ending g.name, g.content)
    let edited := states.map fun (g, s) => (g.name, Edit.outputOf s)
    ⟨[], "", (states.findSome? fun (_, s) => s.quit).getD 0,
      states.flatMap (fun (_, s) => Edit.filesOf s) ++ kept ++ edited⟩
  | none =>
    let states := if separate then all.map fun g => Edit.run style [g] else [Edit.run style all]
    ⟨states.flatMap Edit.outputOf, "", (states.findSome? (·.quit)).getD 0,
      states.flatMap Edit.filesOf⟩

/-- Whether an editor ends before what has been read so far ends. -/
def endsWithin (style : Edit.Style) (content : List UInt8) : Bool :=
  let s := Edit.run style [⟨"-", content, true⟩]
  s.quit.isSome && s.input.length > 1

/-- Whether a script has an instruction that ends the editor. -/
def mayQuit (script : Array Edit.Instruction) : Bool :=
  script.any fun i =>
    match i.command with
    | .quit _ _ => true
    | _ => false

def sedWork (around : Surroundings) (called : String) (args : List String) : Plan := do
  let d ← (Demand.ofArgs editorKnowledge (args.flatMap spellInPlace)).mapError fun fault =>
    (s!"{called}: {fault.message}\n{editorUsage called}", 1)
  let given := d.options.filter fun (c, _) => c == 'e' || c == 'f'
  let (texts, operands) ←
    match given, d.operands with
    | [], text :: rest => pure ([text], rest)
    | [], [] => throw (editorUsage called, 1)
    | _, operands => do
      let texts ← given.mapM fun (c, value) =>
        if c == 'e' then pure value
        else
          match around.content value with
          | some content =>
            let text := Text.Octets.ofBytes content
            pure (String.ofList ((linesOf text.toList '\n').intersperse ['\n']).flatten)
          | none =>
            throw (s!"{called}: couldn\x27t open file {value}: {OsError.noSuchFile.plain}", 4)
      pure (texts, operands)
  let extended := d.hasAny "Er"
  let script ← (Edit.scriptOf extended ("\n".intercalate texts).toList).mapError fun e =>
    (s!"{called}: {e}", 1)
  let quiet := d.has 'n' || (texts.head?.any fun t => ['#', 'n', '\n'].isPrefixOf t.toList)
  let style : Edit.Style := ⟨quiet, script, around.content⟩
  let inPlace := d.value? 'i'
  if inPlace.isSome && operands.isEmpty then throw (s!"{called}: no input files", 1)
  return {
    sources := sourcesOf operands
    piece := none
    enough :=
      if inPlace.isNone && operands.length ≤ 1 && mayQuit script then some (endsWithin style)
      else none
    spare := fun _ => 0
    settled := if inPlace.isSome || d.has 's' then .nothing else .lines
    bySource := false
    finish := editAll style inPlace (d.has 's') }

/-! ## Searching in directories -/

/-- The files below a path, which is looked at no deeper than `depth`. -/
def filesBelow (around : Surroundings) : (depth : Nat) → String → List String
  | 0, path => [path]
  | depth + 1, path =>
    match around.names path with
    | none => [path]
    | some names => names.flatMap fun n => filesBelow around depth (Path.join path n)

def deepestSearch : Nat := 40

/-- Searches lines, and in the files of directories if that is asked for. -/
def searchWork (around : Surroundings) (called : String) (standard : Char) (args : List String) :
    Plan := do
  let d := (Demand.ofArgs searchKnowledge args).toOption
  let deep := d.any fun d => d.hasAny "rR"
  let work ← grepWork called standard deep args
  if !deep then return work
  else
    let isHere := work.sources == ["-"] && (d.any fun d => !d.operands.contains "-")
    let sources :=
      if isHere then
        ((around.names ".").getD []).flatMap fun n => filesBelow around deepestSearch n
      else work.sources.flatMap fun path => filesBelow around deepestSearch path
    return { work with sources }

/-! ## By name -/

def names : List String :=
  ["cat", "head", "tail", "tr", "cut", "sed", "wc", "grep", "egrep", "fgrep", "sort", "uniq",
    "comm", "tee", "yes", "tac", "rev", "nl", "paste", "fold", "od", "base64"]

def copyKnowledge : Knowledge :=
  ⟨"aip", "", [("append", 'a'), ("ignore-interrupts", 'i')], false⟩

def workOf (around : Surroundings) (name called : String) (args : List String) : Plan :=
  match name with
  | "cat" => catWork called args
  | "head" => headWork called args
  | "tail" => tailWork called args
  | "tr" => trWork called args
  | "cut" => cutWork called args
  | "sed" => sedWork around called args
  | "wc" => wcWork called args
  | "grep" => searchWork around called 'G' args
  | "egrep" => searchWork around "grep" 'E' args
  | "fgrep" => searchWork around "grep" 'F' args
  | "sort" => sortWork called args
  | "uniq" => uniqWork called args
  | "comm" => commWork called args
  | "tac" => tacWork called args
  | "rev" => revWork args
  | "nl" => nlWork called args
  | "paste" => pasteWork called args
  | "fold" => foldWork called args
  | "od" => odWork called args
  | "base64" => base64Work called args
  | "yes" => yesWork args
  | "tee" => (demand called copyKnowledge 1 args).map fun _ => piecewise ["-"] id
  | _ => .ok (piecewise ["-"] id)

/-! ## Complaints about sources -/

/-- What becomes of a filter that cannot read a source. -/
inductive Setback where
  /-- It goes on with the next source; the status will be no better. -/
  | goesOn (text : String) (status : Nat)
  /-- It goes on, and the source counts as one without content. -/
  | counts (text : String) (status : Nat)
  /-- It ends at once. -/
  | ends (text : String) (status : Nat)

/-- What a filter says about a standard input that is closed or cannot be read. -/
def inputSetback (name called : String) : Setback :=
  let why := OsError.badDescriptor.plain
  let input := Text.Quoting.always "standard input"
  let hyphen := Text.Quoting.always "-"
  match name with
  | "head" => .counts s!"{called}: error reading {input}: {why}" 1
  | "tail" => .goesOn s!"{called}: cannot fstat {input}: {why}" 1
  | "wc" => .counts s!"{called}: {input}: {why}" 1
  | "tr" | "base64" => .ends s!"{called}: read error: {why}" 1
  | "tee" => .goesOn s!"{called}: read error: {why}" 1
  | "sort" => .ends s!"{called}: stat failed: -: {why}" 2
  | "uniq" => .ends s!"{called}: error reading {hyphen}: {why}" 1
  | "sed" => .ends s!"{called}: read error on stdin: {why}" 4
  | "grep" | "egrep" | "fgrep" => .goesOn s!"grep: (standard input): {why}" 2
  | "od" => .goesOn s!"{called}: {input}: {why}" 1
  | "tac" => .goesOn s!"{called}: {input}: read error: {why}" 1
  | "comm" => .ends s!"{called}: -: {why}" 1
  | _ => .goesOn s!"{called}: -: {why}" 1

/-- What a filter says at the end if its standard input cannot be closed because it is closed
already. -/
def closingProblem? (name called : String) : Option String :=
  let why := OsError.badDescriptor.plain
  match name with
  | "cat" => some s!"{called}: closing standard input: {why}"
  | "od" | "tee" => some s!"{called}: standard input: {why}"
  | "head" | "tail" | "wc" | "cut" | "fold" | "nl" | "paste" | "tac" => some s!"{called}: -: {why}"
  | _ => none

def fileSetback (name called path : String) (e : OsError) : Setback :=
  let quoted := Text.Quoting.always path
  let plain := Text.Quoting.ifNeeded path
  let isDirectory := e = .isADirectory
  match name with
  | "head" | "tail" =>
    if isDirectory then .counts s!"{called}: error reading {quoted}: {e.plain}" 1
    else .goesOn s!"{called}: cannot open {quoted} for reading: {e.plain}" 1
  | "tac" =>
    if isDirectory then .goesOn s!"{called}: {plain}: read error: Invalid argument" 1
    else .goesOn s!"{called}: failed to open {quoted} for reading: {e.plain}" 1
  | "sed" =>
    if isDirectory then .ends s!"{called}: read error on {path}: {e.plain}" 4
    else .goesOn s!"{called}: can\x27t read {path}: {e.plain}" 2
  | "sort" =>
    if isDirectory then .ends s!"{called}: read failed: {path}: {e.plain}" 2
    else .ends s!"{called}: cannot read: {path}: {e.plain}" 2
  | "grep" | "egrep" | "fgrep" => .goesOn s!"grep: {path}: {e.plain}" 2
  | "wc" =>
    if isDirectory then .counts s!"{called}: {plain}: {e.plain}" 1
    else .goesOn s!"{called}: {plain}: {e.plain}" 1
  | "rev" => .goesOn s!"{called}: cannot open {path}: {e.plain}" 1
  | "uniq" =>
    if isDirectory then .ends s!"{called}: error reading {quoted}: {e.plain}" 1
    else .ends s!"{called}: {plain}: {e.plain}" 1
  | "comm" | "paste" => .ends s!"{called}: {plain}: {e.plain}" 1
  | "base64" =>
    if isDirectory then .ends s!"{called}: read error: {e.plain}" 1
    else .ends s!"{called}: {plain}: {e.plain}" 1
  | _ => .goesOn s!"{called}: {plain}: {e.plain}" 1

def setback (name called path : String) (e : OsError) : Setback :=
  if path = "-" && e = .badDescriptor then inputSetback name called
  else fileSetback name called path e

/-- What a filter says about a source that it writes to, and the status; nothing if it reads it all
the same. `hasMore` says that there is something to read. -/
def selfReading? (name called path : String) (args : List String) (hasMore : Bool) :
    Option (String × Nat) :=
  match name with
  | "cat" =>
    if hasMore then
      some (s!"{called}: {Text.Quoting.ifNeeded path}: input file is output file", 1)
    else none
  | "grep" | "egrep" | "fgrep" =>
    let isBrief := (Demand.ofArgs searchKnowledge args).toOption.any fun d =>
      d.hasAny "cqlL" || d.value? 'm' = some "1"
    let shown := if path = "-" then "(standard input)" else path
    if isBrief then none else some (s!"grep: {shown}: input file is also the output", 2)
  | _ => none

/-- A filter that has not read anything yet. -/
def start (name called : String) (args sources : List String) : Filter :=
  ⟨name, called, args, sources, none, "", [], [], 0, 0⟩

end Filter

end SyscallProfiler.Machine
