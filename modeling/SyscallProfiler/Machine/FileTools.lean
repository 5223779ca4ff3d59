import SyscallProfiler.Machine.Filters.Basic
import SyscallProfiler.Machine.Launch

/-!
# Tools that work on files

Each of them works on its operands one after the other. What cannot be done to one operand is
complained about, and does not keep the tool from the next one.
-/

namespace SyscallProfiler.Machine

/-- What a tool says if it cannot write its output, and its status. -/
def outputProblem (name called : String) (isClosed : Bool) (e : OsError) : String × Nat :=
  let output := Text.Quoting.always "standard output"
  match name with
  | "cat" =>
    if isClosed then (s!"{called}: standard output: {e.plain}", 1)
    else (s!"{called}: write error: {e.plain}", 1)
  | "yes" => (s!"{called}: standard output: {e.plain}", 1)
  | "tee" => (s!"{called}: {output}: {e.plain}", 1)
  | "sort" => (s!"{called}: fflush failed: {output}: {e.plain}\n{called}: write error", 2)
  | "sed" => (s!"{called}: couldn\x27t close stdout: {e.plain}", 4)
  | "ls" | "grep" | "egrep" | "fgrep" => (s!"{called}: write error: {e.plain}", 2)
  | "env" => (s!"{called}: write error: {e.plain}", 125)
  | _ => (s!"{called}: write error: {e.plain}", 1)

/-- The tool that a process is, and what it was called. -/
def namesOfTool (m : Machine) (pid : Nat) : String × String :=
  match m.process? pid with
  | none => ("", "")
  | some p =>
    match p.image with
    | .tool name called _ _ => (name, called)
    | .filter f => (f.name, f.called)
    | _ => ("", "")

def endUnwritten (m : Machine) (pid : Nat) (complaints : String) (e : OsError) : Machine :=
  let isClosed := ((m.process? pid).bind fun p => p.handles.get? 1).isNone
  let (name, called) := m.namesOfTool pid
  let (text, status) := outputProblem name called isClosed e
  (m.say pid 2 (complaints ++ text ++ "\n")).finish pid (.exited status)

/-- Writes the output of a tool. The tool ends if that cannot be done. -/
def put (m : Machine) (pid : Nat) (output : List UInt8) : Machine :=
  match m.tryEmit pid 1 output with
  | (none, m) => m
  | (some e, m) => m.endUnwritten pid "" e

/-- Ends a process after it has written something. -/
def conclude (m : Machine) (pid : Nat) (output : List UInt8) (complaints : String) (code : Nat) :
    Machine :=
  match m.tryEmit pid 1 output with
  | (none, m) => (m.say pid 2 complaints).finish pid (.exited (code % 256))
  | (some e, m) => m.endUnwritten pid complaints e

def answer (m : Machine) (pid : Nat) (text : String) : Machine :=
  m.conclude pid (Text.Octets.bytes text) "" 0

def complain (m : Machine) (pid : Nat) (text : String) (code : Nat) : Machine :=
  m.conclude pid [] (text ++ "\n") code

def misused (m : Machine) (pid : Nat) (called text : String) (code : Nat) : Machine :=
  m.complain pid (Filter.usage called text code).1 code

def asked (m : Machine) (pid : Nat) (called : String) (k : Knowledge) (code : Nat)
    (args : List String) (goOn : Demand → Machine) : Machine :=
  match Demand.ofArgs k args with
  | .ok d => goOn d
  | .error fault => m.misused pid called fault.message code

/-- What a tool does to an operand: what it says about it, or why it cannot be done. -/
abbrev Action := Machine → String → Except String (Machine × String)

/-- Does something to each operand, and ends the process. `good` says that all has gone well. -/
def onEach (pid : Nat) (called : String) (action : Action) (good : Bool) : List String → Machine →
    Machine
  | [], m => m.finish pid (.exited (if good then 0 else 1))
  | path :: rest, m =>
    match action m path with
    | .ok (m, said) => onEach pid called action good rest (m.say pid 1 said)
    | .error text => onEach pid called action false rest (m.say pid 2 s!"{called}: {text}\n")

/-- A name between apostrophes. -/
def shown (path : String) : String := Text.Quoting.always path

/-- A line that is said only on demand. -/
def saying (wanted : Bool) (text : String) : String := if wanted then text ++ "\n" else ""

def nameOf (path : String) : String := Text.Octets.toText path

def lastPart (path : String) : String :=
  ((Path.components path).filter (· != "")).getLast?.getD "/"

def endsOpen (path : String) : Bool := path.toList.getLast? = some '/'

/-! ## Removing -/

def removeOne (p : Process) (d : Demand) : Action := fun m path =>
  let failed (e : OsError) : Except String (Machine × String) :=
    .error s!"cannot remove {shown path}: {e.plain}"
  let removed (location : Location) (what : String) : Except String (Machine × String) :=
    .ok ({ m with files := m.files.remove location },
      saying (d.has 'v') s!"removed {what}{shown path}")
  let deep := d.hasAny "rR"
  match m.entry p.directory path with
  | .ok (location, .directory entries) =>
    if deep && [".", ".."].contains (lastPart path) then
      .error s!"refusing to remove \x27.\x27 or \x27..\x27 directory: skipping {shown path}"
    else if deep && location.isEmpty then
      .error ("it is dangerous to operate recursively on \x27/\x27\n" ++
        "rm: use --no-preserve-root to override this failsafe")
    else if deep || (d.has 'd' && entries.isEmpty) then removed location "directory "
    else failed (if d.has 'd' then .directoryNotEmpty else .isADirectory)
  | .ok (location, _) => if endsOpen path then failed .notADirectory else removed location ""
  | .error e =>
    if d.has 'f' && (e = .noSuchFile || e = .notADirectory) then .ok (m, "") else failed e

def runRemove (m : Machine) (p : Process) (called : String) (args : List String) : Machine :=
  m.asked p.pid called
    ⟨"frRivdI", "",
      [("force", 'f'), ("recursive", 'r'), ("verbose", 'v'), ("dir", 'd'), ("interactive", 'i')],
      false⟩ 1 args fun d =>
    if d.operands.isEmpty && !d.has 'f' then m.misused p.pid called "missing operand" 1
    else onEach p.pid called (removeOne p d) true d.operands m

def removeDirectory (p : Process) (d : Demand) : Action := fun m path =>
  let failed (e : OsError) : Except String (Machine × String) :=
    .error s!"failed to remove {shown path}: {e.plain}"
  match m.entry p.directory path with
  | .ok (location, .directory []) =>
    .ok ({ m with files := m.files.remove location },
      saying (d.has 'v') s!"rmdir: removing directory, {shown path}")
  | .ok (_, .directory _) => failed .directoryNotEmpty
  | .ok _ => failed .notADirectory
  | .error e => failed e

def runRemoveDirectory (m : Machine) (p : Process) (called : String) (args : List String) :
    Machine :=
  m.asked p.pid called ⟨"pv", "", [("parents", 'p'), ("verbose", 'v')], false⟩ 1 args fun d =>
    if d.operands.isEmpty then m.misused p.pid called "missing operand" 1
    else onEach p.pid called (removeDirectory p d) true d.operands m

def runUnlink (m : Machine) (p : Process) (called : String) (args : List String) : Machine :=
  m.asked p.pid called ⟨"", "", [], false⟩ 1 args fun d =>
    match d.operands with
    | [] => m.misused p.pid called "missing operand" 1
    | _ :: extra :: _ => m.misused p.pid called s!"extra operand {shown extra}" 1
    | [path] =>
      let failed (e : OsError) : Machine :=
        m.complain p.pid s!"{called}: cannot unlink {shown path}: {e.plain}" 1
      match m.entry p.directory path with
      | .ok (_, .directory _) => failed .isADirectory
      | .ok (location, _) =>
        Machine.finish { m with files := m.files.remove location } p.pid (.exited 0)
      | .error e => failed e

/-! ## Making -/

def makeOne (p : Process) (d : Demand) : Action := fun m path =>
  let failed (e : OsError) : Except String (Machine × String) :=
    .error s!"cannot create directory {shown path}: {e.plain}"
  let said := saying (d.has 'v') s!"mkdir: created directory {shown path}"
  if d.has 'p' then
    if path = "" then failed .noSuchFile
    else
      match m.files.makePath p.directory (nameOf path) with
      | (.ok (), files) => .ok ({ m with files }, said)
      | (.error e, _) => failed e
  else
    let bare := String.ofList (path.toList.reverse.dropWhile (· = '/')).reverse
    match m.entry p.directory path with
    | .ok _ => failed .exists_
    | .error _ =>
      match m.place p.directory (if bare = "" then path else bare) with
      | .ok (.vacant above name) =>
        .ok ({ m with files := m.files.put (above ++ [name]) (.directory []) }, said)
      | .ok (.found _ _) => failed .exists_
      | .error e => failed e

def runMake (m : Machine) (p : Process) (called : String) (args : List String) : Machine :=
  m.asked p.pid called ⟨"pvZ", "m", [("parents", 'p'), ("verbose", 'v'), ("mode", 'm')], false⟩ 1
    args fun d =>
    if d.operands.isEmpty then m.misused p.pid called "missing operand" 1
    else onEach p.pid called (makeOne p d) true d.operands m

def touchOne (p : Process) (d : Demand) : Action := fun m path =>
  match m.find p.directory path with
  | .ok _ => .ok (m, "")
  | .error e =>
    if d.has 'c' then .ok (m, "")
    else if endsOpen path && e = .noSuchFile then
      .error s!"setting times of {shown path}: {e.plain}"
    else
      match m.files.create p.directory (nameOf path) with
      | .ok (_, files) => .ok ({ m with files }, "")
      | .error e => .error s!"cannot touch {shown path}: {e.plain}"

def runTouch (m : Machine) (p : Process) (called : String) (args : List String) : Machine :=
  m.asked p.pid called
    ⟨"acfhm", "drt", [("no-create", 'c'), ("date", 'd'), ("reference", 'r'), ("time", 'a')], false⟩
    1 args fun d =>
    if d.operands.isEmpty then m.misused p.pid called "missing file operand" 1
    else onEach p.pid called (touchOne p d) true d.operands m

/-! ## Copying, moving and linking -/

/-- The path at which a tool puts something: in a directory, it keeps its name. -/
def destination (m : Machine) (p : Process) (d : Demand) (source target : String) : String :=
  if !d.has 'T' && m.isDirectory p.directory target then Path.join target (lastPart source)
  else target

/-- Copies one operand. A link is copied as a link only along with what is in directories. -/
def copyOne (p : Process) (d : Demand) (target : String) : Action := fun m source =>
  let deep := d.hasAny "rRa"
  let found :=
    if d.hasAny "dPa" || (deep && !d.has 'L') then m.entry p.directory source
    else m.find p.directory source
  match found with
  | .error e => .error s!"cannot stat {shown source}: {e.plain}"
  | .ok (from_, node) =>
    if node.isDirectory && !deep then
      .error s!"-r not specified; omitting directory {shown source}"
    else
      let path := m.destination p d source target
      let said := saying (d.has 'v') s!"{shown source} -> {shown path}"
      let kept : Node :=
        match node with
        | .file content executable => .file content (executable && p.mask % 2 = 0)
        | node => node
      match m.place p.directory path with
      | .error .isADirectory =>
        if node.isDirectory then
          match m.files.makePath p.directory (nameOf path) with
          | (.ok (), files) =>
            match files.find p.directory (nameOf path) with
            | .ok (location, _) => .ok ({ m with files := files.put location node }, said)
            | .error e => .error s!"cannot create directory {shown path}: {e.plain}"
          | (.error e, _) => .error s!"cannot create directory {shown path}: {e.plain}"
        else .error s!"cannot create regular file {shown path}: {OsError.notADirectory.plain}"
      | .error e =>
        if e = .notADirectory then .error s!"cannot stat {shown path}: {e.plain}"
        else if node.isDirectory then .error s!"cannot create directory {shown path}: {e.plain}"
        else .error s!"cannot create regular file {shown path}: {e.plain}"
      | .ok (.vacant above name) =>
        .ok ({ m with files := m.files.put (above ++ [name]) kept }, said)
      | .ok (.found location old) =>
        if location = from_ then .error s!"{shown source} and {shown path} are the same file"
        else if d.has 'n' then .ok (m, "")
        else
          match node, old with
          | .directory new, .directory before =>
            let joined := new.foldl
              (fun entries (name, n) => Node.setEntry name (some n) entries) before
            .ok ({ m with files := m.files.put location (.directory joined) }, said)
          | .directory _, _ =>
            .error s!"cannot overwrite non-directory {shown path} with directory {shown source}"
          | _, .directory _ =>
            .error s!"cannot overwrite directory {shown path} with non-directory"
          | .file content _, .file _ executable =>
            .ok ({ m with files := m.files.put location (.file content executable) }, said)
          | _, .device _ => .ok (m, said)
          | node, _ => .ok ({ m with files := m.files.put location node }, said)

/-- Where a new entry goes: its location, and what is there already. -/
def placeEntry (m : Machine) (p : Process) (path : String) :
    Except OsError (Location × Option Node) :=
  match m.entry p.directory path with
  | .ok (location, node) => .ok (location, some node)
  | .error e =>
    match m.place p.directory path with
    | .ok (.vacant above name) => .ok (above ++ [name], none)
    | .ok (.found location node) => .ok (location, some node)
    | .error .isADirectory => .error .notADirectory
    | .error _ => .error e

def moveOne (p : Process) (d : Demand) (target : String) : Action := fun m source =>
  match m.entry p.directory source with
  | .error e => .error s!"cannot stat {shown source}: {e.plain}"
  | .ok (from_, node) =>
    let path := m.destination p d source target
    let failed (e : OsError) : Except String (Machine × String) :=
      .error s!"cannot move {shown source} to {shown path}: {e.plain}"
    let said := saying (d.has 'v') s!"renamed {shown source} -> {shown path}"
    let bare := String.ofList (path.toList.reverse.dropWhile (· = '/')).reverse
    match m.placeEntry p (if node.isDirectory && bare != "" then bare else path) with
    | .error e => failed e
    | .ok (location, old) =>
      let moved : Machine := { m with files := (m.files.remove from_).put location node }
      if location = from_ then .error s!"{shown source} and {shown path} are the same file"
      else if d.has 'n' && old.isSome then .ok (m, "")
      else if from_.isPrefixOf location then
        .error s!"cannot move {shown source} to a subdirectory of itself, {shown path}"
      else
        match node, old with
        | .directory _, some (.directory []) => .ok (moved, said)
        | .directory _, some (.directory _) => failed .directoryNotEmpty
        | .directory _, some _ =>
          .error s!"cannot overwrite non-directory {shown path} with directory {shown source}"
        | _, some (.directory _) =>
          .error s!"cannot overwrite directory {shown path} with non-directory"
        | _, _ => .ok (moved, said)

def linkOne (p : Process) (d : Demand) (target : String) : Action := fun m source =>
  let soft := d.has 's'
  let kind := if soft then "symbolic" else "hard"
  let path :=
    if d.has 'n' && (m.entry p.directory target).toOption.any fun (_, n) => !n.isDirectory then
      target
    else m.destination p d source target
  let arrow := if soft then "->" else "=>"
  let said := saying (d.has 'v') s!"{shown path} {arrow} {shown source}"
  let failed (e : OsError) : Except String (Machine × String) :=
    .error s!"failed to create {kind} link {shown path}: {e.plain}"
  let node : Except String Node :=
    if soft then .ok (.link (nameOf source))
    else
      match m.entry p.directory source with
      | .ok (_, .directory _) => .error s!"{source}: hard link not allowed for directory"
      | .ok (_, node) => .ok node
      | .error e => .error s!"failed to access {shown source}: {e.plain}"
  match node, m.placeEntry p path with
  | .error text, _ => .error text
  | _, .error e => failed e
  | .ok node, .ok (location, old) =>
    if old.isSome && !d.has 'f' then failed .exists_
    else .ok ({ m with files := m.files.put location node }, said)

/-- Does something to all operands but the last one, which says where to. -/
def onEachBeforeLast (m : Machine) (p : Process) (called : String) (d : Demand)
    (action : String → Action) : Machine :=
  let run (target : String) (sources : List String) : Machine :=
    onEach p.pid called (action target) true sources m
  let into (target : String) (sources : List String) : Machine :=
    match m.find p.directory target with
    | .ok (_, .directory _) => run target sources
    | .ok _ =>
      m.complain p.pid s!"{called}: target {shown target}: {OsError.notADirectory.plain}" 1
    | .error e => m.complain p.pid s!"{called}: target {shown target}: {e.plain}" 1
  match d.value? 't', d.operands with
  | some target, sources => into target sources
  | none, [] => m.misused p.pid called "missing file operand" 1
  | none, [only] =>
    if called = "ln" then run "." [only]
    else m.misused p.pid called s!"missing destination file operand after {shown only}" 1
  | none, [source, target] => run target [source]
  | none, paths => into (paths.getLast?.getD "") paths.dropLast

def transferKnowledge : Knowledge :=
  ⟨"aAbdfHilLnpPrRsTuvx", "tS",
    [("archive", 'a'), ("force", 'f'), ("interactive", 'i'), ("no-clobber", 'n'),
      ("recursive", 'r'), ("verbose", 'v'), ("symbolic", 's'), ("no-target-directory", 'T'),
      ("target-directory", 't'), ("no-dereference", 'n'), ("preserve", 'p'), ("update", 'u')],
    false⟩

def runTransfer (m : Machine) (p : Process) (called : String) (args : List String)
    (action : Demand → String → Action) : Machine :=
  m.asked p.pid called transferKnowledge 1 args fun d =>
    m.onEachBeforeLast p called d (action d)

/-! ## Modes and sizes -/

/-- Whether a file may be executed after its mode has been changed; nothing for what is no
mode. -/
def executableAfter? (before : Bool) (mode : String) : Option Bool :=
  let text := mode.toList
  if !text.isEmpty && text.all Shell.Printing.isOctal then
    if Shell.Printing.octalValue text ≤ 0o7777 then
      some (Shell.Printing.octalValue text &&& 0o111 != 0)
    else none
  else
    (text.splitOn ',').foldl (fun (now : Option Bool) part =>
      match now, part.dropWhile fun c => ['u', 'g', 'o', 'a'].contains c with
      | none, _ => none
      | some now, op :: letters =>
        let sets := letters.contains 'x' || (letters.contains 'X' && now)
        if !letters.all fun c => "rwxXstugo".toList.contains c then none
        else if op = '+' then some (now || sets)
        else if op = '-' then some (now && !sets)
        else if op = '=' then some sets
        else none
      | some _, [] => none) (some before)

def changeOne (p : Process) (mode : String) : Action := fun m path =>
  match m.find p.directory path with
  | .error e => .error s!"cannot access {shown path}: {e.plain}"
  | .ok (location, .file content executable) =>
    let now := (executableAfter? executable mode).getD executable
    .ok ({ m with files := m.files.put location (.file content now) }, "")
  | .ok _ => .ok (m, "")

def runChangeMode (m : Machine) (p : Process) (called : String) (args : List String) : Machine :=
  -- a mode may begin with a hyphen
  let isMode (arg : String) : Bool :=
    match arg.toList with
    | '-' :: c :: _ => "rwxXst".toList.contains c
    | _ => false
  let spelt := (args.span fun a => a.toList.head? = some '-' && !isMode a && a != "--")
  let args := spelt.1 ++ (if spelt.2.head?.any isMode then "--" :: spelt.2 else spelt.2)
  m.asked p.pid called
    ⟨"Rcfv", "", [("recursive", 'R'), ("changes", 'c'), ("quiet", 'f'), ("verbose", 'v')], false⟩ 1
    args fun d =>
    match d.operands with
    | [] => m.misused p.pid called "missing operand" 1
    | mode :: paths =>
      if (executableAfter? false mode).isNone then
        m.misused p.pid called s!"invalid mode: {shown mode}" 1
      else if paths.isEmpty then
        m.misused p.pid called s!"missing operand after {shown mode}" 1
      else onEach p.pid called (changeOne p mode) true paths m

def resizeOne (p : Process) (d : Demand) (sign : Char) (size : Nat) : Action := fun m path =>
  if d.has 'c' && (m.find p.directory path).toOption.isNone then .ok (m, "")
  else
    match m.files.create p.directory (nameOf path) with
    | .error e => .error s!"cannot open {shown path} for writing: {e.plain}"
    | .ok (location, files) =>
      let change (content : List UInt8) : List UInt8 :=
        let wanted :=
          if sign = '+' then content.length + size
          else if sign = '-' then content.length - size
          else size
        content.take wanted ++ List.replicate (wanted - content.length) 0
      .ok ({ m with files := files.edit location change }, "")

def runResize (m : Machine) (p : Process) (called : String) (args : List String) : Machine :=
  m.asked p.pid called ⟨"co", "sr", [("size", 's'), ("no-create", 'c'), ("reference", 'r')], false⟩
    1 args fun d =>
    match d.value? 's' with
    | none =>
      m.misused p.pid called "you must specify either \x27--size\x27 or \x27--reference\x27" 1
    | some text =>
      let (sign, digits) :=
        match text.toList with
        | '+' :: rest => ('+', rest)
        | '-' :: rest => ('-', rest)
        | rest => ('=', rest)
      match Filter.count? digits with
      | none => m.complain p.pid s!"{called}: Invalid number: {shown text}" 1
      | some size =>
        if d.operands.isEmpty then m.misused p.pid called "missing file operand" 1
        else onEach p.pid called (resizeOne p d sign size) true d.operands m

/-! ## Listing -/

/-- What is put after the name of a file to show its kind. -/
def kindMark (d : Demand) (node : Option Node) : String :=
  match node with
  | some (.directory _) => if d.hasAny "Fp" then "/" else ""
  | some (.link _) => if d.has 'F' then "@" else ""
  | some (.file _ true) | some (.tool _) => if d.has 'F' then "*" else ""
  | _ => ""

def listedNames (m : Machine) (d : Demand) (location : Location) : List String :=
  let names := (m.namesAt location).filter fun n =>
    d.hasAny "aA" || n.toList.head? != some '.'
  if d.has 'r' then names.reverse else names

def shownNames (m : Machine) (d : Demand) (location : Location) : List String :=
  let names := (m.listedNames d location).map fun n =>
    n ++ kindMark d (m.files.at? (location ++ [nameOf n]))
  let around := ([".", ".."].map (· ++ if d.hasAny "Fp" then "/" else ""))
  if !d.has 'a' then names
  else if d.has 'r' then names ++ around.reverse
  else around ++ names

/-- A directory and the directories below it, in the order in which they are listed. -/
def directoriesBelow (m : Machine) (d : Demand) :
    (depth : Nat) → String × Location → List (String × Location)
  | 0, place => [place]
  | depth + 1, (path, location) =>
    let inner := (m.listedNames d location).filterMap fun n =>
      let there := location ++ [nameOf n]
      match m.files.at? there with
      | some (.directory _) => some (Path.join path n, there)
      | _ => none
    (path, location) :: inner.flatMap fun place => directoriesBelow m d depth place

def deepestListing : Nat := 40

def asLines (names : List String) : String := String.join (names.map (· ++ "\n"))

def runList (m : Machine) (p : Process) (called : String) (args : List String) : Machine :=
  m.asked p.pid called
    ⟨"1aAbBcCdfFgGhHiklLmnNopqQrRsStuUvxXZ", "ITw",
      [("all", 'a'), ("almost-all", 'A'), ("directory", 'd'), ("reverse", 'r'),
        ("recursive", 'R'), ("classify", 'F')], false⟩ 2 args fun d =>
    let operands := if d.operands.isEmpty then ["."] else d.operands.mergeSort (· ≤ ·)
    let lookUp (path : String) : Except OsError (Location × Node) :=
      match m.find p.directory path, m.entry p.directory path with
      | .ok r, there => if d.hasAny "dF" then there else .ok r
      | .error e, there => there.mapError fun _ => e
    let found := operands.map fun path => (path, lookUp path)
    let complaints := String.join (found.filterMap fun (path, r) =>
      match r with
      | .error e => some s!"{called}: cannot access {shown path}: {e.plain}\n"
      | .ok _ => none)
    let files := found.filterMap fun (path, r) =>
      match r with
      | .ok (_, node) =>
        if node.isDirectory && !d.has 'd' then none else some (path ++ kindMark d (some node))
      | .error _ => none
    let directories := found.filterMap fun (path, r) =>
      match r with
      | .ok (location, .directory _) => if d.has 'd' then none else some (path, location)
      | _ => none
    let directories :=
      if d.has 'R' then directories.flatMap (m.directoriesBelow d deepestListing) else directories
    let headed := operands.length > 1 || d.has 'R'
    let sections := directories.map fun (path, location) =>
      (if headed then path ++ ":\n" else "") ++ asLines (m.shownNames d location)
    let parts := (if files.isEmpty then [] else [asLines files]) ++ sections
    (m.say p.pid 2 complaints).conclude p.pid (Text.Octets.bytes ("\n".intercalate parts)) ""
      (if complaints = "" then 0 else 2)

/-! ## Where paths lead -/

def runReadLink (m : Machine) (p : Process) (called : String) (args : List String) : Machine :=
  m.asked p.pid called
    ⟨"femnqsvz", "",
      [("canonicalize", 'f'), ("canonicalize-existing", 'e'), ("canonicalize-missing", 'm'),
        ("no-newline", 'n')], false⟩ 1 args fun d =>
    let resolve (path : String) : Option String :=
      if d.hasAny "fem" then
        match m.place p.directory path with
        | .ok (.found location _) => some (absolute location)
        | .ok (.vacant above name) =>
          if d.has 'e' then none else some (absolute (above ++ [name]))
        | .error _ => none
      else
        match m.entry p.directory path with
        | .ok (_, .link target) => some target
        | _ => none
    let found := d.operands.map resolve
    if d.operands.isEmpty then m.misused p.pid called "missing operand" 1
    else
      let lines := found.filterMap id
      let ending := if d.has 'n' && found.length = 1 then "" else "\n"
      m.conclude p.pid
        (Text.Octets.bytes (String.join (lines.map fun l => Text.Octets.ofText l ++ ending))) ""
        (if found.all Option.isSome then 0 else 1)

/-- Writes one path without links. -/
def resolveOne (p : Process) (d : Demand) : Action := fun m path =>
  match m.place p.directory path with
  | .ok (.found location _) => .ok (m, Text.Octets.ofText (absolute location) ++ "\n")
  | .ok (.vacant above name) =>
    if d.has 'e' then .error s!"{Text.Quoting.ifNeeded path}: {OsError.noSuchFile.plain}"
    else .ok (m, Text.Octets.ofText (absolute (above ++ [name])) ++ "\n")
  | .error e => .error s!"{Text.Quoting.ifNeeded path}: {e.plain}"

def runResolve (m : Machine) (p : Process) (called : String) (args : List String) : Machine :=
  m.asked p.pid called ⟨"emLPqsz", "", [("canonicalize-existing", 'e'), ("quiet", 'q')], false⟩ 1
    args fun d =>
    if d.operands.isEmpty then m.misused p.pid called "missing operand" 1
    else onEach p.pid called (resolveOne p d) true d.operands m

/-! ## Fresh names -/

def freshLetterChoice : List Char :=
  "abcdefghijklmnopqrstuvwxyzABCDEFGHIJKLMNOPQRSTUVWXYZ0123456789".toList

def freshText (n : Nat) : (count : Nat) → List Char
  | 0 => []
  | count + 1 =>
    freshLetterChoice.getD (n % freshLetterChoice.length) 'a' ::
      freshText (n / freshLetterChoice.length + 7919 * (count + 1)) count

/-- Creates a file or a directory with a fresh name. -/
def runFresh (m : Machine) (p : Process) (called : String) (args : List String) : Machine :=
  m.asked p.pid called
    ⟨"duqt", "p", [("directory", 'd'), ("dry-run", 'u'), ("quiet", 'q'), ("tmpdir", 'p')], false⟩ 1
    args fun d =>
    let template := d.operands.head?.getD "tmp.XXXXXXXXXX"
    let template :=
      if d.operands.isEmpty || d.hasAny "tp" then
        Path.join ((d.value? 'p').getD "/tmp") template
      else template
    let cs := template.toList
    let count := (cs.reverse.takeWhile (· = 'X')).length
    if count < 3 then m.complain p.pid s!"{called}: too few X\x27s in template {shown template}" 1
    else
      let letters := freshText (m.now / 1000 + p.pid * 1000003) count
      let path := String.ofList (cs.take (cs.length - count) ++ letters)
      let what := if d.has 'd' then "directory" else "file"
      let failed (e : OsError) : Machine :=
        m.complain p.pid
          s!"{called}: failed to create {what} via template {shown template}: {e.plain}" 1
      if d.has 'u' then m.answer p.pid (path ++ "\n")
      else
        match m.place p.directory path with
        | .ok (.vacant above name) =>
          let node : Node := if d.has 'd' then .directory [] else .file [] false
          Machine.answer { m with files := m.files.put (above ++ [name]) node } p.pid
            (path ++ "\n")
        | .ok (.found _ _) => failed .exists_
        | .error e => failed e

end SyscallProfiler.Machine
