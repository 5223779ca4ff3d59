import SyscallProfiler.Collector

/-!
# Command lines of the collector read back

The collector reads its command line from the left. It takes options as long as there are any, and
what is left when they end is the command to start. An argument of an option is taken with it,
whatever it looks like, and nothing in the command is taken for an option once its first part is
none. So a command line can be read in only one way, and those that are made for a collector say
what they were made to say.
-/

namespace SyscallProfiler.Collector

/-! ## Readings -/

/-- An option of the collector, with its argument if it takes one. -/
inductive Switch where
  /-- Calls are counted instead of listed. -/
  | count
  /-- New processes are followed. -/
  | follow
  | process (target : String)
  | output (file : String)
deriving DecidableEq, Repr

def Switch.names : List String := ["-c", "-f", "-p", "-o"]

/-- How an option is written. -/
def Switch.tokens : Switch → List String
  | .count => ["-c"]
  | .follow => ["-f"]
  | .process target => ["-p", target]
  | .output file => ["-o", file]

/-- What a command line says. -/
structure Reading where
  switches : List Switch
  /-- What is to be started. -/
  command : List String
deriving DecidableEq, Repr

/-- The reading with one more option before its own. -/
def Reading.cons (s : Switch) (r : Reading) : Reading := { r with switches := s :: r.switches }

/-- Reads a command line from the left, up to the first part that is not an option. An option that
lacks its argument cannot be read. -/
def scan : List String → Option Reading
  | "-c" :: rest => (scan rest).map (.cons .count)
  | "-f" :: rest => (scan rest).map (.cons .follow)
  | "-p" :: target :: rest => (scan rest).map (.cons (.process target))
  | "-o" :: file :: rest => (scan rest).map (.cons (.output file))
  | ["-p"] | ["-o"] => none
  | command => some ⟨[], command⟩

/-- The command line consists of the options of the reading and then of its command, which does
not begin like an option. -/
structure Reading.Spells (r : Reading) (args : List String) : Prop where
  args_eq : args = r.switches.flatMap Switch.tokens ++ r.command
  ends : ∀ token ∈ r.command.head?, token ∉ Switch.names

variable {args rest command : List String} {r r' : Reading}

theorem Reading.Spells.cons (s : Switch) (h : r.Spells rest) :
    (r.cons s).Spells (s.tokens ++ rest) where
  args_eq := by rw [h.args_eq, Reading.cons, List.flatMap_cons, List.append_assoc]
  ends := h.ends

/-- One option is read in one step, and the rest as if it stood alone. -/
theorem scan_tokens (s : Switch) (rest : List String) :
    scan (s.tokens ++ rest) = (scan rest).map (.cons s) := by
  cases s <;> rfl

theorem scan_command (ends : ∀ token ∈ command.head?, token ∉ Switch.names) :
    scan command = some ⟨[], command⟩ := by
  cases command with
  | nil => rfl
  | cons token rest =>
      have other : token ∉ Switch.names := ends token rfl
      simp only [Switch.names, List.mem_cons, List.not_mem_nil, or_false, not_or] at other
      obtain ⟨noCount, noFollow, noProcess, noOutput⟩ := other
      rw [scan] <;> simp_all

/-- A command line is read as what it spells and as nothing else. -/
theorem scan_eq_some_iff : scan args = some r ↔ r.Spells args := by
  constructor
  · intro read
    fun_induction scan args generalizing r with
    | case1 rest ih | case2 rest ih | case3 target rest ih | case4 file rest ih =>
        obtain ⟨inner, readRest, rfl⟩ := Option.map_eq_some_iff.mp read
        exact (ih readRest).cons _
    | case5 => cases read
    | case6 => cases read
    | case7 command noCount noFollow noProcess noOutput noTarget noFile =>
        cases read
        refine ⟨rfl, fun token first named => ?_⟩
        obtain ⟨rest, rfl⟩ := List.head?_eq_some_iff.mp first
        simp only [Switch.names, List.mem_cons, List.not_mem_nil, or_false] at named
        obtain rfl | rfl | rfl | rfl := named
        · exact noCount rest rfl
        · exact noFollow rest rfl
        · cases rest with
          | nil => exact noTarget rfl
          | cons target rest => exact noProcess target rest rfl
        · cases rest with
          | nil => exact noFile rfl
          | cons file rest => exact noOutput file rest rfl
  · rintro ⟨rfl, ends⟩
    obtain ⟨switches, command⟩ := r
    induction switches with
    | nil => exact scan_command ends
    | cons s switches ih =>
        rw [List.flatMap_cons, List.append_assoc, scan_tokens, ih ends]
        rfl

theorem Reading.Spells.unique (h : r.Spells args) (h' : r'.Spells args) : r' = r :=
  Option.some.inj ((scan_eq_some_iff.mpr h').symm.trans (scan_eq_some_iff.mpr h))

/-! ## What a collector is told -/

/-- The options by which a collector is told what to record. -/
def counting (c : Collector) : List Switch := if c.granularity = .summary then [.count] else []

variable {c c' : Collector}

theorem granularityArgs_eq (c : Collector) :
    c.granularityArgs = c.counting.flatMap Switch.tokens := by
  rw [granularityArgs, counting]
  cases c.granularity <;> rfl

theorem counting_eq_iff : c.counting = c'.counting ↔ c.granularity = c'.granularity := by
  rw [counting, counting]
  cases c.granularity <;> cases c'.granularity <;> decide

/-- What a collector is told that is to attach to a process. -/
def attaching (c : Collector) (pid : Nat) : Reading :=
  ⟨c.counting ++ [.process (toString pid), .output c.output], []⟩

/-- What a collector is told that is to start an interpreter on a script. -/
def starting (c : Collector) (interpreter : List String) (script : String) : Reading :=
  ⟨c.counting ++ [.follow, .output c.output], interpreter ++ [script]⟩

theorem attaching_spells (c : Collector) (pid : Nat) :
    (c.attaching pid).Spells (c.attachArgs pid) where
  args_eq := by
    simp [attachArgs, attaching, granularityArgs_eq, outputArgs, Switch.tokens]
  ends := nofun

theorem starting_spells (c : Collector) {program : String} (known : program ∉ Switch.names)
    (arguments : List String) (script : String) :
    (c.starting (program :: arguments) script).Spells
      (c.spawnArgs (program :: arguments) script) where
  args_eq := by
    simp [spawnArgs, starting, granularityArgs_eq, outputArgs, Switch.tokens]
  ends := by
    rintro token ⟨⟩
    exact known

theorem attaching_inj {pid pid' : Nat} : c.attaching pid = c'.attaching pid' ↔
    c.granularity = c'.granularity ∧ c.output = c'.output ∧ pid = pid' := by
  rw [attaching, attaching, Reading.mk.injEq, ← counting_eq_iff]
  constructor
  · rintro ⟨same, -⟩
    obtain ⟨counted, rest⟩ := List.append_inj' same rfl
    obtain ⟨target, file⟩ : pid.repr = pid'.repr ∧ c.output = c'.output := by simpa using rest
    rw [Nat.repr_eq_ofList_toDigits, Nat.repr_eq_ofList_toDigits, String.ofList_inj] at target
    refine ⟨counted, file, ?_⟩
    calc
      pid = Nat.ofDigitChars 10 (Nat.toDigits 10 pid) 0 := Nat.ofDigitChars_ten_toDigits.symm
      _ = Nat.ofDigitChars 10 (Nat.toDigits 10 pid') 0 := by rw [target]
      _ = pid' := Nat.ofDigitChars_ten_toDigits
  · rintro ⟨counted, file, rfl⟩
    exact ⟨by rw [counted, file], rfl⟩

theorem starting_inj {interpreter interpreter' : List String} {script script' : String} :
    c.starting interpreter script = c'.starting interpreter' script' ↔
      c.granularity = c'.granularity ∧ c.output = c'.output ∧
        interpreter = interpreter' ∧ script = script' := by
  rw [starting, starting, Reading.mk.injEq, ← counting_eq_iff]
  constructor
  · rintro ⟨same, started⟩
    obtain ⟨counted, rest⟩ := List.append_inj' same rfl
    obtain ⟨run, last⟩ := List.append_inj' started rfl
    exact ⟨counted, by simpa using rest, run, by simpa using last⟩
  · rintro ⟨counted, file, rfl, rfl⟩
    exact ⟨by rw [counted, file], rfl⟩

/-- A collector reads back what its command line was made of, and the command line could not have
been read in another way. Attached to a process, it counts calls if and only if a summary is to be
recorded, attaches to that process, writes the artifact and starts nothing. Starting an interpreter
whose first part is none of its options, it counts calls under the same condition, follows new
processes, writes the artifact and starts that interpreter on that script. Neither the path of the
artifact nor the other parts of the interpreter are ever taken for options, whatever they look
like. What is read differs as soon as any of this does. -/
theorem args_read_back (c : Collector) :
    (∀ pid, scan (c.attachArgs pid) = some (c.attaching pid) ∧
      ∀ r : Reading, r.Spells (c.attachArgs pid) → r = c.attaching pid) ∧
    (∀ program arguments script, program ∉ Switch.names →
      let interpreter := program :: arguments
      scan (c.spawnArgs interpreter script) = some (c.starting interpreter script) ∧
        ∀ r : Reading, r.Spells (c.spawnArgs interpreter script) →
          r = c.starting interpreter script) ∧
    (∀ (c' : Collector) pid pid', c.attaching pid = c'.attaching pid' ↔
      c.granularity = c'.granularity ∧ c.output = c'.output ∧ pid = pid') ∧
    ∀ (c' : Collector) interpreter interpreter' script script',
      c.starting interpreter script = c'.starting interpreter' script' ↔
        c.granularity = c'.granularity ∧ c.output = c'.output ∧
          interpreter = interpreter' ∧ script = script' := by
  refine ⟨fun pid => ?_, fun program arguments script known => ?_,
    fun _ _ _ => attaching_inj, fun _ _ _ _ _ => starting_inj⟩
  · have spelled := c.attaching_spells pid
    exact ⟨scan_eq_some_iff.mpr spelled, fun r other => spelled.unique other⟩
  · have spelled := c.starting_spells known arguments script
    exact ⟨scan_eq_some_iff.mpr spelled, fun r other => spelled.unique other⟩

/-- An artifact, an argument of the interpreter and a script that all look like options. -/
theorem args_read_back_dashes :
    let c : Collector := ⟨"strace", .summary, "-p"⟩
    "sh" ∉ Switch.names ∧
      c.spawnArgs ["sh", "-o", "-c"] "-f" = ["-c", "-f", "-o", "-p", "sh", "-o", "-c", "-f"] ∧
      scan (c.spawnArgs ["sh", "-o", "-c"] "-f") =
        some ⟨[.count, .follow, .output "-p"], ["sh", "-o", "-c", "-f"]⟩ ∧
      ∀ r : Reading, r.Spells (c.spawnArgs ["sh", "-o", "-c"] "-f") →
        r = ⟨[.count, .follow, .output "-p"], ["sh", "-o", "-c", "-f"]⟩ := by
  intro c
  have known : "sh" ∉ Switch.names := by decide
  exact ⟨known, rfl, (args_read_back c).2.1 "sh" ["-o", "-c"] "-f" known⟩

end SyscallProfiler.Collector
