import SyscallProfiler.CommandLine.Run
import SyscallProfiler.Proofs.Invocation.Interpreter
import SyscallProfiler.Proofs.Toml.Document

/-!
# Where the settings of a run come from

Each key of the settings is given by an option, or else by the file, or else by the standard
settings. Keys have names and types of their own, so that one statement says this of all of them.
What comes out in this way is judged before it is used; and what the file gives is judged before
that by itself, without the options.
-/

namespace SyscallProfiler

open Toml

theorem Decode.exists_of_map_eq_ok {α β : Type} {r : Decode.Result α} {f : α → β} {b : β}
    (h : r.map f = .ok b) : ∃ a, r = .ok a ∧ f a = b := by
  cases r with
  | error e => cases h
  | ok a =>
      cases h
      exact ⟨a, rfl, rfl⟩

namespace Settings

/-! ## Keys -/

/-- A key of the settings. -/
inductive Key where
  | collector
  | interpreter
  | benchmarksRoot
  | outputDir
  | scriptDir
  | workload
  | readiness
  | settleDelayMs
  | attachDeadlineMs
  | stopTimeoutMs
  | spawnTimeoutSecs
  | inputs
deriving DecidableEq, Repr

namespace Key

/-- What a key stands for. -/
@[reducible] def Value : Key → Type
  | .collector | .benchmarksRoot | .outputDir | .workload => String
  | .interpreter => List String
  | .scriptDir => Option String
  | .readiness => Readiness
  | .settleDelayMs | .attachDeadlineMs | .stopTimeoutMs | .spawnTimeoutSecs => Nat
  | .inputs => List (String × Payload)

/-- All keys, in the order of their declaration. -/
def all : List Key :=
  [.collector, .interpreter, .benchmarksRoot, .outputDir, .scriptDir, .workload, .readiness,
    .settleDelayMs, .attachDeadlineMs, .stopTimeoutMs, .spawnTimeoutSecs, .inputs]

/-- The name of a key in a file. -/
def name : Key → String
  | .collector => "collector"
  | .interpreter => "interpreter"
  | .benchmarksRoot => "benchmarks_root"
  | .outputDir => "output_dir"
  | .scriptDir => "script_dir"
  | .workload => "workload"
  | .readiness => "readiness"
  | .settleDelayMs => "settle_delay_ms"
  | .attachDeadlineMs => "attach_deadline_ms"
  | .stopTimeoutMs => "stop_timeout_ms"
  | .spawnTimeoutSecs => "spawn_timeout_secs"
  | .inputs => "inputs"

def get : (k : Key) → Settings → k.Value
  | .collector, s => s.collector
  | .interpreter, s => s.interpreter
  | .benchmarksRoot, s => s.benchmarksRoot
  | .outputDir, s => s.outputDir
  | .scriptDir, s => s.scriptDir
  | .workload, s => s.workload
  | .readiness, s => s.readiness
  | .settleDelayMs, s => s.settleDelayMs
  | .attachDeadlineMs, s => s.attachDeadlineMs
  | .stopTimeoutMs, s => s.stopTimeoutMs
  | .spawnTimeoutSecs, s => s.spawnTimeoutSecs
  | .inputs, s => s.inputs

def put : (k : Key) → Settings → k.Value → Settings
  | .collector, s, x => { s with collector := x }
  | .interpreter, s, x => { s with interpreter := x }
  | .benchmarksRoot, s, x => { s with benchmarksRoot := x }
  | .outputDir, s, x => { s with outputDir := x }
  | .scriptDir, s, x => { s with scriptDir := x }
  | .workload, s, x => { s with workload := x }
  | .readiness, s, x => { s with readiness := x }
  | .settleDelayMs, s, x => { s with settleDelayMs := x }
  | .attachDeadlineMs, s, x => { s with attachDeadlineMs := x }
  | .stopTimeoutMs, s, x => { s with stopTimeoutMs := x }
  | .spawnTimeoutSecs, s, x => { s with spawnTimeoutSecs := x }
  | .inputs, s, x => { s with inputs := x }

/-- Decodes what a file gives for a key. -/
def decode (readiness : Json → Decode.Result Readiness) : (k : Key) → Json → Decode.Result k.Value
  | .collector, v | .workload, v => Decode.string v
  | .interpreter, v => Decode.list Decode.string v
  | .benchmarksRoot, v | .outputDir, v => Decode.path v
  | .scriptDir, v => Decode.option Decode.path v
  | .readiness, v => readiness v
  | .settleDelayMs, v | .attachDeadlineMs, v | .stopTimeoutMs, v | .spawnTimeoutSecs, v =>
    Decode.nat64 v
  | .inputs, v => decodeInputs .toml v

/-- What an option gives for a key. The other keys have no option. -/
def option? (o : Options) : (k : Key) → Option k.Value
  | .collector => o.collector
  | .interpreter => none
  | .benchmarksRoot => o.benchmarks
  | .outputDir => o.outputDir
  | .scriptDir => none
  | .workload => o.workload
  | .readiness => o.readiness
  | .settleDelayMs => o.settleDelayMs
  | .attachDeadlineMs => none
  | .stopTimeoutMs => none
  | .spawnTimeoutSecs => o.spawnTimeout
  | .inputs => none

theorem get_put (k : Key) (s : Settings) (x : k.Value) : k.get (k.put s x) = x := by
  cases k <;> rfl

theorem get_put_of_ne {k other : Key} (h : k ≠ other) (s : Settings) (x : other.Value) :
    k.get (other.put s x) = k.get s := by
  cases other <;> cases k <;> first | rfl | exact absurd rfl h

theorem name_inj {k other : Key} : k.name = other.name ↔ k = other := by
  constructor
  · cases other <;> cases k <;> first | exact fun _ => rfl | decide
  · rintro rfl
    rfl

/-- Settings that have the same for every key are the same. -/
theorem ext {s t : Settings} (same : ∀ k : Key, k.get s = k.get t) : s = t := by
  cases s
  cases t
  rw [Settings.mk.injEq]
  exact ⟨same .collector, same .interpreter, same .benchmarksRoot, same .outputDir,
    same .scriptDir, same .workload, same .readiness, same .settleDelayMs, same .attachDeadlineMs,
    same .stopTimeoutMs, same .spawnTimeoutSecs, same .inputs⟩

/-- Only the readiness is decoded from an item and not from its tree. -/
theorem decode_eq {k : Key} (h : k ≠ .readiness) (readiness other : Json → Decode.Result Readiness)
    (v : Json) : k.decode readiness v = k.decode other v := by
  cases k <;> first | rfl | exact absurd rfl h

end Key

/-! ## What a file gives -/

section Fill

variable (readiness : Json → Decode.Result Readiness)

/-- The field that is read into a key. -/
def Key.field (k : Key) : Decode.Field Settings :=
  ⟨k.name, fun s v => (k.decode readiness v).map (k.put s), true⟩

theorem record_fields : (record .toml readiness).fields = Key.all.map (Key.field readiness) := rfl

variable {readiness}

theorem exists_of_field? {name : String} {f : Decode.Field Settings}
    (known : (record .toml readiness).field? name = some f) :
    ∃ k : Key, k.name = name ∧ f = k.field readiness := by
  have member := List.mem_of_find?_eq_some known
  have named := List.find?_some known
  rw [record_fields, List.mem_map] at member
  obtain ⟨k, -, rfl⟩ := member
  exact ⟨k, eq_of_beq named, rfl⟩

/-- What settings have for a key after a file has been read: what the file binds the key to, and
what was there before if it does not. -/
theorem get_of_fillFields (k : Key) {fields : Json.Fields} {draft s : Settings}
    (distinct : (fields.map Prod.fst).Nodup)
    (filled : (record .toml readiness).fillFields draft fields = .ok s) :
    match Json.lookup k.name fields with
    | none => k.get s = k.get draft
    | some v => k.decode readiness v = .ok (k.get s) := by
  induction fields generalizing draft with
  | nil =>
      cases filled
      rfl
  | cons binding rest ih =>
      obtain ⟨key, v⟩ := binding
      rw [List.map_cons, List.nodup_cons] at distinct
      rw [Decode.Record.fillFields] at filled
      split at filled
      · next f known =>
          obtain ⟨other, rfl, rfl⟩ := exists_of_field? known
          split at filled
          · cases filled
          · next draft' put =>
              obtain ⟨x, decoded, rfl⟩ := Decode.exists_of_map_eq_ok put
              have later := ih distinct.2 filled
              rw [Json.lookup]
              by_cases same : other = k
              · -- The key is not bound again, so what has been put in stays.
                subst same
                rw [Json.lookup_eq_none_iff.mpr distinct.1] at later
                dsimp only at later
                rw [if_pos rfl, later, Key.get_put]
                exact decoded
              · rw [if_neg (mt Key.name_inj.mp same)]
                rwa [Key.get_put_of_ne (Ne.symm same)] at later
      · cases filled

end Fill

/-- What a document gives for a key; the standard settings if it does not bind it. -/
def Key.FromFile (document : Item) (k : Key) (x : k.Value) : Prop :=
  match document.get? k.name with
  | none => x = k.get standard
  | some item => k.decode (fun _ => item.choice Readiness.byName) item.toJson = .ok x

/-- Settings that were read from a document have for each key what the document gives. -/
theorem fromFile_of_ofDocument {document : Item} (distinct : document.Distinct) {s : Settings}
    (decoded : ofDocument document = .ok s) (k : Key) : k.FromFile document (k.get s) := by
  cases distinct with
  | @table implicit dotted items distinct =>
      rw [← Item.map_fst_itemsToJson] at distinct
      have given := get_of_fillFields k distinct decoded
      rw [Item.lookup_itemsToJson] at given
      rw [Key.FromFile, Item.get?]
      cases bound : Json.lookup k.name items with
      | none =>
          rw [bound] at given
          exact given
      | some item =>
          rw [bound] at given
          -- The readiness is decoded from the item, which is where its key is bound.
          by_cases readiness : k = .readiness
          · subst readiness
            have here : Json.lookup "readiness" items = some item := bound
            simpa [Key.decode, Item.get?, here] using given
          · exact (Key.decode_eq readiness _ _ _).trans given

/-! ## What a run gets -/

/-- Settings that have for each key what its option gives, or else what the document gives. -/
def IsMerged (o : Options) (document : Item) (s : Settings) : Prop :=
  ∀ k : Key, match k.option? o with
    | some x => k.get s = x
    | none => k.FromFile document (k.get s)

theorem Key.get_applyTo (k : Key) (o : Options) (s : Settings) :
    k.get (o.applyTo s) = (k.option? o).getD (k.get s) := by
  cases k <;> rfl

theorem isMerged_applyTo {document : Item} {own : Settings}
    (given : ∀ k : Key, k.FromFile document (k.get own)) (o : Options) :
    IsMerged o document (o.applyTo own) := by
  intro k
  rw [k.get_applyTo]
  cases k.option? o with
  | none => exact given k
  | some x => rfl

theorem Key.FromFile.unique {document : Item} {k : Key} {x y : k.Value}
    (hx : k.FromFile document x) (hy : k.FromFile document y) : x = y := by
  rw [FromFile] at hx hy
  cases bound : document.get? k.name with
  | none =>
      rw [bound] at hx hy
      exact hx.trans hy.symm
  | some item =>
      rw [bound] at hx hy
      exact Except.ok.inj (hx.symm.trans hy)

/-- There are no two ways to merge. -/
theorem IsMerged.unique {o : Options} {document : Item} {s t : Settings}
    (hs : IsMerged o document s) (ht : IsMerged o document t) : s = t := by
  refine Key.ext fun k => ?_
  have first := hs k
  have second := ht k
  cases option : k.option? o with
  | none =>
      rw [option] at first second
      exact first.unique second
  | some x =>
      rw [option] at first second
      exact first.trans second.symm

/-- What a file gives has been read from a document that binds no key twice. -/
theorem exists_of_read {text : String} {own : Settings} (decoded : read text = .ok own) :
    ∃ document, Toml.read text = some document ∧ document.Distinct ∧
      ofDocument document = .ok own := by
  rw [read] at decoded
  split at decoded
  · cases decoded
  · next document toml =>
      refine ⟨document, toml, read_distinct toml, ?_⟩
      split at decoded
      · cases decoded
      · next s ofDocument =>
          cases decoded
          exact ofDocument

theorem read_eq_ok {text : String} {own : Settings} (h : (read text).toOption = some own) :
    read text = .ok own := by
  cases decoded : read text with
  | error e =>
      rw [decoded] at h
      cases h
  | ok s =>
      rw [decoded] at h
      cases h
      rfl

end Settings

namespace CommandLine

section

variable {σ : Type} {host : Host σ} {st : σ} {o : Options} {path text : String} {own : Settings}

/-- What a file gives is judged by itself first, and then with the options. -/
theorem run_loadSettings (named : o.settingsFile = some path)
    (readable : (host st (.readText path)).1 = .ok text) (decoded : Settings.read text = .ok own) :
    ((loadSettings o).run host st).1 =
      match own.validate with
      | .error e => .error (.unreadable path (.settings e))
      | .ok () =>
        match (o.applyTo own).validate with
        | .error e => .error (.invalid e)
        | .ok () => .ok (o.applyTo own) := by
  have judged : Settings.ofToml text = own.validate.map fun _ => own := by
    simp only [Settings.ofToml, decoded]
  simp only [loadSettings, settingsOf, named, Program.request, Program.bind_eq, Program.ask_bind,
    Program.done_bind, Program.pure_eq, Program.run_ask, readable, judged, Option.getD_some]
  cases own.validate with
  | error e => rfl
  | ok _ =>
      dsimp only [Except.map, Program.done_bind]
      cases (o.applyTo own).validate with
      | error e => rfl
      | ok _ => rfl

/-- There is one way to merge what the options, a file and the standard settings give for each
key. A run gets the settings that are merged in this way, and it gets them exactly if they break
no rule and what the file gives without the options breaks none either. -/
theorem loadSettings_ok_iff (named : o.settingsFile = some path)
    (readable : (host st (.readText path)).1 = .ok text) (decoded : Settings.read text = .ok own) :
    let merged := o.applyTo own
    ∃ document, Toml.read text = some document ∧
      Settings.IsMerged .none_ document own ∧ Settings.IsMerged o document merged ∧
      (∀ other, Settings.IsMerged o document other → other = merged) ∧
      ∀ result, ((loadSettings o).run host st).1 = .ok result ↔
        own.validate = .ok () ∧ merged.validate = .ok () ∧ result = merged := by
  intro merged
  obtain ⟨document, toml, distinct, ofDocument⟩ := Settings.exists_of_read decoded
  have given := Settings.fromFile_of_ofDocument distinct ofDocument
  have isMerged := Settings.isMerged_applyTo given o
  refine ⟨document, toml, Settings.isMerged_applyTo given .none_, isMerged, ?_, ?_⟩
  · intro other isMerged'
    exact isMerged'.unique isMerged
  · intro result
    rw [run_loadSettings named readable decoded]
    cases own.validate with
    | error e => simp
    | ok _ =>
        cases (o.applyTo own).validate with
        | error e => simp [merged]
        | ok _ => simp [merged, eq_comm]

end

/-- Options that name a file and put a limit over the one in it. -/
def limitOptions : Options :=
  { Options.none_ with settingsFile := some "c.toml", spawnTimeout := some 5, list := true }

theorem readText_plainHost (text path : String) :
    (Interpreter.plainHost text (.ok .null) default (.readText path)).1 = .ok text := rfl

/-- A file with two keys. -/
def colText : String := "collector = \"col\"\nspawn_timeout_secs = 9\n"

theorem read_colText : Settings.read colText =
    .ok { Settings.standard with collector := "col", spawnTimeoutSecs := 9 } :=
  Settings.read_eq_ok (by decide +kernel)

theorem loadSettings_limitOptions :
    ((loadSettings limitOptions).run (Interpreter.plainHost colText (.ok .null)) default).1 =
      .ok { Settings.standard with collector := "col", spawnTimeoutSecs := 5 } := by
  obtain ⟨document, -, -, -, -, loaded⟩ :=
    loadSettings_ok_iff (o := limitOptions) rfl (readText_plainHost colText "c.toml") read_colText
  exact (loaded _).mpr ⟨rfl, rfl, rfl⟩

/-- A file with a limit of no time at all. -/
def zeroText : String := "spawn_timeout_secs = 0\n"

theorem read_zeroText : Settings.read zeroText =
    .ok { Settings.standard with spawnTimeoutSecs := 0 } :=
  Settings.read_eq_ok (by decide +kernel)

/-- A limit in a file that breaks a rule is refused, although the one that an option puts over it
breaks none. -/
theorem loadSettings_zeroText :
    Options.parse ["--config", "c.toml", "--spawn-timeout", "5", "--list"] = .ok limitOptions ∧
      Settings.read zeroText = .ok { Settings.standard with spawnTimeoutSecs := 0 } ∧
      (limitOptions.applyTo { Settings.standard with spawnTimeoutSecs := 0 }).validate = .ok () ∧
      ((loadSettings limitOptions).run (Interpreter.plainHost zeroText (.ok .null)) default).1 =
        .error (.unreadable "c.toml" (.settings (.zeroLimit "spawn_timeout_secs"))) := by
  refine ⟨rfl, read_zeroText, rfl, ?_⟩
  have readable := readText_plainHost zeroText "c.toml"
  exact run_loadSettings (o := limitOptions) rfl readable read_zeroText

end CommandLine

end SyscallProfiler
