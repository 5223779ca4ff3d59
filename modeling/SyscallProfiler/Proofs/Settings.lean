import SyscallProfiler.Pass.Spawn
import SyscallProfiler.Proofs.CommandLine.Settings
import SyscallProfiler.Proofs.Search
import SyscallProfiler.Proofs.Workload.Inputs

/-!
# The rules of settings

There are six rules, and each has its place: the collector, the interpreter, the three limits, and
the inputs, which break theirs at a workload and a key. Settings are accepted if they break no rule.
Otherwise they are refused for the rule that comes first among those that they break; of inputs,
that is the first workload by name, and its first key.

Settings that were read, and such that options were put over, have their inputs in ascending order
of the workloads' names.
-/

namespace SyscallProfiler

/-- A list or an object. -/
inductive Json.IsNested : Json → Prop where
  | arr (items : List Json) : IsNested (.arr items)
  | obj (fields : Json.Fields) : IsNested (.obj fields)

theorem Json.isScalar_eq_false_iff {v : Json} : v.isScalar = false ↔ v.IsNested := by
  constructor
  · intro nested
    cases v with
    | arr items => exact .arr items
    | obj fields => exact .obj fields
    | _ => cases nested
  · rintro (items | fields)
    · rfl
    · rfl

namespace Payload

variable {p : Payload} {key : String} {value : Json}

/-- No name is bound to a list or an object. -/
def IsFlat (p : Payload) : Prop := ∀ key value, p.get? key = some value → ¬value.IsNested

theorem get?_eq_some_iff : p.get? key = some value ↔ (key, value) ∈ p.fields :=
  p.ascending.lookup_eq_some_iff

theorem firstNested?_eq (p : Payload) :
    p.firstNested? = p.fields.find? fun f => !f.2.isScalar := rfl

theorem firstNested?_eq_none_iff : p.firstNested? = none ↔ p.IsFlat := by
  rw [firstNested?_eq, List.find?_eq_none]
  simp only [Bool.not_eq_true', Json.isScalar_eq_false_iff]
  constructor
  · intro scalars key value bound
    exact scalars (key, value) (get?_eq_some_iff.mp bound)
  · rintro flat ⟨key, value⟩ among
    exact flat key value (get?_eq_some_iff.mpr among)

/-- The name that is found is bound to a list or an object, and it is the first such name. -/
theorem firstNested?_eq_some (found : p.firstNested? = some (key, value)) :
    p.get? key = some value ∧ value.IsNested ∧
      ∀ key' value', p.get? key' = some value' → value'.IsNested → key' = key ∨ key < key' := by
  rw [firstNested?_eq] at found
  obtain ⟨among, nested, first⟩ := Search.first_of_find? p.ascending found
  simp only [Bool.not_eq_true', Json.isScalar_eq_false_iff] at nested first
  refine ⟨get?_eq_some_iff.mpr among, nested, fun key' value' bound nested' => ?_⟩
  have earliest := first (key', value') (get?_eq_some_iff.mp bound) nested'
  exact earliest.imp_left (congrArg Prod.fst)

end Payload

namespace Settings

variable {s : Settings} {e e' : SettingsError}

/-- The text holds nothing but blanks, if it holds anything. -/
def Blank (text : String) : Prop := ∀ c ∈ text.toList, Text.isBlank c = true

theorem isBlank_eq_true_iff {text : String} : isBlank text = true ↔ Blank text := List.all_eq_true

/-! ## Rules -/

/-- Where a rule is broken: the number of the rule, and a workload and a key if it is about
inputs. -/
structure Place where
  rule : Nat
  workload : String
  key : String

namespace Place

variable {p q : Place}

/-- One place comes before another: by the rule, then by the workload, and then by the key. -/
def Before (p q : Place) : Prop :=
  p.rule < q.rule ∨ p.rule = q.rule ∧
    (p.workload < q.workload ∨ p.workload = q.workload ∧ p.key < q.key)

theorem Before.asymm (h : p.Before q) : ¬q.Before p := by
  rintro (rule | ⟨sameRule, workload | ⟨sameWorkload, key⟩⟩)
  · rcases h with earlier | ⟨same, -⟩ <;> omega
  · rcases h with earlier | ⟨-, before | ⟨same, -⟩⟩
    · omega
    · exact String.lt_asymm before workload
    · exact String.lt_irrefl _ (same ▸ workload)
  · rcases h with earlier | ⟨-, before | ⟨-, before⟩⟩
    · omega
    · exact String.lt_irrefl _ (sameWorkload ▸ before)
    · exact String.lt_asymm before key

end Place

/-- The settings break a rule, for this reason and at this place. -/
inductive Breaks (s : Settings) : SettingsError → Place → Prop where
  | collector (blank : Blank s.collector) : s.Breaks .blankCollector ⟨1, "", ""⟩
  | interpreter {program : String} {args : List String} (named : s.interpreter = program :: args)
      (blank : Blank program) : s.Breaks .blankInterpreter ⟨2, "", ""⟩
  | attachDeadline (zero : s.attachDeadlineMs = 0) :
      s.Breaks (.zeroLimit "attach_deadline_ms") ⟨3, "", ""⟩
  | stopTimeout (zero : s.stopTimeoutMs = 0) : s.Breaks (.zeroLimit "stop_timeout_ms") ⟨4, "", ""⟩
  | spawnTimeout (zero : s.spawnTimeoutSecs = 0) :
      s.Breaks (.zeroLimit "spawn_timeout_secs") ⟨5, "", ""⟩
  | input {workload key : String} {payload : Payload} {value : Json}
      (among : (workload, payload) ∈ s.inputs) (bound : payload.get? key = some value)
      (nested : value.IsNested) :
      s.Breaks (.nestedInput workload key value) ⟨6, workload, key⟩

/-- The settings break a rule for this reason, and all other rules that they break come later. -/
def BreaksFirst (s : Settings) (e : SettingsError) : Prop :=
  ∃ place, s.Breaks e place ∧ ∀ e' place', s.Breaks e' place' → e' = e ∨ place.Before place'

theorem BreaksFirst.unique (h : s.BreaksFirst e) (h' : s.BreaksFirst e') : e' = e := by
  obtain ⟨place, broken, first⟩ := h
  obtain ⟨place', broken', first'⟩ := h'
  rcases first e' place' broken' with same | before
  · exact same
  · rcases first' e place broken with same | after
    · exact same.symm
    · exact absurd after before.asymm

/-! ## What is found -/

theorem firstNestedInput?_eq_findSome? (inputs : List (String × Payload)) :
    firstNestedInput? inputs = inputs.findSome? fun input =>
      input.2.firstNested?.map fun bound => .nestedInput input.1 bound.1 bound.2 := by
  induction inputs with
  | nil => rfl
  | cons input rest ih =>
      obtain ⟨workload, payload⟩ := input
      rw [firstNestedInput?, List.findSome?_cons, ih]
      cases payload.firstNested? with
      | none => rfl
      | some bound => rfl

theorem firstNestedInput?_eq_none_iff {inputs : List (String × Payload)} :
    firstNestedInput? inputs = none ↔ ∀ input ∈ inputs, input.2.IsFlat := by
  rw [firstNestedInput?_eq_findSome?, List.findSome?_eq_none_iff]
  simp only [Option.map_eq_none_iff, Payload.firstNested?_eq_none_iff]

theorem interpreter_blank_iff : (s.interpreter.head?.map isBlank).getD false = true ↔
    ∃ program args, s.interpreter = program :: args ∧ Blank program := by
  cases s.interpreter with
  | nil => simp
  | cons program args => simp [isBlank_eq_true_iff]

/-- The numbers of the rules, in the order in which they are looked at. -/
def rules : List Nat := [1, 2, 3, 4, 5, 6]

/-- The reason for which the settings break the rule with the given number; the first one in the
case of inputs. -/
def breach? (s : Settings) : (rule : Nat) → Option SettingsError
  | 1 => if isBlank s.collector then some .blankCollector else none
  | 2 => if (s.interpreter.head?.map isBlank).getD false then some .blankInterpreter else none
  | 3 => if s.attachDeadlineMs = 0 then some (.zeroLimit "attach_deadline_ms") else none
  | 4 => if s.stopTimeoutMs = 0 then some (.zeroLimit "stop_timeout_ms") else none
  | 5 => if s.spawnTimeoutSecs = 0 then some (.zeroLimit "spawn_timeout_secs") else none
  | 6 => firstNestedInput? s.inputs
  | _ => none

/-- The rules are looked at one after the other. -/
theorem firstError?_eq_findSome? (s : Settings) : s.firstError? = rules.findSome? s.breach? := by
  have zero (n : Nat) : (n == 0) = decide (n = 0) := rfl
  simp only [firstError?, limits, rules, List.find?_cons, List.find?_nil, List.findSome?_cons,
    List.findSome?_nil, breach?, zero]
  by_cases collector : isBlank s.collector
  · simp [collector]
  by_cases interpreter : (s.interpreter.head?.map isBlank).getD false
  · simp [collector, interpreter]
  by_cases attach : s.attachDeadlineMs = 0
  · simp [collector, interpreter, attach]
  by_cases stop : s.stopTimeoutMs = 0
  · simp [collector, interpreter, attach, stop]
  by_cases spawn : s.spawnTimeoutSecs = 0
  · simp [collector, interpreter, attach, stop, spawn]
  · simp only [collector, interpreter, attach, stop, spawn, decide_false, if_false]
    cases firstNestedInput? s.inputs <;> rfl

theorem breach?_ne_none {place : Place} (broken : s.Breaks e place) :
    place.rule ∈ rules ∧ s.breach? place.rule ≠ none := by
  refine ⟨by cases broken <;> simp [rules], ?_⟩
  cases broken with
  | collector blank => simp [breach?, isBlank_eq_true_iff.mpr blank]
  | interpreter named blank =>
      simp [breach?, interpreter_blank_iff.mpr ⟨_, _, named, blank⟩]
  | attachDeadline zero => simp [breach?, zero]
  | stopTimeout zero => simp [breach?, zero]
  | spawnTimeout zero => simp [breach?, zero]
  | input among bound nested =>
      rw [breach?, Ne, firstNestedInput?_eq_none_iff]
      intro flat
      exact flat _ among _ _ bound nested

/-! ## What comes first -/

/-- Only the rule about inputs can be broken for several reasons. -/
theorem Breaks.eq_of_rule_eq {place place' : Place} (h : s.Breaks e place)
    (h' : s.Breaks e' place') (same : place'.rule = place.rule) (plain : place.rule ≠ 6) :
    e' = e := by
  cases h <;> cases h' <;> first | rfl | exact absurd rfl plain | cases same

/-- Of inputs in ascending order, the first workload and its first key are found. -/
theorem breaks_of_firstNestedInput? (maps : Json.Ascending s.inputs)
    (found : firstNestedInput? s.inputs = some e) :
    ∃ workload key, s.Breaks e ⟨6, workload, key⟩ ∧
      ∀ e' place', s.Breaks e' place' → place'.rule = 6 →
        e' = e ∨ Place.Before ⟨6, workload, key⟩ place' := by
  rw [firstNestedInput?_eq_findSome?] at found
  obtain ⟨⟨workload, payload⟩, among, named, first⟩ := Search.first_of_findSome? maps found
  obtain ⟨⟨key, value⟩, foundKey, rfl⟩ := Option.map_eq_some_iff.mp named
  obtain ⟨bound, nested, firstKey⟩ := Payload.firstNested?_eq_some foundKey
  refine ⟨workload, key, .input among bound nested, fun e' place' broken same => ?_⟩
  cases broken with
  | input amongToo bound' nested' =>
      have unfit := mt Payload.firstNested?_eq_none_iff.mp fun flat => flat _ _ bound' nested'
      rcases first _ amongToo (mt Option.map_eq_none_iff.mp unfit) with here | before
      · cases here
        rcases firstKey _ _ bound' nested' with rfl | later
        · cases bound'.symm.trans bound
          exact Or.inl rfl
        · exact Or.inr (Or.inr ⟨rfl, Or.inr ⟨rfl, later⟩⟩)
      · exact Or.inr (Or.inr ⟨rfl, Or.inl before⟩)
  | _ => cases same

/-- The reason that is found for a rule is the first one for which that rule is broken. -/
theorem breaks_of_breach? (maps : Json.Ascending s.inputs) {rule : Nat}
    (found : s.breach? rule = some e) :
    ∃ workload key, s.Breaks e ⟨rule, workload, key⟩ ∧
      ∀ e' place', s.Breaks e' place' → place'.rule = rule →
        e' = e ∨ Place.Before ⟨rule, workload, key⟩ place' := by
  have plain {rule : Nat} {e : SettingsError} (broken : s.Breaks e ⟨rule, "", ""⟩)
      (other : rule ≠ 6) : ∃ workload key, s.Breaks e ⟨rule, workload, key⟩ ∧
        ∀ e' place', s.Breaks e' place' → place'.rule = rule →
          e' = e ∨ Place.Before ⟨rule, workload, key⟩ place' :=
    ⟨"", "", broken, fun e' place' broken' same =>
      Or.inl (broken.eq_of_rule_eq broken' same other)⟩
  rw [breach?.eq_def] at found
  split at found
  · obtain ⟨blank, same⟩ := Option.ite_none_right_eq_some.mp found
    cases same
    exact plain (.collector (isBlank_eq_true_iff.mp blank)) (by decide)
  · obtain ⟨first, same⟩ := Option.ite_none_right_eq_some.mp found
    obtain ⟨program, args, named, blank⟩ := interpreter_blank_iff.mp first
    cases same
    exact plain (.interpreter named blank) (by decide)
  · obtain ⟨zero, same⟩ := Option.ite_none_right_eq_some.mp found
    cases same
    exact plain (.attachDeadline zero) (by decide)
  · obtain ⟨zero, same⟩ := Option.ite_none_right_eq_some.mp found
    cases same
    exact plain (.stopTimeout zero) (by decide)
  · obtain ⟨zero, same⟩ := Option.ite_none_right_eq_some.mp found
    cases same
    exact plain (.spawnTimeout zero) (by decide)
  · exact breaks_of_firstNestedInput? maps found
  · cases found

/-- The reason that is found is the first. -/
theorem breaksFirst_of_firstError? (maps : Json.Ascending s.inputs)
    (found : s.firstError? = some e) : s.BreaksFirst e := by
  rw [firstError?_eq_findSome?] at found
  have ordered : rules.Pairwise (· < ·) := by decide
  obtain ⟨rule, -, breach, first⟩ := Search.first_of_findSome? ordered found
  obtain ⟨workload, key, broken, firstOfRule⟩ := breaks_of_breach? maps breach
  refine ⟨_, broken, fun e' place' broken' => ?_⟩
  obtain ⟨known, found'⟩ := breach?_ne_none broken'
  rcases first place'.rule known found' with same | later
  · exact firstOfRule e' place' broken' same
  · exact Or.inr (Or.inl later)

theorem firstError?_ne_none {place : Place} (broken : s.Breaks e place) : s.firstError? ≠ none := by
  obtain ⟨known, found⟩ := breach?_ne_none broken
  rw [firstError?_eq_findSome?, Ne, List.findSome?_eq_none_iff]
  exact fun kept => found (kept _ known)

theorem firstError?_eq_some_iff (maps : Json.Ascending s.inputs) :
    s.firstError? = some e ↔ s.BreaksFirst e := by
  refine ⟨breaksFirst_of_firstError? maps, fun broken => ?_⟩
  have ⟨_, here, _⟩ := broken
  obtain ⟨e', found⟩ := Option.ne_none_iff_exists'.mp (firstError?_ne_none here)
  rw [found, broken.unique (breaksFirst_of_firstError? maps found)]

/-! ## What is accepted -/

/-- The settings keep all rules. -/
structure KeepsRules (s : Settings) : Prop where
  collector : ¬Blank s.collector
  interpreter : ∀ program args, s.interpreter = program :: args → ¬Blank program
  attachDeadline : s.attachDeadlineMs ≠ 0
  stopTimeout : s.stopTimeoutMs ≠ 0
  spawnTimeout : s.spawnTimeoutSecs ≠ 0
  inputs : ∀ input ∈ s.inputs, input.2.IsFlat

theorem keepsRules_iff : s.KeepsRules ↔ ∀ e place, ¬s.Breaks e place := by
  constructor
  · rintro keeps e place (blank | ⟨named, blank⟩ | zero | zero | zero | ⟨among, bound, nested⟩)
    · exact keeps.collector blank
    · exact keeps.interpreter _ _ named blank
    · exact keeps.attachDeadline zero
    · exact keeps.stopTimeout zero
    · exact keeps.spawnTimeout zero
    · exact keeps.inputs _ among _ _ bound nested
  · intro unbroken
    exact {
      collector := fun blank => unbroken _ _ (.collector blank)
      interpreter := fun _ _ named blank => unbroken _ _ (.interpreter named blank)
      attachDeadline := fun zero => unbroken _ _ (.attachDeadline zero)
      stopTimeout := fun zero => unbroken _ _ (.stopTimeout zero)
      spawnTimeout := fun zero => unbroken _ _ (.spawnTimeout zero)
      inputs := fun _ among _ _ bound nested => unbroken _ _ (.input among bound nested) }

theorem firstError?_eq_none_iff (maps : Json.Ascending s.inputs) :
    s.firstError? = none ↔ s.KeepsRules := by
  rw [keepsRules_iff]
  constructor
  · exact fun none e place broken => firstError?_ne_none broken none
  · intro unbroken
    refine Option.eq_none_iff_forall_ne_some.mpr fun e found => ?_
    obtain ⟨place, broken, -⟩ := breaksFirst_of_firstError? maps found
    exact unbroken e place broken

theorem validate_eq_ok_iff : s.validate = .ok () ↔ s.firstError? = none := by
  rw [validate]
  cases s.firstError? with
  | none => simp
  | some e => simp

theorem validate_eq_error_iff : s.validate = .error e ↔ s.firstError? = some e := by
  rw [validate]
  cases s.firstError? with
  | none => simp
  | some e' => simp

/-- A command of one's own is used as it is. -/
theorem run_interpreterCommand {σ : Type} (host : Host σ) (st : σ) {program : String}
    {args : List String} (named : s.interpreter = program :: args) :
    (s.interpreterCommand.run host st).1 = .ok (program :: args) := by
  rw [interpreterCommand, named]
  rfl

end Settings

namespace Registry

variable {r : Registry} {table : List (String × Payload)}

theorem inputOf_override_isFlat (flat : ∀ input ∈ table, input.2.IsFlat) {name : String}
    (own : (r.inputOf name).IsFlat) : ((r.override table).inputOf name).IsFlat := by
  rw [inputOf_override]
  cases bound : Json.lastBound? name table with
  | none => exact own
  | some payload => exact flat _ (Json.mem_of_lastBound? bound)

theorem inputOf_ofUnits_isFlat (units : List Workload) (name : String) :
    ((ofUnits units).inputOf name).IsFlat := by
  by_cases known : IsBound name suiteInputs
  · have suite : ∀ input ∈ suiteInputs, input.2.firstNested? = none := by decide +kernel
    obtain ⟨⟨_, payload⟩, among, rfl⟩ := List.mem_map.mp known
    rw [inputOf_ofUnits_of_mem units among]
    exact Payload.firstNested?_eq_none_iff.mp (suite _ among)
  · rw [inputOf_ofUnits_of_not_isBound units known]
    exact Payload.firstNested?_eq_none_iff.mp (by decide +kernel)

end Registry

/-! ## Where settings come from -/

theorem Decode.ascending_of_table {α : Type} {item : Json → Decode.Result α} {v : Json}
    {fields : List (String × α)} (decoded : Decode.table item v = .ok fields) :
    Json.Ascending fields := by
  cases v with
  | obj pairs =>
      obtain ⟨items, -, rfl⟩ := Decode.exists_of_map_eq_ok decoded
      exact Json.ascending_sortFields items
  | _ => cases decoded

theorem Settings.ascending_inputs_of_read {text : String} {own : Settings}
    (decoded : Settings.read text = .ok own) : Json.Ascending own.inputs := by
  obtain ⟨document, -, distinct, ofDocument⟩ := Settings.exists_of_read decoded
  have given := Settings.fromFile_of_ofDocument distinct ofDocument .inputs
  rw [Settings.Key.FromFile] at given
  split at given
  · have none_given : own.inputs = [] := given
    rw [none_given]
    exact List.Pairwise.nil
  · exact Decode.ascending_of_table given

theorem Settings.read_of_ofToml {text : String} {own : Settings}
    (accepted : Settings.ofToml text = .ok own) : Settings.read text = .ok own := by
  rw [Settings.ofToml] at accepted
  split at accepted
  · cases accepted
  · next s decoded =>
      cases judged : s.validate with
      | error e =>
          rw [judged] at accepted
          cases accepted
      | ok _ =>
          rw [judged] at accepted
          cases accepted
          exact decoded

namespace CommandLine

variable {σ : Type} {host : Host σ} {st : σ} {s : Settings}

theorem ascending_inputs_of_settingsOf {file : Option String}
    (own : ((settingsOf file).run host st).1 = .ok s) : Json.Ascending s.inputs := by
  cases file with
  | none =>
      cases own
      exact List.Pairwise.nil
  | some path =>
      simp only [settingsOf, Program.request, Program.bind_eq, Program.ask_bind, Program.done_bind,
        Program.pure_eq, Program.run_ask] at own
      split at own
      · cases own
      · split at own
        · cases own
        · next accepted =>
            cases own
            exact Settings.ascending_inputs_of_read (Settings.read_of_ofToml accepted)

/-- Options have no part in the inputs, so those that a run is told are in ascending order. -/
theorem ascending_inputs_of_loadSettings {o : Options}
    (loaded : ((loadSettings o).run host st).1 = .ok s) : Json.Ascending s.inputs := by
  rw [loadSettings, Program.bind_eq, Program.result_bind] at loaded
  split at loaded
  · cases loaded
  · next own read =>
      dsimp only at loaded
      split at loaded
      · cases loaded
      · cases loaded
        have ascending : Json.Ascending own.inputs := ascending_inputs_of_settingsOf read
        exact ascending

end CommandLine

namespace Settings

variable {s : Settings} {e : SettingsError}

end Settings

end SyscallProfiler
