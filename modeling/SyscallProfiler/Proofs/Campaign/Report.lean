import SyscallProfiler.Proofs.Campaign.Windows
import SyscallProfiler.Proofs.Json.RoundTrip
import SyscallProfiler.Proofs.PassResult.Normal

/-!
# The report for programs

A run that reports to programs writes one JSON document and nothing else. All that it found
stands in the document and is decoded from it, and a program that reads the text gets it back.
-/

namespace SyscallProfiler

/-! ## What pieces of logs write -/

theorem written_entering (stage : Stage) (log : List Exchange) :
    written (entering stage :: log) = written log := rfl

theorem written_writing (pieces : List String) : written (writing pieces) = String.join pieces := by
  rw [written, writing, List.filterMap_map]
  exact congrArg String.join List.filterMap_some

/-- The clock never shows more than fits into 64 bits. -/
def Clocked (log : List Exchange) : Prop := ∀ now ∈ readings log, now ≤ Json.maxUnsigned

theorem Window.IsRead.fits {w : Window} {log : List Exchange} (h : w.IsRead log)
    (clocked : Clocked log) : w.Fits where
  started := clocked _ h.bounds_mem.1
  ended := clocked _ h.bounds_mem.2

/-! ## The document -/

namespace Report

/-- What stands in a report with these fields: the name of the unit, if there is one, all results,
which are decoded as they were, and the names of the known units exactly where none of them was
found. -/
structure Holds (fields : Json.Fields) (f : Findings) (units : List Workload) : Prop where
  workload : Json.lookup "workload" fields = some (.ofString? (f.workload.map (·.name)))
  results : ∃ items, Json.lookup "results" fields = some (.arr items) ∧
    Decode.each PassResult.decode items = .ok f.results
  available : Json.lookup "available" fields =
    if f.workload = none ∧ units ≠ [] then some (.ofStrings (units.map (·.name))) else none

section Document

variable (f : Findings) (units : List Workload)

/-- The fields of a document have keys of their own. -/
theorem document_fields :
    ∃ fields, document f.workload f.results units = .obj fields ∧
      (fields.map Prod.fst).Nodup ∧
      Json.lookup "workload" fields = some (.ofString? (f.workload.map (·.name))) ∧
      Json.lookup "results" fields = some (.arr (f.results.map (·.toJson))) ∧
      Json.lookup "available" fields =
        if f.workload = none ∧ units ≠ [] then some (.ofStrings (units.map (·.name)))
        else none := by
  refine ⟨_, rfl, ?_, rfl, rfl, ?_⟩
  · cases f.workload <;> cases units <;> simp
  · cases f.workload <;> cases units <;> rfl

variable {f} (fits : ∀ r ∈ f.results, ∀ w, r.window = some w → w.Fits)
include fits

theorem holds_document :
    ∃ fields, document f.workload f.results units = .obj fields ∧ Holds fields f units := by
  obtain ⟨fields, hfields, -, workload, results, available⟩ := document_fields f units
  have decoded := Decode.each_map fun r hr => PassResult.decode_toJson (fits r hr)
  exact ⟨fields, hfields, workload, ⟨_, results, decoded⟩, available⟩

variable (exact : ∀ r ∈ f.results, r.IsExact)
include exact

/-- With the fields of all objects in order the document holds the same. -/
theorem holds_normal :
    ∃ fields, (document f.workload f.results units).normal = .obj fields ∧
      Holds fields f units := by
  obtain ⟨fields, hfields, distinct, workload, results, available⟩ := document_fields f units
  have normal := Json.lookup_sortFields_normalFields distinct
  have decoded : Decode.each PassResult.decode (Json.normalItems (f.results.map (·.toJson))) =
      .ok f.results := by
    rw [Json.normalItems_eq_map, List.map_map]
    exact Decode.each_map fun r hr => PassResult.decode_normal (exact r hr) (fits r hr)
  refine ⟨_, by rw [hfields]; rfl, ?_, ⟨_, (normal _).trans (congrArg _ results), decoded⟩, ?_⟩
  · rw [normal, workload, Option.map_some, Json.ofString?_normal]
  · rw [normal, available]
    split
    · rw [Option.map_some, Json.ofStrings_normal]
    · rfl

theorem document_integral : (document f.workload f.results units).Integral := by
  have items : Json.IntegralItems (f.results.map (·.toJson)) := by
    rw [Json.integralItems_iff]
    exact List.forall_mem_map.mpr fun r hr => PassResult.toJson_integral (exact r hr) (fits r hr)
  rw [document, Json.Integral, Json.integralFields_iff, List.forall_mem_append]
  constructor
  · exact List.forall_mem_cons.mpr ⟨Json.ofString?_integral _, List.forall_mem_singleton.mpr items⟩
  · split
    · exact List.forall_mem_singleton.mpr (Json.ofStrings_integral _)
    · exact List.forall_mem_nil _

end Document

end Report

namespace Campaign

section PassesLog

variable {format : ReportFormat} {unit : Workload} {input : Payload} {log : List Exchange}
variable {passes : List (Stage × String × Program PassResult)} {results : List PassResult}

/-- Nothing is said about passes to programs, and passes write nothing themselves. -/
theorem PassesLog.written_eq (h : PassesLog .json unit input passes results log)
    (silent : ∀ pass ∈ passes, pass.2.2.Asks Request.IsSilent) : written log = "" := by
  induction h with
  | nil => rfl
  | cons ran rest ih =>
      obtain ⟨first, later⟩ := List.forall_mem_cons.mp silent
      rw [List.cons_append, written_entering, written_append, written_append, written_append,
        ran.written_eq_empty first, ih later]
      rfl

end PassesLog

variable {c : Campaign} {format : ReportFormat} {query : String} {f : Findings}
variable {log : List Exchange}

theorem RunLog.windows_fit (h : c.RunLog format query f log) (clocked : Clocked log) :
    ∀ r ∈ f.results, ∀ w, r.window = some w → w.Fits := by
  intro r hr w hw
  obtain ⟨part, read, within⟩ := h.isRead_of_mem w (List.mem_filterMap.mpr ⟨r, hr, hw⟩)
  exact read.fits fun now shown => clocked now (within shown)

theorem RunLog.written_eq (h : c.RunLog .json query f log) :
    written log = (Report.document f.workload f.results c.registry.units).prettyText ++ "\n" := by
  have reported (f : Findings) : written (c.reported .json query f) =
      (Report.document f.workload f.results c.registry.units).prettyText ++ "\n" := by
    have last : written [entering .idle] = "" := rfl
    rw [reported, written_entering, written_append, written_writing, last, finalReport]
    simp [Report.json]
  cases h with
  | unresolved missing => exact reported _
  | resolved unit made results inner found passed =>
      change written (inner ++ _) = _
      rw [written_append, passed.written_eq (c.passes_silent unit _), reported]
      exact String.empty_append

variable (c query)

/-- A run that reports to programs and whose report is accepted. All that it writes is one
document over several lines and a line feed. In the document stand the name of the workload, if
there is one, all results, which are decoded as they were, and the names of the known units exactly
where none of them was found. As long as there are only exact values in the results, the text is
read back as the document with its keys in order, and all this holds of what is read, too. Any
result at all is decoded from what is written of it, whatever it has and lacks. -/
theorem runFrom_json (stage : Stage) {σ : Type} (host : Host σ) (s : σ)
    (accepted : Accepted ((c.runFrom stage query .json).log host s))
    (clocked : Clocked ((c.runFrom stage query .json).log host s)) :
    (∃ (f : Findings) (fields : Json.Fields),
      ((c.runFrom stage query .json).run host s).1 = (.ok f, .idle) ∧
        f.workload = c.registry.resolve? query ∧
        written ((c.runFrom stage query .json).log host s) = (Json.obj fields).prettyText ++ "\n" ∧
        Report.Holds fields f c.registry.units ∧
        ((∀ r ∈ f.results, r.IsExact) → ∀ levels, (Json.obj fields).depth ≤ levels →
          ∃ sorted, (Json.obj fields).normal = .obj sorted ∧
            Json.atEnd (Json.readValue levels
              (written ((c.runFrom stage query .json).log host s)).toList) = .ok (.obj sorted) ∧
            Report.Holds sorted f c.registry.units)) ∧
      ∀ r : PassResult, (∀ w, r.window = some w → w.Fits) →
        PassResult.decode r.toJson = .ok r ∧
          (r.IsExact → PassResult.decode r.toJson.normal = .ok r) := by
  obtain ⟨f, _, hrun, rfl, going⟩ := (c.goes_run .json query).of_accepted host s accepted
  have fits := going.windows_fit clocked
  obtain ⟨fields, hfields, holds⟩ := Report.holds_document c.registry.units fits
  have text := going.written_eq
  have integral := Report.document_integral c.registry.units fits
  have normal := Report.holds_normal c.registry.units fits
  rw [hfields] at text integral normal
  refine ⟨⟨f, fields, hrun, going.workload_eq.1, text, holds, fun exact levels deep => ?_⟩,
    fun r fits => ⟨PassResult.decode_toJson fits, fun exact => PassResult.decode_normal exact fits⟩⟩
  obtain ⟨sorted, hsorted, again⟩ := normal exact
  refine ⟨sorted, hsorted, ?_, again⟩
  have characters : (written ((c.runFrom stage query .json).log host s)).toList =
      Json.pretty 0 (.obj fields) ++ ['\n'] :=
    (congrArg String.toList text).trans (by simp [Json.prettyText])
  have blank : Json.Blanks ['\n'] := List.forall_mem_singleton.mpr rfl
  rw [characters, Json.atEnd_readValue_pretty (integral exact) deep 0 blank, hsorted]

theorem clocked_log {α σ : Type} {host : Host σ}
    (h : ∀ s, (host s .wallClock).1 ≤ Json.maxUnsigned) (p : Program α) (s : σ) :
    Clocked (p.log host s) := by
  intro now shown
  obtain ⟨⟨r, a⟩, he, read⟩ := List.mem_filterMap.mp shown
  cases r with
  | wallClock =>
      obtain ⟨s', answered⟩ := Program.exists_state_of_mem_log he
      cases read
      exact answered ▸ h s'
  | _ => cases read

/-- A run over one unit on a host with files. There is no list of units in its report, neither as
it is written nor as it is read. -/
theorem runFrom_json_disk :
    let c : Campaign := ⟨Pass.brief, ⟨[Pass.sample], []⟩⟩
    let run := c.runFrom .idle "w" .json
    let log := run.log (Pass.disk true) []
    Accepted log ∧ Clocked log ∧
      ∃ (f : Findings) (fields sorted : Json.Fields),
        (run.run (Pass.disk true) []).1 = (.ok f, .idle) ∧ f.workload = some Pass.sample ∧
          (∀ r ∈ f.results, r.IsExact) ∧
          written log = (Json.obj fields).prettyText ++ "\n" ∧
          Json.lookup "available" fields = none ∧
          Json.atEnd (Json.readValue (Json.obj fields).depth (written log).toList) =
            .ok (.obj sorted) ∧
          Json.lookup "available" sorted = none := by
  intro c run log
  have accepted : Accepted log := accepted_log (fun s r => by cases r <;> rfl) run []
  have clocked : Clocked log := clocked_log (fun s => Nat.zero_le _) run []
  obtain ⟨⟨f, fields, hrun, found, text, holds, back⟩, -⟩ :=
    runFrom_json c "w" .idle (Pass.disk true) [] accepted clocked
  have resolved : f.workload = some Pass.sample := found.trans (by decide)
  have named : ¬(f.workload = none ∧ c.registry.units ≠ []) := by
    rw [resolved]
    exact fun h => nomatch h.1
  have exact : ∀ r ∈ f.results, r.IsExact := by
    have all : ∀ f ∈ (run.run (Pass.disk true) []).1.1.toOption, ∀ r ∈ f.results, r.IsExact := by
      decide +kernel
    exact all f (by rw [hrun]; rfl)
  obtain ⟨sorted, -, read, again⟩ := back exact _ (Nat.le_refl _)
  exact ⟨accepted, clocked, f, fields, sorted, hrun, resolved, exact, text,
    holds.available.trans (if_neg named), read, again.available.trans (if_neg named)⟩

end Campaign

end SyscallProfiler
