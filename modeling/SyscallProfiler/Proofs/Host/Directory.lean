import SyscallProfiler.Proofs.Host.Log

/-!
# Directories that only programs change

Nothing but the requests of a program changes what is in such a directory: what else runs on the
host leaves it alone. A request changes no more than it says, creating a file never replaces one,
and a file that was created can be removed. So the log of a program shows what becomes of the
directory, up to the moment at which the program has come in it.

Several paths may lead to one file. `file` tells which file a path leads to.
-/

namespace SyscallProfiler

variable {F : Type} (file : String → F)

/-- A request after which a file may be there that was not before, or the other way round. Loaded
code may do anything. -/
def Request.MayChange (f : F) : Request → Prop
  | .createScript _ | .makeDirectory _ | .load _ _ => True
  | .removeScript path | .touch path => file path = f
  | _ => False

namespace Host

variable {σ : Type} {host : Host σ}

/-- The state of a host after a log. -/
def along (host : Host σ) (s : σ) (log : List Exchange) : σ :=
  log.foldl (fun s e => (host s e.request).2) s

/-- A host that leaves a directory alone. `inside` tells which files are in the directory, and
`present` in which states a file is there. -/
structure LeavesAlone (host : Host σ) (present : σ → F → Prop) (directory : String)
    (inside : F → Prop) : Prop where
  /-- A file that is created is a new one in the directory. -/
  created {s : σ} {script : String} (h : (host s (.createScript directory)).1 = .ok script) :
    inside (file script) ∧ ¬present s (file script) ∧
      present (host s (.createScript directory)).2 (file script)
  /-- Nothing but that file is created. -/
  createdOnly {s : σ} {f : F} (among : inside f)
    (h : ∀ script, (host s (.createScript directory)).1 = .ok script → file script ≠ f) :
    present (host s (.createScript directory)).2 f ↔ present s f
  /-- A file that was created can be removed, whatever was asked for in between. -/
  removed {s : σ} {script : String} (h : (host s (.createScript directory)).1 = .ok script)
    (log : List Exchange) :
    let later := host.along (host s (.createScript directory)).2 log
    present later (file script) → ¬present (host later (.removeScript script)).2 (file script)
  touched {s : σ} {path : String} (there : present s (file path)) :
    present (host s (.touch path)).2 (file path)
  spared {s : σ} {r : Request} {f : F} (among : inside f) (h : ¬r.MayChange file f) :
    present (host s r).2 f ↔ present s f

theorem along_append (s : σ) (log more : List Exchange) :
    host.along s (log ++ more) = host.along (host.along s log) more :=
  List.foldl_append

/-- A program leaves its host in the state after its log. -/
theorem along_log {α : Type} (p : Program α) (s : σ) :
    host.along s (p.log host s) = (p.run host s).2 := by
  induction p generalizing s with
  | done a => rfl
  | ask r next ih => exact ih _ _

/-- The host answers the first request of a program in the state in which it finds it. -/
theorem answer_of_log_eq_cons {α : Type} {p : Program α} {s : σ} {r : Request} {a : r.Answer}
    {log : List Exchange} (h : p.log host s = ⟨r, a⟩ :: log) : (host s r).1 = a := by
  cases p with
  | done _ => cases h
  | ask r' next =>
      obtain ⟨same, -⟩ := List.cons.inj h
      cases same
      rfl

namespace LeavesAlone

variable {file} {present : σ → F → Prop} {directory : String} {inside : F → Prop} {f : F}
variable (alone : host.LeavesAlone file present directory inside) {s : σ} {log : List Exchange}

include alone

theorem present_along_iff (among : inside f) (spare : ∀ e ∈ log, ¬e.request.MayChange file f) :
    present (host.along s log) f ↔ present s f := by
  induction log generalizing s with
  | nil => rfl
  | cons e log ih =>
      obtain ⟨first, later⟩ := List.forall_mem_cons.mp spare
      exact (ih later).trans (alone.spared among first)

/-- What is there stays where nothing more is done to it than that it is touched. -/
theorem present_along (among : inside f) (there : present s f)
    (touch : ∀ e ∈ log,
      (∃ path, e.request = .touch path ∧ file path = f) ∨ ¬e.request.MayChange file f) :
    present (host.along s log) f := by
  induction log generalizing s with
  | nil => exact there
  | cons e log ih =>
      obtain ⟨first, later⟩ := List.forall_mem_cons.mp touch
      have still : present (host s e.request).2 f := by
        rcases first with ⟨path, touched, rfl⟩ | spares
        · rw [touched]
          exact alone.touched there
        · exact (alone.spared among spares).mpr there
      exact ih still later

end LeavesAlone

end Host

end SyscallProfiler
