import SyscallProfiler.Host.Request

/-!
# Programs

A program asks its host for one thing after the other and ends with a result. It is data: what it
asks next is a function of the answers so far, so a statement about every host is an induction over
the program. A host is a state that answers requests.
-/

namespace SyscallProfiler

/-- A program with a result of type `α`. -/
inductive Program (α : Type) where
  | done (a : α)
  | ask (r : Request) (next : r.Answer → Program α)

namespace Program

variable {α β γ σ : Type}

def request (r : Request) : Program r.Answer := .ask r .done

/-- Goes on with the result of a program. -/
def bind : Program α → (α → Program β) → Program β
  | .done a, f => f a
  | .ask r next, f => .ask r fun answer => (next answer).bind f

instance : Monad Program where
  pure := .done
  bind := bind

@[simp] theorem pure_eq (a : α) : (pure a : Program α) = .done a := rfl

@[simp] theorem bind_eq (p : Program α) (f : α → Program β) : p >>= f = p.bind f := rfl

@[simp] theorem done_bind (a : α) (f : α → Program β) : (done a).bind f = f a := rfl

@[simp] theorem ask_bind (r : Request) (next : r.Answer → Program α) (f : α → Program β) :
    (ask r next).bind f = .ask r fun answer => (next answer).bind f := rfl

@[simp] theorem bind_done (p : Program α) : p.bind .done = p := by
  induction p with
  | done a => rfl
  | ask r next ih => simp [ih]

theorem bind_assoc (p : Program α) (f : α → Program β) (g : β → Program γ) :
    (p.bind f).bind g = p.bind fun a => (f a).bind g := by
  induction p with
  | done a => rfl
  | ask r next ih => simp [ih]

/-- Runs a program on a host that answers requests from a state. -/
def run (answer : σ → (r : Request) → r.Answer × σ) : Program α → σ → α × σ
  | .done a, s => (a, s)
  | .ask r next, s =>
    let (reply, s) := answer s r
    (next reply).run answer s

@[simp] theorem run_done (answer : σ → (r : Request) → r.Answer × σ) (a : α) (s : σ) :
    (done a).run answer s = (a, s) := rfl

/-- Running a program and then what follows is running the two together. -/
theorem run_bind (answer : σ → (r : Request) → r.Answer × σ) (p : Program α)
    (f : α → Program β) (s : σ) :
    (p.bind f).run answer s =
      let (a, s) := p.run answer s
      (f a).run answer s := by
  induction p generalizing s with
  | done a => rfl
  | ask r next ih => simp [run, ih]

end Program

end SyscallProfiler
