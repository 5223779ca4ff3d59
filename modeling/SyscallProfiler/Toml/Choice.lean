import SyscallProfiler.Decode
import SyscallProfiler.Toml.Document

/-!
# Choices in a TOML document

A choice without data is written as its name, or as a table with the name as its only key. What the
key is bound to says nothing, so it has to be empty: a table or a list without items.
-/

namespace SyscallProfiler.Toml.Item

/-- What messages call a string, a number or a truth value. -/
def scalarName : Json → String
  | .bool _ => "boolean"
  | .int _ => "integer"
  | .float _ => "float"
  | _ => "string"

/-- Refuses what may not stand beside the name of a choice that carries no data. -/
def noData : Item → Decode.Result Unit
  | .scalar v => .error (.choiceNotTable (scalarName v))
  | .moment _ => .error (.choiceNotTable "datetime")
  | .list items => if items.isEmpty then .ok () else .error (.choiceNotEmpty false)
  | .closed items => if items.isEmpty then .ok () else .error (.choiceNotEmpty false)
  | .table _ _ items => if items.isEmpty then .ok () else .error (.choiceNotEmpty false)
  | .tables items => if items.isEmpty then .ok () else .error (.choiceNotEmpty true)

/-- One of several choices without data, from the items of a table. -/
def choiceOf {α : Type} (choices : List (String × α)) :
    List (String × Item) → Decode.Result α
  | [] => .error (.notOneChoice true)
  | [(name, data)] =>
    match Decode.named choices name with
    | .error e => .error e
    | .ok a => data.noData.map fun _ => a
  | _ => .error (.notOneChoice false)

/-- One of several choices without data. -/
def choice {α : Type} (choices : List (String × α)) : Item → Decode.Result α
  | .scalar (.str name) => Decode.named choices name
  | .closed items => choiceOf choices items
  | .table _ _ items => choiceOf choices items
  | _ => .error .notAChoice

end SyscallProfiler.Toml.Item
