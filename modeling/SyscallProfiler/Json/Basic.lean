import SyscallProfiler.Number.Binary64

/-!
# JSON values

A number is an integer or a binary floating-point number: the two print differently and are told
apart everywhere. An object is its list of fields. Fields that come from a text or from pairs are
put in ascending order of their keys by `Json.object`, and the last binding of a key wins.
-/

namespace SyscallProfiler

/-- A JSON value. -/
inductive Json where
  | null
  | bool (b : Bool)
  | int (n : Int)
  | float (x : Binary64)
  | str (s : String)
  | arr (items : List Json)
  | obj (fields : List (String × Json))
deriving Inhabited, Repr

namespace Json

mutual

def decEq : (v w : Json) → Decidable (v = w)
  | .null, .null => isTrue rfl
  | .bool a, .bool b => if h : a = b then isTrue (by rw [h]) else isFalse (by simpa using h)
  | .int a, .int b => if h : a = b then isTrue (by rw [h]) else isFalse (by simpa using h)
  | .float a, .float b => if h : a = b then isTrue (by rw [h]) else isFalse (by simpa using h)
  | .str a, .str b => if h : a = b then isTrue (by rw [h]) else isFalse (by simpa using h)
  | .arr a, .arr b =>
    match decEqItems a b with
    | isTrue h => isTrue (by rw [h])
    | isFalse h => isFalse (by simpa using h)
  | .obj a, .obj b =>
    match decEqFields a b with
    | isTrue h => isTrue (by rw [h])
    | isFalse h => isFalse (by simpa using h)
  | .null, .bool _ | .null, .int _ | .null, .float _
  | .null, .str _ | .null, .arr _ | .null, .obj _ => isFalse nofun
  | .bool _, .null | .bool _, .int _ | .bool _, .float _
  | .bool _, .str _ | .bool _, .arr _ | .bool _, .obj _ => isFalse nofun
  | .int _, .null | .int _, .bool _ | .int _, .float _
  | .int _, .str _ | .int _, .arr _ | .int _, .obj _ => isFalse nofun
  | .float _, .null | .float _, .bool _ | .float _, .int _
  | .float _, .str _ | .float _, .arr _ | .float _, .obj _ => isFalse nofun
  | .str _, .null | .str _, .bool _ | .str _, .int _
  | .str _, .float _ | .str _, .arr _ | .str _, .obj _ => isFalse nofun
  | .arr _, .null | .arr _, .bool _ | .arr _, .int _
  | .arr _, .float _ | .arr _, .str _ | .arr _, .obj _ => isFalse nofun
  | .obj _, .null | .obj _, .bool _ | .obj _, .int _
  | .obj _, .float _ | .obj _, .str _ | .obj _, .arr _ => isFalse nofun

def decEqItems : (vs ws : List Json) → Decidable (vs = ws)
  | [], [] => isTrue rfl
  | v :: vs, w :: ws =>
    match decEq v w, decEqItems vs ws with
    | isTrue h, isTrue h' => isTrue (by rw [h, h'])
    | isFalse h, _ => isFalse (by simp [h])
    | _, isFalse h => isFalse (by simp [h])
  | [], _ :: _ | _ :: _, [] => isFalse nofun

def decEqFields : (fs gs : List (String × Json)) → Decidable (fs = gs)
  | [], [] => isTrue rfl
  | (k, v) :: fs, (l, w) :: gs =>
    match instDecidableEqString k l, decEq v w, decEqFields fs gs with
    | isTrue h, isTrue h', isTrue h'' => isTrue (by rw [h, h', h''])
    | isFalse h, _, _ => isFalse (by simp [h])
    | _, isFalse h, _ => isFalse (by simp [h])
    | _, _, isFalse h => isFalse (by simp [h])
  | [], _ :: _ | _ :: _, [] => isFalse nofun

end

instance : DecidableEq Json := decEq

abbrev Fields := List (String × Json)

/-- Binds a key in fields that are in ascending order of their keys. -/
def insert {α : Type} (key : String) (value : α) : List (String × α) → List (String × α)
  | [] => [(key, value)]
  | (k, v) :: rest =>
    if key < k then (key, value) :: (k, v) :: rest
    else if key = k then (key, value) :: rest
    else (k, v) :: insert key value rest

/-- A field after binding a key is the new one or was there before. -/
theorem mem_insert {α : Type} {key : String} {value : α} {fields : List (String × α)}
    {f : String × α} (h : f ∈ insert key value fields) : f = (key, value) ∨ f ∈ fields := by
  induction fields with
  | nil => simpa [insert] using h
  | cons g rest ih =>
    obtain ⟨k, v⟩ := g
    simp only [insert] at h
    split at h
    · simpa using h
    · split at h
      · simp only [List.mem_cons] at h ⊢
        exact h.imp_right Or.inr
      · simp only [List.mem_cons] at h ⊢
        rcases h with h | h
        · exact Or.inr (Or.inl h)
        · exact (ih h).imp_right Or.inr

/-- Fields in strictly ascending order of their keys. -/
def Ascending {α : Type} (fields : List (String × α)) : Prop :=
  fields.Pairwise fun f g => f.1 < g.1

/-- Binding a key keeps the fields in order. -/
theorem Ascending.insert {α : Type} {fields : List (String × α)} (h : Ascending fields)
    (key : String) (value : α) : Ascending (insert key value fields) := by
  induction fields with
  | nil => simp [Json.insert, Ascending]
  | cons g rest ih =>
    obtain ⟨k, v⟩ := g
    simp only [Ascending, List.pairwise_cons] at h
    simp only [Json.insert]
    split
    · rename_i hlt
      refine List.pairwise_cons.2 ⟨?_, List.pairwise_cons.2 h⟩
      intro f hf
      rcases List.mem_cons.1 hf with rfl | hf
      · exact hlt
      · exact String.lt_trans hlt (h.1 f hf)
    · split
      · rename_i heq
        subst heq
        exact List.pairwise_cons.2 h
      · rename_i hnlt hne
        refine List.pairwise_cons.2 ⟨?_, ih h.2⟩
        intro f hf
        rcases mem_insert hf with rfl | hf
        · have := String.not_lt.1 hnlt
          grind
        · exact h.1 f hf

/-- The fields that pairs bind: keys ascending, the last binding of each. -/
def sortFields {α : Type} (pairs : List (String × α)) : List (String × α) :=
  pairs.foldl (fun fields (key, value) => insert key value fields) []

/-- The fields that pairs bind are in order. -/
theorem ascending_sortFields {α : Type} (pairs : List (String × α)) :
    Ascending (sortFields pairs) := by
  suffices h : ∀ fields : List (String × α), Ascending fields →
      Ascending (pairs.foldl (fun fields (key, value) => insert key value fields) fields) from
    h [] List.Pairwise.nil
  induction pairs with
  | nil => exact fun _ h => h
  | cons p rest ih => exact fun fields h => ih _ (h.insert p.1 p.2)

/-- The object that pairs bind. -/
def object (pairs : Fields) : Json := .obj (sortFields pairs)

/-- The value of a key, the first one if there are several. -/
def lookup {α : Type} (key : String) : List (String × α) → Option α
  | [] => none
  | (k, v) :: rest => if k = key then some v else lookup key rest

/-- The value of a field; `null` where the value is no object or lacks the field. -/
def field (key : String) : Json → Json
  | .obj fields => (lookup key fields).getD .null
  | _ => .null

def isScalar : Json → Bool
  | .arr _ => false
  | .obj _ => false
  | _ => true

mutual

/-- The value with all its objects sorted, and with `null` for the numbers that JSON cannot
write: the infinities and not-a-number. -/
def normal : Json → Json
  | .float (.infinite _) => .null
  | .float .nan => .null
  | .arr items => .arr (normalItems items)
  | .obj fields => .obj (sortFields (normalFields fields))
  | other => other

def normalItems : List Json → List Json
  | [] => []
  | v :: rest => normal v :: normalItems rest

def normalFields : Fields → Fields
  | [] => []
  | (k, v) :: rest => (k, normal v) :: normalFields rest

end

def ofString? : Option String → Json
  | none => .null
  | some s => .str s

def ofStrings (items : List String) : Json := .arr (items.map .str)

def ofNat (n : Nat) : Json := .int n

end Json

end SyscallProfiler
