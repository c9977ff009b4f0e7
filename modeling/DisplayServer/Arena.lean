/-! # Keyed stores in creation order

An arena holds the live objects of one kind under their handles, in the order in which they were
created. Erasing keeps the order of the others, and inserting under a live key replaces the object
in place. The view of an arena is `get?` together with `keys`; the lemmas say what each operation
does to it.
-/

namespace DisplayServer

/-- A store of `α` under keys `κ`, oldest entry first. -/
structure Arena (κ α : Type) where
  /-- The entries, oldest first. -/
  entries : List (κ × α) := []
deriving Repr

namespace Arena

variable {κ α β : Type} [DecidableEq κ]

def empty : Arena κ α := ⟨[]⟩

def get? (arena : Arena κ α) (key : κ) : Option α :=
  (arena.entries.find? fun entry => entry.1 = key).map Prod.snd

/-- Whether a key is live. -/
def contains (arena : Arena κ α) (key : κ) : Bool :=
  (arena.get? key).isSome

/-- The live keys, oldest first. -/
def keys (arena : Arena κ α) : List κ :=
  arena.entries.map Prod.fst

/-- The live objects, oldest first. -/
def values (arena : Arena κ α) : List α :=
  arena.entries.map Prod.snd

def size (arena : Arena κ α) : Nat :=
  arena.entries.length

/-- Changes the object under a key, if there is one. -/
def modify (arena : Arena κ α) (key : κ) (change : α → α) : Arena κ α :=
  ⟨arena.entries.map fun entry => if entry.1 = key then (entry.1, change entry.2) else entry⟩

/-- Puts an object under a key: in the place of the old one if the key is live, else last. -/
def insert (arena : Arena κ α) (key : κ) (value : α) : Arena κ α :=
  if arena.contains key then arena.modify key fun _ => value
  else ⟨arena.entries ++ [(key, value)]⟩

/-- Removes a key and its object. -/
def erase (arena : Arena κ α) (key : κ) : Arena κ α :=
  ⟨arena.entries.filter fun entry => entry.1 ≠ key⟩

/-- Keeps the entries that satisfy a test. -/
def filter (arena : Arena κ α) (test : κ → α → Bool) : Arena κ α :=
  ⟨arena.entries.filter fun entry => test entry.1 entry.2⟩

def mapValues (arena : Arena κ α) (change : κ → α → β) : Arena κ β :=
  ⟨arena.entries.map fun entry => (entry.1, change entry.1 entry.2)⟩

omit [DecidableEq κ] in
/-- Changing every object keeps the keys. -/
@[simp] theorem keys_mapValues (arena : Arena κ α) (change : κ → α → β) :
    (arena.mapValues change).keys = arena.keys := by
  simp [keys, mapValues, Function.comp_def]

@[simp] theorem get?_empty (key : κ) : (empty : Arena κ α).get? key = none := rfl

/-- Changing an object keeps the keys. -/
@[simp] theorem keys_modify (arena : Arena κ α) (key : κ) (change : α → α) :
    (arena.modify key change).keys = arena.keys := by
  simp only [keys, modify, List.map_map]
  refine List.map_congr_left fun entry _ => ?_
  simp only [Function.comp_apply]
  split <;> rfl

@[simp] theorem keys_erase (arena : Arena κ α) (key : κ) :
    (arena.erase key).keys = arena.keys.filter fun other => other ≠ key := by
  simp [keys, erase, List.filter_map, Function.comp_def]

/-- A key is live exactly when it is listed. -/
theorem contains_iff_mem_keys (arena : Arena κ α) (key : κ) :
    arena.contains key = true ↔ key ∈ arena.keys := by
  simp only [contains, get?, Option.isSome_map, List.find?_isSome, keys, List.mem_map,
    decide_eq_true_eq]

/-- Changing the object under one key changes what that key finds and nothing else. -/
theorem get?_modify (arena : Arena κ α) (key other : κ) (change : α → α) :
    (arena.modify key change).get? other =
      if other = key then (arena.get? other).map change else arena.get? other := by
  obtain ⟨entries⟩ := arena
  simp only [get?, modify]
  induction entries with
  | nil => simp
  | cons entry rest ih =>
    simp only [List.map_cons, List.find?_cons]
    by_cases here : entry.1 = key <;> by_cases found : entry.1 = other <;> grind

/-- An erased key finds nothing, every other key what it found before. -/
theorem get?_erase (arena : Arena κ α) (key other : κ) :
    (arena.erase key).get? other = if other = key then none else arena.get? other := by
  obtain ⟨entries⟩ := arena
  simp only [get?, erase]
  induction entries with
  | nil => simp
  | cons entry rest ih =>
    simp only [List.filter_cons, List.find?_cons]
    by_cases here : entry.1 = key <;> by_cases found : entry.1 = other <;> grind

/-- An inserted key finds its object, every other key what it found before. -/
theorem get?_insert (arena : Arena κ α) (key other : κ) (value : α) :
    (arena.insert key value).get? other = if other = key then some value else arena.get? other := by
  simp only [insert]
  split
  · rename_i live
    rw [get?_modify]
    split
    · rename_i same
      subst same
      obtain ⟨old, found⟩ := Option.isSome_iff_exists.mp live
      simp [found]
    · rfl
  · rename_i dead
    have absent : arena.get? key = none := by
      simpa [contains] using dead
    simp only [get?, List.find?_append, List.find?_cons, List.find?_nil]
    by_cases same : other = key
    · subst same
      have none : arena.entries.find? (fun entry => decide (entry.1 = other)) = none := by
        simpa [get?] using absent
      simp [none]
    · have apart : ¬ key = other := fun equal => same equal.symm
      simp [same, apart]

/-- A new key is listed last; a live one stays where it is. -/
theorem keys_insert (arena : Arena κ α) (key : κ) (value : α) :
    (arena.insert key value).keys =
      if arena.contains key then arena.keys else arena.keys ++ [key] := by
  simp only [insert]
  split
  · exact keys_modify ..
  · simp [keys]

end Arena

end DisplayServer
