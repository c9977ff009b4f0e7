import DisplayServer.Arena

/-! # Arenas with distinct keys

The keys of an arena that a counter hands out are distinct. Each key then has one entry
(`Arena.get?_eq_some_iff`), and the number of objects that pass a test changes by what happens to
the one object that an operation is about (`Arena.countP_values_modify`,
`Arena.countP_values_erase`, `Arena.countP_values_insert`).
-/

namespace DisplayServer.Arena

variable {κ α β : Type} [DecidableEq κ]

/-- A key that finds an object is listed. -/
theorem mem_keys_of_get? {arena : Arena κ α} {key : κ} {value : α}
    (found : arena.get? key = some value) : key ∈ arena.keys := by
  rw [← contains_iff_mem_keys, contains, found]
  rfl

/-- A listed key finds an object. -/
theorem get?_of_mem_keys {arena : Arena κ α} {key : κ} (listed : key ∈ arena.keys) :
    ∃ value, arena.get? key = some value := by
  rw [← contains_iff_mem_keys, contains, Option.isSome_iff_exists] at listed
  exact listed

/-- A key that is not listed finds nothing. -/
theorem get?_eq_none_of_notMem {arena : Arena κ α} {key : κ} (absent : key ∉ arena.keys) :
    arena.get? key = none := by
  cases found : arena.get? key with
  | none => rfl
  | some value => exact (absent (mem_keys_of_get? found)).elim

/-- What a key finds is among the entries. -/
theorem mem_entries_of_get? {arena : Arena κ α} {key : κ} {value : α}
    (found : arena.get? key = some value) : (key, value) ∈ arena.entries := by
  obtain ⟨entry, present, rfl⟩ := Option.map_eq_some_iff.mp found
  have named : entry.1 = key := by simpa using List.find?_some present
  rw [← named]
  exact List.mem_of_find?_eq_some present

/-- What a key finds is among the objects. -/
theorem mem_values_of_get? {arena : Arena κ α} {key : κ} {value : α}
    (found : arena.get? key = some value) : value ∈ arena.values :=
  List.mem_map.mpr ⟨(key, value), mem_entries_of_get? found, rfl⟩

/-- Under distinct keys, the entries are what the keys find. -/
theorem get?_eq_some_iff {arena : Arena κ α} (distinct : arena.keys.Nodup) {key : κ} {value : α} :
    arena.get? key = some value ↔ (key, value) ∈ arena.entries := by
  refine ⟨mem_entries_of_get?, fun present => ?_⟩
  obtain ⟨entries⟩ := arena
  induction entries with
  | nil => exact (List.not_mem_nil present).elim
  | cons entry rest ih =>
    obtain ⟨fresh, distinct⟩ := List.nodup_cons.mp distinct
    simp only [get?, List.find?_cons]
    rcases List.mem_cons.mp present with rfl | later
    · simp
    · have apart : ¬ entry.1 = key := by
        rintro rfl
        exact fresh (List.mem_map.mpr ⟨_, later, rfl⟩)
      have found := ih distinct later
      unfold get? at found
      simp only [apart, decide_false, found]

/-- Under distinct keys, every object is found. -/
theorem exists_get?_of_mem_values {arena : Arena κ α} (distinct : arena.keys.Nodup) {value : α}
    (listed : value ∈ arena.values) : ∃ key, arena.get? key = some value := by
  obtain ⟨entry, present, rfl⟩ := List.mem_map.mp listed
  exact ⟨entry.1, (get?_eq_some_iff distinct).mpr present⟩

/-- Changing every object changes what each key finds. -/
theorem get?_mapValues (arena : Arena κ α) (change : κ → α → β) (key : κ) :
    (arena.mapValues change).get? key = (arena.get? key).map (change key) := by
  obtain ⟨entries⟩ := arena
  simp only [get?, mapValues]
  induction entries with
  | nil => rfl
  | cons entry rest ih =>
    simp only [List.map_cons, List.find?_cons]
    by_cases here : entry.1 = key
    · simp [here]
    · simpa [here] using ih

/-- A key that is not live is listed last. -/
theorem entries_insert_of_notMem {arena : Arena κ α} {key : κ} (fresh : key ∉ arena.keys)
    (value : α) : (arena.insert key value).entries = arena.entries ++ [(key, value)] := by
  have dead : arena.contains key = false := by
    rw [← Bool.not_eq_true, contains_iff_mem_keys]
    exact fresh
  simp [insert, dead]

/-- Keys stay distinct when something is inserted, be it under a live key. -/
theorem nodup_keys_insert {arena : Arena κ α} (distinct : arena.keys.Nodup) (key : κ) (value : α) :
    (arena.insert key value).keys.Nodup := by
  rw [keys_insert]
  split
  · exact distinct
  · rename_i absent
    rw [contains_iff_mem_keys] at absent
    exact List.nodup_append.mpr ⟨distinct, List.pairwise_singleton .., by grind⟩

/-- Keys stay distinct when something is erased. -/
theorem nodup_keys_erase {arena : Arena κ α} (distinct : arena.keys.Nodup) (key : κ) :
    (arena.erase key).keys.Nodup := by
  rw [keys_erase]
  exact distinct.filter _

/-- Changing under a key that is not live changes nothing. -/
theorem modify_of_notMem {arena : Arena κ α} {key : κ} (absent : key ∉ arena.keys)
    (change : α → α) : arena.modify key change = arena := by
  obtain ⟨entries⟩ := arena
  refine congrArg mk ((List.map_congr_left fun entry present => ?_).trans (List.map_id entries))
  have apart : ¬ entry.1 = key := by
    rintro rfl
    exact absent (List.mem_map.mpr ⟨entry, present, rfl⟩)
  simp only [apart, if_false, id]

private theorem notMem_of_get?_eq_none {arena : Arena κ α} {key : κ}
    (dead : arena.get? key = none) : key ∉ arena.keys := fun listed => by
  obtain ⟨value, found⟩ := get?_of_mem_keys listed
  cases dead.symm.trans found

theorem modify_of_get?_eq_none {arena : Arena κ α} {key : κ} (dead : arena.get? key = none)
    (change : α → α) : arena.modify key change = arena :=
  modify_of_notMem (notMem_of_get?_eq_none dead) change

/-- Erasing a key that is not live changes nothing. -/
theorem erase_of_notMem {arena : Arena κ α} {key : κ} (absent : key ∉ arena.keys) :
    arena.erase key = arena := by
  obtain ⟨entries⟩ := arena
  refine congrArg mk (List.filter_eq_self.mpr fun entry present => decide_eq_true ?_)
  rintro rfl
  exact absent (List.mem_map.mpr ⟨entry, present, rfl⟩)

theorem erase_of_get?_eq_none {arena : Arena κ α} {key : κ} (dead : arena.get? key = none) :
    arena.erase key = arena :=
  erase_of_notMem (notMem_of_get?_eq_none dead)

/-- Only what a change makes of the object under the key matters. -/
theorem modify_congr {arena : Arena κ α} (distinct : arena.keys.Nodup) {key : κ} {value : α}
    (found : arena.get? key = some value) {change other : α → α}
    (same : change value = other value) : arena.modify key change = arena.modify key other := by
  obtain ⟨entries⟩ := arena
  refine congrArg mk (List.map_congr_left fun entry present => ?_)
  by_cases here : entry.1 = key
  · have held : entry.2 = value := by
      have reached := (get?_eq_some_iff distinct).mpr (here ▸ present : (key, entry.2) ∈ entries)
      rw [found, Option.some.injEq] at reached
      exact reached.symm
    simp only [here, if_true, held, same]
  · simp only [here, if_false]

/-- To change an object into itself changes nothing. -/
theorem modify_id (arena : Arena κ α) (key : κ) :
    (arena.modify key fun value => value) = arena := by
  obtain ⟨entries⟩ := arena
  refine congrArg mk ((List.map_congr_left fun entry _ => ?_).trans (List.map_id entries))
  split <;> rfl

/-- A change that fixes what the key finds, if anything, changes nothing. -/
theorem modify_eq_self {arena : Arena κ α} (distinct : arena.keys.Nodup) {key : κ}
    {change : α → α} (same : ∀ value, arena.get? key = some value → change value = value) :
    arena.modify key change = arena := by
  cases found : arena.get? key with
  | none => exact modify_of_get?_eq_none found change
  | some value => exact (modify_congr distinct found (same value found)).trans (modify_id arena key)

/-- Putting back what is there changes nothing. -/
theorem modify_self {arena : Arena κ α} (distinct : arena.keys.Nodup) {key : κ} {value : α}
    (found : arena.get? key = some value) : (arena.modify key fun _ => value) = arena :=
  modify_eq_self distinct fun _ held => Option.some.inj (found.symm.trans held)

/-- Two changes under one key are one change. -/
theorem modify_modify (arena : Arena κ α) (key : κ)
    (first second : α → α) :
    (arena.modify key first).modify key second = arena.modify key fun value =>
      second (first value) := by
  simp only [modify, List.map_map]
  refine congrArg mk (List.map_congr_left fun entry _ => ?_)
  by_cases here : entry.1 = key
  · simp only [Function.comp_apply, here, if_true]
  · simp only [Function.comp_apply, here, if_false]

/-- Changes under different keys commute. -/
theorem modify_comm (arena : Arena κ α) {key other : κ} (apart : key ≠ other)
    (change change' : α → α) :
    (arena.modify key change).modify other change' =
      (arena.modify other change').modify key change := by
  simp only [modify, List.map_map]
  refine congrArg mk (List.map_congr_left fun entry _ => ?_)
  by_cases here : entry.1 = key
  · simp only [Function.comp_apply, here, if_true, if_neg apart]
  · by_cases there : entry.1 = other
    · simp only [Function.comp_apply, there, if_true, if_neg apart.symm]
    · simp only [Function.comp_apply, here, there, if_false]

/-- It does not matter which of two keys is erased first. -/
theorem erase_comm (arena : Arena κ α) (key other : κ) :
    (arena.erase key).erase other = (arena.erase other).erase key := by
  simp only [erase, List.filter_filter, Bool.and_comm]

/-- What becomes of every object when something happens to one of them. -/
theorem get?_eq_bind {arena rest : Arena κ α} {key : κ} {after : κ → α → Option α}
    (elsewhere : ∀ other, other ≠ key → rest.get? other = arena.get? other)
    (here : rest.get? key = (arena.get? key).bind (after key))
    (there : ∀ other value, key ≠ other → arena.get? other = some value →
      after other value = some value) (other : κ) :
    rest.get? other = (arena.get? other).bind (after other) := by
  by_cases same : other = key
  · rw [same, here]
  · rw [elsewhere other same]
    cases found : arena.get? other with
    | none => rfl
    | some value => exact (there other value (Ne.symm same) found).symm

/-- What becomes of every object when one is erased. -/
theorem get?_erase_eq_bind {arena : Arena κ α} {key : κ} {after : κ → α → Option α}
    (here : ∀ value, arena.get? key = some value → after key value = none)
    (there : ∀ other value, key ≠ other → arena.get? other = some value →
      after other value = some value) (other : κ) :
    (arena.erase key).get? other = (arena.get? other).bind (after other) := by
  refine get?_eq_bind (fun other apart => by rw [get?_erase, if_neg apart]) ?_ there other
  rw [get?_erase, if_pos rfl]
  cases found : arena.get? key with
  | none => rfl
  | some value => exact (here value found).symm

/-- What becomes of every object when one is changed. -/
theorem get?_modify_eq_bind {arena : Arena κ α} {key : κ} {change : α → α}
    {after : κ → α → Option α}
    (here : ∀ value, arena.get? key = some value → after key value = some (change value))
    (there : ∀ other value, key ≠ other → arena.get? other = some value →
      after other value = some value) (other : κ) :
    (arena.modify key change).get? other = (arena.get? other).bind (after other) := by
  refine get?_eq_bind (fun other apart => by rw [get?_modify, if_neg apart]) ?_ there other
  rw [get?_modify, if_pos rfl]
  cases found : arena.get? key with
  | none => rfl
  | some value => exact (here value found).symm

/-- A view of every object changes along with the object. -/
theorem mapValues_modify (arena : Arena κ α) (key : κ) (change : α → α) {view : α → β}
    (changeView : β → β) (along : ∀ value, view (change value) = changeView (view value)) :
    ((arena.modify key change).mapValues fun _ => view) =
      (arena.mapValues fun _ => view).modify key changeView := by
  simp only [modify, mapValues, List.map_map]
  refine congrArg mk (List.map_congr_left fun entry _ => ?_)
  by_cases here : entry.1 = key
  · simp only [Function.comp_apply, here, if_true, along]
  · simp only [Function.comp_apply, here, if_false]

/-- Changing one object and then all of them is changing all of them. -/
theorem mapValues_modify_of_eq {arena : Arena κ α} {key : κ} {change : α → α}
    {before after : κ → α → β} (here : ∀ value, before key (change value) = after key value)
    (there : ∀ other value, other ≠ key → before other value = after other value) :
    (arena.modify key change).mapValues before = arena.mapValues after := by
  simp only [modify, mapValues, List.map_map]
  refine congrArg mk (List.map_congr_left fun entry _ => ?_)
  by_cases same : entry.1 = key
  · simp only [Function.comp_apply, same, if_true, here]
  · simp only [Function.comp_apply, same, if_false, there _ _ same]

omit [DecidableEq κ] in
/-- Only what a change makes of the objects that are there matters. -/
theorem mapValues_congr {arena : Arena κ α} {change other : κ → α → β}
    (same : ∀ entry ∈ arena.entries, change entry.1 entry.2 = other entry.1 entry.2) :
    arena.mapValues change = arena.mapValues other :=
  congrArg mk (List.map_congr_left fun entry listed => by rw [same entry listed])

omit [DecidableEq κ] in
/-- Changing every object into itself changes nothing. -/
theorem mapValues_eq_self {arena : Arena κ α} {change : κ → α → α}
    (same : ∀ entry ∈ arena.entries, change entry.1 entry.2 = entry.2) :
    arena.mapValues change = arena :=
  congrArg mk ((List.map_congr_left fun entry listed => by rw [same entry listed]; rfl).trans
    (List.map_id arena.entries))

/-- A view of every object gains the view of what is inserted. -/
theorem mapValues_insert (arena : Arena κ α) (key : κ) (value : α) (view : α → β) :
    ((arena.insert key value).mapValues fun _ => view) =
      (arena.mapValues fun _ => view).insert key (view value) := by
  have live : (arena.mapValues fun _ => view).contains key = arena.contains key := by
    simp only [contains, get?_mapValues, Option.isSome_map]
  simp only [insert, live]
  split
  · exact mapValues_modify arena key _ _ fun _ => rfl
  · simp [mapValues]

/-- A view of every object loses that of what is erased. -/
theorem mapValues_erase (arena : Arena κ α) (key : κ) (view : α → β) :
    ((arena.erase key).mapValues fun _ => view) = (arena.mapValues fun _ => view).erase key := by
  simp [mapValues, erase, List.filter_map, Function.comp_def]

/-- **Counting under a change.** The number of objects that pass a test changes by what the one
changed object counted for before and counts for now. -/
theorem countP_values_modify {arena : Arena κ α} (distinct : arena.keys.Nodup) {key : κ}
    {value : α} (found : arena.get? key = some value) (change : α → α) (test : α → Bool) :
    (arena.modify key change).values.countP test + (if test value then 1 else 0) =
      arena.values.countP test + if test (change value) then 1 else 0 := by
  obtain ⟨entries⟩ := arena
  induction entries with
  | nil => cases found
  | cons entry rest ih =>
    obtain ⟨fresh, distinct⟩ := List.nodup_cons.mp distinct
    simp only [get?, List.find?_cons] at found
    by_cases here : entry.1 = key
    · subst here
      simp only [decide_true, Option.map_some, Option.some.injEq] at found
      subst found
      have kept : modify ⟨rest⟩ entry.1 change = ⟨rest⟩ := modify_of_notMem fresh change
      simp only [modify, mk.injEq] at kept
      simp only [modify, values, List.map_cons, if_true, List.countP_cons, kept]
      omega
    · simp only [here, decide_false] at found
      have counted := ih distinct found
      simp only [modify, values] at counted
      simp only [modify, values, List.map_cons, here, if_false, List.countP_cons]
      omega

/-- An object counts for no more than all of them. -/
theorem le_countP_values {arena : Arena κ α} {key : κ} {value : α}
    (found : arena.get? key = some value) (test : α → Bool) :
    (if test value then 1 else 0) ≤ arena.values.countP test := by
  split
  · rename_i passes
    exact List.countP_pos_iff.mpr ⟨value, mem_values_of_get? found, passes⟩
  · exact Nat.zero_le _

/-- After a change, an object was there before or is what the change made of one. -/
theorem mem_values_modify {arena : Arena κ α} {key : κ} {change : α → α} {value : α}
    (listed : value ∈ (arena.modify key change).values) :
    value ∈ arena.values ∨ ∃ old ∈ arena.values, value = change old := by
  obtain ⟨entry, present, rfl⟩ := List.mem_map.mp listed
  obtain ⟨old, held, rfl⟩ := List.mem_map.mp present
  split
  · exact .inr ⟨old.2, List.mem_map.mpr ⟨old, held, rfl⟩, rfl⟩
  · exact .inl (List.mem_map.mpr ⟨old, held, rfl⟩)

/-- After an insertion, an object was there before or is the one inserted. -/
theorem mem_values_insert {arena : Arena κ α} {key : κ} {value other : α}
    (listed : other ∈ (arena.insert key value).values) : other ∈ arena.values ∨ other = value := by
  unfold insert at listed
  split at listed
  · rcases mem_values_modify listed with old | ⟨_, _, same⟩
    · exact .inl old
    · exact .inr same
  · simpa [values] using listed

theorem mem_values_erase {arena : Arena κ α} {key : κ} {value : α}
    (listed : value ∈ (arena.erase key).values) : value ∈ arena.values := by
  obtain ⟨entry, present, rfl⟩ := List.mem_map.mp listed
  exact List.mem_map.mpr ⟨entry, (List.mem_filter.mp present).1, rfl⟩

/-- Erasing an object takes away what it counted for. -/
theorem countP_values_erase {arena : Arena κ α} (distinct : arena.keys.Nodup) {key : κ}
    {value : α} (found : arena.get? key = some value) (test : α → Bool) :
    (arena.erase key).values.countP test + (if test value then 1 else 0) =
      arena.values.countP test := by
  obtain ⟨entries⟩ := arena
  induction entries with
  | nil => cases found
  | cons entry rest ih =>
    obtain ⟨fresh, distinct⟩ := List.nodup_cons.mp distinct
    simp only [get?, List.find?_cons] at found
    by_cases here : entry.1 = key
    · subst here
      simp only [decide_true, Option.map_some, Option.some.injEq] at found
      subst found
      have kept : erase ⟨rest⟩ entry.1 = ⟨rest⟩ := erase_of_notMem fresh
      simp only [erase, mk.injEq] at kept
      simp only [erase, values, List.filter_cons, ne_eq, not_true_eq_false, decide_false,
        Bool.false_eq_true, if_false, List.map_cons, List.countP_cons] at kept ⊢
      rw [kept]
    · simp only [here, decide_false] at found
      have counted := ih distinct found
      simp only [erase, values, ne_eq] at counted
      simp only [erase, values, List.filter_cons, ne_eq, here, not_false_eq_true, decide_true,
        if_true, List.map_cons, List.countP_cons]
      omega

/-- An object that passes a test is the only one to do so exactly if no other does. -/
theorem countP_values_le_one_iff {arena : Arena κ α} (distinct : arena.keys.Nodup) {key : κ}
    {value : α} (found : arena.get? key = some value) (test : α → Bool)
    (passes : test value = true) :
    arena.values.countP test ≤ 1 ↔
      ∀ other held, arena.get? other = some held → other ≠ key → ¬ test held = true := by
  have counted := countP_values_erase distinct found test
  rw [if_pos passes] at counted
  have one : arena.values.countP test ≤ 1 ↔ (arena.erase key).values.countP test = 0 := by omega
  rw [one, List.countP_eq_zero]
  constructor
  · intro none other held live apart
    refine none held (mem_values_of_get? (?_ : (arena.erase key).get? other = some held))
    rw [get?_erase, if_neg apart, live]
  · intro others held listed
    obtain ⟨entry, present, rfl⟩ := List.mem_map.mp listed
    obtain ⟨entryListed, apart⟩ := List.mem_filter.mp present
    exact others entry.1 entry.2 ((get?_eq_some_iff distinct).mpr entryListed)
      (of_decide_eq_true apart)

/-- A new object adds what it counts for. -/
theorem countP_values_insert {arena : Arena κ α} {key : κ} (fresh : key ∉ arena.keys) (value : α)
    (test : α → Bool) :
    (arena.insert key value).values.countP test =
      arena.values.countP test + if test value then 1 else 0 := by
  simp [values, entries_insert_of_notMem fresh]

end DisplayServer.Arena
