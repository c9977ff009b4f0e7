import Mathlib.Algebra.Ring.Nat
import DisplayServer.Serial

/-! # The serials of a counter

A fresh counter draws 1, 2, and so on up to the last word, and then starts over from 1. Serials are
compared by which of the two is newer (`Serial.IsNewer`), which is right for any two that were drawn
less than half a circle apart, on whichever side of the last word (`Serial.isNewer_nth`).
-/

namespace DisplayServer

namespace Serial

variable {a b : Serial}

/-- The serial that a fresh counter draws after `count` others. -/
def nth (count : Nat) : Serial :=
  ⟨UInt32.ofNat (count % 4294967295 + 1)⟩

/-- The value of a serial. Zero is skipped. -/
theorem toNat_nth (count : Nat) : (nth count).value.toNat = count % 4294967295 + 1 := by
  rw [nth, UInt32.toNat_ofNat']
  omega

/-! ## Which of two serials is newer -/

/-- A serial lies ahead of another one by at most half a circle. Of two serials that are exactly
half a circle apart, the larger one is ahead. -/
def IsNewer (a b : Serial) : Prop :=
  b.value.toNat < a.value.toNat ∧ a.value.toNat ≤ b.value.toNat + 2147483648 ∨
    a.value.toNat + 2147483648 < b.value.toNat

instance (a b : Serial) : Decidable (IsNewer a b) :=
  inferInstanceAs (Decidable (_ ∨ _))

/-- Serials are equal if their values are. -/
theorem eq_iff_toNat : a = b ↔ a.value.toNat = b.value.toNat := by
  rw [Serial.mk.injEq, UInt32.toNat_inj]

private theorem not_isNewer_self (a : Serial) : ¬ a.IsNewer a := by
  unfold IsNewer
  omega

/-- Of two different serials one is newer than the other. -/
theorem isNewer_iff_of_ne (apart : a ≠ b) : a.IsNewer b ↔ ¬ b.IsNewer a := by
  rw [Ne, eq_iff_toNat] at apart
  unfold IsNewer
  omega

/-- Serials are compared by which one is newer. -/
theorem order_eq (a b : Serial) :
    order a b = if a = b then .eq else if a.IsNewer b then .gt else .lt := by
  have boundA : a.value.toNat < 4294967296 := a.value.toNat_lt
  have boundB : b.value.toNat < 4294967296 := b.value.toNat_lt
  have ahead : (a.value - b.value).toNat =
      if b.value.toNat ≤ a.value.toNat then a.value.toNat - b.value.toNat
      else a.value.toNat + 4294967296 - b.value.toNat := by
    have difference := UInt32.toNat_sub a.value b.value
    split <;> omega
  simp only [order, numericOrder, eq_iff_toNat, ← UInt32.toNat_inj, UInt32.lt_iff_toNat_lt, ahead,
    UInt32.reduceToNat]
  -- The distance forward is none, less than half a circle, half a circle, or more.
  repeat' split
  all_goals first | rfl | (unfold IsNewer at *; omega)

private theorem order_eq_eq_iff : order a b = .eq ↔ a = b := by
  rw [order_eq]
  split
  · exact iff_of_true rfl ‹_›
  · split <;> exact iff_of_false nofun ‹_›

/-- A serial comes after the one that it is newer than. -/
theorem order_eq_gt_iff : order a b = .gt ↔ a.IsNewer b := by
  rw [order_eq]
  split
  · rename_i same
    subst same
    exact iff_of_false nofun (not_isNewer_self a)
  · split
    · exact iff_of_true rfl ‹_›
    · exact iff_of_false nofun ‹_›

/-- The other way around, two serials compare the other way around. -/
theorem order_swap (a b : Serial) : (order a b).swap = order b a := by
  rw [order_eq, order_eq]
  by_cases same : a = b
  · rw [if_pos same, if_pos same.symm]
    rfl
  · rw [if_neg same, if_neg (Ne.symm same)]
    by_cases newer : b.IsNewer a
    · rw [if_pos newer, if_neg (mt (isNewer_iff_of_ne same).mp (not_not_intro newer))]
      rfl
    · rw [if_neg newer, if_pos ((isNewer_iff_of_ne same).mpr newer)]
      rfl

/-- A serial is older if the other one is newer. -/
theorem isNoOlderThan_eq_false_iff : a.isNoOlderThan b = false ↔ b.IsNewer a := by
  rw [← order_eq_gt_iff, ← order_swap, isNoOlderThan]
  cases order a b <;> decide

/-- A serial that is drawn less than half a circle later is newer. A circle that passes the last
word is one draw shorter, since 0 is skipped. -/
theorem isNewer_nth {earlier later : Nat} (onward : earlier < later)
    (near : later - earlier ≤ 2147483646) : (nth later).IsNewer (nth earlier) := by
  have first := toNat_nth earlier
  have second := toNat_nth later
  unfold IsNewer
  omega

end Serial

/-! ## What a counter draws -/

namespace SerialCounter

variable {counter : SerialCounter} {count start : Nat}

/-- The counter stands where a fresh one stands after `count` serials. -/
def HasDrawn (counter : SerialCounter) (count : Nat) : Prop :=
  counter.draw.1 = .nth count

/-- A fresh counter has drawn nothing. -/
theorem hasDrawn_fresh : ({} : SerialCounter).HasDrawn 0 := rfl

/-- A serial is drawn. After the last word the counter stands at 0, which it skips. -/
theorem HasDrawn.draw (drawn : counter.HasDrawn count) : counter.draw.2.HasDrawn (count + 1) := by
  have value : (if counter.next = 0 then 1 else counter.next) = (Serial.nth count).value :=
    congrArg Serial.value drawn
  have next : counter.draw.2.next = (Serial.nth count).value + 1 := congrArg (· + 1) value
  have number := Serial.toNat_nth count
  have after : counter.draw.2.next.toNat = (count % 4294967295 + 2) % 4294967296 := by
    rw [next, UInt32.toNat_add, number]
    rfl
  refine congrArg Serial.mk (UInt32.toNat_inj.mp (Eq.trans ?_ (Serial.toNat_nth _).symm))
  split
  · rename_i around
    rw [around] at after
    change 1 = _
    have : (0 : UInt32).toNat = 0 := rfl
    omega
  · rename_i onward
    have : counter.draw.2.next.toNat ≠ 0 := fun zero => onward (UInt32.toNat_inj.mp zero)
    omega

/-- What a counter draws are the serials in turn. -/
theorem HasDrawn.take (drawn : counter.HasDrawn start) (count : Nat) :
    counter.take count = (List.range' start count).map Serial.nth := by
  induction count generalizing counter start with
  | zero => rfl
  | succ count ih =>
    rw [SerialCounter.take, List.range'_succ, List.map_cons]
    exact congr (congrArg List.cons drawn) (ih drawn.draw)

private theorem getElem?_take_fresh {index : Nat} (within : index < count) :
    (({} : SerialCounter).take count)[index]? = some (.nth index) := by
  rw [hasDrawn_fresh.take, List.getElem?_map, List.getElem?_range' within, Nat.zero_add,
    Nat.one_mul]
  rfl

/-- **Later serials compare as newer.** A fresh counter numbers its serials from 1, and starts over
after the last word. Less than half a circle of draws apart, the later serial compares as greater,
is no older than the earlier one, and the earlier one is older than it. Any two words compare, the
other way around if they are exchanged, and as equal only if they are. -/
theorem later_draws_newer :
    (∀ count index, index < count → ∃ serial,
      (({} : SerialCounter).take count)[index]? = some serial ∧
        serial.value.toNat = index % (2 ^ 32 - 1) + 1) ∧
      (∀ count earlier later first second,
        (({} : SerialCounter).take count)[earlier]? = some first →
        (({} : SerialCounter).take count)[later]? = some second →
        earlier < later → later - earlier ≤ 2 ^ 31 - 2 →
          second.order first = .gt ∧ second.isNoOlderThan first = true ∧
            first.isNoOlderThan second = false) ∧
      (∀ a b : Serial, a.order b = (b.order a).swap) ∧
      ∀ a b : Serial, a.order b = .eq ↔ a = b := by
  refine ⟨fun count index within =>
    ⟨.nth index, getElem?_take_fresh within, Serial.toNat_nth index⟩, ?_,
    fun a b => (Serial.order_swap b a).symm, fun a b => Serial.order_eq_eq_iff⟩
  intro count earlier later first second drawnFirst drawnSecond onward near
  have drawn {index : Nat} {serial : Serial}
      (shown : (({} : SerialCounter).take count)[index]? = some serial) : serial = .nth index := by
    have bound := (List.getElem?_eq_some_iff.mp shown).1
    rw [hasDrawn_fresh.take, List.length_map, List.length_range'] at bound
    exact (Option.some.inj ((getElem?_take_fresh bound).symm.trans shown)).symm
  rw [drawn drawnFirst, drawn drawnSecond]
  have newer := Serial.isNewer_nth onward near
  have greater := Serial.order_eq_gt_iff.mpr newer
  exact ⟨greater, by rw [Serial.isNoOlderThan, greater]; rfl,
    Serial.isNoOlderThan_eq_false_iff.mpr newer⟩

/-- The serial after the last word is 1, and newer than the last word. -/
theorem later_draws_newer_wrap :
    ∃ first second, (({} : SerialCounter).take 4294967296)[4294967294]? = some first ∧
      (({} : SerialCounter).take 4294967296)[4294967295]? = some second ∧
      first.value.toNat = 4294967295 ∧ second.value.toNat = 1 ∧ second.order first = .gt := by
  obtain ⟨numbered, compared, _⟩ := later_draws_newer
  obtain ⟨first, drawnFirst, last⟩ := numbered 4294967296 4294967294 (by omega)
  obtain ⟨second, drawnSecond, restarted⟩ := numbered 4294967296 4294967295 (by omega)
  exact ⟨first, second, drawnFirst, drawnSecond, last, restarted,
    (compared _ _ _ _ _ drawnFirst drawnSecond (by omega) (by omega)).1⟩

end SerialCounter

end DisplayServer
