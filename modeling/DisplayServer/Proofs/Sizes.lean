import DisplayServer.CommandLine
import DisplayServer.Proofs.Rectangles

/-! # Sizes given as text

A size is its width, an `x` and its height. Both are integers as they are written
(`Text.Numeral`), and as they are read: in range, with the first character that is no digit or leads
out of range to blame otherwise (`Text.Refused`). `CommandLine.Reads` says what a size comes to step
by step, and `CommandLine.IsExtent` what the sides of an accepted one look like.
-/

namespace DisplayServer

namespace Text

section Digits

variable {high start value : Nat} {text : List Char} {c : Char} {cause : NumberError}

/-- A digit has a value. -/
theorem digit?_of_isDigit (digit : c.isDigit = true) : digit? c = some (c.toNat - '0'.toNat) :=
  if_pos ((Bool.and_eq_true_iff.mp digit).imp of_decide_eq_true of_decide_eq_true)

private theorem digit?_of_not_isDigit (other : c.isDigit = false) : digit? c = none := by
  refine if_neg fun within => ?_
  have digit : c.isDigit = true :=
    Bool.and_eq_true_iff.mpr (within.imp (decide_eq_true ·) (decide_eq_true ·))
  exact Bool.noConfusion (other.symm.trans digit)

/-- A number does not get smaller as more of its digits are read. -/
theorem le_ofDigitChars (text : List Char) (start : Nat) :
    start ≤ Nat.ofDigitChars 10 text start := by
  induction text generalizing start with
  | nil => exact Nat.le_refl start
  | cons c rest ih =>
    rw [Nat.ofDigitChars_cons]
    have onward := ih (10 * start + (c.toNat - '0'.toNat))
    omega

/-- **Digits are read to the end if the number stays in range.** -/
theorem readUp_eq_ok_iff (within : start ≤ high) :
    readUp high start text = .ok value ↔
      (∀ c ∈ text, c.isDigit = true) ∧ Nat.ofDigitChars 10 text start = value ∧ value ≤ high := by
  induction text generalizing start with
  | nil =>
    rw [readUp, Except.ok.injEq]
    constructor
    · rintro rfl
      exact ⟨fun _ listed => (List.not_mem_nil listed).elim, rfl, within⟩
    · exact fun read => read.2.1
  | cons c rest ih =>
    rw [readUp, List.forall_mem_cons, Nat.ofDigitChars_cons]
    cases digit : c.isDigit with
    | false =>
      rw [digit?_of_not_isDigit digit]
      exact iff_of_false nofun fun read => Bool.noConfusion read.1.1
    | true =>
      rw [digit?_of_isDigit digit]
      simp only [true_and]
      split
      · rename_i beyond
        refine iff_of_false nofun fun read => ?_
        have onward := le_ofDigitChars rest (10 * start + (c.toNat - '0'.toNat))
        omega
      · rename_i fits
        exact ih (Nat.le_of_not_lt fits)

/-- Why digits are not read to the end: the first character that is no digit, or that leads out of
range. -/
inductive Stops (high start : Nat) : List Char → NumberError → Prop where
  | noDigit {front back : List Char} {c : Char} (digits : ∀ c ∈ front, c.isDigit = true)
      (fits : Nat.ofDigitChars 10 front start ≤ high) (other : c.isDigit = false) :
      Stops high start (front ++ c :: back) .invalidDigit
  | outOfRange {front back : List Char} {c : Char} (digits : ∀ c ∈ front, c.isDigit = true)
      (fits : Nat.ofDigitChars 10 front start ≤ high) (digit : c.isDigit = true)
      (beyond : high < Nat.ofDigitChars 10 (front ++ [c]) start) :
      Stops high start (front ++ c :: back) .tooLarge

/-- Digits that lead nowhere out of range are read one after another. -/
theorem readUp_append {front : List Char} (digits : ∀ c ∈ front, c.isDigit = true)
    (fits : Nat.ofDigitChars 10 front start ≤ high) (rest : List Char) :
    readUp high start (front ++ rest) = readUp high (Nat.ofDigitChars 10 front start) rest := by
  induction front generalizing start with
  | nil => rfl
  | cons c front ih =>
    obtain ⟨digit, digits⟩ := List.forall_mem_cons.mp digits
    rw [Nat.ofDigitChars_cons] at fits ⊢
    have onward := le_ofDigitChars front (10 * start + (c.toNat - '0'.toNat))
    rw [List.cons_append, readUp, digit?_of_isDigit digit]
    simp only
    rw [if_neg (by omega), ih digits fits]

private theorem Stops.cons (stops : Stops high (10 * start + (c.toNat - '0'.toNat)) text cause)
    (digit : c.isDigit = true) : Stops high start (c :: text) cause := by
  cases stops with
  | noDigit digits fits other =>
    exact @Stops.noDigit _ _ (c :: _) _ _ (List.forall_mem_cons.mpr ⟨digit, digits⟩)
      (by rwa [Nat.ofDigitChars_cons]) other
  | outOfRange digits fits last beyond =>
    exact @Stops.outOfRange _ _ (c :: _) _ _ (List.forall_mem_cons.mpr ⟨digit, digits⟩)
      (by rwa [Nat.ofDigitChars_cons]) last (by rwa [List.cons_append, Nat.ofDigitChars_cons])

/-- What a number stops at is what is wrong with it first. -/
theorem readUp_eq_error_iff (within : start ≤ high) :
    readUp high start text = .error cause ↔ Stops high start text cause := by
  constructor
  · intro refused
    induction text generalizing start with
    | nil => cases refused
    | cons c rest ih =>
      have none : ∀ c ∈ ([] : List Char), c.isDigit = true := fun _ => List.not_mem_nil.elim
      rw [readUp] at refused
      cases digit : c.isDigit with
      | false =>
        rw [digit?_of_not_isDigit digit] at refused
        cases refused
        exact .noDigit none within digit
      | true =>
        rw [digit?_of_isDigit digit] at refused
        simp only at refused
        split at refused
        · rename_i beyond
          cases refused
          exact .outOfRange none within digit (by rwa [List.nil_append, Nat.ofDigitChars_cons])
        · rename_i fits
          exact (ih (Nat.le_of_not_lt fits) refused).cons digit
  · intro stops
    cases stops with
    | noDigit digits fits other =>
      rw [readUp_append digits fits, readUp, digit?_of_not_isDigit other]
    | outOfRange digits fits digit beyond =>
      rw [Nat.ofDigitChars_append, Nat.ofDigitChars_cons] at beyond
      rw [readUp_append digits fits, readUp, digit?_of_isDigit digit]
      exact if_pos beyond

end Digits

/-- One or more digits, and the number that they stand for. -/
structure IsNumber (digits : List Char) (value : Nat) : Prop where
  some : digits ≠ []
  all : ∀ c ∈ digits, c.isDigit = true
  stands : Nat.ofDigitChars 10 digits 0 = value

/-- **An integer as it is written:** an optional sign, and a number. -/
inductive Numeral : List Char → Int → Prop where
  | bare {digits : List Char} {value : Nat} (number : IsNumber digits value) :
      Numeral digits value
  | plus {digits : List Char} {value : Nat} (number : IsNumber digits value) :
      Numeral ('+' :: digits) value
  | minus {digits : List Char} {value : Nat} (number : IsNumber digits value) :
      Numeral ('-' :: digits) (-value)

/-- A text does not start with a sign. -/
def IsUnsigned (text : List Char) : Prop :=
  ∀ sign ∈ text.head?, sign ≠ '+' ∧ sign ≠ '-'

/-- The same error on the other side of zero. -/
def NumberError.below : NumberError → NumberError
  | .tooLarge => .tooSmall
  | cause => cause

/-- **Why a text is no integer from `-low` to `high`.** -/
inductive Refused (low high : Nat) : List Char → NumberError → Prop where
  | empty : Refused low high [] .empty
  | signAlone {sign : Char} (signs : sign = '+' ∨ sign = '-') :
      Refused low high [sign] .invalidDigit
  | bare {text : List Char} {cause : NumberError} (unsigned : IsUnsigned text)
      (stops : Stops high 0 text cause) : Refused low high text cause
  | plus {digits : List Char} {cause : NumberError} (stops : Stops high 0 digits cause) :
      Refused low high ('+' :: digits) cause
  | minus {digits : List Char} {cause : NumberError} (stops : Stops low 0 digits cause) :
      Refused low high ('-' :: digits) cause.below

/-- How an integer is read, by its sign. -/
inductive ReadsBySign (low high : Nat) : List Char → Except NumberError Int → Prop where
  | empty : ReadsBySign low high [] (.error .empty)
  | signAlone {sign : Char} (signs : sign = '+' ∨ sign = '-') :
      ReadsBySign low high [sign] (.error .invalidDigit)
  | plus {digits : List Char} (some : digits ≠ []) :
      ReadsBySign low high ('+' :: digits) ((readUp high 0 digits).map Int.ofNat)
  | minus {digits : List Char} (some : digits ≠ []) :
      ReadsBySign low high ('-' :: digits)
        (((readUp low 0 digits).map fun number => -Int.ofNat number).mapError .below)
  | bare {text : List Char} (some : text ≠ []) (unsigned : IsUnsigned text) :
      ReadsBySign low high text ((readUp high 0 text).map Int.ofNat)

section Numerals

variable {low high : Nat} {text digits : List Char} {value : Int} {cause : NumberError}

/-- An integer is read by its sign. -/
theorem readsBySign (low high : Nat) (text : List Char) :
    ReadsBySign low high text (readInteger low high text) := by
  unfold readInteger
  split
  · exact .empty
  · exact .signAlone (.inl rfl)
  · exact .signAlone (.inr rfl)
  · rename_i digits more
    exact .plus fun none => more (none ▸ rfl)
  · rename_i digits more
    have minus : ReadsBySign low high ('-' :: digits) _ := .minus fun none => more (none ▸ rfl)
    revert minus
    cases readUp low 0 digits with
    | ok number => exact id
    | error cause => cases cause <;> exact id
  · rename_i some _ _ noPlus noMinus
    refine .bare some fun sign first => ?_
    obtain ⟨rest, rfl⟩ := List.head?_eq_some_iff.mp first
    exact ⟨fun plus => noPlus rest (plus ▸ rfl), fun minus => noMinus rest (minus ▸ rfl)⟩

/-- A sign is told from a number by its first character. -/
theorem IsNumber.unsigned {number : Nat} (isNumber : IsNumber digits number) :
    IsUnsigned digits := by
  intro sign first
  have digit := isNumber.all sign (List.mem_of_mem_head? first)
  refine ⟨?_, ?_⟩ <;> rintro rfl <;> cases digit

/-- A numeral with a plus sign is a number. -/
theorem numeral_plus_iff :
    Numeral ('+' :: digits) value ↔ ∃ number : Nat, IsNumber digits number ∧ value = number := by
  constructor
  · intro numeral
    cases numeral with
    | bare number => exact ((number.unsigned '+' rfl).1 rfl).elim
    | plus number => exact ⟨_, number, rfl⟩
  · rintro ⟨number, isNumber, rfl⟩
    exact .plus isNumber

/-- A numeral with a minus sign is a number that counts down. -/
theorem numeral_minus_iff :
    Numeral ('-' :: digits) value ↔ ∃ number : Nat, IsNumber digits number ∧ value = -number := by
  constructor
  · intro numeral
    cases numeral with
    | bare number => exact ((number.unsigned '-' rfl).2 rfl).elim
    | minus number => exact ⟨_, number, rfl⟩
  · rintro ⟨number, isNumber, rfl⟩
    exact .minus isNumber

/-- A numeral without a sign is a number. -/
theorem numeral_iff_of_unsigned (unsigned : IsUnsigned text) :
    Numeral text value ↔ ∃ number : Nat, IsNumber text number ∧ value = number := by
  constructor
  · intro numeral
    cases numeral with
    | bare number => exact ⟨_, number, rfl⟩
    | plus => exact ((unsigned '+' rfl).1 rfl).elim
    | minus => exact ((unsigned '-' rfl).2 rfl).elim
  · rintro ⟨number, isNumber, rfl⟩
    exact .bare isNumber

/-- A text is a number in one way at most. -/
theorem IsNumber.unique {first second : Nat} (one : IsNumber digits first)
    (other : IsNumber digits second) : first = second :=
  one.stands.symm.trans other.stands

/-- A text is the numeral of one integer. -/
theorem Numeral.unique {other : Int} (first : Numeral text value) (second : Numeral text other) :
    value = other := by
  cases first with
  | bare isNumber =>
    obtain ⟨number, again, rfl⟩ := (numeral_iff_of_unsigned isNumber.unsigned).mp second
    rw [isNumber.unique again]
  | plus isNumber =>
    obtain ⟨number, again, rfl⟩ := numeral_plus_iff.mp second
    rw [isNumber.unique again]
  | minus isNumber =>
    obtain ⟨number, again, rfl⟩ := numeral_minus_iff.mp second
    rw [isNumber.unique again]

/-- Digits are read as a number if it is not too large. -/
theorem readUp_eq_ok_iff_isNumber (some : digits ≠ []) {number : Nat} :
    readUp high 0 digits = .ok number ↔ IsNumber digits number ∧ number ≤ high := by
  rw [readUp_eq_ok_iff (Nat.zero_le high)]
  constructor
  · rintro ⟨all, stands, fits⟩
    exact ⟨⟨some, all, stands⟩, fits⟩
  · rintro ⟨⟨_, all, stands⟩, fits⟩
    exact ⟨all, stands, fits⟩

/-- The number read may be given another sign. -/
theorem map_readUp_eq_ok_iff (some : digits ≠ []) (change : Nat → Int) :
    (readUp high 0 digits).map change = .ok value ↔
      ∃ number, (IsNumber digits number ∧ number ≤ high) ∧ value = change number := by
  constructor
  · intro read
    cases done : readUp high 0 digits with
    | error cause =>
      rw [done] at read
      cases read
    | ok number =>
      rw [done] at read
      cases read
      exact ⟨number, (readUp_eq_ok_iff_isNumber some).mp done, rfl⟩
  · rintro ⟨number, read, rfl⟩
    rw [(readUp_eq_ok_iff_isNumber some).mpr read]
    rfl

/-- A number that is read without a minus sign is above every lower bound. -/
theorem ofNat_readUp_eq_ok_iff (some : digits ≠ []) :
    (readUp high 0 digits).map Int.ofNat = .ok value ↔
      (∃ number : Nat, IsNumber digits number ∧ value = number) ∧ -low ≤ value ∧ value ≤ high := by
  rw [map_readUp_eq_ok_iff some]
  simp only [Int.ofNat_eq_natCast]
  constructor
  · rintro ⟨number, ⟨isNumber, fits⟩, rfl⟩
    exact ⟨⟨number, isNumber, rfl⟩, by omega⟩
  · rintro ⟨⟨number, isNumber, rfl⟩, _, fits⟩
    exact ⟨number, ⟨isNumber, by omega⟩, rfl⟩

private theorem mapError_eq_ok_iff {result : Except NumberError Int}
    (change : NumberError → NumberError) :
    result.mapError change = .ok value ↔ result = .ok value := by
  cases result with
  | ok _ => rfl
  | error _ => exact iff_of_false nofun nofun

/-- **An integer is read if it is written as one, and in range.** -/
theorem readInteger_eq_ok_iff :
    readInteger low high text = .ok value ↔ Numeral text value ∧ -low ≤ value ∧ value ≤ high := by
  have reads := readsBySign low high text
  generalize readInteger low high text = result at reads
  cases reads with
  | empty =>
    refine iff_of_false nofun fun written => ?_
    cases written.1 with
    | bare number => exact number.some rfl
  | signAlone signs =>
    refine iff_of_false nofun fun written => ?_
    rcases signs with rfl | rfl
    · obtain ⟨_, number, _⟩ := numeral_plus_iff.mp written.1
      exact number.some rfl
    · obtain ⟨_, number, _⟩ := numeral_minus_iff.mp written.1
      exact number.some rfl
  | plus some => rw [numeral_plus_iff, ofNat_readUp_eq_ok_iff some]
  | minus some =>
    rw [mapError_eq_ok_iff, map_readUp_eq_ok_iff some, numeral_minus_iff]
    simp only [Int.ofNat_eq_natCast]
    constructor
    · rintro ⟨number, ⟨isNumber, fits⟩, rfl⟩
      exact ⟨⟨number, isNumber, rfl⟩, by omega⟩
    · rintro ⟨⟨number, isNumber, rfl⟩, fits, _⟩
      exact ⟨number, ⟨isNumber, by omega⟩, rfl⟩
  | bare some unsigned => rw [numeral_iff_of_unsigned unsigned, ofNat_readUp_eq_ok_iff some]

private theorem not_stops_nil {start : Nat} : ¬ Stops high start [] cause := by
  intro stops
  generalize none : ([] : List Char) = text at stops
  cases stops <;> exact List.append_ne_nil_of_right_ne_nil _ (List.cons_ne_nil _ _) none.symm

private theorem map_readUp_eq_error_iff (change : Nat → Int) :
    (readUp high 0 digits).map change = .error cause ↔ Stops high 0 digits cause := by
  rw [← readUp_eq_error_iff (Nat.zero_le high)]
  cases readUp high 0 digits with
  | ok _ => exact iff_of_false nofun nofun
  | error _ => rw [Except.map, Except.error.injEq, Except.error.injEq]

/-- **Otherwise it is refused for the first character that is to blame.** -/
theorem readInteger_eq_error_iff :
    readInteger low high text = .error cause ↔ Refused low high text cause := by
  have reads := readsBySign low high text
  generalize readInteger low high text = result at reads
  cases reads with
  | empty =>
    rw [Except.error.injEq]
    constructor
    · rintro rfl
      exact .empty
    · intro refused
      cases refused with
      | empty => rfl
      | bare _ stops => exact (not_stops_nil stops).elim
  | signAlone signs =>
    rw [Except.error.injEq]
    constructor
    · rintro rfl
      exact .signAlone signs
    · intro refused
      cases refused with
      | signAlone _ => rfl
      | bare unsigned _ => exact (signs.elim (unsigned _ rfl).1 (unsigned _ rfl).2).elim
      | plus stops => exact (not_stops_nil stops).elim
      | minus stops => exact (not_stops_nil stops).elim
  | plus some =>
    rw [map_readUp_eq_error_iff]
    constructor
    · exact .plus
    · intro refused
      cases refused with
      | signAlone _ => exact (some rfl).elim
      | bare unsigned _ => exact ((unsigned _ rfl).1 rfl).elim
      | plus stops => exact stops
  | minus some =>
    constructor
    · intro failed
      cases done : (readUp low 0 _).map fun number => -Int.ofNat number with
      | ok _ =>
        rw [done] at failed
        cases failed
      | error cause =>
        rw [done] at failed
        cases failed
        exact .minus ((map_readUp_eq_error_iff _).mp done)
    · intro refused
      cases refused with
      | signAlone _ => exact (some rfl).elim
      | bare unsigned _ => exact ((unsigned _ rfl).2 rfl).elim
      | minus stops =>
        rw [(map_readUp_eq_error_iff _).mpr stops]
        rfl
  | bare some unsigned =>
    rw [map_readUp_eq_error_iff]
    constructor
    · exact .bare unsigned
    · intro refused
      cases refused with
      | empty => exact (some rfl).elim
      | signAlone signs => exact (signs.elim (unsigned _ rfl).1 (unsigned _ rfl).2).elim
      | bare _ stops => exact stops
      | plus => exact ((unsigned _ rfl).1 rfl).elim
      | minus => exact ((unsigned _ rfl).2 rfl).elim

/-- Why a text is no integer of 32 bits. -/
abbrev RefusedInt32 (text : List Char) (cause : NumberError) : Prop :=
  Refused 2147483648 2147483647 text cause

/-- A 32-bit integer is read exactly from its numerals. -/
theorem readInt32_eq_ok_iff {value : Int32} :
    readInt32 text = .ok value ↔ Numeral text value.toInt := by
  have above := value.le_toInt
  have below := value.toInt_lt
  unfold readInt32
  constructor
  · intro read
    cases done : readInteger 2147483648 2147483647 text with
    | error cause =>
      rw [done] at read
      cases read
    | ok integer =>
      rw [done] at read
      cases read
      obtain ⟨numeral, first, last⟩ := readInteger_eq_ok_iff.mp done
      rwa [Int32.toInt_ofInt_of_le (by omega) (by omega)]
  · intro numeral
    rw [readInteger_eq_ok_iff.mpr ⟨numeral, by omega, by omega⟩, Except.map, Int32.ofInt_toInt]

/-- A 32-bit integer is refused exactly for what is wrong with the text first. -/
theorem readInt32_eq_error_iff : readInt32 text = .error cause ↔ RefusedInt32 text cause := by
  rw [RefusedInt32, ← readInteger_eq_error_iff, readInt32]
  cases readInteger 2147483648 2147483647 text with
  | ok _ => exact iff_of_false nofun nofun
  | error _ => rw [Except.map, Except.error.injEq, Except.error.injEq]

/-- A number that is not negative is written by its digits. -/
theorem numeral_toString (nonneg : 0 ≤ value) : Numeral (toString value).toList value := by
  obtain ⟨number, rfl⟩ := Int.eq_ofNat_of_zero_le nonneg
  refine .bare ⟨?_, ?_, ?_⟩ <;>
    simp only [Int.toString_eq_repr, Int.repr, Nat.repr_eq_ofList_toDigits, String.toList_ofList]
  · exact Nat.toDigits_ne_nil
  · exact fun _ => Nat.isDigit_of_mem_toDigits (by decide) (by decide)
  · exact Nat.ofDigitChars_ten_toDigits

end Numerals

end Text

namespace CommandLine

open Text (Numeral IsNumber RefusedInt32)

section Sides

variable {text width height : List Char} {value : Int32} {size : Size}

/-- A text can be split unless there is no cross in it. -/
theorem splitAtCross_eq_none_iff : splitAtCross text = none ↔ 'x' ∉ text := by
  induction text with
  | nil => exact iff_of_true rfl List.not_mem_nil
  | cons c rest ih =>
    rw [splitAtCross, List.mem_cons, not_or]
    split
    · rename_i cross
      exact iff_of_false nofun fun missing => missing.1 cross.symm
    · rename_i other
      rw [Option.map_eq_none_iff, ih]
      exact (and_iff_right (Ne.symm other)).symm

/-- A text is split at its first cross. -/
theorem splitAtCross_append (first : 'x' ∉ width) :
    splitAtCross (width ++ 'x' :: height) = some (width, height) := by
  induction width with
  | nil => exact if_pos rfl
  | cons c width ih =>
    obtain ⟨other, first⟩ := not_or.mp (List.mem_cons.not.mp first)
    rw [List.cons_append, splitAtCross, if_neg (Ne.symm other), ih first]
    rfl

/-- One side of an accepted size: an optional plus sign, and digits for a positive number in
range. -/
inductive IsExtent (value : Int32) : List Char → Prop where
  | bare {digits : List Char} {number : Nat} (isNumber : IsNumber digits number)
      (positive : 1 ≤ number) (fits : number ≤ 2147483647) (stands : value.toInt = number) :
      IsExtent value digits
  | plus {digits : List Char} {number : Nat} (isNumber : IsNumber digits number)
      (positive : 1 ≤ number) (fits : number ≤ 2147483647) (stands : value.toInt = number) :
      IsExtent value ('+' :: digits)

/-- A side is an integer like any other, and positive. -/
theorem isExtent_iff : IsExtent value text ↔ Numeral text value.toInt ∧ 0 < value.toInt := by
  have last := value.toInt_lt
  constructor
  · intro extent
    cases extent with
    | bare isNumber positive fits stands =>
      rw [stands]
      exact ⟨.bare isNumber, by omega⟩
    | plus isNumber positive fits stands =>
      rw [stands]
      exact ⟨.plus isNumber, by omega⟩
  · rintro ⟨numeral, positive⟩
    generalize stands : value.toInt = integer at numeral positive last
    cases numeral with
    | bare isNumber => exact .bare isNumber (by omega) (by omega) stands
    | plus isNumber => exact .plus isNumber (by omega) (by omega) stands
    | minus => omega

/-- A side has digits, and at most a plus sign besides. -/
theorem IsExtent.isDigit_or_plus (extent : IsExtent value text) :
    ∀ c ∈ text, c.isDigit = true ∨ c = '+' := by
  cases extent with
  | bare isNumber => exact fun c listed => .inl (isNumber.all c listed)
  | plus isNumber =>
    intro c listed
    exact (List.mem_cons.mp listed).symm.imp (isNumber.all c) id

private theorem IsExtent.no_cross (extent : IsExtent value text) : 'x' ∉ text := by
  intro listed
  rcases extent.isDigit_or_plus 'x' listed with digit | plus
  · cases digit
  · cases plus

/-- The sides of an accepted size. -/
structure IsSplit (text width height : List Char) (size : Size) : Prop where
  around : text = width ++ 'x' :: height
  left : IsExtent size.w width
  right : IsExtent size.h height

/-- An accepted size is split in one way. -/
theorem IsSplit.unique {left right : List Char} (accepted : IsSplit text width height size)
    (around : text = left ++ 'x' :: right) : left = width ∧ right = height := by
  obtain ⟨rfl, extentLeft, extentRight⟩ := accepted
  rcases List.append_eq_append_iff.mp around with ⟨between, rfl, rest⟩ | ⟨between, rfl, rest⟩
  all_goals cases between with
    | nil =>
      cases rest
      exact ⟨by rw [List.append_nil], rfl⟩
    | cons c between => ?_
  · cases rest
    exact (extentRight.no_cross (List.mem_append_right _ List.mem_cons_self)).elim
  · cases rest
    exact (extentLeft.no_cross (List.mem_append_right _ List.mem_cons_self)).elim

/-- One of the two parts of a text around an `x`. -/
inductive IsSide (text : List Char) : List Char → Prop where
  | left {side rest : List Char} (around : text = side ++ 'x' :: rest) : IsSide text side
  | right {side rest : List Char} (around : text = rest ++ 'x' :: side) : IsSide text side

private theorem IsSplit.isExtent_of_isSide {side : List Char}
    (accepted : IsSplit text width height size)
    (isSide : IsSide text side) : ∃ value, IsExtent value side := by
  cases isSide with
  | left around => exact ⟨size.w, (accepted.unique around).1 ▸ accepted.left⟩
  | right around => exact ⟨size.h, (accepted.unique around).2 ▸ accepted.right⟩

/-- What no text of a size has. -/
inductive IsMalformed (text : List Char) : Prop where
  | secondCross (crosses : 2 ≤ text.count 'x')
  /-- Whitespace, a minus sign, or anything else. -/
  | foreign {c : Char} (listed : c ∈ text) (digit : c.isDigit = false) (plus : c ≠ '+')
      (cross : c ≠ 'x')
  | emptySide (isSide : IsSide text [])
  | signAlone {sign : Char} (signs : sign = '+' ∨ sign = '-') (isSide : IsSide text [sign])
  | outOfRange {side : List Char} {integer : Int} (isSide : IsSide text side)
      (numeral : Numeral side integer) (beyond : integer ≤ 0 ∨ 2147483647 < integer)

/-- What can be split in two extents is not malformed. -/
theorem IsSplit.not_isMalformed (accepted : IsSplit text width height size) :
    ¬ IsMalformed text := by
  intro malformed
  cases malformed with
  | secondCross crosses =>
    rw [accepted.around, List.count_append, List.count_cons_self,
      List.count_eq_zero.mpr accepted.left.no_cross,
      List.count_eq_zero.mpr accepted.right.no_cross] at crosses
    omega
  | @foreign c listed digit plus cross =>
    have known : c.isDigit = true ∨ c = '+' := by
      rw [accepted.around, List.mem_append, List.mem_cons] at listed
      rcases listed with left | rfl | right
      · exact accepted.left.isDigit_or_plus _ left
      · exact (cross rfl).elim
      · exact accepted.right.isDigit_or_plus _ right
    exact known.elim (fun known => Bool.noConfusion (digit.symm.trans known)) plus
  | emptySide isSide =>
    obtain ⟨value, extent⟩ := accepted.isExtent_of_isSide isSide
    cases extent with
    | bare isNumber => exact isNumber.some rfl
  | signAlone signs isSide =>
    obtain ⟨value, extent⟩ := accepted.isExtent_of_isSide isSide
    cases extent with
    | bare isNumber =>
      exact signs.elim (isNumber.unsigned _ rfl).1 (isNumber.unsigned _ rfl).2
    | plus isNumber => exact isNumber.some rfl
  | outOfRange isSide numeral beyond =>
    obtain ⟨value, extent⟩ := accepted.isExtent_of_isSide isSide
    obtain ⟨written, positive⟩ := isExtent_iff.mp extent
    have last := value.toInt_lt
    rw [numeral.unique written] at beyond
    omega

end Sides

/-- **How a size is read:** it is split at the first `x`, then its width is read, then its height,
and last both must be positive. The first step that fails gives the error. -/
inductive Reads (text : String) : Except ValueError Size → Prop where
  | noSeparator (missing : 'x' ∉ text.toList) : Reads text (.error (.noSeparator text))
  | width {width height : List Char} {cause : Text.NumberError}
      (around : text.toList = width ++ 'x' :: height) (first : 'x' ∉ width)
      (refused : RefusedInt32 width cause) : Reads text (.error (.number cause))
  | height {width height : List Char} {w : Int32} {cause : Text.NumberError}
      (around : text.toList = width ++ 'x' :: height) (first : 'x' ∉ width)
      (left : Numeral width w.toInt) (refused : RefusedInt32 height cause) :
      Reads text (.error (.number cause))
  | notPositive {width height : List Char} {size : Size}
      (around : text.toList = width ++ 'x' :: height) (first : 'x' ∉ width)
      (left : Numeral width size.w.toInt) (right : Numeral height size.h.toInt)
      (flat : size.isPositive = false) : Reads text (.error (.notPositive size))
  | size {width height : List Char} {size : Size}
      (around : text.toList = width ++ 'x' :: height) (first : 'x' ∉ width)
      (left : Numeral width size.w.toInt) (right : Numeral height size.h.toInt)
      (positive : size.isPositive = true) : Reads text (.ok size)

section Sizes

variable {text : String} {size : Size} {result : Except ValueError Size}

private theorem parseSize_of_split {width height : List Char}
    (around : text.toList = width ++ 'x' :: height) (first : 'x' ∉ width) :
    parseSize text = (do
      let w ← (Text.readInt32 width).mapError .number
      let h ← (Text.readInt32 height).mapError .number
      if (⟨w, h⟩ : Size).isPositive then .ok ⟨w, h⟩ else .error (.notPositive ⟨w, h⟩)) := by
  rw [parseSize, around, splitAtCross_append first]

/-- A size is read as the grammar says. -/
theorem reads_parseSize (text : String) : Reads text (parseSize text) := by
  by_cases missing : 'x' ∉ text.toList
  · rw [parseSize, splitAtCross_eq_none_iff.mpr missing]
    exact .noSeparator missing
  obtain ⟨width, height, around, first⟩ := List.eq_append_cons_of_mem (not_not.mp missing)
  rw [parseSize_of_split around first]
  cases left : Text.readInt32 width with
  | error cause => exact .width around first (Text.readInt32_eq_error_iff.mp left)
  | ok w =>
    have left := Text.readInt32_eq_ok_iff.mp left
    cases right : Text.readInt32 height with
    | error cause => exact .height around first left (Text.readInt32_eq_error_iff.mp right)
    | ok h =>
      have right := Text.readInt32_eq_ok_iff.mp right
      change Reads text (if Size.isPositive ⟨w, h⟩ = true then .ok ⟨w, h⟩
        else .error (.notPositive ⟨w, h⟩))
      split
      · rename_i positive
        exact .size around first left right positive
      · rename_i flat
        exact .notPositive around first left right (Bool.eq_false_iff.mpr flat)

/-- What the grammar says is what is read. -/
theorem Reads.eq_parseSize (reads : Reads text result) : parseSize text = result := by
  cases reads with
  | noSeparator missing => rw [parseSize, splitAtCross_eq_none_iff.mpr missing]
  | width around first refused =>
    rw [parseSize_of_split around first, Text.readInt32_eq_error_iff.mpr refused]
    rfl
  | height around first left refused =>
    rw [parseSize_of_split around first, Text.readInt32_eq_ok_iff.mpr left,
      Text.readInt32_eq_error_iff.mpr refused]
    rfl
  | notPositive around first left right flat =>
    rw [parseSize_of_split around first, Text.readInt32_eq_ok_iff.mpr left,
      Text.readInt32_eq_ok_iff.mpr right]
    exact if_neg (Bool.eq_false_iff.mp flat)
  | size around first left right positive =>
    rw [parseSize_of_split around first, Text.readInt32_eq_ok_iff.mpr left,
      Text.readInt32_eq_ok_iff.mpr right]
    exact if_pos positive

/-- **A size is accepted if its sides are.** -/
theorem parseSize_eq_ok_iff :
    parseSize text = .ok size ↔ ∃ width height, IsSplit text.toList width height size := by
  constructor
  · intro accepted
    have reads := reads_parseSize text
    rw [accepted] at reads
    cases reads with
    | size around _ left right positive =>
      obtain ⟨wide, high⟩ := Size.isPositive_eq_true_iff.mp positive
      exact ⟨_, _, around, isExtent_iff.mpr ⟨left, wide⟩, isExtent_iff.mpr ⟨right, high⟩⟩
  · rintro ⟨width, height, around, left, right⟩
    obtain ⟨first, wide⟩ := isExtent_iff.mp left
    obtain ⟨second, high⟩ := isExtent_iff.mp right
    exact (Reads.size around left.no_cross first second
      (Size.isPositive_eq_true_iff.mpr ⟨wide, high⟩)).eq_parseSize

/-- A positive size that is written out is split into its sides. -/
theorem isSplit_toString (positive : size.isPositive = true) :
    IsSplit (toString size.w ++ "x" ++ toString size.h).toList (toString size.w).toList
      (toString size.h).toList size := by
  obtain ⟨wide, high⟩ := Size.isPositive_eq_true_iff.mp positive
  refine ⟨?_, isExtent_iff.mpr ⟨Text.numeral_toString (Int.le_of_lt wide), wide⟩,
    isExtent_iff.mpr ⟨Text.numeral_toString (Int.le_of_lt high), high⟩⟩
  rw [String.toList_append, String.toList_append, List.append_assoc]
  rfl

/-- **Sizes are read exactly.** A text is accepted as a size just if it is two sides around an `x`,
each an optional plus sign and the digits of a positive number in range. So every positive size is
read back from its decimal rendering, and nothing malformed is accepted. What is not accepted is
refused for the first step that fails: the split, the width, the height, or that both are
positive. -/
theorem sizes_read_exactly :
    (∀ text size, parseSize text = .ok size ↔
      ∃ width height, text.toList = width ++ 'x' :: height ∧
        IsExtent size.w width ∧ IsExtent size.h height) ∧
    (∀ size : Size, size.isPositive = true →
      parseSize (toString size.w ++ "x" ++ toString size.h) = .ok size) ∧
    (∀ text : String, IsMalformed text.toList → ∃ cause, parseSize text = .error cause) ∧
    ∀ text result, parseSize text = result ↔ Reads text result := by
  refine ⟨fun text size => ?_, fun size positive => ?_, fun text malformed => ?_,
    fun text result => ⟨?_, Reads.eq_parseSize⟩⟩
  · rw [parseSize_eq_ok_iff]
    constructor
    · rintro ⟨width, height, around, left, right⟩
      exact ⟨width, height, around, left, right⟩
    · rintro ⟨width, height, around, left, right⟩
      exact ⟨width, height, around, left, right⟩
  · exact parseSize_eq_ok_iff.mpr ⟨_, _, isSplit_toString positive⟩
  · cases read : parseSize text with
    | error cause => exact ⟨cause, rfl⟩
    | ok size =>
      obtain ⟨width, height, accepted⟩ := parseSize_eq_ok_iff.mp read
      exact (accepted.not_isMalformed malformed).elim
  · rintro rfl
    exact reads_parseSize text

/-- The widest size is read back, and a third dimension is one too many. -/
theorem parseSize_widest :
    (Size.isPositive ⟨2147483647, 1⟩ = true ∧
      parseSize "2147483647x1" = .ok ⟨2147483647, 1⟩) ∧
    IsMalformed "1x2x3".toList ∧ ∃ cause, parseSize "1x2x3" = .error cause :=
  have positive : Size.isPositive ⟨2147483647, 1⟩ = true := by decide
  have malformed : IsMalformed "1x2x3".toList := .secondCross (by decide)
  ⟨⟨positive, sizes_read_exactly.2.1 ⟨2147483647, 1⟩ positive⟩,
    malformed, sizes_read_exactly.2.2.1 "1x2x3" malformed⟩

end Sizes

end CommandLine

end DisplayServer
