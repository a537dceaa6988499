import Mathlib.Algebra.GroupWithZero.Nat
import DeviceUplink.Duration.Notation
import DeviceUplink.Proofs.Text.Literal

/-!
# Durations in writing

A written duration is a list of items, each a number with a unit. Reading such a list gives the sum
of the items, as long as that can be held, and the items of the written form of a duration add up to
it. So every duration is read back from its written form.
-/

namespace DeviceUplink.Duration

open Numeral

def TimeUnit.nanoseconds (unit : TimeUnit) : Nat :=
  unit.wholeScale.1 * nanosecondsPerSecond + unit.wholeScale.2

structure UnitName where
  name : String
  unit : TimeUnit
  isKnown : TimeUnit.ofName? name = some unit
  isSome : name.toList ≠ []
  isWord : name.toList.all Char.isAlpha = true

structure Item extends UnitName where
  count : Nat

namespace Item

def text (i : Item) : String :=
  toString i.count ++ i.name

def nanoseconds (i : Item) : Nat :=
  i.count * i.unit.nanoseconds

def IsShort (i : Item) : Prop :=
  i.count * i.unit.wholeScale.2 < nanosecondsPerSecond

end Item

variable {total : Duration} {n : Nat} {c : Char} {letters : List Char} {i : Item}

theorem boundedNumber_of_le (h : n ≤ maxNumber) : boundedNumber n = .ok n := by
  rw [boundedNumber, if_neg (Nat.not_lt.mpr h)]

/-- Letters are neither digits nor blanks. -/
theorem isAlpha_cases (h : c.isAlpha = true) :
    digitValue? c = none ∧ Text.isBlank c = false ∧ isUnitLetter c = true := by
  have hRange : 65 ≤ c.toNat ∧ c.toNat ≤ 90 ∨ 97 ≤ c.toNat ∧ c.toNat ≤ 122 := by
    have hLetter : (decide ('A'.val ≤ c.val ∧ c.val ≤ 'Z'.val) ||
        (decide ('a'.val ≤ c.val) && decide (c.val ≤ 'z'.val))) = true := h
    simpa [UInt32.le_iff_toNat_le] using hLetter
  refine ⟨?_, ?_, ?_⟩
  · have hDigit : c.isDigit = false := by
      simp only [Char.isDigit, UInt32.le_iff_toNat_le, Bool.and_eq_false_imp, decide_eq_true_eq,
        decide_eq_false_iff_not]
      change 48 ≤ c.toNat → ¬ c.toNat ≤ 57
      omega
    rw [digitValue?_eq, hDigit]
    rfl
  · simp only [Text.isBlank, Bool.or_eq_false_iff, Bool.and_eq_false_imp, decide_eq_true_eq,
      decide_eq_false_iff_not, beq_eq_false_iff_ne]
    omega
  · simp [isUnitLetter, h]

theorem plusItem_eq (hFits : total.nanoseconds + i.nanoseconds ≤ longest.nanoseconds)
    (hShort : i.IsShort) :
    total.plusItem i.count none i.name = .ok ⟨total.nanoseconds + i.nanoseconds⟩ := by
  have hParts : (ofParts (i.count * i.unit.wholeScale.1)
      (i.count * i.unit.wholeScale.2)).nanoseconds = i.nanoseconds := by
    simp only [ofParts, Item.nanoseconds, TimeUnit.nanoseconds, Nat.mul_add, Nat.mul_assoc]
  have hSeconds : i.count * i.unit.wholeScale.1 ≤ maxNumber := by
    simp only [longest, ofParts, nanosecondsPerSecond] at hFits hParts
    simp only [maxNumber]
    omega
  have hBelow : total.subseconds < nanosecondsPerSecond := Nat.mod_lt _ (by decide)
  simp only [Item.IsShort, nanosecondsPerSecond] at hShort hBelow
  have hSmall : i.count * i.unit.wholeScale.2 ≤ maxNumber := by
    simp only [maxNumber]
    omega
  have hCarried : ¬ maxNumber < total.subseconds + i.count * i.unit.wholeScale.2 := by
    simp only [maxNumber]
    omega
  simp only [plusItem, i.isKnown, plusWhole, boundedNumber_of_le hSeconds,
    boundedNumber_of_le hSmall, plus, if_neg hCarried, hParts, if_neg (Nat.not_lt.mpr hFits)]

namespace Progress

/-- Taking in the text leads from `p` to `q`, wherever it stands and whatever follows. -/
def Takes (p : Progress) (text : List Char) (q : Progress) : Prop :=
  ∀ offset rest, ∃ next, p.read offset (text ++ rest) = q.read next rest

variable {p q r : Progress} {first second : List Char}

theorem Takes.nil : p.Takes [] p :=
  fun offset _ => ⟨offset, rfl⟩

theorem Takes.append (hFirst : p.Takes first q) (hSecond : q.Takes second r) :
    p.Takes (first ++ second) r := by
  intro offset rest
  obtain ⟨middle, hFirst⟩ := hFirst offset (second ++ rest)
  obtain ⟨next, hSecond⟩ := hSecond middle rest
  exact ⟨next, by rw [List.append_assoc, hFirst, hSecond]⟩

theorem Takes.cons (hStep : ∀ offset, p.step offset c = .ok q) (hRest : q.Takes second r) :
    p.Takes (c :: second) r := by
  intro offset rest
  obtain ⟨next, hRest⟩ := hRest (offset + c.utf8Size) rest
  refine ⟨next, ?_⟩
  rw [List.cons_append, read, hStep]
  exact hRest

theorem takes_digits (total : Duration) {digits : List Char}
    (hDigits : ∀ c ∈ digits, c.isDigit = true)
    (hFits : Nat.ofDigitChars 10 digits n ≤ maxNumber) :
    Takes ⟨total, .whole n⟩ digits ⟨total, .whole (Nat.ofDigitChars 10 digits n)⟩ := by
  induction digits generalizing n with
  | nil => exact .nil
  | cons c digits ih =>
    obtain ⟨hDigit, hMore⟩ := List.forall_mem_cons.mp hDigits
    rw [ofDigitChars_cons_eq] at hFits ⊢
    refine .cons (fun offset => ?_) (ih hMore hFits)
    have hHeld : n * 10 + (c.toNat - 48) ≤ maxNumber :=
      Nat.le_trans (le_ofDigitChars digits _) hFits
    simp only [step, digitValue?_of_isDigit hDigit, boundedNumber_of_le hHeld]
    rfl

theorem takes_letters {fraction? : Option Fraction} (before : List Char)
    (hLetters : ∀ c ∈ letters, c.isAlpha = true) :
    Takes ⟨total, .unit n fraction? before⟩ letters
      ⟨total, .unit n fraction? (before ++ letters)⟩ := by
  induction letters generalizing before with
  | nil => simpa using Takes.nil
  | cons c letters ih =>
    obtain ⟨hLetter, hMore⟩ := List.forall_mem_cons.mp hLetters
    obtain ⟨hDigit, hBlank, hUnit⟩ := isAlpha_cases hLetter
    rw [List.append_cons]
    refine .cons (fun offset => ?_) (ih (before ++ [c]) hMore)
    simp [step, hDigit, hBlank, hUnit]

theorem takes_item (total : Duration) {mode : Mode} (hMode : mode = .start ∨ mode = .gap)
    (hCount : i.count ≤ maxNumber) :
    Takes ⟨total, mode⟩ i.text.toList ⟨total, .unit i.count none i.name.toList⟩ := by
  have hText : i.text.toList = Nat.toDigits 10 i.count ++ i.name.toList := by simp [Item.text]
  rw [hText]
  apply Takes.append (q := ⟨total, .whole i.count⟩)
  · have hDigits : ∀ c ∈ Nat.toDigits 10 i.count, c.isDigit = true :=
      fun _ => Nat.isDigit_of_mem_toDigits (by decide) (by decide)
    have hValue : Nat.ofDigitChars 10 (Nat.toDigits 10 i.count) 0 = i.count :=
      Nat.ofDigitChars_ten_toDigits
    cases hChars : Nat.toDigits 10 i.count with
    | nil => exact absurd hChars Nat.toDigits_ne_nil
    | cons c digits =>
      rw [hChars] at hDigits hValue
      rw [ofDigitChars_cons_eq] at hValue
      obtain ⟨hDigit, hMore⟩ := List.forall_mem_cons.mp hDigits
      have hRest := takes_digits total hMore (hValue ▸ hCount)
      rw [hValue] at hRest
      refine .cons (fun offset => ?_) hRest
      rcases hMode with rfl | rfl <;> simp [step, digitValue?_of_isDigit hDigit]
  · cases hName : i.name.toList with
    | nil => exact absurd hName i.isSome
    | cons c letters =>
      have hWord := i.isWord
      rw [hName, List.all_eq_true] at hWord
      obtain ⟨hLetter, hMore⟩ := List.forall_mem_cons.mp hWord
      obtain ⟨hDigit, hBlank, hUnit⟩ := isAlpha_cases hLetter
      refine .cons (fun offset => ?_) (takes_letters [c] hMore)
      simp [step, hDigit, hBlank, hUnit]

theorem finish_unit (n : Nat) (fraction? : Option Fraction) (letters : List Char) :
    finish ⟨total, .unit n fraction? letters⟩ =
      total.plusItem n fraction? (String.ofList letters) := rfl

end Progress

def Item.sum (items : List Item) : Nat :=
  (items.map Item.nanoseconds).sum

theorem Item.sum_nil : Item.sum [] = 0 := by
  rw [Item.sum, List.map_nil, List.sum_nil]

theorem Item.sum_cons (i : Item) (items : List Item) :
    Item.sum (i :: items) = i.nanoseconds + Item.sum items := by
  rw [Item.sum, List.map_cons, List.sum_cons, Item.sum]

theorem Item.count_le (hShort : i.IsShort) (hFits : i.nanoseconds ≤ longest.nanoseconds) :
    i.count ≤ maxNumber := by
  have hUnit : 1 ≤ i.unit.wholeScale.1 ∨ 1 ≤ i.unit.wholeScale.2 := by
    cases i.unit <;> decide
  simp only [Item.IsShort, nanosecondsPerSecond] at hShort
  simp only [Item.nanoseconds, TimeUnit.nanoseconds, Nat.mul_add, ← Nat.mul_assoc, longest, ofParts,
    nanosecondsPerSecond] at hFits
  simp only [maxNumber]
  rcases hUnit with hWhole | hPart
  · have hCount := Nat.le_mul_of_pos_right i.count hWhole
    omega
  · have hCount := Nat.le_mul_of_pos_right i.count hPart
    omega

theorem finish_of_items {mode : Mode} (hMode : mode = .start ∨ mode = .gap) {items : List Item}
    (hSome : items ≠ []) (hShort : ∀ i ∈ items, i.IsShort)
    (hFits : total.nanoseconds + Item.sum items ≤ longest.nanoseconds) (offset : Nat) :
    ∃ last : Progress,
      Progress.read ⟨total, mode⟩ offset (" ".intercalate (items.map Item.text)).toList = .ok last ∧
        last.finish = .ok ⟨total.nanoseconds + Item.sum items⟩ := by
  -- the blank behind an item adds it to the total, from which the other items go on
  induction items generalizing total mode offset with
  | nil => exact absurd rfl hSome
  | cons i items ih =>
    obtain ⟨hFirst, hMore⟩ := List.forall_mem_cons.mp hShort
    rw [Item.sum_cons, ← Nat.add_assoc] at hFits ⊢
    have hHeld : total.nanoseconds + i.nanoseconds ≤ longest.nanoseconds :=
      Nat.le_trans (Nat.le_add_right _ _) hFits
    have hCount : i.count ≤ maxNumber :=
      Item.count_le hFirst (Nat.le_trans (Nat.le_add_left _ _) hHeld)
    have hItem := Progress.takes_item total hMode hCount
    have hSum := plusItem_eq hHeld hFirst
    cases items with
    | nil =>
      obtain ⟨next, hRead⟩ := hItem offset []
      rw [List.append_nil] at hRead
      refine ⟨_, hRead, ?_⟩
      rw [Progress.finish_unit, String.ofList_toList, hSum, Item.sum_nil, Nat.add_zero]
    | cons j items =>
      have hBlank : ∀ offset,
          Progress.step ⟨total, .unit i.count none i.name.toList⟩ offset ' ' =
            .ok ⟨⟨total.nanoseconds + i.nanoseconds⟩, .gap⟩ := by
        intro offset
        simp [Progress.step, digitValue?, Text.isBlank, hSum, Except.map]
      have hText : (" ".intercalate ((i :: j :: items).map Item.text)).toList =
          i.text.toList ++ [' '] ++ (" ".intercalate ((j :: items).map Item.text)).toList := by
        simp [String.intercalate_cons_cons]
      obtain ⟨next, hRead⟩ := (hItem.append (.cons hBlank .nil)) offset
        (" ".intercalate ((j :: items).map Item.text)).toList
      rw [hText, hRead]
      exact ih (.inr rfl) (List.cons_ne_nil _ _) hMore hFits next

namespace UnitName

def year : UnitName := ⟨"year", .year, rfl, by decide, rfl⟩
def years : UnitName := ⟨"years", .year, rfl, by decide, rfl⟩
def month : UnitName := ⟨"month", .month, rfl, by decide, rfl⟩
def months : UnitName := ⟨"months", .month, rfl, by decide, rfl⟩
def day : UnitName := ⟨"day", .day, rfl, by decide, rfl⟩
def days : UnitName := ⟨"days", .day, rfl, by decide, rfl⟩
def hours : UnitName := ⟨"h", .hour, rfl, by decide, rfl⟩
def minutes : UnitName := ⟨"m", .minute, rfl, by decide, rfl⟩
def seconds : UnitName := ⟨"s", .second, rfl, by decide, rfl⟩
def milliseconds : UnitName := ⟨"ms", .millisecond, rfl, by decide, rfl⟩
def microseconds : UnitName := ⟨"us", .microsecond, rfl, by decide, rfl⟩
def nanoseconds : UnitName := ⟨"ns", .nanosecond, rfl, by decide, rfl⟩

end UnitName

def Item.counted (count : Nat) (one several : UnitName) : Item :=
  ⟨if count = 1 then one else several, count⟩

def items (d : Duration) : List Item :=
  let inYear := d.seconds % 31557600
  let inMonth := inYear % 2630016
  let inDay := inMonth % 86400
  [.counted (d.seconds / 31557600) .year .years, .counted (inYear / 2630016) .month .months,
    .counted (inMonth / 86400) .day .days, ⟨.hours, inDay / 3600⟩, ⟨.minutes, inDay % 3600 / 60⟩,
    ⟨.seconds, inDay % 60⟩, ⟨.milliseconds, d.subseconds / 1000000⟩,
    ⟨.microseconds, d.subseconds / 1000 % 1000⟩, ⟨.nanoseconds, d.subseconds % 1000⟩]

def shown (items : List Item) : List Item :=
  items.filter fun i => i.count ≠ 0

theorem item_eq (name : UnitName) (n : Nat) :
    item n name.name = (shown [⟨name, n⟩]).map Item.text := by
  by_cases hNone : n = 0 <;> simp [item, shown, hNone, Item.text]

theorem pluralItem_eq (n : Nat) {one : UnitName} (several : UnitName)
    (h : several.name = one.name ++ "s") :
    pluralItem n one.name = (shown [.counted n one several]).map Item.text := by
  rw [Item.counted, ← item_eq, pluralItem, ← h]
  split <;> rfl

theorem shown_append (first second : List Item) :
    shown (first ++ second) = shown first ++ shown second :=
  List.filter_append ..

theorem format_eq (d : Duration) :
    d.format = if ((shown d.items).map Item.text).isEmpty then "0s" else
      " ".intercalate ((shown d.items).map Item.text) := by
  have hItems : (shown d.items).map Item.text =
      pluralItem (d.seconds / 31557600) UnitName.year.name ++
        pluralItem (d.seconds % 31557600 / 2630016) UnitName.month.name ++
        pluralItem (d.seconds % 31557600 % 2630016 / 86400) UnitName.day.name ++
        item (d.seconds % 31557600 % 2630016 % 86400 / 3600) UnitName.hours.name ++
        item (d.seconds % 31557600 % 2630016 % 86400 % 3600 / 60) UnitName.minutes.name ++
        item (d.seconds % 31557600 % 2630016 % 86400 % 60) UnitName.seconds.name ++
        item (d.subseconds / 1000000) UnitName.milliseconds.name ++
        item (d.subseconds / 1000 % 1000) UnitName.microseconds.name ++
        item (d.subseconds % 1000) UnitName.nanoseconds.name := by
    rw [pluralItem_eq _ .years rfl, pluralItem_eq _ .months rfl, pluralItem_eq _ .days rfl]
    simp only [item_eq, ← List.map_append, ← shown_append]
    rfl
  rw [hItems]
  rfl

theorem sum_shown (items : List Item) : Item.sum (shown items) = Item.sum items := by
  induction items with
  | nil => rfl
  | cons i items ih =>
    rw [Item.sum_cons, ← ih]
    by_cases hNone : i.count = 0
    · simp [shown, hNone, Item.nanoseconds]
    · simp [shown, hNone, Item.sum]

theorem nanoseconds_counted (n : Nat) {one several : UnitName} (h : one.unit = several.unit) :
    (Item.counted n one several).nanoseconds = n * several.unit.nanoseconds := by
  rw [Item.nanoseconds, Item.counted]
  split
  · rw [h]
  · rfl

theorem seconds_subseconds (d : Duration) :
    d.nanoseconds = d.seconds * 1000000000 + d.subseconds :=
  (Nat.div_add_mod' d.nanoseconds 1000000000).symm

theorem sum_items (d : Duration) : Item.sum d.items = d.nanoseconds := by
  have hYears (n : Nat) : (Item.counted n .year .years).nanoseconds = n * 31557600000000000 :=
    nanoseconds_counted n rfl
  have hMonths (n : Nat) : (Item.counted n .month .months).nanoseconds = n * 2630016000000000 :=
    nanoseconds_counted n rfl
  have hDays (n : Nat) : (Item.counted n .day .days).nanoseconds = n * 86400000000000 :=
    nanoseconds_counted n rfl
  have hOther (name : UnitName) (n : Nat) :
      Item.nanoseconds ⟨name, n⟩ = n * name.unit.nanoseconds := rfl
  have hHour : UnitName.hours.unit.nanoseconds = 3600000000000 := rfl
  have hMinute : UnitName.minutes.unit.nanoseconds = 60000000000 := rfl
  have hSecond : UnitName.seconds.unit.nanoseconds = 1000000000 := rfl
  have hMillisecond : UnitName.milliseconds.unit.nanoseconds = 1000000 := rfl
  have hMicrosecond : UnitName.microseconds.unit.nanoseconds = 1000 := rfl
  have hNanosecond : UnitName.nanoseconds.unit.nanoseconds = 1 := rfl
  simp only [items, Item.sum_cons, Item.sum_nil, hYears, hMonths, hDays, hOther, hHour, hMinute,
    hSecond, hMillisecond, hMicrosecond, hNanosecond, seconds_subseconds d]
  omega

theorem isShort_of_scale (scale : Nat) (hScale : i.unit.wholeScale.2 = scale)
    (hCount : i.count * scale < 1000000000) : i.IsShort := by
  rw [Item.IsShort, hScale]
  exact hCount

theorem isShort_counted (n : Nat) {one several : UnitName} (hOne : one.unit.wholeScale.2 = 0)
    (hSeveral : several.unit.wholeScale.2 = 0) : (Item.counted n one several).IsShort := by
  refine isShort_of_scale 0 ?_ (by rw [Nat.mul_zero]; decide)
  rw [Item.counted]
  split
  · exact hOne
  · exact hSeveral

theorem isShort_items (d : Duration) : ∀ i ∈ d.items, i.IsShort := by
  have hBelow : d.subseconds < 1000000000 := Nat.mod_lt _ (by decide)
  simp only [items, List.forall_mem_cons]
  refine ⟨isShort_counted _ rfl rfl, isShort_counted _ rfl rfl, isShort_counted _ rfl rfl,
    isShort_of_scale 0 rfl ?_, isShort_of_scale 0 rfl ?_, isShort_of_scale 0 rfl ?_,
    isShort_of_scale 1000000 rfl ?_, isShort_of_scale 1000 rfl ?_, isShort_of_scale 1 rfl ?_,
    List.forall_mem_nil _⟩
  all_goals
    dsimp only
    omega

/-- A lone digit is no list of items. -/
theorem finish_lone_zero {last : Progress}
    (hRead : Progress.read ⟨zero, .start⟩ 0 "0".toList = .ok last) : last.finish ≠ .ok total := by
  have hDigit : Progress.read ⟨zero, .start⟩ 0 "0".toList = .ok ⟨zero, .whole 0⟩ := rfl
  rw [hDigit] at hRead
  cases hRead
  intro hFinish
  cases hFinish

theorem parse_intercalate {items : List Item} (hSome : items ≠ []) (hShort : ∀ i ∈ items, i.IsShort)
    (hFits : Item.sum items ≤ longest.nanoseconds) :
    parse (" ".intercalate (items.map Item.text)) = .ok ⟨Item.sum items⟩ := by
  have hTotal : zero.nanoseconds + Item.sum items = Item.sum items := Nat.zero_add _
  obtain ⟨last, hRead, hFinish⟩ :=
    finish_of_items (.inl rfl) hSome hShort (hTotal.symm ▸ hFits) 0
  rw [hTotal] at hFinish
  unfold parse
  split
  · next hZero =>
    rw [hZero] at hRead
    exact absurd hFinish (finish_lone_zero hRead)
  · rw [hRead]
    exact hFinish

/-- Every duration that can be held is read back from its written form. -/
theorem parse_format {d : Duration} (h : d.nanoseconds ≤ longest.nanoseconds) :
    parse d.format = .ok d := by
  have hSum : Item.sum (shown d.items) = d.nanoseconds := by rw [sum_shown, sum_items]
  rw [format_eq]
  split
  · next hNone =>
    rw [List.isEmpty_iff, List.map_eq_nil_iff] at hNone
    rw [hNone, Item.sum_nil] at hSum
    cases d
    cases hSum
    rfl
  · next hSome =>
    rw [List.isEmpty_iff, List.map_eq_nil_iff] at hSome
    have hShort : ∀ i ∈ shown d.items, i.IsShort :=
      fun i hMem => isShort_items d i (List.mem_filter.mp hMem).1
    rw [parse_intercalate hSome hShort (hSum ▸ h), hSum]

/-- The longest duration, in all units. -/
example : longest.format = "584542046090years 7months 15days 17h 5m 3s 999ms 999us 999ns" := by
  decide +kernel

end DeviceUplink.Duration
