import Mathlib.Data.List.TakeWhile
import DeviceUplink.Text.Blank
import DeviceUplink.Text.Fields

/-!
# Partitions of a text

How a text falls into fields, into what stands before and behind its last separator, and into a
core and the blanks around it. Each of them is settled by the text alone.
-/

namespace DeviceUplink.Text

variable {separator : Char} {text before behind : List Char} {fields : List (List Char)}

theorem split_eq_splitOn (separator : Char) (text : List Char) :
    split separator text = text.splitOn separator := by
  induction text with
  | nil => rfl
  | cons c rest ih =>
    rw [split, List.splitOn_cons_eq_if_modifyHead, ih]
    by_cases hSeparator : c = separator
    · simp [hSeparator]
    · rw [if_neg hSeparator, if_neg (by simpa using hSeparator)]
      cases hFields : rest.splitOn separator with
      | nil => exact absurd hFields (List.splitOn_ne_nil separator rest)
      | cons field fields => rfl

theorem intercalate_split (separator : Char) (text : List Char) :
    [separator].intercalate (split separator text) = text := by
  rw [split_eq_splitOn, List.intercalate_splitOn]

theorem split_intercalate (hFields : ∀ field ∈ fields, separator ∉ field) (hSome : fields ≠ []) :
    split separator ([separator].intercalate fields) = fields := by
  rw [split_eq_splitOn, List.splitOn_intercalate separator hFields hSome]

theorem not_mem_of_mem_split {field : List Char} (h : field ∈ split separator text) :
    separator ∉ field := by
  induction text generalizing field with
  | nil =>
    rw [split, List.mem_singleton] at h
    simp [h]
  | cons c rest ih =>
    rw [split] at h
    by_cases hSeparator : c = separator
    · rw [if_pos hSeparator, List.mem_cons] at h
      rcases h with rfl | hRest
      · exact List.not_mem_nil
      · exact ih hRest
    · rw [if_neg hSeparator] at h
      cases hFields : split separator rest with
      | nil =>
        rw [hFields, List.mem_singleton] at h
        simp [h, Ne.symm hSeparator]
      | cons first others =>
        rw [hFields, List.mem_cons] at h
        rcases h with rfl | hOther
        · have hFirst : separator ∉ first := ih (hFields ▸ List.mem_cons_self ..)
          exact List.not_mem_cons_of_ne_of_not_mem (Ne.symm hSeparator) hFirst
        · exact ih (hFields ▸ List.mem_cons_of_mem _ hOther)

theorem splitLast_eq_none_iff : splitLast separator text = none ↔ separator ∉ text := by
  induction text with
  | nil => simp [splitLast]
  | cons c rest ih =>
    rw [splitLast, List.mem_cons, not_or, ← ih, eq_comm (a := separator)]
    cases splitLast separator rest with
    | some parts => simp
    | none => by_cases hSeparator : c = separator <;> simp [hSeparator]

theorem splitLast_append (h : separator ∉ behind) (before : List Char) :
    splitLast separator (before ++ separator :: behind) = some (before, behind) := by
  induction before with
  | nil => rw [List.nil_append, splitLast, splitLast_eq_none_iff.mpr h, if_pos rfl]
  | cons c before ih => rw [List.cons_append, splitLast, ih]

/-- What stands behind the last separator is free of it. -/
theorem splitLast_eq_some_iff :
    splitLast separator text = some (before, behind) ↔
      text = before ++ separator :: behind ∧ separator ∉ behind := by
  constructor
  · intro h
    induction text generalizing before with
    | nil => cases h
    | cons c rest ih =>
      rw [splitLast] at h
      cases hRest : splitLast separator rest with
      | some parts =>
        rw [hRest] at h
        cases h
        obtain ⟨rfl, hBehind⟩ := ih hRest
        exact ⟨rfl, hBehind⟩
      | none =>
        rw [hRest] at h
        dsimp only at h
        split at h
        · next hSeparator =>
          cases h
          exact ⟨congrArg (· :: _) hSeparator, splitLast_eq_none_iff.mp hRest⟩
        · cases h
  · rintro ⟨rfl, hBehind⟩
    exact splitLast_append hBehind before

def IsGap (text : List Char) : Prop :=
  ∀ c ∈ text, isBlank c = true

def IsTrimmed (text : List Char) : Prop :=
  (∀ c, text.head? = some c → isBlank c = false) ∧
    ∀ c, text.getLast? = some c → isBlank c = false

theorem head?_dropWhile_isBlank {c : Char} (h : (text.dropWhile isBlank).head? = some c) :
    isBlank c = false := by
  have hNot := List.head?_dropWhile_not isBlank text
  rw [h] at hNot
  simpa using hNot

/-- Only the blanks in front are dropped. -/
theorem dropWhile_gap_append (hBefore : IsGap before)
    (hText : ∀ c, text.head? = some c → isBlank c = false) :
    (before ++ text).dropWhile isBlank = text := by
  rw [List.dropWhile_append_of_pos hBefore]
  cases text with
  | nil => rfl
  | cons c rest => rw [List.dropWhile_cons_of_neg (by simp [hText c rfl])]

theorem IsGap.reverse (h : IsGap text) : IsGap text.reverse :=
  fun c hMem => h c (List.mem_reverse.mp hMem)

theorem IsGap.not_mem {c : Char} (h : IsGap text) (hBlank : isBlank c = false) : c ∉ text := by
  intro hMem
  rw [h c hMem] at hBlank
  cases hBlank

theorem trim_of_isGap (h : IsGap text) : trim text = [] := by
  rw [trim, List.dropWhile_eq_nil_iff.mpr h]
  rfl

theorem trim_append (hBefore : IsGap before) (hBehind : IsGap behind) (hText : IsTrimmed text) :
    trim (before ++ text ++ behind) = text := by
  cases text with
  | nil =>
    rw [List.append_nil]
    exact trim_of_isGap (List.forall_mem_append.mpr ⟨hBefore, hBehind⟩)
  | cons c rest =>
    rw [trim, List.append_assoc, dropWhile_gap_append hBefore (by simpa using hText.1),
      List.reverse_append, dropWhile_gap_append hBehind.reverse, List.reverse_reverse]
    intro last hLast
    exact hText.2 last (by rwa [List.head?_reverse] at hLast)

theorem exists_gaps (text : List Char) :
    ∃ before behind, IsGap before ∧ IsGap behind ∧ text = before ++ trim text ++ behind ∧
      IsTrimmed (trim text) := by
  let core := text.dropWhile isBlank
  let behind := (core.reverse.takeWhile isBlank).reverse
  have hCore : core = trim text ++ behind := by
    rw [trim, ← List.reverse_append, List.takeWhile_append_dropWhile, List.reverse_reverse]
  refine ⟨text.takeWhile isBlank, behind, fun c => List.mem_takeWhile_imp, ?_, ?_, ?_, ?_⟩
  · exact IsGap.reverse fun c => List.mem_takeWhile_imp
  · rw [List.append_assoc, ← hCore, List.takeWhile_append_dropWhile]
  · intro c hHead
    have hFirst : core.head? = some c := by rw [hCore, List.head?_append, hHead]; rfl
    exact head?_dropWhile_isBlank hFirst
  · intro c hLast
    rw [trim, List.getLast?_reverse] at hLast
    exact head?_dropWhile_isBlank hLast

theorem isGap_of_trim_eq_nil (h : trim text = []) : IsGap text := by
  obtain ⟨before, behind, hBefore, hBehind, hText, _⟩ := exists_gaps text
  rw [hText, h, List.append_nil]
  exact List.forall_mem_append.mpr ⟨hBefore, hBehind⟩

end DeviceUplink.Text
