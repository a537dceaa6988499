import Mathlib.Data.List.Forall2
import DeviceUplink.Proofs.Text.Literal
import DeviceUplink.Proofs.Text.Partition
import DeviceUplink.Settings.ServerEntry

/-!
# Server lists

Which texts are lists of server entries. A text falls into segments in one way only; each segment
spells at most one entry, and an entry that is written out is read back, whatever colons its host
has and whatever blanks stand around it.
-/

namespace DeviceUplink.ServerEntry

open Numeral Text

variable {entry segment host port key : List Char} {segments fields : List (List Char)}
  {e : ServerEntry} {entries : List ServerEntry}

def text (e : ServerEntry) : String :=
  e.host ++ ":" ++ toString e.port.toNat ++ ":" ++ e.publicKey

/-- The segment is one of the ways to write the entry. -/
def Spells (segment : List Char) (e : ServerEntry) : Prop :=
  ∃ port, segment = e.host.toList ++ ':' :: (port ++ ':' :: e.publicKey.toList) ∧
    ':' ∉ e.publicKey.toList ∧ Denotes max16 port e.port.toNat

/-- Too few colons, or something else than a port between the last two. -/
def IsFaulty (segment : List Char) : Prop :=
  segment.count ':' < 2 ∨ ∃ host port key, segment = host ++ ':' :: (port ++ ':' :: key) ∧
    ':' ∉ port ∧ ':' ∉ key ∧ ∀ n, ¬ Denotes max16 port n

theorem parts?_eq_some_iff :
    parts? entry = some (host, port, key) ↔
      entry = host ++ ':' :: (port ++ ':' :: key) ∧ ':' ∉ port ∧ ':' ∉ key := by
  constructor
  · intro h
    unfold parts? at h
    split at h
    · cases h
    · next front key' hKey =>
      obtain ⟨⟨host', port'⟩, hPort, hParts⟩ := Option.map_eq_some_iff.mp h
      cases hParts
      obtain ⟨rfl, hKeyColon⟩ := splitLast_eq_some_iff.mp hKey
      obtain ⟨rfl, hPortColon⟩ := splitLast_eq_some_iff.mp hPort
      exact ⟨by rw [List.append_assoc, List.cons_append], hPortColon, hKeyColon⟩
  · rintro ⟨rfl, hPort, hKey⟩
    have hEntry : host ++ ':' :: (port ++ ':' :: key) = (host ++ ':' :: port) ++ ':' :: key := by
      rw [List.append_assoc, List.cons_append]
    rw [parts?, hEntry, splitLast_append hKey]
    dsimp only
    rw [splitLast_append hPort]
    rfl

theorem parts?_eq_none_iff : parts? entry = none ↔ entry.count ':' < 2 := by
  unfold parts?
  split
  · next hNone =>
    have hCount : entry.count ':' = 0 :=
      List.count_eq_zero.mpr (splitLast_eq_none_iff.mp hNone)
    simp [hCount]
  · next front key hKey =>
    obtain ⟨rfl, hKeyColon⟩ := splitLast_eq_some_iff.mp hKey
    have hCount : (front ++ ':' :: key).count ':' = front.count ':' + 1 := by
      rw [List.count_append, List.count_cons_self, List.count_eq_zero.mpr hKeyColon]
    rw [Option.map_eq_none_iff, splitLast_eq_none_iff, ← List.count_eq_zero, hCount]
    omega

theorem parseChars_eq_ok_iff : parseChars segment = .ok e ↔ Spells segment e := by
  constructor
  · intro h
    unfold parseChars at h
    split at h
    · cases h
    · next host port key hParts =>
      obtain ⟨rfl, _, hKey⟩ := parts?_eq_some_iff.mp hParts
      split at h
      · cases h
      · next n hPort =>
        cases h
        have hDenotes := parse_eq_ok_iff.mp hPort
        have hNumber : n.toUInt16.toNat = n := by
          have hBounded : n ≤ 65535 := hDenotes.bounded
          simp only [Nat.toUInt16_eq, UInt16.toNat_ofNat']
          omega
        refine ⟨port, ?_, ?_, ?_⟩
        · simp only [String.toList_ofList]
        · rwa [String.toList_ofList]
        · rwa [hNumber]
  · rintro ⟨port, rfl, hKey, hPort⟩
    have hColon : ':' ∉ port := hPort.not_mem (by decide) (by decide)
    rw [parseChars, parts?_eq_some_iff.mpr ⟨rfl, hColon, hKey⟩]
    dsimp only
    rw [parse_eq_ok_iff.mpr hPort]
    simp only [String.ofList_toList, Nat.toUInt16_eq, UInt16.ofNat_toNat]

theorem parseChars_eq_error_iff :
    (∃ error, parseChars segment = .error error) ↔ IsFaulty segment := by
  constructor
  · rintro ⟨error, h⟩
    unfold parseChars at h
    split at h
    · next hNone => exact .inl (parts?_eq_none_iff.mp hNone)
    · next host port key hParts =>
      obtain ⟨rfl, hPort, hKey⟩ := parts?_eq_some_iff.mp hParts
      refine .inr ⟨host, port, key, rfl, hPort, hKey, ?_⟩
      intro n hDenotes
      rw [parse_eq_ok_iff.mpr hDenotes] at h
      cases h
  · rintro (hCount | ⟨host, port, key, rfl, hPort, hKey, hNumber⟩)
    · rw [parseChars, parts?_eq_none_iff.mpr hCount]
      exact ⟨_, rfl⟩
    · rw [parseChars, parts?_eq_some_iff.mpr ⟨rfl, hPort, hKey⟩]
      dsimp only
      cases hRead : Numeral.parse max16 port with
      | error cause => exact ⟨_, rfl⟩
      | ok n => exact absurd (parse_eq_ok_iff.mp hRead) (hNumber n)

theorem parseAll_eq_ok_iff :
    parseAll segments = .ok entries ↔ List.Forall₂ Spells segments entries := by
  induction segments generalizing entries with
  | nil =>
    rw [List.forall₂_nil_left_iff, parseAll, Except.ok.injEq]
    exact eq_comm
  | cons segment rest ih =>
    rw [List.forall₂_cons_left_iff, parseAll]
    cases hFirst : parseChars segment with
    | error error =>
      simp only [← parseChars_eq_ok_iff, hFirst]
      simp
    | ok first =>
      simp only [← parseChars_eq_ok_iff, hFirst, Except.ok.injEq, ← ih]
      cases parseAll rest <;> simp [eq_comm]

theorem parseAll_eq_error_iff :
    (∃ error, parseAll segments = .error error) ↔ ∃ segment ∈ segments, IsFaulty segment := by
  induction segments with
  | nil => simp [parseAll]
  | cons segment rest ih =>
    rw [List.exists_mem_cons_iff, ← ih, ← parseChars_eq_error_iff, parseAll]
    cases parseChars segment with
    | error error => simp
    | ok first => cases parseAll rest <;> simp

/-- Each field is a gap, or a segment with gaps around it. -/
inductive Laid : (fields segments : List (List Char)) → Prop
  | nil : Laid [] []
  | gap {field : List Char} {fields segments : List (List Char)} (hGap : IsGap field)
      (hRest : Laid fields segments) : Laid (field :: fields) segments
  | segment {before segment behind : List Char} {fields segments : List (List Char)}
      (hBefore : IsGap before) (hBehind : IsGap behind) (hRest : Laid fields segments) :
      Laid ((before ++ segment ++ behind) :: fields) (segment :: segments)

/-- The text is fields with commas between them, in which the segments are laid. -/
def Holds (text : List Char) (segments : List (List Char)) : Prop :=
  ∃ fields, text = [','].intercalate fields ∧ (∀ field ∈ fields, ',' ∉ field) ∧
    Laid fields segments ∧ ∀ segment ∈ segments, segment ≠ [] ∧ IsTrimmed segment

def cores (fields : List (List Char)) : List (List Char) :=
  (fields.map trim).filter fun segment => !segment.isEmpty

theorem cores_cons (field : List Char) (fields : List (List Char)) :
    cores (field :: fields) =
      if trim field = [] then cores fields else trim field :: cores fields := by
  by_cases hEmpty : trim field = [] <;> simp [cores, hEmpty]

theorem Laid.cores_eq (h : Laid fields segments)
    (hSegments : ∀ segment ∈ segments, segment ≠ [] ∧ IsTrimmed segment) :
    cores fields = segments := by
  induction h with
  | nil => rfl
  | gap hGap _ ih => rw [cores_cons, if_pos (trim_of_isGap hGap), ih hSegments]
  | segment hBefore hBehind _ ih =>
    obtain ⟨⟨hSome, hTrimmed⟩, hRest⟩ := List.forall_mem_cons.mp hSegments
    rw [cores_cons, trim_append hBefore hBehind hTrimmed, if_neg hSome, ih hRest]

theorem laid_cores (fields : List (List Char)) : Laid fields (cores fields) := by
  induction fields with
  | nil => exact .nil
  | cons field rest ih =>
    rw [cores_cons]
    split
    · next hEmpty => exact .gap (isGap_of_trim_eq_nil hEmpty) ih
    · obtain ⟨before, behind, hBefore, hBehind, hField, _⟩ := exists_gaps field
      have hLaid : Laid ((before ++ trim field ++ behind) :: rest) (trim field :: cores rest) :=
        .segment hBefore hBehind ih
      rwa [← hField] at hLaid

theorem segments_intercalate (hFields : ∀ field ∈ fields, ',' ∉ field) :
    ServerEntry.segments ([','].intercalate fields) = cores fields := by
  cases fields with
  | nil => rfl
  | cons field rest => rw [ServerEntry.segments, split_intercalate hFields (by simp), cores]

theorem Laid.comma_not_mem (h : Laid fields segments)
    (hSegments : ∀ segment ∈ segments, ',' ∉ segment) : ∀ field ∈ fields, ',' ∉ field := by
  have hComma : isBlank ',' = false := rfl
  induction h with
  | nil => exact List.forall_mem_nil _
  | gap hGap _ ih => exact List.forall_mem_cons.mpr ⟨hGap.not_mem hComma, ih hSegments⟩
  | segment hBefore hBehind _ ih =>
    obtain ⟨hSegment, hRest⟩ := List.forall_mem_cons.mp hSegments
    refine List.forall_mem_cons.mpr ⟨?_, ih hRest⟩
    simp [hBefore.not_mem hComma, hSegment, hBehind.not_mem hComma]

/-- A text holds exactly the segments that are looked into. -/
theorem holds_iff {text : List Char} :
    Holds text segments ↔ segments = ServerEntry.segments text := by
  constructor
  · rintro ⟨fields, rfl, hFields, hLaid, hSegments⟩
    rw [segments_intercalate hFields, hLaid.cores_eq hSegments]
  · rintro rfl
    refine ⟨split ',' text, (intercalate_split ',' text).symm,
      fun field => not_mem_of_mem_split, laid_cores _, ?_⟩
    intro segment hMem
    obtain ⟨hField, hSome⟩ := List.mem_filter.mp hMem
    obtain ⟨field, _, rfl⟩ := List.mem_map.mp hField
    obtain ⟨_, _, _, _, _, hTrimmed⟩ := exists_gaps field
    exact ⟨by simpa using hSome, hTrimmed⟩

/-- An entry that a list can hold: no comma in it, no colon in its key, and no blank at the ends. -/
structure IsPlain (e : ServerEntry) : Prop where
  host_comma : ',' ∉ e.host.toList
  key_comma : ',' ∉ e.publicKey.toList
  key_colon : ':' ∉ e.publicKey.toList
  host_blank : ∀ c, e.host.toList.head? = some c → isBlank c = false
  key_blank : ∀ c, e.publicKey.toList.getLast? = some c → isBlank c = false

theorem toList_text (e : ServerEntry) :
    e.text.toList =
      e.host.toList ++ ':' :: (Nat.toDigits 10 e.port.toNat ++ ':' :: e.publicKey.toList) := by
  simp [text]

theorem spells_text (h : e.IsPlain) : Spells e.text.toList e := by
  have hPort : e.port.toNat ≤ max16 := Nat.le_of_lt_succ e.port.toNat_lt
  exact ⟨Nat.toDigits 10 e.port.toNat, e.toList_text, h.key_colon, denotes_toDigits hPort⟩

theorem isTrimmed_text (h : e.IsPlain) : IsTrimmed e.text.toList := by
  have hColon : isBlank ':' = false := by decide
  rw [toList_text]
  constructor
  · intro c hHead
    rw [List.head?_append, List.head?_cons] at hHead
    cases hHost : e.host.toList.head? with
    | none =>
      rw [hHost] at hHead
      cases hHead
      exact hColon
    | some first =>
      rw [hHost] at hHead
      cases hHead
      exact h.host_blank _ hHost
  · intro c hLast
    rw [← List.cons_append, ← List.append_assoc, List.getLast?_append, List.getLast?_cons] at hLast
    cases hKey : e.publicKey.toList.getLast? with
    | none =>
      rw [hKey] at hLast
      cases hLast
      exact hColon
    | some last =>
      rw [hKey] at hLast
      cases hLast
      exact h.key_blank _ hKey

theorem comma_not_mem_text (h : e.IsPlain) : ',' ∉ e.text.toList := by
  have hPort : e.port.toNat ≤ max16 := Nat.le_of_lt_succ e.port.toNat_lt
  have hDigits := (denotes_toDigits hPort).not_mem (c := ',') (by decide) (by decide)
  simp [toList_text, h.host_comma, h.key_comma, hDigits]

theorem forall₂_spells (hEntries : ∀ e ∈ entries, e.IsPlain) :
    List.Forall₂ Spells (entries.map fun e => e.text.toList) entries := by
  rw [List.forall₂_map_left_iff, List.forall₂_same]
  exact fun e hMem => spells_text (hEntries e hMem)

theorem parseList_of_laid (hEntries : ∀ e ∈ entries, e.IsPlain)
    (hLaid : Laid fields (entries.map fun e => e.text.toList)) :
    parseList (String.ofList ([','].intercalate fields)) = .ok entries := by
  have hComma : ∀ field ∈ fields, ',' ∉ field := by
    refine hLaid.comma_not_mem (List.forall_mem_map.mpr ?_)
    exact fun e hMem => comma_not_mem_text (hEntries e hMem)
  have hCores : cores fields = entries.map fun e => e.text.toList := by
    refine hLaid.cores_eq (List.forall_mem_map.mpr ?_)
    exact fun e hMem => ⟨by simp [toList_text], isTrimmed_text (hEntries e hMem)⟩
  rw [parseList, String.toList_ofList, segments_intercalate hComma, hCores, parseAll_eq_ok_iff]
  exact forall₂_spells hEntries

/-- Entries that are written out with commas between them are read back, with any gaps around them
and any number of gaps in their midst. A text holds segments in one way; reading it gives an entry
for each of them, which it spells, or fails if one of them is faulty, and only then. -/
theorem parseList_reads_written :
    (∀ (entries : List ServerEntry) (fields : List (List Char)), (∀ e ∈ entries, e.IsPlain) →
      Laid fields (entries.map fun e => e.text.toList) →
      parseList (String.ofList ([','].intercalate fields)) = .ok entries) ∧
    ∀ text : String, ∃ segments, (∀ other, Holds text.toList other ↔ other = segments) ∧
      (∀ entries, parseList text = .ok entries ↔ List.Forall₂ Spells segments entries) ∧
      ((∃ error, parseList text = .error error) ↔ ∃ segment ∈ segments, IsFaulty segment) := by
  refine ⟨fun entries fields => parseList_of_laid, fun text => ?_⟩
  exact ⟨ServerEntry.segments text.toList, fun other => holds_iff,
    fun entries => parseAll_eq_ok_iff, parseAll_eq_error_iff⟩

/-- An address of colons and an entry with nothing in it, with gaps of several kinds. -/
theorem parseList_reads_colons :
    let first : ServerEntry := { host := "fe80::1", port := 9888, publicKey := "0a" }
    let second : ServerEntry := { host := "", port := 0, publicKey := "" }
    parseList ",\u00a0 fe80::1:9888:0a\t, ,:0:" = .ok [first, second] := by
  intro first second
  have hFirst : first.IsPlain := by
    constructor <;> simp [first, isBlank]
  have hSecond : second.IsPlain := by
    constructor <;> simp [second]
  have hLaid : Laid [[], ['\u00a0', ' '] ++ first.text.toList ++ ['\t'], [' '],
      [] ++ second.text.toList ++ []] ([first, second].map fun e => e.text.toList) := by
    refine .gap ?_ (.segment ?_ ?_ (.gap ?_ (.segment ?_ ?_ .nil))) <;> simp [IsGap, isBlank]
  have hRead := parseList_reads_written.1 [first, second] _ (by simp [hFirst, hSecond]) hLaid
  have hText : String.ofList ([','].intercalate [[], ['\u00a0', ' '] ++ first.text.toList ++ ['\t'],
      [' '], [] ++ second.text.toList ++ []]) = ",\u00a0 fe80::1:9888:0a\t, ,:0:" := by
    decide
  rwa [hText] at hRead

end DeviceUplink.ServerEntry
