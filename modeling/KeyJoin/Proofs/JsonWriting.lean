import KeyJoin.JsonDocument
import Mathlib.Data.List.Basic

/-!
# Reading back what is written

The values that reports are made of hold texts and counts, and nothing that
could not be read.  A written document of such a value is read as this value.
The reader stops exactly behind it, given that what follows could not continue
a number, and the fuel it starts with is enough since every step that takes
some takes a character of the document too.
-/

namespace KeyJoin

/-- Every number is a count, and every text is one that can be written down. -/
inductive JsonValue.IsPlain : JsonValue → Prop
  | null : IsPlain .null
  | bool (value : Bool) : IsPlain (.bool value)
  | count (count : Nat) : IsPlain (.number (toString count))
  | string (text : String) : IsPlain (.string text)
  | array {items : List JsonValue} (hitems : ∀ item ∈ items, IsPlain item) :
      IsPlain (.array items)
  | object {fields : List (String × JsonValue)} (hfields : ∀ field ∈ fields, IsPlain field.2) :
      IsPlain (.object fields)

variable {depth fuel count : Nat} {value : JsonValue} {text rest : List Char}

/-! ## Strings -/

theorem hexCode?_hexDigitCharacter :
    ∀ n < 0x20, hexCode? '0' '0' (hexDigitCharacter (n / 16)) (hexDigitCharacter (n % 16)) =
      some n := by
  decide

theorem readStringCodes_escape {c d : Char} (h : escapedCharacter? c = some d)
    (text : List Char) :
    readStringCodes ('\\' :: c :: text) =
      (readStringCodes text).map fun (codes, rest) => (d.toNat :: codes, rest) := by
  have hcode : c ≠ 'u' := by
    rintro rfl
    cases h
  rw [readStringCodes, h]
  · cases readStringCodes text <;> rfl
  · exact fun _ _ _ _ _ hc _ => hcode hc

theorem readStringCodes_cons {c : Char} (hquote : c ≠ '"') (hslash : c ≠ '\\')
    (hcontrol : ¬ c.toNat < 0x20) (text : List Char) :
    readStringCodes (c :: text) =
      (readStringCodes text).map fun (codes, rest) => (c.toNat :: codes, rest) := by
  rw [readStringCodes, if_neg hcontrol]
  · exact hquote
  · exact fun _ _ _ _ _ hc _ => hslash hc
  · exact fun _ _ hc _ => hslash hc

/-- What is written for a character is read as its code. -/
theorem readStringCodes_escapeCharacter (c : Char) (text : List Char) :
    readStringCodes (escapeCharacter c ++ text) =
      (readStringCodes text).map fun (codes, rest) => (c.toNat :: codes, rest) := by
  unfold escapeCharacter
  split
  case h_8 =>
    rename_i hquote hslash _ _ _ _ _
    split
    · rename_i hcontrol
      simp only [List.cons_append, List.nil_append, readStringCodes,
        hexCode?_hexDigitCharacter c.toNat hcontrol]
      cases readStringCodes text <;> rfl
    · rename_i hcontrol
      exact readStringCodes_cons hquote hslash hcontrol text
  all_goals exact readStringCodes_escape rfl text

theorem readStringCodes_escaped (text rest : List Char) :
    readStringCodes (text.flatMap escapeCharacter ++ '"' :: rest) =
      some (text.map Char.toNat, rest) := by
  induction text with
  | nil => simp [readStringCodes]
  | cons c text ih =>
      rw [List.flatMap_cons, List.append_assoc, readStringCodes_escapeCharacter, ih]
      rfl

theorem isHighSurrogate_toNat (c : Char) : isHighSurrogate c.toNat = false := by
  have hvalid : c.toNat < 0xD800 ∨ 0xDFFF < c.toNat ∧ c.toNat < 0x110000 := c.valid
  simp only [isHighSurrogate, decide_eq_false_iff_not]
  omega

theorem isLowSurrogate_toNat (c : Char) : isLowSurrogate c.toNat = false := by
  have hvalid : c.toNat < 0xD800 ∨ 0xDFFF < c.toNat ∧ c.toNat < 0x110000 := c.valid
  simp only [isLowSurrogate, decide_eq_false_iff_not]
  omega

theorem textOfCodes?_map_toNat (text : List Char) :
    textOfCodes? (text.map Char.toNat) = some text := by
  induction text with
  | nil => rfl
  | cons c text ih =>
      cases text with
      | nil =>
          simp [textOfCodes?, isHighSurrogate_toNat, isLowSurrogate_toNat, Char.ofNat_toNat]
      | cons d text =>
          simp only [List.map_cons] at ih ⊢
          simp [textOfCodes?, isHighSurrogate_toNat, isLowSurrogate_toNat, Char.ofNat_toNat, ih]

theorem readString_escaped (text : String) (rest : List Char) :
    readString (text.toList.flatMap escapeCharacter ++ '"' :: rest) = some (some text, rest) := by
  simp [readString, readStringCodes_escaped, textOfCodes?_map_toNat]

/-! ## Counts -/

/-- What can follow a number in a document without being read as a part of it. -/
def EndsNumber (rest : List Char) : Prop :=
  ∀ c ∈ rest.head?, c.isDigit = false ∧ c ≠ '.' ∧ c ≠ 'e' ∧ c ≠ 'E'

theorem toList_toString (count : Nat) : (toString count).toList = Nat.toDigits 10 count := by
  rw [Nat.toString_eq_ofList_toDigits, String.toList_ofList]

theorem isDigit_of_mem_toDigits {c : Char} (hc : c ∈ Nat.toDigits 10 count) : c.isDigit = true :=
  Nat.isDigit_of_mem_toDigits (by decide) (by decide) hc

theorem exists_toDigits (count : Nat) :
    ∃ c digits, Nat.toDigits 10 count = c :: digits ∧ c.isDigit = true := by
  obtain ⟨c, digits, hdigits⟩ := List.exists_cons_of_ne_nil
    (Nat.toDigits_ne_nil : Nat.toDigits 10 count ≠ [])
  exact ⟨c, digits, hdigits, isDigit_of_mem_toDigits (hdigits ▸ List.mem_cons_self)⟩

theorem digitChar_ne_zero : ∀ digit < 10, 0 < digit → digit.digitChar ≠ '0' := by
  decide

/-- Only zero begins with a zero. -/
theorem head?_toDigits (hcount : 0 < count) : (Nat.toDigits 10 count).head? ≠ some '0' := by
  induction count using Nat.strongRecOn with
  | ind count ih =>
      by_cases hsmall : count < 10
      · rw [Nat.toDigits_of_lt_base hsmall]
        simpa using digitChar_ne_zero count hsmall hcount
      · rw [Nat.toDigits_of_base_le (by decide) (by omega),
          List.head?_append_of_ne_nil _ Nat.toDigits_ne_nil]
        exact ih (count / 10) (by omega) (by omega)

theorem readDigits_toDigits (hrest : EndsNumber rest) :
    readDigits (Nat.toDigits 10 count ++ rest) = some (Nat.toDigits 10 count, rest) := by
  have hdigits : ∀ c ∈ Nat.toDigits 10 count, c.isDigit = true :=
    fun c => isDigit_of_mem_toDigits
  have hstop : rest.takeWhile Char.isDigit = [] ∧ rest.dropWhile Char.isDigit = rest := by
    cases rest with
    | nil => exact ⟨rfl, rfl⟩
    | cons c rest => simp [(hrest c rfl).1]
  rw [readDigits, List.takeWhile_append_of_pos hdigits, List.dropWhile_append_of_pos hdigits,
    hstop.1, hstop.2, List.append_nil]
  obtain ⟨c, digits, hcons, -⟩ := exists_toDigits count
  rw [hcons]

theorem readIntegerPart_toDigits (hrest : EndsNumber rest) :
    readIntegerPart (Nat.toDigits 10 count ++ rest) = some (Nat.toDigits 10 count, rest) := by
  rcases Nat.eq_zero_or_pos count with rfl | hpos
  · rw [Nat.toDigits_zero, List.singleton_append]
    cases rest with
    | nil => rfl
    | cons c rest => simp [readIntegerPart, (hrest c rfl).1]
  · obtain ⟨c, digits, hdigits, -⟩ := exists_toDigits count
    have hc : c ≠ '0' := by
      have hhead := head?_toDigits hpos
      rw [hdigits] at hhead
      exact fun h => hhead (congrArg some h)
    rw [← readDigits_toDigits hrest, hdigits, List.cons_append, readIntegerPart]
    exact fun _ h => hc (List.cons.inj h).1

theorem readNumber_toDigits (hrest : EndsNumber rest) :
    readNumber (Nat.toDigits 10 count ++ rest) = some (.number (toString count), rest) := by
  obtain ⟨c, digits, hdigits, hdigit⟩ := exists_toDigits count
  have hminus : readMinus (Nat.toDigits 10 count ++ rest) =
      ([], Nat.toDigits 10 count ++ rest) := by
    rw [hdigits, List.cons_append, readMinus]
    intro text h
    rw [(List.cons.inj h).1] at hdigit
    cases hdigit
  have hfraction : readFraction rest = some ([], rest) := by
    cases rest with
    | nil => rfl
    | cons d rest =>
        rw [readFraction]
        exact fun text h => (hrest d rfl).2.1 (List.cons.inj h).1
  have hexponent : readExponent rest = some ([], rest) := by
    cases rest with
    | nil => rfl
    | cons d rest => simp [readExponent, (hrest d rfl).2.2]
  simp only [readNumber, hminus, readIntegerPart_toDigits hrest, hfraction, hexponent,
    Option.map_some, List.append_nil, List.nil_append, Nat.toString_eq_ofList_toDigits]

/-! ## White space -/

def IsJsonGap (gap : List Char) : Prop :=
  ∀ c ∈ gap, isJsonBlank c = true

theorem isJsonGap_nil : IsJsonGap [] := by
  simp [IsJsonGap]

theorem isJsonGap_space : IsJsonGap [' '] := by
  simp [IsJsonGap, isJsonBlank]

theorem isJsonGap_newLine (depth : Nat) : IsJsonGap (newLine depth) := by
  intro c hc
  rcases List.mem_cons.mp hc with rfl | hc
  · rfl
  · rw [List.eq_of_mem_replicate hc]
    rfl

theorem skipJsonBlanks_append {gap : List Char} (hgap : IsJsonGap gap) (text : List Char) :
    skipJsonBlanks (gap ++ text) = skipJsonBlanks text :=
  List.dropWhile_append_of_pos hgap

theorem skipJsonBlanks_cons {c : Char} (hc : isJsonBlank c = false) (text : List Char) :
    skipJsonBlanks (c :: text) = c :: text := by
  simp [skipJsonBlanks, hc]

theorem readValue_append {gap : List Char} (hgap : IsJsonGap gap) (text : List Char) :
    readValue fuel (gap ++ text) = readValue fuel text := by
  cases fuel with
  | zero => rfl
  | succ fuel => simp only [readValue, skipJsonBlanks_append hgap]

theorem endsNumber_cons {c : Char} (hdigit : c.isDigit = false) (hdot : c ≠ '.')
    (hlower : c ≠ 'e') (hupper : c ≠ 'E') (rest : List Char) : EndsNumber (c :: rest) := by
  rintro d ⟨⟩
  exact ⟨hdigit, hdot, hlower, hupper⟩

theorem endsNumber_newLine (depth : Nat) (rest : List Char) : EndsNumber (newLine depth ++ rest) :=
  endsNumber_cons (by decide) (by decide) (by decide) (by decide) _

/-! ## Values -/

/-- Wherever it is written, the value is read up to what follows it. -/
def JsonValue.ReadsBack (value : JsonValue) : Prop :=
  ∀ depth fuel rest, EndsNumber rest → 2 * (writeValue depth value).length ≤ fuel →
    readValue fuel (writeValue depth value ++ rest) = some (value, rest)

theorem endsNumber_writeItems (depth outer : Nat) (items : List JsonValue) (rest : List Char) :
    EndsNumber (writeItems depth items ++ (newLine outer ++ rest)) := by
  cases items with
  | nil => exact endsNumber_newLine outer rest
  | cons item items =>
      exact endsNumber_cons (by decide) (by decide) (by decide) (by decide) _

theorem readItems_writeItems {item : JsonValue} {items : List JsonValue} {gap : List Char}
    {outer : Nat} (hread : ∀ next ∈ item :: items, next.ReadsBack) (hgap : IsJsonGap gap)
    (hfuel : 2 * (writeValue depth item ++ writeItems depth items).length + 1 ≤ fuel) :
    readItems fuel (gap ++ (writeValue depth item ++
      (writeItems depth items ++ (newLine outer ++ ']' :: rest)))) =
        some (item :: items, rest) := by
  induction items generalizing item gap fuel with
  | nil =>
      rw [List.length_append] at hfuel
      obtain ⟨fuel, rfl⟩ := Nat.exists_eq_add_of_le' (show 1 ≤ fuel by omega)
      rw [readItems, readValue_append hgap, hread item List.mem_cons_self depth fuel _
        (endsNumber_writeItems depth outer [] _) (by omega)]
      simp only [writeItems, List.nil_append, skipJsonBlanks_append (isJsonGap_newLine outer)]
      rfl
  | cons next items ih =>
      rw [List.length_append] at hfuel
      obtain ⟨fuel, rfl⟩ := Nat.exists_eq_add_of_le' (show 1 ≤ fuel by omega)
      have hnext : readItems fuel (newLine depth ++ (writeValue depth next ++
          (writeItems depth items ++ (newLine outer ++ ']' :: rest)))) =
            some (next :: items, rest) := by
        refine ih (fun other hother => hread other (List.mem_cons_of_mem _ hother))
          (isJsonGap_newLine depth) ?_
        simp only [writeItems, List.length_append, List.length_cons] at hfuel ⊢
        omega
      rw [readItems, readValue_append hgap, hread item List.mem_cons_self depth fuel _
        (endsNumber_writeItems depth outer _ _) (by omega)]
      simp only [writeItems, List.cons_append, List.append_assoc,
        skipJsonBlanks_cons (show isJsonBlank ',' = false by decide), hnext, Option.map_some]

theorem endsNumber_writeFields (depth outer : Nat) (fields : List (String × JsonValue))
    (rest : List Char) : EndsNumber (writeFields depth fields ++ (newLine outer ++ rest)) := by
  cases fields with
  | nil => exact endsNumber_newLine outer rest
  | cons field fields =>
      exact endsNumber_cons (by decide) (by decide) (by decide) (by decide) _

theorem quoteText_append (text : String) (rest : List Char) :
    quoteText text ++ rest = '"' :: (text.toList.flatMap escapeCharacter ++ '"' :: rest) := by
  simp [quoteText]

section Field

variable {gap after behind : List Char} {key : String}

/-- The key and the colon are read off in front of the value. -/
theorem readFields_of_last (hgap : IsJsonGap gap)
    (hvalue : readValue fuel text = some (value, after))
    (hclose : skipJsonBlanks after = '\x7d' :: behind) :
    readFields (fuel + 1) (gap ++ (quoteText key ++ ':' :: ' ' :: text)) =
      some ([(some key, value)], behind) := by
  have hspace : readValue fuel (' ' :: text) = some (value, after) :=
    (readValue_append isJsonGap_space text).trans hvalue
  simp only [readFields, skipJsonBlanks_append hgap, quoteText_append,
    skipJsonBlanks_cons (show isJsonBlank '"' = false by decide), readString_escaped,
    skipJsonBlanks_cons (show isJsonBlank ':' = false by decide), hspace, hclose]

theorem readFields_of_next {fields : List (Option String × JsonValue)} (hgap : IsJsonGap gap)
    (hvalue : readValue fuel text = some (value, after))
    (hcomma : skipJsonBlanks after = ',' :: behind)
    (hnext : readFields fuel behind = some (fields, rest)) :
    readFields (fuel + 1) (gap ++ (quoteText key ++ ':' :: ' ' :: text)) =
      some ((some key, value) :: fields, rest) := by
  have hspace : readValue fuel (' ' :: text) = some (value, after) :=
    (readValue_append isJsonGap_space text).trans hvalue
  simp only [readFields, skipJsonBlanks_append hgap, quoteText_append,
    skipJsonBlanks_cons (show isJsonBlank '"' = false by decide), readString_escaped,
    skipJsonBlanks_cons (show isJsonBlank ':' = false by decide), hspace, hcomma, hnext,
    Option.map_some]

end Field

theorem readFields_writeFields {key : String} {fields : List (String × JsonValue)}
    {gap : List Char} {outer : Nat} (hread : ∀ next ∈ (key, value) :: fields, next.2.ReadsBack)
    (hgap : IsJsonGap gap)
    (hfuel : 2 * (writeValue depth value ++ writeFields depth fields).length + 1 ≤ fuel) :
    readFields fuel (gap ++ (quoteText key ++ ':' :: ' ' :: (writeValue depth value ++
      (writeFields depth fields ++ (newLine outer ++ '\x7d' :: rest))))) =
        some (((key, value) :: fields).map fun field => (some field.1, field.2), rest) := by
  induction fields generalizing key value gap fuel with
  | nil =>
      have hback : value.ReadsBack := hread (key, value) List.mem_cons_self
      rw [List.length_append] at hfuel
      obtain ⟨fuel, rfl⟩ := Nat.exists_eq_add_of_le' (show 1 ≤ fuel by omega)
      have hvalue := hback depth fuel _
        (endsNumber_writeFields depth outer [] ('\x7d' :: rest)) (by omega)
      refine readFields_of_last hgap hvalue ?_
      rw [writeFields, List.nil_append, skipJsonBlanks_append (isJsonGap_newLine outer),
        skipJsonBlanks_cons (by decide)]
  | cons next fields ih =>
      obtain ⟨nextKey, next⟩ := next
      have hback : value.ReadsBack := hread (key, value) List.mem_cons_self
      rw [List.length_append] at hfuel
      obtain ⟨fuel, rfl⟩ := Nat.exists_eq_add_of_le' (show 1 ≤ fuel by omega)
      have hnext : readFields fuel (newLine depth ++ (quoteText nextKey ++ ':' :: ' ' ::
          (writeValue depth next ++
            (writeFields depth fields ++ (newLine outer ++ '\x7d' :: rest))))) =
          some (((nextKey, next) :: fields).map fun field => (some field.1, field.2), rest) := by
        refine ih (fun other hother => hread other (List.mem_cons_of_mem _ hother))
          (isJsonGap_newLine depth) ?_
        simp only [writeFields, List.length_append, List.length_cons] at hfuel ⊢
        omega
      have hvalue := hback depth fuel _
        (endsNumber_writeFields depth outer ((nextKey, next) :: fields) ('\x7d' :: rest))
        (by omega)
      refine readFields_of_next hgap hvalue ?_ hnext
      simp only [writeFields, List.cons_append, List.nil_append, List.append_assoc,
        skipJsonBlanks_cons (show isJsonBlank ',' = false by decide)]

theorem objectOf_map_some (fields : List (String × JsonValue)) :
    objectOf (fields.map fun field => (some field.1, field.2)) = .object fields := by
  have hkeys : fields.mapM (fun field => some (field.1, field.2)) =
      some (fields.map fun field => (field.1, field.2)) := List.mapM_pure
  simp only [objectOf, List.mapM_map, Function.comp_def, Option.map_some, hkeys, List.map_id']

theorem isJsonBlank_of_isDigit {c : Char} (hc : c.isDigit = true) : isJsonBlank c = false := by
  by_contra h
  simp only [isJsonBlank, Bool.not_eq_false, Bool.or_eq_true, beq_iff_eq] at h
  rcases h with ((rfl | rfl) | rfl) | rfl <;> cases hc

theorem readValue_of_digit {c : Char} (hc : c.isDigit = true) (fuel : Nat) (text : List Char) :
    readValue (fuel + 1) (c :: text) = readNumber (c :: text) := by
  rw [readValue, skipJsonBlanks_cons (isJsonBlank_of_isDigit hc)]
  split
  case h_7 => rfl
  all_goals
    rename_i heq
    rw [(List.cons.inj heq).1] at hc
    cases hc

theorem readValue_array {gap : List Char} {c : Char} (hgap : IsJsonGap gap)
    (hblank : isJsonBlank c = false) (hclose : c ≠ ']') (fuel : Nat) (text : List Char) :
    readValue (fuel + 1) ('[' :: (gap ++ c :: text)) =
      (readItems fuel (c :: text)).map fun (items, rest) => (.array items, rest) := by
  simp only [readValue, skipJsonBlanks_cons (show isJsonBlank '[' = false by decide),
    skipJsonBlanks_append hgap, skipJsonBlanks_cons hblank]
  split
  · rename_i heq
    exact absurd (List.cons.inj heq).1 hclose
  · rfl

theorem readValue_object {gap : List Char} {c : Char} (hgap : IsJsonGap gap)
    (hblank : isJsonBlank c = false) (hclose : c ≠ '\x7d') (fuel : Nat) (text : List Char) :
    readValue (fuel + 1) ('\x7b' :: (gap ++ c :: text)) =
      (readFields fuel (c :: text)).map fun (fields, rest) => (objectOf fields, rest) := by
  simp only [readValue, skipJsonBlanks_cons (show isJsonBlank '\x7b' = false by decide),
    skipJsonBlanks_append hgap, skipJsonBlanks_cons hblank]
  split
  · rename_i heq
    exact absurd (List.cons.inj heq).1 hclose
  · rfl

theorem JsonValue.IsPlain.exists_writeValue (h : value.IsPlain) (depth : Nat) :
    ∃ c text, writeValue depth value = c :: text ∧ isJsonBlank c = false ∧ c ≠ ']' := by
  cases h with
  | null => exact ⟨'n', _, rfl, by decide, by decide⟩
  | bool flag =>
      cases flag
      · exact ⟨'f', _, rfl, by decide, by decide⟩
      · exact ⟨'t', _, rfl, by decide, by decide⟩
  | count count =>
      obtain ⟨c, digits, hdigits, hc⟩ := exists_toDigits count
      refine ⟨c, digits, ?_, isJsonBlank_of_isDigit hc, ?_⟩
      · rw [writeValue, toList_toString, hdigits]
      · rintro rfl
        cases hc
  | string text => exact ⟨'"', _, rfl, by decide, by decide⟩
  | @array items =>
      cases items
      all_goals exact ⟨'[', _, rfl, by decide, by decide⟩
  | @object fields =>
      cases fields
      all_goals exact ⟨'\x7b', _, rfl, by decide, by decide⟩

/-- A document is not empty, so the reader has fuel for its first step. -/
theorem JsonValue.IsPlain.readsBack_of_succ (h : value.IsPlain)
    (hread : ∀ depth fuel rest, EndsNumber rest →
      2 * (writeValue depth value).length ≤ fuel + 1 →
        readValue (fuel + 1) (writeValue depth value ++ rest) = some (value, rest)) :
    value.ReadsBack := by
  intro depth fuel rest hrest hfuel
  obtain ⟨c, text, htext, -, -⟩ := h.exists_writeValue depth
  have hlength : (writeValue depth value).length = text.length + 1 := by
    rw [htext, List.length_cons]
  obtain ⟨fuel, rfl⟩ := Nat.exists_eq_add_of_le' (show 1 ≤ fuel by omega)
  exact hread depth fuel rest hrest hfuel

theorem readsBack_array {items : List JsonValue} (hitems : ∀ item ∈ items, item.IsPlain)
    (hread : ∀ item ∈ items, item.ReadsBack) : (JsonValue.array items).ReadsBack := by
  refine (JsonValue.IsPlain.array hitems).readsBack_of_succ fun depth fuel rest _ hfuel => ?_
  cases items with
  | nil => rfl
  | cons item items =>
      have hread' : readItems fuel ([] ++ (writeValue (depth + 1) item ++
          (writeItems (depth + 1) items ++ (newLine depth ++ ']' :: rest)))) =
            some (item :: items, rest) := by
        refine readItems_writeItems hread isJsonGap_nil ?_
        simp only [writeValue, List.length_append, List.length_cons] at hfuel ⊢
        omega
      obtain ⟨c, text, hitem, hblank, hclose⟩ :=
        (hitems item List.mem_cons_self).exists_writeValue (depth + 1)
      simp only [writeValue, List.cons_append, List.append_assoc, List.nil_append, hitem]
        at hread' ⊢
      rw [readValue_array (isJsonGap_newLine (depth + 1)) hblank hclose, hread', Option.map_some]

theorem readsBack_object {fields : List (String × JsonValue)}
    (hfields : ∀ field ∈ fields, field.2.IsPlain)
    (hread : ∀ field ∈ fields, field.2.ReadsBack) : (JsonValue.object fields).ReadsBack := by
  refine (JsonValue.IsPlain.object hfields).readsBack_of_succ fun depth fuel rest _ hfuel => ?_
  rcases fields with _ | ⟨⟨key, value⟩, fields⟩
  · rfl
  · have hread' : readFields fuel ([] ++ (quoteText key ++ ':' :: ' ' ::
        (writeValue (depth + 1) value ++
          (writeFields (depth + 1) fields ++ (newLine depth ++ '\x7d' :: rest))))) =
            some (((key, value) :: fields).map fun field => (some field.1, field.2), rest) := by
      refine readFields_writeFields hread isJsonGap_nil ?_
      simp only [writeValue, List.length_append, List.length_cons] at hfuel ⊢
      omega
    simp only [writeValue, List.cons_append, List.append_assoc, List.nil_append, quoteText_append]
      at hread' ⊢
    rw [readValue_object (isJsonGap_newLine (depth + 1)) (by decide) (by decide), hread']
    simp only [Option.map_some, objectOf_map_some]

theorem JsonValue.IsPlain.readsBack (h : value.IsPlain) : value.ReadsBack := by
  induction h with
  | null =>
      refine IsPlain.null.readsBack_of_succ fun depth fuel rest _ _ => ?_
      simp [writeValue, readValue, readLiteral, skipJsonBlanks, isJsonBlank]
  | bool flag =>
      refine (IsPlain.bool flag).readsBack_of_succ fun depth fuel rest _ _ => ?_
      cases flag <;> simp [writeValue, readValue, readLiteral, skipJsonBlanks, isJsonBlank]
  | count count =>
      refine (IsPlain.count count).readsBack_of_succ fun depth fuel rest hrest _ => ?_
      obtain ⟨c, digits, hdigits, hc⟩ := exists_toDigits count
      rw [writeValue, toList_toString, hdigits, List.cons_append, readValue_of_digit hc,
        ← List.cons_append, ← hdigits, readNumber_toDigits hrest]
  | string text =>
      refine (IsPlain.string text).readsBack_of_succ fun depth fuel rest _ _ => ?_
      simp only [writeValue, quoteText_append, readValue, readString_escaped, Option.map_some,
        skipJsonBlanks_cons (show isJsonBlank '"' = false by decide)]
  | array hitems ih => exact readsBack_array hitems ih
  | object hfields ih => exact readsBack_object hfields ih

/-- A written document is one value with nothing behind it, and that value is the one written. -/
theorem readJson?_write (h : value.IsPlain) : readJson? value.write.toList = some value := by
  have hvalue := h.readsBack 0 (2 * (writeValue 0 value).length + 1) [] (by simp [EndsNumber])
    (by omega)
  rw [List.append_nil] at hvalue
  simp only [readJson?, JsonValue.write, String.toList_ofList, hvalue]
  rfl

end KeyJoin
