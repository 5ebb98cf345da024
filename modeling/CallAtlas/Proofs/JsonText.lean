import CallAtlas.Json.Printer
import CallAtlas.Json.Reader
import Mathlib.Data.List.Basic

/-! # Printed JSON is read back

    The text of a value made of strings, in which each key stands once and which nests no
    deeper than the reader allows, is read back as the value. Each part of the printer is
    matched with the part of the reader that takes it in, whatever text comes behind.
-/

namespace CallAtlas.Json

/-! ## Section 1: Strings -/

theorem hexDigit?_hexChar : ∀ n < 16, hexDigit? (hexChar n) = some n := by decide

theorem readUnicodeEscape_control {n : Nat} (h : n < 0x20) (rest : List Char) :
    readUnicodeEscape ('0' :: '0' :: hexChar (n / 16) :: hexChar (n % 16) :: rest) =
      some (Char.ofNat n, rest) := by
  have hzero : hexDigit? '0' = some 0 := by decide
  have hhigh := hexDigit?_hexChar (n / 16) (by omega)
  have hlow := hexDigit?_hexChar (n % 16) (by omega)
  have hvalue : ((0 * 16 + 0) * 16 + n / 16) * 16 + n % 16 = n := by omega
  have hhex : readHex4 ('0' :: '0' :: hexChar (n / 16) :: hexChar (n % 16) :: rest) =
      some (n, rest) := by
    simp only [readHex4, hzero, hhigh, hlow, hvalue]
  rw [readUnicodeEscape, hhex]
  have hplane : (0xD800 ≤ n && n ≤ 0xDBFF) = false := by simp; omega
  have hplane' : (0xDC00 ≤ n && n ≤ 0xDFFF) = false := by simp; omega
  simp [hplane, hplane']

/-- One step of the reader takes in what one character is written as. -/
theorem readChars_escapeChar (c : Char) (fuel : Nat) (cs : List Char) :
    readChars (fuel + 1) (escapeChar c ++ cs) =
      (readChars fuel cs).map fun p => (c :: p.1, p.2) := by
  unfold escapeChar
  split
  · next h => subst h; rfl
  split
  · next h => subst h; rfl
  split
  · next h => subst h; rfl
  split
  · next h => subst h; rfl
  split
  · next h => subst h; rfl
  -- The two control characters that have letters of their own, then the other ones.
  split
  · next h =>
    obtain rfl : c = Char.ofNat 8 := by rw [← h, Char.ofNat_toNat]
    rfl
  split
  · next h =>
    obtain rfl : c = Char.ofNat 12 := by rw [← h, Char.ofNat_toNat]
    rfl
  split
  · next h =>
    simp only [List.cons_append, List.nil_append, readChars, readEscape,
      readUnicodeEscape_control h, Char.ofNat_toNat]
    rfl
  · next hquote hslash _ _ _ _ _ hcontrol =>
    simp only [List.cons_append, List.nil_append, readChars, hquote, hslash, hcontrol, if_false]

theorem length_escapeChar_pos (c : Char) : 0 < (escapeChar c).length := by
  unfold escapeChar
  repeat' split
  all_goals simp

/-- The reader takes in the characters of a string and stops behind its closing quote. -/
theorem readChars_escaped (cs rest : List Char) {fuel : Nat}
    (h : (cs.flatMap escapeChar).length < fuel) :
    readChars fuel (cs.flatMap escapeChar ++ '"' :: rest) = some (cs, rest) := by
  induction cs generalizing fuel with
  | nil =>
    obtain ⟨fuel, rfl⟩ := Nat.exists_eq_add_one_of_ne_zero (Nat.ne_of_gt h)
    rfl
  | cons c cs ih =>
    obtain ⟨fuel, rfl⟩ := Nat.exists_eq_add_one_of_ne_zero (Nat.ne_zero_of_lt h)
    have hc := length_escapeChar_pos c
    rw [List.flatMap_cons, List.length_append] at h
    rw [List.flatMap_cons, List.append_assoc, readChars_escapeChar, ih (by omega)]
    rfl

theorem toList_quote (s : String) :
    (quote s).toList = '"' :: (s.toList.flatMap escapeChar ++ ['"']) := by
  simp [quote]

theorem readString_escaped (s : String) (rest : List Char) :
    readString (s.toList.flatMap escapeChar ++ '"' :: rest) = some (s, rest) := by
  have hfuel : (s.toList.flatMap escapeChar).length <
      (s.toList.flatMap escapeChar ++ '"' :: rest).length + 1 := by
    rw [List.length_append]
    omega
  rw [readString, readChars_escaped s.toList rest hfuel]
  simp

/-! ## Section 2: Blanks -/

theorem skipBlanks_skipBlanks (cs : List Char) : skipBlanks (skipBlanks cs) = skipBlanks cs := by
  fun_induction skipBlanks cs with
  | case1 => rfl
  | case2 c rest hblank ih => exact ih
  | case3 c rest hblank => rw [skipBlanks, if_neg hblank]

theorem skipBlanks_spaces (n : Nat) (cs : List Char) :
    skipBlanks (List.replicate n ' ' ++ cs) = skipBlanks cs := by
  induction n with
  | zero => rfl
  | succ n ih => exact ih

/-- The start of a line is blank. -/
theorem skipBlanks_newline (level : Nat) (cs : List Char) :
    skipBlanks ((newline level).toList ++ cs) = skipBlanks cs := by
  have htext : (newline level).toList ++ cs = '\n' :: (List.replicate (2 * level) ' ' ++ cs) := by
    simp [newline]
  rw [htext]
  exact skipBlanks_spaces _ cs

theorem readValue_congr {cs cs' : List Char} (h : skipBlanks cs = skipBlanks cs')
    (fuel depth : Nat) : readValue fuel depth cs = readValue fuel depth cs' := by
  cases fuel with
  | zero => rfl
  | succ fuel => simp only [readValue, h]

theorem readItems_congr {cs cs' : List Char} (h : skipBlanks cs = skipBlanks cs')
    (fuel depth : Nat) : readItems fuel depth cs = readItems fuel depth cs' := by
  cases fuel with
  | zero => rfl
  | succ fuel => simp only [readItems, readValue_congr h]

theorem readFields_congr {cs cs' : List Char} (h : skipBlanks cs = skipBlanks cs')
    (fuel depth : Nat) (before : List (String × Json)) :
    readFields fuel depth before cs = readFields fuel depth before cs' := by
  cases fuel with
  | zero => rfl
  | succ fuel => simp only [readFields, h]

/-! ## Section 3: Opening brackets -/

/-- Items do not start with a closing bracket. -/
theorem skipBlanks_of_readItems {fuel depth : Nat} {cs : List Char} {p : List Json × List Char}
    (h : readItems fuel depth cs = some p) (rest : List Char) : skipBlanks cs ≠ ']' :: rest := by
  intro hclose
  match fuel with
  | 0 => simp [readItems] at h
  | 1 => simp [readItems, readValue] at h
  | fuel + 2 => simp [readItems, readValue, hclose] at h

/-- Fields do not start with a closing brace. -/
theorem skipBlanks_of_readFields {fuel depth : Nat} {before : List (String × Json)}
    {cs : List Char} {p : List (String × Json) × List Char}
    (h : readFields fuel depth before cs = some p) (rest : List Char) :
    skipBlanks cs ≠ '}' :: rest := by
  intro hclose
  cases fuel with
  | zero => simp [readFields] at h
  | succ fuel => simp [readFields, hclose] at h

/-- An array whose items can be read can be read. -/
theorem readValue_array {fuel depth : Nat} {cs rest : List Char} {items : List Json}
    (h : readItems fuel depth cs = some (items, rest)) :
    readValue (fuel + 1) (depth + 1) ('[' :: cs) = some (array items, rest) := by
  have hopen : skipBlanks ('[' :: cs) = '[' :: cs := rfl
  simp only [readValue, hopen]
  split
  · next hclose => exact absurd hclose (skipBlanks_of_readItems h _)
  · rw [readItems_congr (skipBlanks_skipBlanks cs), h, Option.map_some]

/-- An object whose fields can be read can be read. -/
theorem readValue_object {fuel depth : Nat} {cs rest : List Char} {fields : List (String × Json)}
    (h : readFields fuel depth [] cs = some (fields, rest)) :
    readValue (fuel + 1) (depth + 1) ('{' :: cs) = some (object fields, rest) := by
  have hopen : skipBlanks ('{' :: cs) = '{' :: cs := rfl
  simp only [readValue, hopen]
  split
  · next hclose => exact absurd hclose (skipBlanks_of_readFields h _)
  · rw [readFields_congr (skipBlanks_skipBlanks cs), h, Option.map_some]

/-! ## Section 4: Values -/

/-- The reader takes in the text of a value, wherever it stands and whatever comes behind. -/
def ReadsBack (depth : Nat) (v : Json) : Prop :=
  ∀ (level fuel : Nat) (rest : List Char), (prettyAt level v).toList.length < fuel →
    readValue fuel depth ((prettyAt level v).toList ++ rest) = some (v, rest)

theorem readsBack_string (depth : Nat) (s : String) : ReadsBack depth (string s) := by
  intro level fuel rest h
  obtain ⟨fuel, rfl⟩ := Nat.exists_eq_add_one_of_ne_zero (Nat.ne_zero_of_lt h)
  have hopen : ∀ cs, skipBlanks ('"' :: cs) = '"' :: cs := fun _ => rfl
  rw [prettyAt, toList_quote, List.cons_append, List.append_assoc, List.singleton_append]
  simp only [readValue, hopen, readString_escaped, Option.map_some]

/-- What stands behind an item of an array: the items that follow and the closing bracket. -/
def behindItem (level : Nat) (items : List Json) : List Char :=
  (prettyItems (level + 1) items).toList ++ (newline level).toList ++ [']']

theorem readItems_pretty {depth level : Nat} {item : Json} {items : List Json}
    (h : ∀ v ∈ item :: items, ReadsBack depth v) {fuel : Nat} {rest : List Char}
    (hfuel : (prettyAt (level + 1) item).toList.length + (behindItem level items).length < fuel) :
    readItems fuel depth ((prettyAt (level + 1) item).toList ++ (behindItem level items ++ rest)) =
      some (item :: items, rest) := by
  induction items generalizing item fuel with
  | nil =>
    obtain ⟨fuel, rfl⟩ := Nat.exists_eq_add_one_of_ne_zero (Nat.ne_zero_of_lt hfuel)
    have hbehind : skipBlanks (behindItem level [] ++ rest) = ']' :: rest := by
      simp only [behindItem, prettyItems, String.toList_empty, List.nil_append, List.append_assoc,
        skipBlanks_newline]
      rfl
    have hlength : 0 < (behindItem level []).length := by
      simp only [behindItem, List.length_append, List.length_singleton]
      omega
    rw [readItems, h item List.mem_cons_self (level + 1) fuel _ (by omega)]
    simp only [hbehind]
  | cons next items ih =>
    obtain ⟨fuel, rfl⟩ := Nat.exists_eq_add_one_of_ne_zero (Nat.ne_zero_of_lt hfuel)
    have hbehind : behindItem level (next :: items) =
        ',' :: ((newline (level + 1)).toList ++
          ((prettyAt (level + 1) next).toList ++ behindItem level items)) := by
      simp [behindItem, prettyItems]
    have hlength := congrArg List.length hbehind
    simp only [List.length_cons, List.length_append] at hlength
    have hcomma : ∀ cs, skipBlanks (',' :: cs) = ',' :: cs := fun _ => rfl
    rw [readItems, h item List.mem_cons_self (level + 1) fuel _ (by omega), hbehind]
    simp only [List.cons_append, hcomma, List.append_assoc,
      readItems_congr (skipBlanks_newline (level + 1) _)]
    rw [ih (fun v hv => h v (List.mem_cons_of_mem item hv)) (by omega)]
    rfl

theorem readsBack_array {depth : Nat} {items : List Json} (h : ∀ v ∈ items, ReadsBack depth v) :
    ReadsBack (depth + 1) (array items) := by
  intro level fuel rest hfuel
  obtain ⟨fuel, rfl⟩ := Nat.exists_eq_add_one_of_ne_zero (Nat.ne_zero_of_lt hfuel)
  cases items with
  | nil =>
    have htext : (prettyAt level (array [])).toList = ['[', ']'] := by simp [prettyAt]
    rw [htext]
    rfl
  | cons item items =>
    have htext : (prettyAt level (array (item :: items))).toList =
        '[' :: ((newline (level + 1)).toList ++
          ((prettyAt (level + 1) item).toList ++ behindItem level items)) := by
      simp [prettyAt, behindItem]
    rw [htext] at hfuel ⊢
    simp only [List.length_cons, List.length_append] at hfuel
    rw [List.cons_append]
    apply readValue_array
    rw [List.append_assoc, readItems_congr (skipBlanks_newline (level + 1) _), List.append_assoc]
    exact readItems_pretty h (by omega)

/-- What stands behind a field of an object: the fields that follow and the closing brace. -/
def behindField (level : Nat) (fields : List (String × Json)) : List Char :=
  (prettyFields (level + 1) fields).toList ++ (newline level).toList ++ ['}']

/-- The text of a field. -/
def fieldText (level : Nat) (field : String × Json) : List Char :=
  (quote field.1).toList ++ ':' :: ' ' :: (prettyAt level field.2).toList

/-- Where no key stands twice, the key of an element is not among those before it. -/
theorem key_not_mem_of_nodup {α κ : Type} {key : α → κ} {before after : List α} {a : α}
    (h : ((before ++ a :: after).map key).Nodup) : key a ∉ before.map key := by
  rw [List.map_append, List.map_cons, List.nodup_append] at h
  exact fun hmem => h.2.2 (key a) hmem (key a) List.mem_cons_self rfl

theorem putField_of_fresh {fields : List (String × Json)} {key : String}
    (h : key ∉ fields.map (·.1)) (value : Json) :
    putField fields key value = fields ++ [(key, value)] := by
  have hfresh : ¬ fields.any (·.1 == key) = true := by simpa using h
  rw [putField, if_neg hfresh]

/-- How the reader of fields goes on behind a field, with the fields it has. -/
def readBehindField (fuel depth : Nat) (fields : List (String × Json)) :
    List Char → Option (List (String × Json) × List Char)
  | ',' :: rest => readFields fuel depth fields rest
  | '}' :: rest => some (fields, rest)
  | _ => none

/-- The reader of fields takes in one whose key it has not met, and goes on behind it. -/
theorem readFields_fieldText {depth level fuel : Nat} {before : List (String × Json)}
    {field : String × Json} (h : ReadsBack depth field.2) (hfresh : field.1 ∉ before.map (·.1))
    (hfuel : (fieldText level field).length ≤ fuel) (tail : List Char) :
    readFields (fuel + 1) depth before (fieldText level field ++ tail) =
      readBehindField fuel depth (before ++ [field]) (skipBlanks tail) := by
  obtain ⟨key, value⟩ := field
  have htext : fieldText level (key, value) ++ tail =
      '"' :: (key.toList.flatMap escapeChar ++ '"' ::
        ':' :: ' ' :: ((prettyAt level value).toList ++ tail)) := by
    simp [fieldText, toList_quote]
  have hvalue : (prettyAt level value).toList.length < fuel := by
    simp only [fieldText, List.length_append, List.length_cons] at hfuel
    omega
  have hopen : ∀ cs, skipBlanks ('"' :: cs) = '"' :: cs := fun _ => rfl
  have hcolon : ∀ cs, skipBlanks (':' :: cs) = ':' :: cs := fun _ => rfl
  have hspace : ∀ cs, skipBlanks (' ' :: cs) = skipBlanks cs := fun _ => rfl
  rw [htext]
  simp only [readFields, hopen, readString_escaped, hcolon, readValue_congr (hspace _),
    h level fuel _ hvalue, putField_of_fresh hfresh]
  rfl

theorem readFields_pretty {depth level : Nat} {before : List (String × Json)}
    {field : String × Json} {fields : List (String × Json)}
    (h : ∀ f ∈ field :: fields, ReadsBack depth f.2)
    (hkeys : ((before ++ field :: fields).map (·.1)).Nodup) {fuel : Nat} {rest : List Char}
    (hfuel : (fieldText (level + 1) field).length + (behindField level fields).length < fuel) :
    readFields fuel depth before
        (fieldText (level + 1) field ++ (behindField level fields ++ rest)) =
      some (before ++ field :: fields, rest) := by
  induction fields generalizing before field fuel with
  | nil =>
    obtain ⟨fuel, rfl⟩ := Nat.exists_eq_add_one_of_ne_zero (Nat.ne_zero_of_lt hfuel)
    have hbehind : skipBlanks (behindField level [] ++ rest) = '}' :: rest := by
      simp only [behindField, prettyFields, String.toList_empty, List.nil_append,
        List.append_assoc, skipBlanks_newline]
      rfl
    rw [readFields_fieldText (h field List.mem_cons_self) (key_not_mem_of_nodup hkeys) (by omega),
      hbehind, readBehindField]
  | cons next fields ih =>
    obtain ⟨fuel, rfl⟩ := Nat.exists_eq_add_one_of_ne_zero (Nat.ne_zero_of_lt hfuel)
    have hbehind : behindField level (next :: fields) =
        ',' :: ((newline (level + 1)).toList ++
          (fieldText (level + 1) next ++ behindField level fields)) := by
      simp [behindField, prettyFields, fieldText]
    have hlength := congrArg List.length hbehind
    simp only [List.length_cons, List.length_append] at hlength
    have hcomma : ∀ cs, skipBlanks (',' :: cs) = ',' :: cs := fun _ => rfl
    rw [readFields_fieldText (h field List.mem_cons_self) (key_not_mem_of_nodup hkeys) (by omega),
      hbehind]
    simp only [List.cons_append, hcomma, readBehindField, List.append_assoc,
      readFields_congr (skipBlanks_newline (level + 1) _)]
    -- The field that has been read is now one of those before.
    rw [List.append_cons before field (next :: fields)] at hkeys ⊢
    refine ih (fun f hf => h f (List.mem_cons_of_mem field hf)) hkeys ?_
    omega

theorem readsBack_object {depth : Nat} {fields : List (String × Json)}
    (hkeys : (fields.map (·.1)).Nodup) (h : ∀ f ∈ fields, ReadsBack depth f.2) :
    ReadsBack (depth + 1) (object fields) := by
  intro level fuel rest hfuel
  obtain ⟨fuel, rfl⟩ := Nat.exists_eq_add_one_of_ne_zero (Nat.ne_zero_of_lt hfuel)
  cases fields with
  | nil =>
    have htext : (prettyAt level (object [])).toList = ['{', '}'] := by simp [prettyAt]
    rw [htext]
    rfl
  | cons field fields =>
    have htext : (prettyAt level (object (field :: fields))).toList =
        '{' :: ((newline (level + 1)).toList ++
          (fieldText (level + 1) field ++ behindField level fields)) := by
      simp [prettyAt, fieldText, behindField]
    rw [htext] at hfuel ⊢
    simp only [List.length_cons, List.length_append] at hfuel
    rw [List.cons_append]
    apply readValue_object
    rw [List.append_assoc, readFields_congr (skipBlanks_newline (level + 1) _), List.append_assoc,
      readFields_pretty h hkeys (by omega)]
    rfl

/-! ## Section 5: Whole texts -/

/-- A value made of strings that nests no deeper than a given depth, with each key once. -/
inductive Plain : Nat → Json → Prop where
  | string {depth : Nat} (s : String) : Plain depth (string s)
  | array {depth : Nat} {items : List Json} (h : ∀ v ∈ items, Plain depth v) :
      Plain (depth + 1) (array items)
  | object {depth : Nat} {fields : List (String × Json)} (hkeys : (fields.map (·.1)).Nodup)
      (h : ∀ f ∈ fields, Plain depth f.2) : Plain (depth + 1) (object fields)

theorem Plain.readsBack {depth : Nat} {v : Json} (h : Plain depth v) : ReadsBack depth v := by
  induction h with
  | string s => exact readsBack_string _ s
  | array h ih => exact readsBack_array ih
  | object hkeys h ih => exact readsBack_object hkeys ih

/-- The text of a plain value, ended by a line feed, is read as that value. -/
theorem parse_pretty {v : Json} (h : Plain maxDepth v) : parse (v.pretty ++ "\n") = some v := by
  have htext : (v.pretty ++ "\n").toList = (prettyAt 0 v).toList ++ ['\n'] := by simp [pretty]
  have hfuel : (prettyAt 0 v).toList.length < ((prettyAt 0 v).toList ++ ['\n']).length + 1 := by
    rw [List.length_append]
    omega
  simp only [parse, htext, h.readsBack 0 _ ['\n'] hfuel]
  rfl

end CallAtlas.Json
