import WidgetStreams.Proofs.Numerals

/-!
# Written values can be read

This file proves that the reader finds in the JSON text of a value the value itself,
whatever characters stand in its texts and however deep its lists and records are
nested. Only its numbers matter: they must be such that the reader can hold them.

## Main definitions

- `Value.Legible` — all numbers in a value can be read
- `Json.ReadsBack` — the reader finds the value in front of a text

## Main results

- `Json.readText_writeChars` — a quoted text is read as it was written
- `Json.readsBack` — every legible value is found in front of a text
- `Json.read?_render` — a legible value is read as it was written

## Design notes

The count that bounds the reader falls by one with each document, item and field. The
text of each is longer than that by at least the bracket or the comma around it, so a
count as large as the text is never used up.
-/

namespace WidgetStreams

/-- A **legible** value: all numbers in it can be read. -/
abbrev Value.Legible : Value → Prop := Value.Within Decimal.Legible

namespace Json

open Value

variable {rest : List Char}

-- ════════════════════════════════════════════════════════════════════════
-- Texts
-- ════════════════════════════════════════════════════════════════════════

theorem hexValue_hexDigit : ∀ n < 16, hexValue (hexDigit n) = some n := by decide

theorem hexUnit_control {n : Nat} (h : n < 32) :
    hexUnit '0' '0' (hexDigit (n / 16)) (hexDigit (n % 16)) = some n := by
  have high := hexValue_hexDigit (n / 16) (by omega)
  have low := hexValue_hexDigit (n % 16) (by omega)
  simp only [hexUnit, high, low, show hexValue '0' = some 0 from rfl, Option.bind_eq_bind,
    Option.bind_some, Option.some.injEq]
  omega

/-- The reader undoes an escape by a letter. -/
theorem escaped?_of_escape? {c letter : Char} (h : escape? c = some letter) :
    escaped? letter = some c ∧ letter ≠ 'u' := by
  unfold escape? at h
  repeat' split at h
  all_goals cases h
  all_goals
    subst_vars
    decide

theorem readUnits_escaped {c e : Char} (letter : c ≠ 'u') (h : escaped? c = some e) :
    readUnits ('\\' :: c :: rest) = (readUnits rest).map fun (us, r) => (e.toNat :: us, r) := by
  rw [readUnits]
  · rw [h]
    cases readUnits rest <;> rfl
  · intro a b d f tail eq
    exact absurd eq letter

theorem readUnits_plain {c : Char} (plain : escape? c = none) (printed : ¬ c.toNat < 32) :
    readUnits (c :: rest) = (readUnits rest).map fun (us, r) => (c.toNat :: us, r) := by
  have quote : c ≠ '"' := by
    rintro rfl
    exact absurd plain (by decide)
  have backslash : c ≠ '\\' := by
    rintro rfl
    exact absurd plain (by decide)
  rw [readUnits]
  · simp only [printed, backslash]
    cases readUnits rest <;> rfl
  all_goals simp_all

/-- Every character is one unit, escaped or not. -/
theorem readUnits_writeChar (c : Char) (rest : List Char) :
    readUnits (writeChar c rest) = (readUnits rest).map fun (us, r) => (c.toNat :: us, r) := by
  unfold writeChar
  split
  · rename_i letter escape
    obtain ⟨escaped, other⟩ := escaped?_of_escape? escape
    exact readUnits_escaped other escaped
  · rename_i plain
    split
    · rename_i control
      simp only [readUnits, hexUnit_control control]
      cases readUnits rest <;> rfl
    · rename_i printed
      exact readUnits_plain plain printed

theorem readUnits_writeChars (cs rest : List Char) :
    readUnits (writeChars cs rest) = some (cs.map Char.toNat, rest) := by
  induction cs with
  | nil => simp [writeChars, readUnits]
  | cons c cs ih => simp [writeChars, readUnits_writeChar, ih]

/-- No character is half of a pair. -/
theorem isHalf_toNat (c : Char) : isHighHalf c.toNat = false ∧ isLowHalf c.toNat = false := by
  have valid : c.toNat < 0xD800 ∨ 0xDFFF < c.toNat ∧ c.toNat < 0x110000 := c.valid
  simp only [isHighHalf, isLowHalf, decide_eq_false_iff_not]
  omega

theorem joinUnits_toNat (cs : List Char) : joinUnits (cs.map Char.toNat) = some cs := by
  induction cs with
  | nil => rfl
  | cons c cs ih =>
    obtain ⟨high, low⟩ := isHalf_toNat c
    cases cs with
    | nil => simp [joinUnits, high, low]
    | cons d cs =>
      rw [List.map_cons] at ih
      simp [joinUnits, high, low, ih]

/-- **A quoted text** is read as it was written. -/
theorem readText_writeChars (s : String) (rest : List Char) :
    readText (writeChars s.toList rest) = some (some s, rest) := by
  simp [readText, readUnits_writeChars, joinUnits_toNat]

-- ════════════════════════════════════════════════════════════════════════
-- How a written value begins
-- ════════════════════════════════════════════════════════════════════════

/-- Whether a number may begin with a character. -/
def Numeric (c : Char) : Prop := c = '-' ∨ c.isDigit = true

theorem toDigits_head (n : Nat) : ∃ c cs, Nat.toDigits 10 n = c :: cs ∧ c.isDigit = true := by
  obtain ⟨c, cs, eq⟩ := List.exists_cons_of_ne_nil (Nat.toDigits_ne_nil (n := n) (b := 10))
  exact ⟨c, cs, eq, isDigit_toDigits (n := n) (by rw [eq]; exact List.mem_cons_self)⟩

theorem writeInt_head (n : Int) (rest : List Char) :
    ∃ c cs, writeInt n rest = c :: cs ∧ Numeric c := by
  unfold writeInt
  split
  · exact ⟨_, _, rfl, .inl rfl⟩
  · obtain ⟨c, cs, eq, digit⟩ := toDigits_head n.natAbs
    exact ⟨c, cs ++ rest, by rw [eq, List.cons_append], .inr digit⟩

theorem toChars_head (d : Decimal) (rest : List Char) :
    ∃ c cs, d.toChars ++ rest = c :: cs ∧ Numeric c := by
  rw [toChars_eq]
  cases d.negative with
  | true => exact ⟨_, _, rfl, .inl rfl⟩
  | false =>
    obtain ⟨c, cs, eq, digit⟩ := toDigits_head (d.digits / Decimal.tenTo d.places)
    exact ⟨c, cs ++ '.' :: behindPoint d ++ rest, by simp [eq], .inr digit⟩

theorem Numeric.of_eq {c d : Char} (h : Numeric c) (other : d ≠ '-' ∧ d.isDigit = false) :
    c ≠ d := by
  rintro rfl
  rcases h with sign | digit
  · exact other.1 sign
  · rw [other.2] at digit
    exact Bool.false_ne_true digit

theorem Numeric.isGap_eq_false {c : Char} (h : Numeric c) : isGap c = false := by
  simp [isGap, h.of_eq (d := ' ') (by decide), h.of_eq (d := '\n') (by decide),
    h.of_eq (d := '\t') (by decide), h.of_eq (d := '\r') (by decide)]

/-- A value begins with neither a blank nor a closing bracket. -/
theorem write_head (v : Value) (rest : List Char) :
    ∃ c cs, v.write rest = c :: cs ∧ isGap c = false ∧ c ≠ ']' := by
  have number : ∀ {c : Char}, Numeric c → isGap c = false ∧ c ≠ ']' := fun h =>
    ⟨h.isGap_eq_false, h.of_eq (by decide)⟩
  match v with
  | .null => exact ⟨_, _, rfl, by decide⟩
  | .bool true => exact ⟨_, _, rfl, by decide⟩
  | .bool false => exact ⟨_, _, rfl, by decide⟩
  | .int n =>
    obtain ⟨c, cs, eq, numeric⟩ := writeInt_head n rest
    exact ⟨c, cs, eq, number numeric⟩
  | .decimal d =>
    obtain ⟨c, cs, eq, numeric⟩ := toChars_head d rest
    exact ⟨c, cs, eq, number numeric⟩
  | .text s => exact ⟨_, _, rfl, by decide⟩
  | .list [] => exact ⟨_, _, rfl, by decide⟩
  | .list (a :: as) => exact ⟨_, _, rfl, by decide⟩
  | .record [] => exact ⟨_, _, rfl, by decide⟩
  | .record ((name, a) :: fs) => exact ⟨_, _, rfl, by decide⟩

-- ════════════════════════════════════════════════════════════════════════
-- How long a written value is
-- ════════════════════════════════════════════════════════════════════════

theorem lt_length_writeText (s : String) (rest : List Char) :
    rest.length + 1 < (writeText s rest).length := by
  have chars : ∀ cs, rest.length < (writeChars cs rest).length := by
    intro cs
    induction cs with
    | nil => simp [writeChars]
    | cons c cs ih =>
      refine Nat.lt_trans ih ?_
      simp only [writeChars, writeChar]
      repeat' split
      all_goals
        simp only [List.length_cons]
        omega
  simpa [writeText] using chars s.toList

mutual

/-- A written value takes up some place. -/
theorem lt_length_write : ∀ (v : Value) (rest : List Char), rest.length < (v.write rest).length
  | .null, rest | .bool true, rest | .bool false, rest | .list [], rest | .record [], rest => by
    simp only [write, List.length_cons]
    omega
  | .int n, rest => by
    have digits := List.length_pos_iff.2 (Nat.toDigits_ne_nil (n := n.natAbs) (b := 10))
    rw [write, writeInt]
    split <;> simp only [List.length_cons, List.length_append] <;> omega
  | .decimal d, rest => by
    rw [write, toChars_eq]
    simp only [List.length_append, List.length_cons]
    omega
  | .text s, rest => Nat.lt_of_succ_lt (lt_length_writeText s rest)
  | .list (a :: as), rest => by
    have item := lt_length_write a (writeItems as rest)
    have items := lt_length_writeItems as rest
    simp only [write, List.length_cons]
    omega
  | .record ((name, a) :: fs), rest => by
    have name := lt_length_writeText name (':' :: a.write (writeFields fs rest))
    have field := lt_length_write a (writeFields fs rest)
    have fields := lt_length_writeFields fs rest
    simp only [write, List.length_cons] at name ⊢
    omega

theorem lt_length_writeItems : ∀ (as : List Value) (rest : List Char),
    rest.length < (writeItems as rest).length
  | [], rest => by simp [writeItems]
  | a :: as, rest => by
    have item := lt_length_write a (writeItems as rest)
    have items := lt_length_writeItems as rest
    simp only [writeItems, List.length_cons]
    omega

theorem lt_length_writeFields : ∀ (fs : List (String × Value)) (rest : List Char),
    rest.length < (writeFields fs rest).length
  | [], rest => by simp [writeFields]
  | (name, a) :: fs, rest => by
    have name := lt_length_writeText name (':' :: a.write (writeFields fs rest))
    have field := lt_length_write a (writeFields fs rest)
    have fields := lt_length_writeFields fs rest
    simp only [writeFields, List.length_cons] at name ⊢
    omega

end

-- ════════════════════════════════════════════════════════════════════════
-- Documents
-- ════════════════════════════════════════════════════════════════════════

theorem skipGap_cons {c : Char} (h : isGap c = false) (cs : List Char) :
    skipGap (c :: cs) = c :: cs := by
  simp [skipGap, h]

/-- The reader finds a value in front of a text. -/
def ReadsBack (v : Value) : Prop :=
  ∀ n rest, Apart rest → (v.write rest).length ≤ n + rest.length →
    readDocument n (v.write rest) = some (ofValue v, rest)

/-- A count that reaches over a written value is not nought. -/
theorem count_pos {v : Value} {n : Nat} (h : (v.write rest).length ≤ n + rest.length) :
    ∃ k, n = k + 1 := by
  have := lt_length_write v rest
  exact ⟨n - 1, by omega⟩

theorem readDocument_numeric {c : Char} (h : Numeric c) (n : Nat) (cs : List Char) :
    readDocument (n + 1) (c :: cs) = (readNumber (c :: cs)).map fun (v, r) => (.scalar v, r) := by
  rw [readDocument, skipGap_cons h.isGap_eq_false]
  split
  case h_7 => rfl
  all_goals
    rename_i eq
    exact absurd (List.cons.inj eq).1 (h.of_eq (by decide))

/-- A value that is one token is found without looking into it. -/
theorem readsBack_token {v : Value} (h : ∀ n rest, Apart rest →
    readDocument (n + 1) (v.write rest) = some (ofValue v, rest)) : ReadsBack v := by
  intro n rest apart count
  obtain ⟨n, rfl⟩ := count_pos count
  exact h n rest apart

theorem readsBack_number {v : Value} (shown : ofValue v = .scalar (some v))
    (head : ∀ rest, ∃ c cs, v.write rest = c :: cs ∧ Numeric c)
    (read : ∀ rest, Apart rest → readNumber (v.write rest) = some (some v, rest)) :
    ReadsBack v := by
  refine readsBack_token fun n rest apart => ?_
  obtain ⟨c, cs, eq, numeric⟩ := head rest
  have found := read rest apart
  rw [eq] at found ⊢
  rw [readDocument_numeric numeric, found, shown]
  rfl

/-- **The items of a list** are found one after the other, and after them the closing bracket. -/
theorem readItems_write (as : List Value) {a : Value} (h : ∀ b ∈ a :: as, ReadsBack b)
    {n : Nat} (count : (a.write (writeItems as rest)).length ≤ n + rest.length) :
    readItems n (a.write (writeItems as rest)) = some (ofValues (a :: as), rest) := by
  induction as generalizing a n with
  | nil =>
    have item := lt_length_write a (']' :: rest)
    simp only [writeItems, List.length_cons] at item count ⊢
    obtain ⟨n, rfl⟩ : ∃ k, n = k + 1 := ⟨n - 1, by omega⟩
    have found := h a (by simp) n (']' :: rest) (apart_cons (by decide)) (by simp; omega)
    simp only [readItems, found]
    rfl
  | cons b bs ih =>
    have item := lt_length_write a (',' :: b.write (writeItems bs rest))
    have items := lt_length_write b (writeItems bs rest)
    have close := lt_length_writeItems bs rest
    simp only [writeItems, List.length_cons] at item count ⊢
    obtain ⟨n, rfl⟩ : ∃ k, n = k + 1 := ⟨n - 1, by omega⟩
    have found := h a (by simp) n (',' :: b.write (writeItems bs rest)) (apart_cons (by decide))
      (by simp; omega)
    have others := ih (fun c mem => h c (List.mem_cons_of_mem _ mem)) (n := n) (by omega)
    simp only [readItems, found, skipGap_cons (show isGap ',' = false from rfl), others]
    rfl

/-- **The fields of a record** are found one after the other, and after them the closing brace. -/
theorem readFields_write (fs : List (String × Value)) {name : String} {a : Value}
    (h : ∀ f ∈ (name, a) :: fs, ReadsBack f.2) {n : Nat}
    (count : (writeText name (':' :: a.write (writeFields fs rest))).length ≤ n + rest.length) :
    readFields n (writeText name (':' :: a.write (writeFields fs rest))) =
      some (ofFields ((name, a) :: fs), rest) := by
  induction fs generalizing name a n with
  | nil =>
    have label := lt_length_writeText name (':' :: a.write ('}' :: rest))
    have field := lt_length_write a ('}' :: rest)
    simp only [writeFields, List.length_cons] at label field count ⊢
    obtain ⟨n, rfl⟩ : ∃ k, n = k + 1 := ⟨n - 1, by omega⟩
    have found := h (name, a) (by simp) n ('}' :: rest) (apart_cons (by decide)) (by simp; omega)
    simp only [readFields, writeText, skipGap_cons (show isGap '"' = false from rfl),
      readText_writeChars, skipGap_cons (show isGap ':' = false from rfl), found]
    rfl
  | cons f fs ih =>
    obtain ⟨next, b⟩ := f
    have label := lt_length_writeText name
      (':' :: a.write (',' :: writeText next (':' :: b.write (writeFields fs rest))))
    have field := lt_length_write a (',' :: writeText next (':' :: b.write (writeFields fs rest)))
    have next_label := lt_length_writeText next (':' :: b.write (writeFields fs rest))
    have next_field := lt_length_write b (writeFields fs rest)
    have close := lt_length_writeFields fs rest
    simp only [writeFields, List.length_cons] at label field next_label count ⊢
    obtain ⟨n, rfl⟩ : ∃ k, n = k + 1 := ⟨n - 1, by omega⟩
    have found := h (name, a) (by simp) n
      (',' :: writeText next (':' :: b.write (writeFields fs rest))) (apart_cons (by decide))
      (by simp; omega)
    have others := ih (fun c mem => h c (List.mem_cons_of_mem _ mem)) (n := n) (by omega)
    rw [writeText]
    simp only [readFields, skipGap_cons (show isGap '"' = false from rfl),
      readText_writeChars, skipGap_cons (show isGap ':' = false from rfl), found,
      skipGap_cons (show isGap ',' = false from rfl), others]
    rfl

theorem readsBack_list {items : List Value} (h : ∀ a ∈ items, ReadsBack a) :
    ReadsBack (.list items) := by
  intro n rest apart count
  obtain ⟨n, rfl⟩ := count_pos count
  cases items with
  | nil => rfl
  | cons a as =>
    simp only [write, List.length_cons] at count ⊢
    have found : readItems n (a.write (writeItems as rest)) = some (ofValues (a :: as), rest) :=
      readItems_write as h (by omega)
    obtain ⟨c, cs, eq, gap, bracket⟩ := write_head a (writeItems as rest)
    rw [eq] at found ⊢
    simp only [readDocument, skipGap_cons (show isGap '[' = false from rfl), skipGap_cons gap]
    split
    · rename_i closed
      exact absurd (List.cons.inj closed).1 bracket
    · rw [found]
      rfl

theorem readsBack_record {fields : List (String × Value)} (h : ∀ f ∈ fields, ReadsBack f.2) :
    ReadsBack (.record fields) := by
  intro n rest apart count
  obtain ⟨n, rfl⟩ := count_pos count
  match fields with
  | [] => rfl
  | (name, a) :: fs =>
    simp only [write, List.length_cons] at count ⊢
    have found : readFields n (writeText name (':' :: a.write (writeFields fs rest))) =
        some (ofFields ((name, a) :: fs), rest) := readFields_write fs h (by omega)
    rw [writeText] at found ⊢
    simp only [readDocument, skipGap_cons (show isGap '\x7b' = false from rfl),
      skipGap_cons (show isGap '"' = false from rfl)]
    split
    · rename_i closed
      exact absurd (List.cons.inj closed).1 (by decide)
    · rw [found]
      rfl

/-- **Every legible value is found** in front of a text. -/
theorem readsBack {v : Value} (h : v.Legible) : ReadsBack v := by
  induction h with
  | null => exact readsBack_token fun n rest apart => rfl
  | bool b =>
    cases b with
    | false => exact readsBack_token fun n rest apart => rfl
    | true => exact readsBack_token fun n rest apart => rfl
  | int least most =>
    exact readsBack_number rfl (writeInt_head _) fun rest => readNumber_writeInt least most
  | decimal h => exact readsBack_number rfl (toChars_head _) fun rest => readNumber_toChars h
  | text s =>
    refine readsBack_token fun n rest apart => ?_
    simp only [write, writeText, readDocument, skipGap_cons (show isGap '"' = false from rfl),
      readText_writeChars]
    rfl
  | list _ ih => exact readsBack_list ih
  | record _ ih => exact readsBack_record ih

/-- **A legible value is read as it was written.** -/
theorem read?_render {v : Value} (h : v.Legible) : read? v.render = some (ofValue v) := by
  have found := readsBack h ((v.write []).length + 1) [] apart_nil (by simp)
  simp only [read?, render, String.toList_ofList, found, skipGap]
  rfl

end Json

end WidgetStreams
