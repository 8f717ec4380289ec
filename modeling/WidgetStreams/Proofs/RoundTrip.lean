import WidgetStreams.Payload.Codec
import WidgetStreams.Proofs.Reading

/-!
# Payloads are read back from their written form

This file proves that nothing is lost when a payload is written down: the payload of
a type that is read from the text of a payload of that type is the payload itself. So
two payloads of one type never have the same text. The format of the texts is left
open; all that is asked of it is what is documented.

## Main definitions

- `Payload.Fits` — the ids, positions and coordinates of a payload are ones that can be held

## Main results

- `Json.parts?_ofValue` — a record is read by the names of its own fields
- `Payload.decode?_encode` — a payload is read back from its plain data
- `Payload.texts_faithful` — and from its text, which no other payload of its type has
- `Format.plain_documented` — the plain format is as documented

## Design notes

The type of a payload has to be known. A click and a long click on one view have the
same text, and so has an item of a list that is clicked on one and held down on another.
A format reads a coordinate from as many digits as were written of it. So the number
that is read is not the one that was written, and only the nearest number of single
precision is the same.
-/

namespace WidgetStreams

-- ════════════════════════════════════════════════════════════════════════
-- Reading data that was written
-- ════════════════════════════════════════════════════════════════════════

namespace Value

variable (f : Decimal → Decimal)

theorem mapFields_eq_map (fields : List (String × Value)) :
    mapFields f fields = fields.map fun g => (g.1, g.2.mapDecimals f) := by
  induction fields with
  | nil => rfl
  | cons g fields ih => simp [mapFields, ih]

theorem mapItems_eq_map (items : List Value) : mapItems f items = items.map (mapDecimals f) := by
  induction items with
  | nil => rfl
  | cons a items ih => simp [mapItems, ih]

mutual

@[simp] theorem mapDecimals_id : ∀ v : Value, v.mapDecimals id = v
  | .null | .bool _ | .int _ | .decimal _ | .text _ => rfl
  | .list items => by rw [mapDecimals, mapItems_id items]
  | .record fields => by rw [mapDecimals, mapFields_id fields]

theorem mapItems_id : ∀ items : List Value, mapItems id items = items
  | [] => rfl
  | a :: rest => by rw [mapItems, mapDecimals_id a, mapItems_id rest]

theorem mapFields_id : ∀ fields : List (String × Value), mapFields id fields = fields
  | [] => rfl
  | (name, a) :: rest => by rw [mapFields, mapDecimals_id a, mapFields_id rest]

end

@[simp] theorem mapDecimals_record (fields : List (String × Value)) :
    (record fields).mapDecimals f = record (fields.map fun g => (g.1, g.2.mapDecimals f)) := by
  rw [mapDecimals, mapFields_eq_map]

@[simp] theorem mapDecimals_text (s : String) : (text s).mapDecimals f = text s := rfl

@[simp] theorem mapDecimals_bool (b : Bool) : (bool b).mapDecimals f = bool b := rfl

@[simp] theorem mapDecimals_ofNat (n : Nat) : (ofNat n).mapDecimals f = ofNat n := rfl

@[simp] theorem mapDecimals_ofInt32 (n : Int32) : (ofInt32 n).mapDecimals f = ofInt32 n := rfl

@[simp] theorem mapDecimals_ofInt64 (n : Int64) : (ofInt64 n).mapDecimals f = ofInt64 n := rfl

end Value

namespace Json

open Value

theorem filter_ofFields (fields : List (String × Value)) (name : String) :
    (ofFields fields).filter (fun f => f.1 == some name) =
      ofFields (fields.filter fun f => f.1 == name) := by
  induction fields with
  | nil => rfl
  | cons f fields ih => by_cases same : f.1 = name <;> simp [ofFields, same, ih]

/-- Only the field itself has its name. -/
theorem filter_own {fields : List (String × Value)} (h : (fields.map Prod.fst).Nodup)
    {f : String × Value} (mem : f ∈ fields) : fields.filter (fun g => g.1 == f.1) = [f] := by
  induction fields with
  | nil => exact absurd mem List.not_mem_nil
  | cons g fields ih =>
    obtain ⟨fresh, distinct⟩ := List.nodup_cons.1 h
    rcases List.mem_cons.1 mem with rfl | later
    · have others : fields.filter (fun g => g.1 == f.1) = [] := by
        rw [List.filter_eq_nil_iff]
        intro g at_g same
        exact fresh (eq_of_beq same ▸ List.mem_map_of_mem at_g)
      simp [others]
    · have other : g.1 ≠ f.1 := fun same => fresh (same ▸ List.mem_map_of_mem later)
      simp [other, ih distinct later]

theorem only?_ofFields {fields : List (String × Value)} (h : (fields.map Prod.fst).Nodup)
    {f : String × Value} (mem : f ∈ fields) :
    only? (ofFields fields) f.1 = some (ofValue f.2) := by
  rw [only?, filter_ofFields, filter_own h mem]
  rfl

theorem isSome_ofFields (fields : List (String × Value)) :
    (ofFields fields).all (fun f => f.1.isSome) = true := by
  induction fields with
  | nil => rfl
  | cons f fields ih => simpa [ofFields] using ih

/-- **A record is read** by the names of its own fields. -/
theorem parts?_ofValue {names : List String} {fields : List (String × Value)}
    (own : fields.map Prod.fst = names) (h : names.Nodup) :
    (ofValue (.record fields)).parts? names = some (fields.map fun f => ofValue f.2) := by
  subst own
  have each : ∀ some_fields : List (String × Value), (∀ f ∈ some_fields, f ∈ fields) →
      (some_fields.map Prod.fst).mapM (only? (ofFields fields)) =
        some (some_fields.map fun f => ofValue f.2) := by
    intro some_fields sub
    induction some_fields with
    | nil => rfl
    | cons f rest ih =>
      simp [List.mapM_cons, only?_ofFields h (sub f (by simp)),
        ih fun g mem => sub g (List.mem_cons_of_mem _ mem)]
  simp only [ofValue, parts?, isSome_ofFields, if_true]
  exact each fields fun f mem => mem

theorem scalar?_ofNat {n : Nat} (h : n < UInt64.size) :
    (ofValue (.ofNat n)).scalar? nat64? = some n := by
  have range : 0 ≤ (n : Int) ∧ (n : Int) < UInt64.size := ⟨Int.natCast_nonneg n, Int.ofNat_lt.2 h⟩
  have shown : ofValue (.ofNat n) = .scalar (some (.int n)) := rfl
  rw [shown, scalar?, nat64?, if_pos range, Int.toNat_natCast]

@[simp] theorem scalar?_ofInt32 (n : Int32) : (ofValue (.ofInt32 n)).scalar? int32? = some n := by
  have range : Int32.minValue.toInt ≤ n.toInt ∧ n.toInt ≤ Int32.maxValue.toInt :=
    ⟨n.minValue_le_toInt, n.toInt_le⟩
  simp only [ofInt32, ofValue, scalar?, int32?, if_pos range, Int32.ofInt_toInt]

@[simp] theorem scalar?_ofInt64 (n : Int64) : (ofValue (.ofInt64 n)).scalar? int64? = some n := by
  have range : Int64.minValue.toInt ≤ n.toInt ∧ n.toInt ≤ Int64.maxValue.toInt :=
    ⟨n.minValue_le_toInt, n.toInt_le⟩
  simp only [ofInt64, ofValue, scalar?, int64?, if_pos range, Int64.ofInt_toInt]

@[simp] theorem scalar?_text (s : String) : (ofValue (.text s)).scalar? text? = some s := rfl

@[simp] theorem scalar?_bool (b : Bool) : (ofValue (.bool b)).scalar? bool? = some b := rfl

/-- **A coordinate is read back** from whatever digits were written of it, if they are nearest to
    it. -/
theorem scalar?_ofFloat32 {f : Decimal → Decimal} (keeps : KeepsNearest f) {x : Float32}
    (finite : x.isFinite = true) :
    (ofValue ((ofFloat32 x).mapDecimals f)).scalar? decimal? = some x := by
  obtain ⟨d, eq⟩ := Float32.exists_toDecimal? finite
  have nearest : Float32.nearest (f d) = x := by
    rw [keeps d ⟨x, eq⟩, Decimal.nearest_toDecimal? eq]
  simp only [ofFloat32, eq, mapDecimals, ofValue, scalar?, decimal?, nearest]

/-- A choice is found by its name among all choices, if no other one has that name. -/
theorem named?_text {α : Type} {name : α → String} {all : List α} {a : α}
    (h : all.find? (fun b => name b == name a) = some a) :
    (ofValue (.text (name a))).named? name all = some a := h

end Json

@[simp] theorem MotionAction.named?_name (a : MotionAction) :
    (Json.ofValue (.text a.name)).named? name all = some a :=
  Json.named?_text (by cases a <;> decide)

@[simp] theorem Visibility.named?_name (v : Visibility) :
    (Json.ofValue (.text v.name)).named? name all = some v :=
  Json.named?_text (by cases v <;> decide)

@[simp] theorem ScrollState.named?_name (s : ScrollState) :
    (Json.ofValue (.text s.name)).named? name all = some s :=
  Json.named?_text (by cases s <;> decide)

@[simp] theorem QueryKind.named?_name (k : QueryKind) :
    (Json.ofValue (.text k.name)).named? name all = some k :=
  Json.named?_text (by cases k <;> decide)

variable {f : Decimal → Decimal}

/-- A motion whose coordinates are finite. -/
def Motion.Finite (m : Motion) : Prop := m.x.isFinite = true ∧ m.y.isFinite = true

theorem Motion.decode?_encode (keeps : KeepsNearest f) {m : Motion} (finite : m.Finite) :
    Motion.decode? (Json.ofValue (m.encode.mapDecimals f)) = some m := by
  simp [Motion.decode?, Motion.encode, Json.parts?_ofValue,
    Json.scalar?_ofFloat32 keeps finite.1, Json.scalar?_ofFloat32 keeps finite.2]

@[simp] theorem ScrollOffset.decode?_encode (o : ScrollOffset) :
    ScrollOffset.decode? (Json.ofValue (o.encode.mapDecimals f)) = some o := by
  simp [ScrollOffset.decode?, ScrollOffset.encode, Json.parts?_ofValue]

@[simp] theorem MenuItem.decode?_encode (i : MenuItem) :
    MenuItem.decode? (Json.ofValue (i.encode.mapDecimals f)) = some i := by
  simp [MenuItem.decode?, MenuItem.encode, Json.parts?_ofValue]

-- ════════════════════════════════════════════════════════════════════════
-- Data that formats keep
-- ════════════════════════════════════════════════════════════════════════

namespace Value

variable {fraction : Decimal → Prop}

@[simp] theorem within_text (s : String) : (text s).Within fraction := .text s

@[simp] theorem within_bool (b : Bool) : (bool b).Within fraction := .bool b

@[simp] theorem within_ofInt32 (n : Int32) : (ofInt32 n).Within fraction := by
  have least : Int64.minValue.toInt ≤ Int32.minValue.toInt := by decide
  have most : Int32.maxValue.toInt < UInt64.size := by decide
  exact .int (Int.le_trans least n.minValue_le_toInt) (Int.lt_of_le_of_lt n.toInt_le most)

@[simp] theorem within_ofInt64 (n : Int64) : (ofInt64 n).Within fraction := by
  have most : Int64.maxValue.toInt < UInt64.size := by decide
  exact .int n.minValue_le_toInt (Int.lt_of_le_of_lt n.toInt_le most)

theorem within_ofNat {n : Nat} (h : n < UInt64.size) : (ofNat n).Within fraction := by
  have least : Int64.minValue.toInt ≤ 0 := by decide
  exact .int (Int.le_trans least (Int.natCast_nonneg n)) (Int.ofNat_lt.2 h)

theorem within_ofFloat32 {x : Float32} (finite : x.isFinite = true) :
    (ofFloat32 x).Within Decimal.IsSingle := by
  obtain ⟨d, eq⟩ := Float32.exists_toDecimal? finite
  simp only [ofFloat32, eq]
  exact .decimal ⟨x, eq⟩

@[simp] theorem within_record (fields : List (String × Value)) :
    (record fields).Within fraction ↔ ∀ g ∈ fields, g.2.Within fraction := by
  constructor
  · rintro ⟨⟩
    assumption
  · exact .record

/-- Changing decimal numbers of one kind into such of another kind keeps the bounds. -/
theorem Within.mapDecimals {other : Decimal → Prop} {f : Decimal → Decimal}
    (into : ∀ d, fraction d → other (f d)) {v : Value} (h : v.Within fraction) :
    (v.mapDecimals f).Within other := by
  induction h with
  | null => exact .null
  | bool b => exact .bool b
  | int least most => exact .int least most
  | decimal h => exact .decimal (into _ h)
  | text s => exact .text s
  | list _ ih =>
    rw [Value.mapDecimals, mapItems_eq_map]
    exact .list (by simpa using ih)
  | record _ ih =>
    rw [mapDecimals_record]
    refine .record fun g mem => ?_
    obtain ⟨g', mem', rfl⟩ := List.mem_map.1 mem
    exact ih g' mem'

@[simp] theorem depth_ofFloat32 (x : Float32) : (ofFloat32 x).depth = 0 := by
  unfold ofFloat32
  split <;> rfl

end Value

/-- **The plain format is as documented.** -/
theorem Format.plain_documented : plain.Documented where
  read?_write _ h _ := Json.read?_render (h.mapDecimals fun _ => Decimal.IsSingle.legible_shortest)
  keepsNearest_reread d _ := d.nearest_shortest

theorem Motion.within_encode {m : Motion} (finite : m.Finite) :
    m.encode.Within Decimal.IsSingle := by
  simp [Motion.encode, Value.within_ofFloat32 finite.1, Value.within_ofFloat32 finite.2]

@[simp] theorem ScrollOffset.within_encode (o : ScrollOffset) :
    o.encode.Within Decimal.IsSingle := by
  simp [ScrollOffset.encode]

@[simp] theorem MenuItem.within_encode (i : MenuItem) : i.encode.Within Decimal.IsSingle := by
  simp [MenuItem.encode]

-- ════════════════════════════════════════════════════════════════════════
-- Payloads
-- ════════════════════════════════════════════════════════════════════════

namespace Payload

/-- **A payload that can be held**: ids and positions have 64 bits, and coordinates are finite. -/
def Fits : Payload → Prop
  | .unit | .flag _ | .number _ | .text _ | .data _ | .motionAction _ | .visibility _
  | .scrollOffset _ | .scrollState _ | .queryKind _ | .menuItem _ => True
  | .page n => n < UInt64.size
  | .motion m => m.Finite
  | .viewId view | .click view | .longClick view | .focusChange view _ | .afterTextChange view _
  | .editorAction view _ | .itemSelected view _ _ | .nothingSelected view | .itemClick view _ _
  | .itemLongClick view _ _ | .queryText view _ _ | .barQuery view _ _ | .scrollChange view _ _ =>
    view < UInt64.size
  | .touch view m | .hover view m => view < UInt64.size ∧ m.Finite
  | .textChange view _ start before count =>
    view < UInt64.size ∧ start < UInt64.size ∧ before < UInt64.size ∧ count < UInt64.size
  | .pageScroll view position offset _ =>
    view < UInt64.size ∧ position < UInt64.size ∧ offset.isFinite = true

variable {view : ViewId}

theorem viewOnly?_record (make : ViewId → Payload) (h : view < UInt64.size) :
    viewOnly? make (Json.ofValue ((Value.record [("view", .ofNat view)]).mapDecimals f)) =
      some (make view) := by
  simp [viewOnly?, Json.parts?_ofValue, Json.scalar?_ofNat h]

theorem viewMotion?_record (make : ViewId → Motion → Payload) (keeps : KeepsNearest f)
    (h : view < UInt64.size) {m : Motion} (finite : m.Finite) :
    viewMotion? make (Json.ofValue
        ((Value.record [("view", .ofNat view), ("motion", m.encode)]).mapDecimals f)) =
      some (make view m) := by
  simp [viewMotion?, Json.parts?_ofValue, Json.scalar?_ofNat h, Motion.decode?_encode keeps finite]

theorem viewRow?_record (make : ViewId → Int32 → Int64 → Payload) (h : view < UInt64.size)
    (position : Int32) (id : Int64) :
    viewRow? make (Json.ofValue ((Value.record
        [("view", .ofNat view), ("position", .ofInt32 position), ("id", .ofInt64 id)]).mapDecimals
          f)) =
      some (make view position id) := by
  simp [viewRow?, Json.parts?_ofValue, Json.scalar?_ofNat h]

/-- **A payload is read back** from its plain data, whatever digits of its coordinates are kept, if
    they are nearest to them. -/
theorem decode?_encode (keeps : KeepsNearest f) {p : Payload} {t : PayloadType}
    (type : p.type? = some t) (fits : p.Fits) :
    decode? t (Json.ofValue (p.encode.mapDecimals f)) = some p := by
  cases p with
  | unit | flag _ | number _ | page _ | text _ | data _ => nomatch type
  | viewId view =>
    cases type
    simp [decode?, encode, Json.scalar?_ofNat fits]
  | motion m =>
    cases type
    simp [decode?, encode, Motion.decode?_encode keeps fits]
  | motionAction _ | visibility _ | scrollOffset _ | scrollState _ | queryKind _ | menuItem _ =>
    cases type
    simp [decode?, encode]
  | click view | longClick view =>
    cases type
    simp only [decode?, encode]
    exact viewOnly?_record _ fits
  | nothingSelected view =>
    cases type
    have inner := viewOnly?_record (f := f) .nothingSelected fits
    simpa [decode?, encode, Json.ofValue, Json.ofFields] using inner
  | touch view m | hover view m =>
    cases type
    simp only [decode?, encode]
    exact viewMotion?_record _ keeps fits.1 fits.2
  | itemSelected view position id =>
    cases type
    have inner := viewRow?_record (f := f) .itemSelected fits position id
    simpa [decode?, encode, Json.ofValue, Json.ofFields] using inner
  | itemClick view position id | itemLongClick view position id =>
    cases type
    simp only [decode?, encode]
    exact viewRow?_record _ fits position id
  | focusChange _ _ | afterTextChange _ _ | editorAction _ _ | queryText _ _ _ | barQuery _ _ _
  | scrollChange _ _ _ =>
    cases type
    simp [decode?, encode, Json.parts?_ofValue, Json.scalar?_ofNat fits]
  | textChange view s start before count =>
    cases type
    obtain ⟨at_view, at_start, at_before, at_count⟩ := fits
    simp [decode?, encode, Json.parts?_ofValue, Json.scalar?_ofNat at_view,
      Json.scalar?_ofNat at_start, Json.scalar?_ofNat at_before, Json.scalar?_ofNat at_count]
  | pageScroll view position offset pixels =>
    cases type
    obtain ⟨at_view, at_position, finite⟩ := fits
    simp [decode?, encode, Json.parts?_ofValue, Json.scalar?_ofNat at_view,
      Json.scalar?_ofNat at_position, Json.scalar?_ofFloat32 keeps finite]

-- ════════════════════════════════════════════════════════════════════════
-- Texts
-- ════════════════════════════════════════════════════════════════════════

/-- **Whatever fits is kept**: the numbers in the data of a payload with a type are within the
    bounds of formats. -/
theorem Fits.within {p : Payload} {t : PayloadType} (type : p.type? = some t) (fits : p.Fits) :
    p.encode.Within Decimal.IsSingle := by
  cases p with
  | unit | flag _ | number _ | page _ | text _ | data _ => nomatch type
  | motion m => exact Motion.within_encode fits
  | motionAction _ | visibility _ | scrollOffset _ | scrollState _ | queryKind _ | menuItem _ =>
    simp [encode]
  | viewId view => exact Value.within_ofNat fits
  | click _ | longClick _ | focusChange _ _ | afterTextChange _ _ | editorAction _ _
  | itemSelected _ _ _ | nothingSelected _ | itemClick _ _ _ | itemLongClick _ _ _
  | queryText _ _ _ | barQuery _ _ _ | scrollChange _ _ _ =>
    simp [encode, Value.within_ofNat fits]
  | touch view m | hover view m =>
    simp [encode, Value.within_ofNat fits.1, Motion.within_encode fits.2]
  | textChange view s start before count =>
    obtain ⟨at_view, at_start, at_before, at_count⟩ := fits
    simp [encode, Value.within_ofNat at_view, Value.within_ofNat at_start,
      Value.within_ofNat at_before, Value.within_ofNat at_count]
  | pageScroll view position offset pixels =>
    obtain ⟨at_view, at_position, finite⟩ := fits
    simp [encode, Value.within_ofNat at_view, Value.within_ofNat at_position,
      Value.within_ofFloat32 finite]

/-- The data of a payload is nested twice at most. -/
theorem depth_encode_le {p : Payload} {t : PayloadType} (type : p.type? = some t) :
    p.encode.depth ≤ 2 := by
  cases p with
  | unit | flag _ | number _ | page _ | text _ | data _ => nomatch type
  | _ =>
    simp [encode, Motion.encode, ScrollOffset.encode, MenuItem.encode, Value.depth,
      Value.depthOfFields, Value.ofNat, Value.ofInt32, Value.ofInt64]

/-- **Texts are faithful to payloads**, in every format that is as documented. The payload of a type
    that is read from the text of a payload of that type, or from its plain data, is the payload
    itself, and no other payload of the type has the same text. -/
theorem texts_faithful {format : Format} (documented : format.Documented) {p : Payload}
    {t : PayloadType} (type : p.type? = some t) (fits : p.Fits) :
    ofText? format t (p.toText format) = some p ∧
      decode? t (.ofValue p.encode) = some p ∧
      ∀ q : Payload, q.type? = some t → q.Fits → q ≠ p → q.toText format ≠ p.toText format := by
  have back : ∀ {q : Payload}, q.type? = some t → q.Fits →
      ofText? format t (q.toText format) = some q := by
    intro q type fits
    have shallow : q.encode.depth < 128 := by
      have := depth_encode_le type
      omega
    rw [ofText?, toText, documented.read?_write _ (fits.within type) shallow, Option.bind_some,
      decode?_encode documented.keepsNearest_reread type fits]
  have plain := decode?_encode (fun _ _ => rfl : KeepsNearest id) type fits
  rw [Value.mapDecimals_id] at plain
  refine ⟨back type fits, plain, fun q type' fits' other same => other ?_⟩
  have read : some q = some p := by
    rw [← back type fits, ← back type' fits', same]
  exact Option.some.inj read

/-- A text that needs escapes, the greatest ids and positions, and coordinates that are written in
    fewer digits than they have. -/
theorem texts_faithful_at_the_limits :
    ofText? .plain .textChange
        ((textChange 18446744073709551615 "\"\\\n\x01é😀" 0 18446744073709551615 6).toText .plain) =
      some (textChange 18446744073709551615 "\"\\\n\x01é😀" 0 18446744073709551615 6) ∧
    ofText? .plain .touch
        ((touch 1 ⟨.down, .ofBits 0x3DCCCCCD, .ofBits 0x4E800000⟩).toText .plain) =
      some (touch 1 ⟨.down, .ofBits 0x3DCCCCCD, .ofBits 0x4E800000⟩) ∧
    (touch 1 ⟨.down, .ofBits 0x80000000, .half⟩).toText .plain ≠
      (touch 1 ⟨.down, .zero, .half⟩).toText .plain := by
  have limits : (textChange 18446744073709551615 "\"\\\n\x01é😀" 0 18446744073709551615 6).Fits :=
    ⟨by decide, by decide, by decide, by decide⟩
  have tenth : (touch 1 ⟨.down, .ofBits 0x3DCCCCCD, .ofBits 0x4E800000⟩).Fits :=
    ⟨by decide, by decide, by decide⟩
  have minus : (touch 1 ⟨.down, .ofBits 0x80000000, .half⟩).Fits :=
    ⟨by decide, by decide, by decide⟩
  have plus : (touch 1 ⟨.down, .zero, .half⟩).Fits := ⟨by decide, by decide, by decide⟩
  refine ⟨?_, ?_, ?_⟩
  · exact (texts_faithful Format.plain_documented rfl limits).1
  · exact (texts_faithful Format.plain_documented rfl tenth).1
  · exact (texts_faithful Format.plain_documented rfl plus).2.2 _ rfl minus (by decide)

example : (touch 1 ⟨.down, .ofBits 0x3DCCCCCD, .ofBits 0x4E800000⟩).toText .plain =
    "\x7b\"view\":1,\"motion\":\x7b\"action\":\"Down\",\"x\":0.1,\"y\":1073741800.0\x7d\x7d" := by
  decide +kernel

end Payload

end WidgetStreams
