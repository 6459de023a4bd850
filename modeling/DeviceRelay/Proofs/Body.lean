import DeviceRelay.Inventory.Document
import DeviceRelay.Keystore.Document
import DeviceRelay.Proofs.Charset.Repertoire
import DeviceRelay.Proofs.Fault
import DeviceRelay.Proofs.Json.Digits
import DeviceRelay.Proofs.Schema.Projection

/-!
# Bodies of device documents

    document ──Schema.write──▶ Json ──writeChars──▶ text ──Charset.encode──▶ Bytes
    document ◀──Schema.read─── Json ◀─────read───── text ◀──Charset.decode── Bytes

Each arrow of the first row is undone by the one below it, as long as the charset is a Unicode one and
the integers are short enough to be read back. So a document comes back from its body, with the optional
members that it had and no others, and a body that was read is sent again as what its shape keeps of it.

* `Body.read_of_encode` — a document is encoded, and read back from its body.
* `Body.encode_of_read` — a document that was read is encoded as the projection of the body's value.
-/

namespace DeviceRelay

/-- The name means a charset that has octets for every text. -/
def Charset.NamesUnicode (name : LooseText) : Prop :=
  IsSearchable name ∧ ∃ c ∈ ofName? name, c.isUnicode = true

instance (name : LooseText) : Decidable (Charset.NamesUnicode name) := by
  unfold Charset.NamesUnicode; infer_instance

theorem Charset.NamesUnicode.isKnown {name : LooseText} (h : NamesUnicode name) : IsKnown name := by
  obtain ⟨hsearchable, c, hname, -⟩ := h
  exact ⟨hsearchable, Option.isSome_of_mem hname⟩

namespace Body

/-- The shapes of the documents that devices send. -/
def deviceShapes : List Shape :=
  [Keystore.storeShape, Keystore.storesShape, Keystore.itemShape, Keystore.itemsShape,
    Inventory.itemsShape, Inventory.bundlesShape, Inventory.containersShape, Inventory.packagesShape]

theorem distinct_of_mem_deviceShapes : ∀ shape ∈ deviceShapes, shape.schema.Distinct := by
  decide

theorem depth_of_mem_deviceShapes : ∀ shape ∈ deviceShapes, shape.schema.depth ≤ 200 := by
  decide

/-- The JSON value that a body denotes, if it denotes one. -/
def denoted? (body : Option Bytes) (charset : LooseText) : Option Json :=
  match text body charset with
  | .error _ => none
  | .ok s => (Json.read limits s.toList).toOption

theorem denoted?_eq_some_iff {body : Option Bytes} {charset : LooseText} {v : Json} :
    denoted? body charset = some v ↔
      ∃ s, text body charset = .ok s ∧ Json.read limits s.toList = .ok v := by
  unfold denoted?
  cases text body charset with
  | error fault => simp
  | ok s => cases hread : Json.read limits s.toList <;> simp [Except.toOption, hread]

theorem document_eq_ok_iff {shape : Shape} {s : String} {x : shape.Item} :
    document shape s = .ok x ↔ ∃ v, Json.read limits s.toList = .ok v ∧ shape.schema.read v = .ok x := by
  unfold document
  cases Json.read limits s.toList with
  | error fault => simp [Checked.refuse]
  | ok v => simp

/-- A document is read from the value that its body denotes. -/
theorem read_eq_ok_iff {body : Option Bytes} {shape : Shape} {charset : LooseText} {x : shape.Item} :
    read body shape charset = .ok x ↔
      ∃ v, denoted? body charset = some v ∧ shape.schema.read v = .ok x := by
  have hdocument : read body shape charset = .ok x ↔
      ∃ s, text body charset = .ok s ∧ document shape s = .ok x := by
    refine bind_eq_ok.trans (exists_congr fun s => and_congr_right fun _ => ?_)
    cases document shape s <;> simp
  rw [hdocument]
  constructor
  · rintro ⟨s, hs, hx⟩
    obtain ⟨v, hv, hx⟩ := document_eq_ok_iff.mp hx
    exact ⟨v, denoted?_eq_some_iff.mpr ⟨s, hs, hv⟩, hx⟩
  · rintro ⟨v, hv, hx⟩
    obtain ⟨s, hs, hv⟩ := denoted?_eq_some_iff.mp hv
    exact ⟨s, hs, document_eq_ok_iff.mpr ⟨v, hv, hx⟩⟩

/-! ### What an encoded text denotes -/

section Text

variable {charset : LooseText}

/-- The text of a body is what its octets are decoded as. -/
theorem text_eq_ok_iff (hcharset : Charset.IsKnown charset) {body : Option Bytes} {s : String} :
    text body charset = .ok s ↔
      ∃ bytes ∈ body, ∃ c ∈ Charset.ofName? charset, c.decode bytes = .ok s.toList := by
  obtain ⟨hsearchable, hknown⟩ := hcharset
  obtain ⟨c, hc⟩ := Option.isSome_iff_exists.mp hknown
  obtain ⟨name, rfl, hname⟩ := Charset.exists_of_isSearchable hsearchable
  cases body with
  | none => simp [text]
  | some bytes =>
    have htext : text (some bytes) name = .ok s ↔ c.decode bytes = .ok s.toList := by
      simp only [text, hname, hc]
      cases bytes with
      | nil =>
        rw [c.decode_nil, List.isEmpty_nil, if_pos rfl, Except.ok.injEq, Except.ok.injEq]
        constructor
        · rintro rfl
          exact String.toList_empty.symm
        · intro h
          exact String.toList_injective (String.toList_empty.trans h)
      | cons b bytes =>
        rw [List.isEmpty_cons, if_neg Bool.false_ne_true]
        cases c.decode (b :: bytes) with
        | error fault => simp
        | ok cs =>
          simp only [Except.ok.injEq]
          constructor
          · rintro rfl
            exact String.toList_ofList.symm
          · rintro rfl
            exact String.ofList_toList
    rw [htext]
    constructor
    · intro h
      exact ⟨bytes, rfl, c, hc, h⟩
    · rintro ⟨_, hbytes, c', hc', h⟩
      obtain rfl := Option.some.inj hbytes
      obtain rfl := Option.some.inj (hc.symm.trans hc')
      exact h

/-- The octets of a text are those that its charset has for it. -/
theorem exists_encodeText_eq (hcharset : Charset.IsKnown charset) : ∃ c ∈ Charset.ofName? charset,
    ∀ cs, encodeText cs charset = (c.encode cs).mapError .unencodable := by
  obtain ⟨hsearchable, hknown⟩ := hcharset
  obtain ⟨c, hc⟩ := Option.isSome_iff_exists.mp hknown
  obtain ⟨name, rfl, hname⟩ := Charset.exists_of_isSearchable hsearchable
  refine ⟨c, hc, fun cs => ?_⟩
  simp only [encodeText, hname, hc]

/-- A text that was encoded is decoded again. -/
theorem text_of_encodeText (hcharset : Charset.IsKnown charset) {cs : List Char} {bytes : Bytes}
    (h : encodeText cs charset = .ok bytes) : text (some bytes) charset = .ok (String.ofList cs) := by
  obtain ⟨c, hc, hencode⟩ := exists_encodeText_eq hcharset
  rw [hencode, mapError_eq_ok] at h
  refine (text_eq_ok_iff hcharset).mpr ⟨bytes, rfl, c, hc, ?_⟩
  rw [String.toList_ofList]
  exact Charset.decode_of_encode h

/-- A value within the limits is denoted by the text that is written for it. -/
theorem denoted?_of_encodeText (hcharset : Charset.IsKnown charset) {style : Json.Style} (hstyle : style.Lawful)
    {v : Json} (hv : limits.Admits v) {bytes : Bytes}
    (h : encodeText (Json.writeChars style v) charset = .ok bytes) : denoted? (some bytes) charset = some v := by
  refine denoted?_eq_some_iff.mpr ⟨_, text_of_encodeText hcharset h, ?_⟩
  rw [String.toList_ofList]
  exact Json.read_writeChars hstyle hv

theorem encodeText_isOk (hcharset : Charset.NamesUnicode charset) (cs : List Char) :
    ∃ bytes, encodeText cs charset = .ok bytes := by
  obtain ⟨c, hname, hencode⟩ := exists_encodeText_eq hcharset.isKnown
  obtain ⟨-, c', hname', hunicode⟩ := hcharset
  obtain rfl := Option.some.inj (hname.symm.trans hname')
  obtain ⟨bytes, hbytes⟩ := Charset.encode_isOk_of_isUnicode hunicode cs
  exact ⟨bytes, (hencode cs).trans (mapError_eq_ok.mpr hbytes)⟩

/-- The body of a document denotes the value that is written for it. -/
theorem denoted?_encode (hcharset : Charset.NamesUnicode charset) {shape : Shape} {x : shape.Item}
    (hx : limits.Admits (shape.schema.write x)) :
    ∃ bytes, encode shape x charset = .ok bytes ∧
      denoted? (some bytes) charset = some (shape.schema.write x) := by
  obtain ⟨bytes, hencode⟩ :=
    encodeText_isOk hcharset (Json.writeChars Json.compact (shape.schema.write x))
  exact ⟨bytes, hencode, denoted?_of_encodeText hcharset.isKnown Json.compact_lawful hx hencode⟩

end Text

/-! ### Documents of devices -/

/-- The value that is written for a document of a device is within the limits, if its integers are. -/
theorem admits_write {shape : Shape} (hshape : shape ∈ deviceShapes) {x : shape.Item}
    (hints : ∀ n ∈ shape.schema.ints x, Json.digitCount n ≤ Text.digitLimit) :
    limits.Admits (shape.schema.write x) where
  legible := by
    have hplain : Json.Plain limits.Legible := ⟨trivial, fun _ => trivial, fun _ => trivial⟩
    rw [Schema.every_write_iff hplain]
    intro n hn limit hlimit
    obtain rfl := Option.some.inj hlimit
    exact hints n hn
  depth := by
    intro bound hbound
    obtain rfl := Option.some.inj hbound
    exact Nat.le_trans (shape.schema.depth_write_le x) (depth_of_mem_deviceShapes shape hshape)

/-- A document of a device is encoded, and read back from its body with the members that it had. -/
theorem read_of_encode {shape : Shape} (hshape : shape ∈ deviceShapes) {charset : LooseText}
    (hcharset : Charset.NamesUnicode charset) (x : shape.Item)
    (hints : ∀ n ∈ shape.schema.ints x, Json.digitCount n ≤ Text.digitLimit) :
    ∃ bytes, encode shape x charset = .ok bytes ∧ read (some bytes) shape charset = .ok x := by
  obtain ⟨bytes, hencode, hdenoted⟩ := denoted?_encode hcharset (admits_write hshape hints)
  have hread := shape.schema.read_write x (distinct_of_mem_deviceShapes shape hshape)
  exact ⟨bytes, hencode, read_eq_ok_iff.mpr ⟨_, hdenoted, hread⟩⟩

/-- Items with members that are missing, null and empty, and with characters that are escaped or that lie
beyond the first plane. -/
def sampleItems : Keystore.itemsShape.Item :=
  [(.absent, "a\"\\\n", .null, .given (-4096 : Int), .absent, .given "",
      .given [(.given "DNS", .null, ()), (.absent, .absent, ())], .absent, .given (0 : Int), .null,
      .absent, .given ["é", "😀"], ()),
    (.null, "", .absent, .absent, .absent, .absent, .given [], .absent, .absent, .absent, .absent,
      .absent, ())]

theorem read_of_encode_sampleItems :
    ∃ bytes, encode Keystore.itemsShape sampleItems "utf-16" = .ok bytes ∧
      read (some bytes) Keystore.itemsShape "utf-16" = .ok sampleItems :=
  read_of_encode (.tail _ (.tail _ (.tail _ (.head _)))) (by decide +kernel) _ (by decide)

/-- The integers of a document that was read are short enough to be read again. -/
theorem digitCount_le_of_read {body : Option Bytes} {shape : Shape} {charset : LooseText} {x : shape.Item}
    (h : read body shape charset = .ok x) :
    ∀ n ∈ shape.schema.ints x, Json.digitCount n ≤ Text.digitLimit := by
  obtain ⟨v, hv, hx⟩ := read_eq_ok_iff.mp h
  obtain ⟨s, -, hs⟩ := denoted?_eq_some_iff.mp hv
  have hfew : v.Every (Json.FewDigits Text.digitLimit) := Json.fewDigits_of_read rfl hs
  have hplain : Json.Plain (Json.FewDigits Text.digitLimit) :=
    ⟨trivial, fun _ => trivial, fun _ => trivial⟩
  exact (Schema.every_write_iff hplain _ _).mp (Schema.every_write_of_read hx hfew)

/-- A body that was read as a document is encoded again as what the shape keeps of its value: the members
that it knows, under their wire names, with the value that counted, null or not, and no others. -/
theorem encode_of_read {shape : Shape} (hshape : shape ∈ deviceShapes) {charset : LooseText}
    (hcharset : Charset.NamesUnicode charset) {body : Option Bytes} {x : shape.Item}
    (h : read body shape charset = .ok x) :
    ∃ v bytes, denoted? body charset = some v ∧ encode shape x charset = .ok bytes ∧
      denoted? (some bytes) charset = some (shape.schema.project v) := by
  obtain ⟨v, hv, hx⟩ := read_eq_ok_iff.mp h
  obtain ⟨bytes, hencode, hdenoted⟩ :=
    denoted?_encode hcharset (admits_write hshape (digitCount_le_of_read h))
  rw [shape.schema.write_eq_project hx] at hdenoted
  exact ⟨v, bytes, hv, hencode, hdenoted⟩

/-- A list under both of its names, with an item that has a name twice, a member that is null, one under
its own name, and one that is not known. -/
def sampleValue : Json :=
  .obj [("systemPackages", .arr [.obj [("name", .str "libc"), ("version", .null), ("name", .str "libc6"),
      ("package_type", .str "DEB"), ("arch", .arr [])]]),
    ("system_packages", .arr [])]

/-- A body that denotes it, with blanks. -/
def sampleBody : Bytes := Charset.Utf8.encode (Json.writeChars Json.published sampleValue)

theorem denoted?_sampleBody : denoted? (some sampleBody) "utf-8" = some sampleValue := by
  refine denoted?_of_encodeText (by decide +kernel) Json.published_lawful ⟨?_, ?_⟩ rfl
  · simp [sampleValue, Json.Every, Json.EveryItem, Json.EveryMember, Json.Limits.Legible]
  · intro bound hbound
    obtain rfl := Option.some.inj hbound
    decide

theorem encode_of_read_sampleBody :
    ∃ v bytes, denoted? (some sampleBody) "utf-8" = some v ∧
      encode Inventory.packagesShape ([("libc6", .null, .given "DEB", ())], ()) "utf-8" = .ok bytes ∧
      denoted? (some bytes) "utf-8" = some (Inventory.packagesShape.schema.project v) :=
  encode_of_read (.tail _ (.tail _ (.tail _ (.tail _ (.tail _ (.tail _ (.tail _ (.head _))))))))
    (by decide +kernel) (read_eq_ok_iff.mpr ⟨_, denoted?_sampleBody, by rfl⟩)

end Body

end DeviceRelay
