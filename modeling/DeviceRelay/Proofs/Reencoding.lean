import DeviceRelay.Proofs.Body
import DeviceRelay.Proofs.Json.Characters

/-!
# Documents that come back in the charset they came in

A body may spell characters that its charset lacks, because JSON has escapes for all of them. The document that was
read has the characters, and encoding writes them as they are:

    "\u20ac" ──latin-1──▶ text ──Json.read──▶ € ──Schema.write──▶ € ──compact──▶ text with € ──latin-1──▶ refused

Nothing else is in the way of a document that was read: names and numbers are ASCII, and the rest is read back.

* `Body.encode_isOk_iff` — the documents that a charset has octets for.
* `Body.comesBack_iff` — the documents that were read, and are encoded and read again.
-/

namespace DeviceRelay

/-! ### Names that are written -/

mutual

/-- The names under which members are written. -/
def Schema.wires : Schema → List String
  | .text | .integer | .boolean => []
  | .array item => item.wires
  | .object members => members.wires

/-- The names under which a row of members is written. -/
def Members.wires : Members → List String
  | .done => []
  | .required wire _ schema rest | .optional wire _ schema rest => wire :: (schema.wires ++ rest.wires)

end

section Wires

variable {p : String → Prop}

mutual

/-- A document has no other names. -/
theorem Schema.everyName_write : ∀ (schema : Schema) (x : schema.Item), (∀ wire ∈ schema.wires, p wire) →
    (schema.write x).EveryName p
  | .text, _, _ => trivial
  | .integer, _, _ => trivial
  | .boolean, _, _ => trivial
  | .array item, (xs : List item.Item), h => by
    show (Json.arr (xs.map item.write)).EveryName p
    rw [Json.everyName_arr, List.forall_mem_map]
    exact fun x _ => Schema.everyName_write item x h
  | .object members, row, h => Members.everyNameMember_write members row h

theorem Members.everyNameMember_write : ∀ (members : Members) (row : members.Row), (∀ wire ∈ members.wires, p wire) →
    Json.EveryNameMember p (members.write row)
  | .done, _, _ => trivial
  | .required wire _ schema rest, (x, row), h => by
    obtain ⟨hwire, hmore⟩ := List.forall_mem_cons.mp h
    obtain ⟨hschema, hrest⟩ := List.forall_mem_append.mp hmore
    exact ⟨hwire, Schema.everyName_write schema x hschema, Members.everyNameMember_write rest row hrest⟩
  | .optional wire _ schema rest, (slot, row), h => by
    obtain ⟨hwire, hmore⟩ := List.forall_mem_cons.mp h
    obtain ⟨hschema, hrest⟩ := List.forall_mem_append.mp hmore
    have hrow := Members.everyNameMember_write rest row hrest
    cases slot with
    | absent => exact hrow
    | null => exact ⟨hwire, trivial, hrow⟩
    | given x => exact ⟨hwire, Schema.everyName_write schema x hschema, hrow⟩

end

end Wires

namespace Body

/-- Devices know ASCII names only. -/
theorem ascii_wires : ∀ shape ∈ deviceShapes, ∀ wire ∈ shape.schema.wires,
    wire.toList.all (·.toNat < 128) = true := by
  decide

/-! ### Encoding what was read -/

section Charset

variable {shape : Shape} (hshape : shape ∈ deviceShapes) {charset : LooseText} (hcharset : Charset.IsKnown charset)

include hshape hcharset

/-- A document has octets exactly if the charset has the characters of its texts. -/
theorem encode_isOk_iff (x : shape.Item) : (∃ bytes, encode shape x charset = .ok bytes) ↔
    ∀ c ∈ Charset.ofName? charset, (shape.schema.write x).Every (Json.Says c.Has) := by
  obtain ⟨c, hc, hencode⟩ := exists_encodeText_eq hcharset
  -- the names are in every charset, which leaves the texts
  have hnames : (shape.schema.write x).EveryName fun name => ∀ ch ∈ name.toList, c.Has ch :=
    Schema.everyName_write _ x fun wire hwire ch hch =>
      Charset.has_of_ascii (Json.ascii_of_all (ascii_wires shape hshape wire hwire) ch hch)
  have htext : (∀ ch ∈ Json.writeChars Json.compact (shape.schema.write x), c.Has ch) ↔
      (shape.schema.write x).Every (Json.Says c.Has) := by
    rw [Json.forall_writeChars_iff (fun _ => Charset.has_of_ascii) Json.compact_lawful]
    simp only [show Json.compact.ascii = false from rfl, Bool.false_eq_true, false_or]
    exact and_iff_left hnames
  calc (∃ bytes, encode shape x charset = .ok bytes)
    _ ↔ ∃ bytes, c.encode (Json.writeChars Json.compact (shape.schema.write x)) = .ok bytes := by
      simp only [encode, hencode, mapError_eq_ok]
    _ ↔ (shape.schema.write x).Every (Json.Says c.Has) := Charset.encode_isOk_iff.trans htext
    _ ↔ ∀ c ∈ Charset.ofName? charset, (shape.schema.write x).Every (Json.Says c.Has) := by
      rw [show Charset.ofName? charset = some c from hc]
      simp

/-- What a document with readable integers is encoded as is read as the document. -/
theorem read_of_encode_eq_ok {x : shape.Item} (hints : ∀ n ∈ shape.schema.ints x, Json.digitCount n ≤ Text.digitLimit)
    {bytes : Bytes} (h : encode shape x charset = .ok bytes) : read (some bytes) shape charset = .ok x := by
  have hdenoted := denoted?_of_encodeText hcharset Json.compact_lawful (admits_write hshape hints) h
  exact read_eq_ok_iff.mpr ⟨_, hdenoted, shape.schema.read_write x (distinct_of_mem_deviceShapes shape hshape)⟩

end Charset

/-- The document is encoded, and read again from what it is encoded as. -/
def ComesBack (shape : Shape) (charset : LooseText) (x : shape.Item) : Prop :=
  ∃ bytes, encode shape x charset = .ok bytes ∧ read (some bytes) shape charset = .ok x

/-- A document that was read from a body comes back in the charset of the body exactly if the charset has the characters
of its texts. In a Unicode charset every such document comes back; in any charset, what keeps one from it is a character
without octets and nothing else. -/
theorem comesBack_iff {shape : Shape} (hshape : shape ∈ deviceShapes) {charset : LooseText}
    (hcharset : Charset.IsKnown charset) {body : Option Bytes} {x : shape.Item}
    (h : read body shape charset = .ok x) :
    (ComesBack shape charset x ↔
        ∀ c ∈ Charset.ofName? charset, (shape.schema.write x).Every (Json.Says c.Has)) ∧
      (Charset.NamesUnicode charset → ComesBack shape charset x) ∧
      ∀ fault, encode shape x charset = .error fault → ∃ f, fault = .unencodable f := by
  -- what was read is within the limits, so its octets, if it has any, are read again
  have hiff : ComesBack shape charset x ↔ ∃ bytes, encode shape x charset = .ok bytes := by
    constructor
    · rintro ⟨bytes, hencode, -⟩
      exact ⟨bytes, hencode⟩
    · rintro ⟨bytes, hencode⟩
      exact ⟨bytes, hencode, read_of_encode_eq_ok hshape hcharset (digitCount_le_of_read h) hencode⟩
  refine ⟨hiff.trans (encode_isOk_iff hshape hcharset x), fun hunicode => hiff.mpr ?_, ?_⟩
  · exact encodeText_isOk hunicode _
  · intro fault hfault
    obtain ⟨c, -, hencode⟩ := exists_encodeText_eq hcharset
    rw [encode, hencode] at hfault
    obtain ⟨f, -, rfl⟩ := mapError_eq_error.mp hfault
    exact ⟨f, rfl⟩

theorem itemShape_mem : Keystore.itemShape ∈ deviceShapes := .tail _ (.tail _ (.head _))

/-- An item of which only the alias is known. -/
def namedItem (name : String) : Keystore.itemShape.Item :=
  (.absent, name, .absent, .absent, .absent, .absent, .absent, .absent, .absent, .absent, .absent, .absent, ())

theorem every_write_namedItem {p : Json → Prop} {name : String} :
    (Keystore.itemShape.schema.write (namedItem name)).Every p ↔ p (.str name) :=
  and_iff_left trivial

/-- The item is read whether its alias is written as it is or with escapes. -/
theorem read_namedItem {style : Json.Style} (hstyle : style.Lawful) {charset name : String}
    (hcharset : Charset.IsKnown charset) {bytes : Bytes}
    (h : encodeText (Json.writeChars style (Keystore.itemShape.schema.write (namedItem name))) charset = .ok bytes) :
    read (some bytes) Keystore.itemShape charset = .ok (namedItem name) := by
  have hadmits : limits.Admits (Keystore.itemShape.schema.write (namedItem name)) :=
    admits_write itemShape_mem (List.forall_mem_nil _)
  exact read_eq_ok_iff.mpr ⟨_, denoted?_of_encodeText hcharset hstyle hadmits h, rfl⟩

/-- The euro sign has an octet in the charset of Windows, so a body with the sign comes back. -/
theorem comesBack_iff_euro : ComesBack Keystore.itemShape "cp1252" (namedItem "€") := by
  have hcharset : Charset.IsKnown "cp1252" := by decide +kernel
  have hread : read (some [0x7B, 0x22, 0x61, 0x6C, 0x69, 0x61, 0x73, 0x22, 0x3A, 0x22, 0x80, 0x22, 0x7D])
      Keystore.itemShape "cp1252" = .ok (namedItem "€") :=
    read_namedItem Json.compact_lawful hcharset rfl
  refine (comesBack_iff itemShape_mem hcharset hread).1.mpr fun c hc => ?_
  have hname : Charset.ofName? "cp1252" = some .windows1252 := by decide +kernel
  obtain rfl := Option.some.inj (hname.symm.trans hc)
  rw [every_write_namedItem]
  have heuro : Charset.windows1252.Has '€' := (Charset.has_iff_of_table rfl).mpr ⟨0x80, by decide +kernel⟩
  exact List.forall_mem_singleton.mpr heuro

/-- A body in Latin-1 has no octet for the euro sign, but an escape; what is read from it is not encoded. -/
theorem not_forall_comesBack : ¬∀ shape ∈ deviceShapes, ∀ charset, Charset.IsKnown charset →
    ∀ body x, read body shape charset = .ok x → ComesBack shape charset x := by
  intro h
  have hcharset : Charset.IsKnown "latin-1" := by decide +kernel
  have hread : read (some [0x7B, 0x22, 0x61, 0x6C, 0x69, 0x61, 0x73, 0x22, 0x3A, 0x20, 0x22, 0x5C, 0x75, 0x32, 0x30,
      0x61, 0x63, 0x22, 0x7D]) Keystore.itemShape "latin-1" = .ok (namedItem "€") :=
    read_namedItem Json.published_lawful hcharset rfl
  obtain ⟨bytes, hencode, -⟩ := h _ itemShape_mem _ hcharset _ _ hread
  have hrefused : encode Keystore.itemShape (namedItem "€") "latin-1" =
      .error (.unencodable ⟨"latin-1", '€', 10, 10, .beyond 256⟩) := rfl
  cases hrefused.symm.trans hencode

end Body

end DeviceRelay
