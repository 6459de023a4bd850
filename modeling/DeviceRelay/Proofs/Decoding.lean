import DeviceRelay.Proofs.Body
import DeviceRelay.Proofs.Schema.Conformance

/-!
# Exact decoding

Under the name of a charset, the documents of devices are read strictly and nothing else is:

    octets ──charset──▶ text ──▶ Json ──conforms──▶ document with its projection
       │                 │        │
       └────── the body cannot be decoded, and is kept; of a Json the report has all misfits

* `Body.read_of_denoted?` — behind the value of a body, reading is reading the value.
* `Body.reads_exactly` — which bodies are read, as what, and what is said of the others.
-/

namespace DeviceRelay

namespace Body

/-- The octets of the body are a text in the charset, and the text is JSON for the value. -/
def Spells (body : Option Bytes) (charset : LooseText) (v : Json) : Prop :=
  ∃ bytes ∈ body, ∃ c ∈ Charset.ofName? charset, ∃ cs, c.decode bytes = .ok cs ∧ Json.read limits cs = .ok v

variable {charset : LooseText}

/-- What a body denotes is what it spells. -/
theorem denoted?_eq_some_iff_spells (hcharset : Charset.IsKnown charset) {body : Option Bytes} {v : Json} :
    denoted? body charset = some v ↔ Spells body charset v := by
  rw [denoted?_eq_some_iff]
  constructor
  · rintro ⟨s, hs, hv⟩
    obtain ⟨bytes, hbytes, c, hc, hdecode⟩ := (text_eq_ok_iff hcharset).mp hs
    exact ⟨bytes, hbytes, c, hc, s.toList, hdecode, hv⟩
  · rintro ⟨bytes, hbytes, c, hc, cs, hdecode, hv⟩
    refine ⟨String.ofList cs, (text_eq_ok_iff hcharset).mpr ⟨bytes, hbytes, c, hc, ?_⟩, ?_⟩
    · rw [String.toList_ofList]
      exact hdecode
    · rw [String.toList_ofList]
      exact hv

/-- Behind the value of a body, reading the body is reading the value. -/
theorem read_of_denoted? {body : Option Bytes} {v : Json} (h : denoted? body charset = some v) (shape : Shape) :
    read body shape charset =
      (shape.schema.read v).mapError fun problems => .decoding (.mismatch shape.title problems) body := by
  obtain ⟨s, hs, hv⟩ := denoted?_eq_some_iff.mp h
  have hdocument : document shape s = shape.schema.read v := by
    rw [document, hv]
  rw [read]
  show (text body charset).bind _ = _
  rw [hs, Except.bind, hdocument]
  cases shape.schema.read v <;> rfl

/-- A body is read exactly if it is a text in the charset, the text is JSON and the value conforms to the shape. What
is read is the document with the projection of the value. Any other body cannot be decoded and is kept in the fault;
if it spells a value, the fault reports the misfits of the value. -/
theorem reads_exactly {shape : Shape} (hshape : shape ∈ deviceShapes) (hcharset : Charset.IsKnown charset)
    (body : Option Bytes) :
    ((∃ x, read body shape charset = .ok x) ↔ ∃ v, Spells body charset v ∧ shape.schema.Conforms v) ∧
      (∀ x, read body shape charset = .ok x →
        ∀ v, Spells body charset v → shape.schema.write x = shape.schema.project v) ∧
      ∀ fault, read body shape charset = .error fault →
        ∃ reason, fault = .decoding reason body ∧ ∀ v, Spells body charset v →
          ∃ problems, reason = .mismatch shape.title problems ∧ shape.schema.Reports v problems := by
  have hdistinct := distinct_of_mem_deviceShapes shape hshape
  refine ⟨?_, ?_, ?_⟩
  · constructor
    · rintro ⟨x, hx⟩
      obtain ⟨v, hv, hread⟩ := read_eq_ok_iff.mp hx
      exact ⟨v, (denoted?_eq_some_iff_spells hcharset).mp hv, Schema.conforms_iff.mpr ⟨x, hread⟩⟩
    · rintro ⟨v, hv, hconforms⟩
      obtain ⟨x, hx⟩ := Schema.conforms_iff.mp hconforms
      exact ⟨x, read_eq_ok_iff.mpr ⟨v, (denoted?_eq_some_iff_spells hcharset).mpr hv, hx⟩⟩
  · intro x hx v hv
    rw [read_of_denoted? ((denoted?_eq_some_iff_spells hcharset).mpr hv) shape, mapError_eq_ok] at hx
    exact ((Schema.read_eq_ok_iff hdistinct).mp hx).2
  · intro fault hfault
    obtain ⟨reason, rfl⟩ := failsOnly_read hcharset body shape fault hfault
    refine ⟨reason, rfl, fun v hv => ?_⟩
    rw [read_of_denoted? ((denoted?_eq_some_iff_spells hcharset).mpr hv) shape] at hfault
    obtain ⟨problems, hread, heq⟩ := mapError_eq_error.mp hfault
    obtain ⟨rfl, -⟩ := Fault.decoding.inj heq
    exact ⟨problems, rfl, Schema.reports_of_read hdistinct hread⟩

/-- A body in UTF-8 for a value. -/
def spelling (v : Json) : Bytes := Charset.Utf8.encode (Json.writeChars Json.published v)

theorem denoted?_spelling {v : Json} (h : limits.Admits v) : denoted? (some (spelling v)) "utf-8" = some v :=
  denoted?_of_encodeText (by decide +kernel) Json.published_lawful h rfl

/-- A list of bundles with a number that is a truth value, a name that is missing, a text that is a number, a member
that may be null and is, and an item that may not. -/
def crookedValue : Json :=
  .obj [("bundles", .arr [.obj [("version", .int 3), ("id", .bool true), ("state", .null)], .null])]

theorem admits_crookedValue : limits.Admits crookedValue := by
  refine ⟨?_, ?_⟩
  · simp only [crookedValue, Json.Every, Json.EveryItem, Json.EveryMember, Json.Limits.Legible, and_true]
    intro limit hlimit
    obtain rfl := Option.some.inj hlimit
    decide
  · intro bound hbound
    obtain rfl := Option.some.inj hbound
    decide

theorem reads_exactly_crookedValue :
    (∀ x, read (some (spelling crookedValue)) Inventory.bundlesShape "utf-8" ≠ .ok x) ∧
      Inventory.bundlesShape.schema.Reports crookedValue
        [⟨.notInteger, [.field "bundles", .index 0, .field "id"]⟩,
          ⟨.missing, [.field "bundles", .index 0, .field "name"]⟩,
          ⟨.notText, [.field "bundles", .index 0, .field "version"]⟩,
          ⟨.notObject, [.field "bundles", .index 1]⟩] := by
  have hcharset : Charset.IsKnown "utf-8" := by decide +kernel
  have hdenoted := denoted?_spelling admits_crookedValue
  have hread := read_of_denoted? hdenoted Inventory.bundlesShape
  obtain ⟨-, -, hfault⟩ := reads_exactly
    (.tail _ (.tail _ (.tail _ (.tail _ (.tail _ (.head _)))))) hcharset (some (spelling crookedValue))
  obtain ⟨reason, hreason, hreports⟩ := hfault _ (hread.trans rfl)
  obtain ⟨problems, hproblems, hreports⟩ :=
    hreports _ ((denoted?_eq_some_iff_spells hcharset).mp hdenoted)
  refine ⟨fun x hx => ?_, ?_⟩
  · cases hread.symm.trans hx
  · obtain ⟨hmismatch, -⟩ := Fault.decoding.inj hreason
    obtain ⟨-, rfl⟩ := DecodingReason.mismatch.inj (hmismatch.trans hproblems)
    exact hreports

end Body

end DeviceRelay
