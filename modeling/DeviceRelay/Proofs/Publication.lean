import DeviceRelay.Proofs.Charset.Repertoire
import DeviceRelay.Proofs.Json.Characters
import DeviceRelay.Proofs.Publisher
import DeviceRelay.Proofs.Value.Published

/-!
# Publishing is faithful and atomic

A value of any kind is published as a whole or not at all. If all of its parts can be sent, the broker is handed one
publication, from which the value can be read again; if one part cannot be published, however deep it lies, publishing
fails and the broker is handed nothing.

    Value ──published?──▶ Json ──write──▶ ASCII text ──ofText──▶ octets ──send──▶ broker
      │                                                                             │
      └──────────received────────── ofJson ◀──read── text ◀──decode─────────────────┘

* `Publication.Carries` — what the readers of a publication have.
* `Publisher.publish_faithful` — the main statement.
-/

namespace DeviceRelay

/-- The publication stands under the topic. Its content is ASCII, and whoever reads it has the value as it is received.
Its key is the UTF-8 of the key that was given, if that is not empty. -/
structure Publication.Carries (publication : Publication) (topic : String) (value : Value) (key : Option String) :
    Prop where
  topic_eq : publication.topic = topic
  reads : ∃ text, Charset.ascii.decode publication.content = .ok text ∧
    ∃ document, Json.read Json.anyDepth text = .ok document ∧ Value.ofJson document = value.received
  key_given : ∀ name ∈ key, name ≠ "" → ∃ octets ∈ publication.key, Charset.utf8.decode octets = .ok name.toList
  key_none : (∀ name ∈ key, name = "") → publication.key = none

namespace Publisher

/-! ### Documents -/

theorem keyOctets_of_ne {name : String} (h : name ≠ "") :
    keyOctets (some name) = some (Charset.Utf8.encode name.toList) := by
  simp [keyOctets, Option.filter, h, Charset.Utf8.ofText]

theorem keyOctets_eq_none {key : Option String} (h : ∀ name ∈ key, name = "") : keyOctets key = none := by
  rw [keyOctets, Option.map_eq_none_iff, Option.filter_eq_none_iff]
  intro name hname
  simp [h name hname]

/-- The content of a document is ASCII, and its text is what is written for the value. -/
theorem decode_document (topic : String) (content : Json) (key : Option String) :
    Charset.ascii.decode (document topic content key).content = .ok (Json.writeChars Json.published content) := by
  have hascii := Json.ascii_writeChars Json.published_lawful rfl content
  apply Charset.decode_of_encode
  show Charset.SingleByte.encodeFrom Charset.SingleByte.ascii 0 _ = .ok (Charset.Utf8.encode (String.ofList _).toList)
  rw [String.toList_ofList]
  exact Charset.encodeFrom_ascii hascii 0

/-- The document of a value carries it. -/
theorem carries_document {value : Value} (h : value.Every Value.IsSendable) (topic : String) (key : Option String) :
    (document topic value.publishedForm key).Carries topic value key where
  topic_eq := rfl
  reads := by
    have hadmits : Json.anyDepth.Admits value.publishedForm := ⟨Value.legible_publishedForm h, nofun⟩
    exact ⟨_, decode_document topic _ key, _, Json.read_writeChars Json.published_lawful hadmits,
      Value.ofJson_publishedForm h⟩
  key_given := by
    rintro name ⟨⟩ hne
    exact ⟨_, keyOctets_of_ne hne, Charset.Utf8.decode_encode name.toList⟩
  key_none := keyOctets_eq_none

/-! ### Publishing -/

variable {reception : Reception} {topic : String} {value : Value} {key : Option String}

theorem publish_of_ok {content : Json} (h : value.published? = .ok content) :
    publish reception topic value key = send reception (document topic content key) := by
  rw [publish, h]

theorem publish_of_error {fault : PublishFault} (h : value.published? = .error fault) :
    publish reception topic value key = handoverFailure topic (failureOf fault) := by
  rw [publish, h]

/-- Publishing a value whose parts can all be sent hands over one publication, which carries it. Publishing a value with
a part that is not publishable, at any depth, fails as publishing such a part would, and nothing is handed over. -/
theorem publish_faithful (topic : String) (value : Value) (key : Option String) :
    ((∀ part : Value, part.Inside value → part.IsSendable) →
      ∃ publication : Publication, publication.Carries topic value key ∧
        ∀ reception, publish reception topic value key = send reception publication ∧
          (publish reception topic value key).publications = if reception.holds then [publication] else []) ∧
    ((∃ part : Value, part.Inside value ∧ ¬part.IsPublishable) →
      ∃ part : Value, part.Inside value ∧ ¬part.IsPublishable ∧
        ∃ fault, part.published? = .error fault ∧
          ∀ reception, (publish reception topic value key).result = .error (failureOf fault) ∧
            (publish reception topic value key).publications = []) := by
  constructor
  · intro hparts
    have hvalue : value.Every Value.IsSendable := Value.every_iff_inside.mpr hparts
    have hform : value.published? = .ok value.publishedForm :=
      Value.published?_eq_ok_iff.mpr ⟨hvalue.imp fun _ => Value.IsSendable.isPublishable, rfl⟩
    refine ⟨document topic value.publishedForm key, carries_document hvalue topic key, fun reception => ?_⟩
    rw [publish_of_ok hform]
    exact ⟨rfl, publications_send _⟩
  · rintro ⟨part, hinside, hpart⟩
    obtain ⟨fault, hfault⟩ := Value.exists_error_of_inside hinside hpart
    obtain ⟨cause, hcause, hunpublishable, hcaused⟩ := Value.exists_inside_of_published? hfault
    refine ⟨cause, hcause, hunpublishable, fault, hcaused, fun reception => ?_⟩
    rw [publish_of_error hfault]
    exact ⟨rfl, rfl⟩

/-- Metrics as a connector has them: a tuple with octets, a time and a number, and a text beyond ASCII. -/
def mixedMetrics : Value :=
  .dict [("frame", .tuple [.bytes [0xDE, 0xAD], .instant (.utc 0), .float (.nearest false 1 10)]),
    ("unit", .text "\"µ\n😀"), ("readings", .list [.int (-5), .bool true, .null])]

/-- The same beside a row of octets that may grow, which has no JSON form. -/
def spoiledMetrics : Value := .list [mixedMetrics, .dict [("later", .tuple [.buffer [1]])]]

theorem publish_faithful_mixed :
    (∃ publication : Publication, publication.Carries "metrics" mixedMetrics (some "gateway") ∧
      ∀ reception, publish reception "metrics" mixedMetrics (some "gateway") = send reception publication ∧
        (publish reception "metrics" mixedMetrics (some "gateway")).publications =
          if reception.holds then [publication] else []) ∧
    ∃ fault, ∀ reception,
      (publish reception "metrics" spoiledMetrics none).result = .error (failureOf fault) ∧
        (publish reception "metrics" spoiledMetrics none).publications = [] := by
  have hfinite : (Binary64.nearest false 1 10).isFinite = true := by decide +kernel
  have hdigits : Json.digitCount (-5) ≤ Text.digitLimit := by decide
  have hsendable : mixedMetrics.Every Value.IsSendable := by
    simp [mixedMetrics, Value.Every, Value.EveryItem, Value.EveryEntry, Value.IsSendable, namesOf, hfinite, hdigits]
  have hinside : (Value.buffer [1]).Inside spoiledMetrics :=
    .item (List.mem_cons_of_mem _ List.mem_cons_self)
      (.entry List.mem_cons_self (.component List.mem_cons_self .self))
  obtain ⟨-, -, -, fault, -, hfails⟩ := (publish_faithful "metrics" spoiledMetrics none).2 ⟨_, hinside, id⟩
  exact ⟨(publish_faithful "metrics" mixedMetrics (some "gateway")).1 (Value.every_iff_inside.mp hsendable),
    fault, hfails⟩

end Publisher

end DeviceRelay
