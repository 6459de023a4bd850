import DeviceRelay.Proofs.Body
import DeviceRelay.Proofs.Content
import DeviceRelay.Proofs.Entries

/-!
# Lists as a whole

A body that is a list becomes a list of the same length, entry by entry, or it becomes nothing: the first entry that
is not acceptable decides with its own fault, whatever stands before and behind it.

    rows     a  ·  b  ·  c        rows     a  ·  ✗  ·  c  ·  ✗
             │     │     │                       │
    parts    A  ·  B  ·  C        fault          ✗

* `ListCategory.content_eq` — the content is read entry by entry.
* `ListCategory.content_all_or_nothing` — when there is content, which, and what is refused instead.
-/

namespace DeviceRelay

/-- For each item there is a result, in order. -/
theorem mapM_eq_ok_iff_forall₂ {ε α β : Type} {f : α → Except ε β} {as : List α} {bs : List β} :
    as.mapM f = .ok bs ↔ List.Forall₂ (fun a b => f a = .ok b) as bs := by
  rw [mapM_eq_ok, ← List.forall₂_eq_eq_eq, List.forall₂_map_left_iff, List.forall₂_map_right_iff]

namespace ListCategory

/-- A part is what its entry is translated to, with each field from the device's field that it belongs to. -/
structure Describes (l : ListCategory) (row : l.entry.Item) (part : l.Part) : Prop where
  translated : l.translate row = .ok part
  fields : l.record part = .obj (l.fields.map (FieldOrigin.of (l.entry.dump row)))

theorem describes_iff (l : ListCategory) (row : l.entry.Item) (part : l.Part) :
    l.Describes row part ↔ l.translate row = .ok part := by
  constructor
  · exact Describes.translated
  · intro h
    obtain ⟨-, rfl⟩ := (l.translate_eq_ok_iff row part).mp h
    exact ⟨h, l.record_partOf row⟩

theorem translate_isOk_iff (l : ListCategory) (row : l.entry.Item) :
    (∃ part, l.translate row = .ok part) ↔ l.Acceptable row := by
  simp [translate_eq_ok_iff]

variable {e : Envelope} {body : Bytes} (hbody : e.raw.content? = some body)

include hbody

theorem map_ofBody {α β : Type} (read : Bytes → LooseText → Except Fault α) (f : Option α → β) :
    (ReplyCategory.ofBody read e).map f = (read body e.charset).map fun a => f (some a) := by
  rw [ReplyCategory.ofBody, hbody, map_map]

variable (l : ListCategory) {document : l.shape.Item} (hread : Body.read (some body) l.shape e.charset = .ok document)

include hread

/-- Once the body is decoded, its entries are translated one after another. -/
theorem content_eq : l.reply.content e = ((l.rows document).mapM l.translate).map l.contentOf := by
  have hrows : (Body.read (some body) l.shape e.charset).bind (fun document => (l.rows document).mapM l.translate) =
      (l.rows document).mapM l.translate := by
    rw [hread]
    rfl
  cases l with
  | stores => exact (map_ofBody hbody Keystore.readStores _).trans (congrArg (Except.map _) hrows)
  | storeItems => exact (map_ofBody hbody Keystore.readItems _).trans (congrArg (Except.map _) hrows)
  | items => exact (map_ofBody hbody Inventory.readItems _).trans (congrArg (Except.map _) hrows)
  | bundles => exact (map_ofBody hbody Inventory.readBundles _).trans (congrArg (Except.map _) hrows)
  | containers => exact (map_ofBody hbody Inventory.readContainers _).trans (congrArg (Except.map _) hrows)
  | packages => exact (map_ofBody hbody Inventory.readPackages _).trans (congrArg (Except.map _) hrows)

/-- The content of a list has a part for each entry, in order. -/
theorem content_eq_ok_iff {content : ReplyContent} :
    l.reply.content e = .ok content ↔
      ∃ parts, List.Forall₂ l.Describes (l.rows document) parts ∧ l.contentOf parts = content := by
  rw [content_eq hbody l hread, map_eq_ok]
  refine exists_congr fun parts => and_congr_left fun _ => ?_
  rw [mapM_eq_ok_iff_forall₂]
  simp only [← describes_iff]

/-- The first entry that is not acceptable decides. -/
theorem content_eq_error_iff {fault : Fault} :
    l.reply.content e = .error fault ↔
      ∃ front row back, l.rows document = front ++ row :: back ∧ (∀ entry ∈ front, l.Acceptable entry) ∧
        l.translate row = .error fault := by
  rw [content_eq hbody l hread, map_eq_error, mapM_eq_error]
  simp only [translate_isOk_iff]

/-- There is content exactly if every entry is acceptable. -/
theorem content_isOk_iff : (∃ content, l.reply.content e = .ok content) ↔ ∀ row ∈ l.rows document, l.Acceptable row := by
  have hparts (parts : List l.Part) : (l.rows document).mapM l.translate = .ok parts ↔
      (∀ row ∈ l.rows document, l.Acceptable row) ∧ (l.rows document).map l.partOf = parts :=
    mapM_eq_ok_iff_forall fun row _ part => l.translate_eq_ok_iff row part
  simp [content_eq hbody l hread, map_eq_ok, hparts]

/-- A body that is a list becomes content exactly if each of its entries is acceptable on its own, and then it has a
part for each of them, in order and field by field. Otherwise it is refused as the first entry that is not acceptable
is, which alone would be refused in the same way. -/
theorem content_all_or_nothing :
    ((∃ content, l.reply.content e = .ok content) ↔ ∀ row ∈ l.rows document, l.Acceptable row) ∧
      (∀ content, l.reply.content e = .ok content →
        ∃ parts, List.Forall₂ l.Describes (l.rows document) parts ∧ l.contentOf parts = content) ∧
      (∀ fault, l.reply.content e = .error fault ↔
        ∃ front row back, l.rows document = front ++ row :: back ∧ (∀ entry ∈ front, l.Acceptable entry) ∧
          ¬l.Acceptable row ∧ l.translate row = .error fault) ∧
      ∀ row, l.rows document = [row] → l.reply.content e = (l.translate row).map fun part => l.contentOf [part] := by
  refine ⟨content_isOk_iff hbody l hread, fun content => (content_eq_ok_iff hbody l hread).mp, ?_, ?_⟩
  · intro fault
    rw [content_eq_error_iff hbody l hread]
    have hnot (row : l.entry.Item) (h : l.translate row = .error fault) : ¬l.Acceptable row := by
      intro hrow
      obtain ⟨part, hpart⟩ := (l.translate_isOk_iff row).mpr hrow
      cases h.symm.trans hpart
    constructor
    · rintro ⟨front, row, back, hrows, hfront, hrow⟩
      exact ⟨front, row, back, hrows, hfront, hnot row hrow, hrow⟩
    · rintro ⟨front, row, back, hrows, hfront, -, hrow⟩
      exact ⟨front, row, back, hrows, hfront, hrow⟩
  · intro row hrow
    rw [content_eq hbody l hread, hrow, mapM_cons_eq]
    cases l.translate row <;> rfl

omit hbody hread

/-- Three bundles, of which the second one breaks a rule, and the third another. -/
def mixedBundles : Json :=
  .obj [("bundles", .arr [.obj [("id", .int 1), ("name", .str "core"), ("state", .str "ACTIVE")],
    .obj [("id", .int (-1)), ("name", .str "net")], .obj [("id", .int 2), ("name", .str " ")]])]

/-- A body that lists them. -/
def mixedBody : Bytes := Charset.Utf8.encode (Json.writeChars Json.compact mixedBundles)

theorem denoted?_mixedBody : Body.denoted? (some mixedBody) "utf-8" = some mixedBundles := by
  refine Body.denoted?_of_encodeText (by decide +kernel) Json.compact_lawful ⟨?_, ?_⟩ rfl
  · simp [mixedBundles, Json.Every, Json.EveryItem, Json.EveryMember, Json.Limits.Legible]
    decide
  · intro bound hbound
    obtain rfl := Option.some.inj hbound
    decide

/-- The envelope of a reply with them. -/
def mixedEnvelope : Envelope :=
  { descriptor := Envelope.framedDescriptor, channel := Envelope.framedChannel
    code := .accepted, exceptionMessage := none, exceptionStack := none, metrics := .empty
    raw := Envelope.framed (some mixedBody) .empty }

theorem content_all_or_nothing_mixed :
    ReplyCategory.inventoryBundles.content mixedEnvelope =
      .error (.validation "bundles.id" "must not be negative, got -1") := by
  have hread : Body.read (some mixedBody) (shape .bundles) "utf-8" =
      .ok ([((1 : Int), "core", .absent, .given "ACTIVE", .absent, ()), ((-1 : Int), "net", .absent, .absent, .absent, ()),
        ((2 : Int), " ", .absent, .absent, .absent, ())], ()) :=
    Body.read_eq_ok_iff.mpr ⟨_, denoted?_mixedBody, by rfl⟩
  obtain ⟨-, -, hrefused, -⟩ := content_all_or_nothing (e := mixedEnvelope) rfl .bundles hread
  refine (hrefused _).mpr ⟨[_], _, [_], rfl, ?_, ?_, rfl⟩
  · intro entry hentry
    obtain rfl := List.mem_singleton.mp hentry
    exact ⟨by decide, by decide⟩
  · intro hbroken
    exact absurd hbroken.id_nonneg (by decide)

end ListCategory

end DeviceRelay
