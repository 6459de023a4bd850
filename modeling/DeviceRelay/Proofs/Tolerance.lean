import DeviceRelay.Proofs.Decoding
import DeviceRelay.Proofs.Presence
import DeviceRelay.Proofs.Schema.Edit

/-!
# Replies with members that do not count

Two bodies that come from one another by edits are read as the same document but for its nulls, and no category tells
a null from a member that is missing.

    body  ──▶ v  ──read──▶ document  ─┐
              │ edits                 ├─▶ settled document ──▶ entries ──▶ content
    body' ──▶ v' ──read──▶ document' ─┘

* `Body.Alike` — two outcomes behind two bodies that differ in nothing but the body that a fault keeps.
* `ReplyCategory.content_alike` — the contents of two such replies,
* `TranslatorTable.translate_edited` — and what becomes of them.
-/

namespace DeviceRelay

/-! ### Entries without nulls -/

section Slot

variable {α β : Type} {f : α → α}

theorem Slot.map_value?_settle {g : α → β} (h : ∀ a, g (f a) = g a) (slot : Slot α) :
    (slot.settle f).value?.map g = slot.value?.map g := by
  cases slot with
  | given a => exact congrArg some (h a)
  | _ => rfl

theorem Slot.value?_settle (h : ∀ a, f a = a) (slot : Slot α) : (slot.settle f).value? = slot.value? := by
  cases slot with
  | given a => exact congrArg some (h a)
  | _ => rfl

end Slot

/-- What is made of each row of a list does not depend on the nulls, if it does not for any row. -/
theorem Schema.mapM_settle {ε β : Type} {schema : Schema} {f : schema.Item → Except ε β}
    (h : ∀ x, f (schema.settle x) = f x) (rows : List schema.Item) :
    (rows.map schema.settle).mapM f = rows.mapM f := by
  rw [List.mapM_map]
  exact congrArg (List.mapM · rows) (funext h)

namespace Inventory

theorem Entry.ofItem_settle {kindName : String} (row : (entrySchema kindName).Item) :
    ofItem ((entrySchema kindName).settle row) = ofItem row := by
  obtain ⟨name, version, kind, ⟨⟩⟩ := row
  exact congrArg₂ (Entry.mk name) (version.value?_settle fun _ => rfl) (kind.value?_settle fun _ => rfl)

theorem BundleEntry.ofItem_settle (row : bundleSchema.Item) :
    ofItem (bundleSchema.settle row) = ofItem row := by
  obtain ⟨id, name, version, state, signed, ⟨⟩⟩ := row
  exact (BundleEntry.mk.injEq ..).mpr ⟨rfl, rfl, version.value?_settle fun _ => rfl,
    state.value?_settle fun _ => rfl, signed.value?_settle fun _ => rfl⟩

theorem ContainerEntry.ofItem_settle (row : containerSchema.Item) :
    ofItem (containerSchema.settle row) = ofItem row := by
  obtain ⟨name, version, kind, state, ⟨⟩⟩ := row
  exact (ContainerEntry.mk.injEq ..).mpr ⟨rfl, version.value?_settle fun _ => rfl,
    kind.value?_settle fun _ => rfl, state.value?_settle fun _ => rfl⟩

end Inventory

namespace Keystore

theorem StoreEntry.ofItem_settle (row : storeSchema.Item) : ofItem (storeSchema.settle row) = ofItem row := by
  obtain ⟨pid, kind, size, ⟨⟩⟩ := row
  exact congrArg₂ (StoreEntry.mk pid) (kind.value?_settle fun _ => rfl) (size.value?_settle fun _ => rfl)

theorem SubjectNameEntry.ofItem_settle (row : subjectNameSchema.Item) :
    ofItem (subjectNameSchema.settle row) = ofItem row := by
  obtain ⟨kind, value, ⟨⟩⟩ := row
  exact congrArg₂ SubjectNameEntry.mk (kind.value?_settle fun _ => rfl) (value.value?_settle fun _ => rfl)

theorem ItemEntry.ofItem_settle (row : itemSchema.Item) : ofItem (itemSchema.settle row) = ofItem row := by
  obtain ⟨pid, entryAlias, kind, size, algorithm, subject, names, issuer, start, expiration, certificate, chain, ⟨⟩⟩ :=
    row
  have hnames : ∀ rows : List subjectNameSchema.Item,
      (rows.map subjectNameSchema.settle).map SubjectNameEntry.ofItem = rows.map SubjectNameEntry.ofItem := by
    intro rows
    refine List.map_map.trans (List.map_congr_left fun row _ => ?_)
    exact SubjectNameEntry.ofItem_settle row
  exact (ItemEntry.mk.injEq ..).mpr ⟨pid.value?_settle fun _ => rfl, rfl, kind.value?_settle fun _ => rfl,
    size.value?_settle fun _ => rfl, algorithm.value?_settle fun _ => rfl, subject.value?_settle fun _ => rfl,
    names.map_value?_settle hnames, issuer.value?_settle fun _ => rfl, start.value?_settle fun _ => rfl,
    expiration.value?_settle fun _ => rfl, certificate.value?_settle fun _ => rfl, chain.value?_settle List.map_id⟩

end Keystore

/-! ### Outcomes behind two bodies -/

namespace Body

/-- Two outcomes behind two bodies: they are the same, unless the bodies cannot be decoded, and then this is for the
same reason. -/
inductive Alike {α : Type} (body body' : Option Bytes) : Except Fault α → Except Fault α → Prop
  | same (x : Except Fault α) : Alike body body' x x
  | undecoded (reason : DecodingReason) :
    Alike body body' (.error (.decoding reason body)) (.error (.decoding reason body'))

section Alike

variable {α β : Type} {body body' : Option Bytes}

theorem Alike.map {x y : Except Fault α} (h : Alike body body' x y) (f : α → β) :
    Alike body body' (x.map f) (y.map f) := by
  cases h with
  | same => exact .same _
  | undecoded reason => exact .undecoded reason

theorem alike_bind (x : Except Fault α) {f g : α → Except Fault β} (h : ∀ a, x = .ok a → Alike body body' (f a) (g a)) :
    Alike body body' (x.bind f) (x.bind g) := by
  cases x with
  | error fault => exact .same _
  | ok a => exact h a rfl

theorem Alike.eq_ok_iff {x y : Except Fault α} (h : Alike body body' x y) {a : α} : x = .ok a ↔ y = .ok a := by
  cases h with
  | same => exact Iff.rfl
  | undecoded reason => exact iff_of_false (fun h => nomatch h) (fun h => nomatch h)

theorem Alike.eq_error_iff {x y : Except Fault α} (h : Alike body body' x y) {fault : Fault}
    (hfault : ∀ reason body, fault ≠ .decoding reason body) : x = .error fault ↔ y = .error fault := by
  cases h with
  | same => exact Iff.rfl
  | undecoded reason =>
    refine iff_of_false (fun heq => ?_) (fun heq => ?_)
    · exact hfault _ _ (Except.error.inj heq).symm
    · exact hfault _ _ (Except.error.inj heq).symm

end Alike

theorem denoted?_nil (charset : LooseText) : denoted? (some []) charset = none := by
  rw [denoted?, text]
  cases Charset.checkName charset with
  | error fault => rfl
  | ok name =>
    show (Json.read limits "".toList).toOption = none
    rw [String.toList_empty]
    decide +kernel

/-- Two bodies whose values are read alike are read alike, as far as nulls play no role afterwards. -/
theorem alike_read {α : Type} {shape : Shape} {body body' : Option Bytes} {charset : LooseText} {v v' : Json}
    (hv : denoted? body charset = some v) (hv' : denoted? body' charset = some v')
    (hsettled : shape.schema.settled v = shape.schema.settled v') {f : shape.Item → Except Fault α}
    (hf : ∀ x, f (shape.schema.settle x) = f x) :
    Alike body body' ((read body shape charset).bind f) ((read body' shape charset).bind f) := by
  rw [read_of_denoted? hv, read_of_denoted? hv']
  unfold Schema.settled at hsettled
  cases hread : shape.schema.read v with
  | error problems =>
    rw [hread] at hsettled
    rw [map_eq_error.mp hsettled.symm]
    exact .undecoded _
  | ok x =>
    rw [hread] at hsettled
    obtain ⟨x', hx', heq⟩ := map_eq_ok.mp hsettled.symm
    rw [hx']
    have hfx : f x = f x' := by rw [← hf x, ← hf x', heq]
    show Alike body body' (f x) (f x')
    rw [hfx]
    exact .same _

end Body

/-! ### Replies -/

namespace ReplyCategory

/-- The shape of the documents of a category. -/
def shape? : ReplyCategory → Option Shape
  | .keystores => some Keystore.storesShape
  | .keystoreItems => some Keystore.itemsShape
  | .keystoreItem => some Keystore.itemShape
  | .inventoryItems => some Inventory.itemsShape
  | .inventoryBundles => some Inventory.bundlesShape
  | .inventoryContainers => some Inventory.containersShape
  | .inventoryPackages => some Inventory.packagesShape
  | .keystoreRequest | .command => none

theorem mem_deviceShapes_of_shape? {c : ReplyCategory} {shape : Shape} (h : c.shape? = some shape) :
    shape ∈ Body.deviceShapes := by
  cases c <;> cases h <;> simp [Body.deviceShapes]

variable {e : Envelope} {body : Bytes} {v : Json}

/-- A body that denotes a value is there to be read. -/
theorem ofBody_of_denoted? (h : Body.denoted? (some body) e.charset = some v) {α : Type}
    (read : Bytes → LooseText → Except Fault α) :
    ofBody read (e.withBody (some body)) = (read body e.charset).map some := by
  cases body with
  | nil =>
    rw [Body.denoted?_nil] at h
    cases h
  | cons b bytes => rfl

/-- What a category makes of a document does not depend on the nulls in it. -/
theorem alike_ofBody {α : Type} {shape : Shape} {f : shape.Item → Except Fault α}
    (hf : ∀ x, f (shape.schema.settle x) = f x) {read : Bytes → LooseText → Except Fault α}
    (hread : ∀ body, read body e.charset = (Body.read (some body) shape e.charset).bind f) {body' : Bytes} {v' : Json}
    (hv : Body.denoted? (some body) e.charset = some v) (hv' : Body.denoted? (some body') e.charset = some v')
    (hsettled : shape.schema.settled v = shape.schema.settled v') :
    Body.Alike (some body) (some body') (ofBody read (e.withBody (some body)))
      (ofBody read (e.withBody (some body'))) := by
  rw [ofBody_of_denoted? hv, ofBody_of_denoted? hv', hread, hread]
  exact (Body.alike_read hv hv' hsettled hf).map some

/-- The contents that a category reads from two bodies whose values are read alike. -/
theorem content_alike {c : ReplyCategory} {shape : Shape} (hc : c.shape? = some shape) {body' : Bytes} {v' : Json}
    (hv : Body.denoted? (some body) e.charset = some v) (hv' : Body.denoted? (some body') e.charset = some v')
    (hsettled : shape.schema.settled v = shape.schema.settled v') :
    Body.Alike (some body) (some body') (c.content (e.withBody (some body))) (c.content (e.withBody (some body'))) := by
  -- what comes behind the document sees its rows as entries only, and entries have no nulls
  cases c with
  | keystores =>
    obtain rfl := Option.some.inj hc
    refine (alike_ofBody (fun rows => ?_) (fun _ => rfl) hv hv' hsettled).map _
    exact Schema.mapM_settle (fun row => congrArg Keystore.StoreEntry.translate (Keystore.StoreEntry.ofItem_settle row)) rows
  | keystoreItems =>
    obtain rfl := Option.some.inj hc
    refine (alike_ofBody (fun rows => ?_) (fun _ => rfl) hv hv' hsettled).map _
    exact Schema.mapM_settle (fun row => congrArg Keystore.ItemEntry.translate (Keystore.ItemEntry.ofItem_settle row)) rows
  | keystoreItem =>
    obtain rfl := Option.some.inj hc
    refine (alike_ofBody (fun row => ?_) (fun _ => rfl) hv hv' hsettled).map _
    exact congrArg Keystore.ItemEntry.translate (Keystore.ItemEntry.ofItem_settle row)
  | inventoryItems =>
    obtain rfl := Option.some.inj hc
    refine (alike_ofBody (fun list => ?_) (fun _ => rfl) hv hv' hsettled).map _
    exact Schema.mapM_settle (fun row => congrArg Inventory.Entry.toItem (Inventory.Entry.ofItem_settle row)) list.1
  | inventoryBundles =>
    obtain rfl := Option.some.inj hc
    refine (alike_ofBody (fun list => ?_) (fun _ => rfl) hv hv' hsettled).map _
    exact Schema.mapM_settle (fun row => congrArg Inventory.BundleEntry.translate (Inventory.BundleEntry.ofItem_settle row)) list.1
  | inventoryContainers =>
    obtain rfl := Option.some.inj hc
    refine (alike_ofBody (fun list => ?_) (fun _ => rfl) hv hv' hsettled).map _
    exact Schema.mapM_settle (fun row => congrArg Inventory.ContainerEntry.translate (Inventory.ContainerEntry.ofItem_settle row)) list.1
  | inventoryPackages =>
    obtain rfl := Option.some.inj hc
    refine (alike_ofBody (fun list => ?_) (fun _ => rfl) hv hv' hsettled).map _
    exact Schema.mapM_settle (fun row => congrArg Inventory.Entry.toPackage (Inventory.Entry.ofItem_settle row)) list.1
  | keystoreRequest => cases hc
  | command => cases hc

end ReplyCategory

section Edited

variable {registry : Registry} {raw : RawMessage} {c : ReplyCategory} {shape : Shape} {body body' : Bytes} {v v' : Json}

theorem Category.message_alike (hc : c.shape? = some shape)
    (hdenoted : ∀ d, registry.lookup raw.connectorName = some d →
      Body.denoted? (some body) d.charset = some v ∧ Body.denoted? (some body') d.charset = some v')
    (hsettled : shape.schema.settled v = shape.schema.settled v') :
    Body.Alike (some body) (some body') (message (.reply c) registry (raw.withBody (some body)))
      (message (.reply c) registry (raw.withBody (some body'))) := by
  rw [reply_withBody, reply_withBody]
  refine Body.alike_bind _ fun e he => ?_
  obtain ⟨hv, hv'⟩ := hdenoted _ (Envelope.lookup_of_read he)
  exact (ReplyCategory.content_alike hc hv hv' hsettled).map _

/-- Edits of the value in a body, which add members that are unknown or null or take them away, make no difference:
the reply is translated to the same message, or breaks the same rule of its category at the same field. -/
theorem TranslatorTable.translate_edited (hc : c.shape? = some shape)
    (hdenoted : ∀ d, registry.lookup raw.connectorName = some d →
      Body.denoted? (some body) d.charset = some v ∧ Body.denoted? (some body') d.charset = some v')
    (hedits : Relation.EqvGen (Edit (.shaped shape.schema)) v v') :
    (∀ m, (full registry).translate c.tag (raw.withBody (some body)) = .ok m ↔
        (full registry).translate c.tag (raw.withBody (some body')) = .ok m) ∧
      ∀ field reason,
        (full registry).translate c.tag (raw.withBody (some body)) =
            .error (.rejected (.validation field reason) (raw.withBody (some body))) ↔
          (full registry).translate c.tag (raw.withBody (some body')) =
            .error (.rejected (.validation field reason) (raw.withBody (some body'))) := by
  have hdistinct := Body.distinct_of_mem_deviceShapes shape (ReplyCategory.mem_deviceShapes_of_shape? hc)
  have halike := Category.message_alike hc hdenoted (Edit.settled_eq_of_eqvGen hdistinct hedits)
  rw [translate_full_reply, translate_full_reply]
  refine ⟨fun m => ?_, fun field reason => ?_⟩
  · rw [mapError_eq_ok, mapError_eq_ok]
    exact halike.eq_ok_iff
  · have hrejected : ∀ (x : Except Fault Message) (raw : RawMessage),
        x.mapError (fun cause => Failure.rejected cause raw) = .error (.rejected (.validation field reason) raw) ↔
          x = .error (.validation field reason) := by
      intro x raw
      rw [mapError_eq_error]
      constructor
      · rintro ⟨cause, hx, heq⟩
        rw [hx, (Failure.rejected.inj heq).1]
      · intro hx
        exact ⟨_, hx, rfl⟩
    rw [hrejected, hrejected]
    exact halike.eq_error_iff fun _ _ h => nomatch h

end Edited

/-- A list of one package. -/
def plainPackages : Json := .obj [("systemPackages", .arr [.obj [("name", .str "libc6")]])]

/-- The list with a type that is null, with a member of the package that is unknown and has a null inside, and with a
member beside the list. -/
def richPackages : Json :=
  .obj [("total", .bool true),
    ("systemPackages", .arr [.obj [("package_type", .null), ("name", .str "libc6"),
      ("origin", .obj [("name", .null)])]])]

theorem admits_plainPackages : Body.limits.Admits plainPackages := by
  refine ⟨?_, ?_⟩
  · simp [plainPackages, Json.Every, Json.EveryItem, Json.EveryMember, Json.Limits.Legible]
  · intro bound hbound
    obtain rfl := Option.some.inj hbound
    decide

theorem admits_richPackages : Body.limits.Admits richPackages := by
  refine ⟨?_, ?_⟩
  · simp [richPackages, Json.Every, Json.EveryItem, Json.EveryMember, Json.Limits.Legible]
  · intro bound hbound
    obtain rfl := Option.some.inj hbound
    decide

theorem eqvGen_edit_packages :
    Relation.EqvGen (Edit (.shaped Inventory.packagesShape.schema)) plainPackages richPackages := by
  have hpackage : ∀ {v v' : Json}, Edit (.shaped (Inventory.entrySchema "package_type")) v v' →
      Edit (.shaped Inventory.packagesShape.schema) (.obj [("systemPackages", .arr [v])])
        (.obj [("systemPackages", .arr [v'])]) :=
    fun h => @Edit.member _ [] [] "systemPackages" _ _ (@Edit.item _ [] [] _ _ h)
  have htype : Edit (.shaped (Inventory.entrySchema "package_type")) (.obj [("name", .str "libc6")])
      (.obj [("package_type", .null), ("name", .str "libc6")]) := by
    refine @Edit.null _ [] [("name", .str "libc6")] "package_type" ⟨"type", "package_type", .text, true⟩ ?_ rfl
      (by decide) ?_
    · exact .tail _ (.tail _ (.head _))
    · intro p hp hname
      obtain rfl := List.mem_singleton.mp hp
      exact absurd hname (by decide)
  have horigin : Edit (.shaped (Inventory.entrySchema "package_type"))
      (.obj [("package_type", .null), ("name", .str "libc6")])
      (.obj [("package_type", .null), ("name", .str "libc6"), ("origin", .obj [("name", .null)])]) :=
    @Edit.unknown _ [("package_type", .null), ("name", .str "libc6")] [] "origin" _ (by decide)
  refine .trans _ _ _ (.rel _ _ (hpackage htype)) (.trans _ _ _ (.rel _ _ (hpackage horigin)) (.rel _ _ ?_))
  exact @Edit.unknown _ [] [("systemPackages", _)] "total" (.bool true) (by decide)

theorem TranslatorTable.translate_edited_packages :
    ∃ m, (full .packaged).translate ReplyCategory.inventoryPackages.tag
          (Envelope.framed (some (Body.spelling plainPackages)) .empty) = .ok m ∧
        (full .packaged).translate ReplyCategory.inventoryPackages.tag
          (Envelope.framed (some (Body.spelling richPackages)) .empty) = .ok m := by
  have hdenoted : ∀ d, Registry.packaged.lookup "kura-mqtt" = some d →
      Body.denoted? (some (Body.spelling plainPackages)) d.charset = some plainPackages ∧
        Body.denoted? (some (Body.spelling richPackages)) d.charset = some richPackages := by
    intro d hd
    obtain rfl := Option.some.inj hd
    exact ⟨Body.denoted?_spelling admits_plainPackages, Body.denoted?_spelling admits_richPackages⟩
  obtain ⟨hmessages, -⟩ := @translate_edited .packaged (Envelope.framed none .empty) .inventoryPackages _ _ _ _ _ rfl
    hdenoted eqvGen_edit_packages
  obtain ⟨m, hm⟩ : ∃ m, (full .packaged).translate ReplyCategory.inventoryPackages.tag
      (Envelope.framed (some (Body.spelling plainPackages)) .empty) = .ok m :=
    exists_eq_ok_of_isSome (by decide +kernel)
  exact ⟨m, hm, (hmessages m).mp hm⟩

end DeviceRelay
