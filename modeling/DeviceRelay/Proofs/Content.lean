import DeviceRelay.Category
import DeviceRelay.Proofs.Command
import DeviceRelay.Proofs.Envelope
import DeviceRelay.Proofs.Inventory
import DeviceRelay.Proofs.Keystore

/-!
# How the content of a reply is refused

The content of a reply is meant to be refused because its body cannot be decoded, or because a rule of the category
is broken at one of its fields. The dates of a keystore's items get in between: they are ordered by a rule and
brought into the calendar by none, so that a date beyond it is refused by the calendar itself.

* `ReplyCategory.failsOnly_refusesContent_iff` — under the name of a charset, and with metrics that can be written
  out, this is the only exception.
-/

namespace DeviceRelay.ReplyCategory

/-- The fields that the rules of a category are about. -/
def ruleFields : ReplyCategory → List String
  | .keystores => Keystore.storeFields
  | .keystoreItems | .keystoreItem => Keystore.itemFields
  | .keystoreRequest => Keystore.requestFields
  | .inventoryItems => Inventory.itemFields
  | .inventoryBundles => Inventory.bundleFields
  | .inventoryContainers => Inventory.containerFields
  | .inventoryPackages => Inventory.packageFields
  | .command => CommandResult.metricNames

/-- The entries in what was read, if it was. -/
def entriesOf {α : Type} (entries : α → List Keystore.ItemEntry) : Except Fault α → List Keystore.ItemEntry
  | .ok a => entries a
  | .error _ => []

/-- The entries for keystore items in a body of a category. -/
def itemEntriesIn (c : ReplyCategory) (body : Bytes) (charset : LooseText) : List Keystore.ItemEntry :=
  match c with
  | .keystoreItems =>
    entriesOf (fun rows : List Keystore.itemSchema.Item => rows.map Keystore.ItemEntry.ofItem)
      (Body.read (some body) Keystore.itemsShape charset)
  | .keystoreItem =>
    entriesOf (fun row : Keystore.itemSchema.Item => [Keystore.ItemEntry.ofItem row])
      (Body.read (some body) Keystore.itemShape charset)
  | _ => []

/-- The entries for keystore items in a reply of a category. -/
def itemEntries (c : ReplyCategory) (e : Envelope) : List Keystore.ItemEntry :=
  match e.raw.content? with
  | some body => c.itemEntriesIn body e.charset
  | none => []

/-! ### With a body and without -/

variable {α : Type} {P : Fault → Prop} {e : Envelope}

theorem body_eq_of_content? {raw : RawMessage} {body : Bytes} (h : raw.content? = some body) :
    raw.body = some body :=
  (Option.filter_eq_some_iff.mp h).1

theorem failsOnly_ofBody_iff {read : Bytes → LooseText → Except Fault α} :
    FailsOnly P (ofBody read e) ↔
      ∀ body, e.raw.content? = some body → FailsOnly P (read body e.charset) := by
  unfold ofBody
  split
  · next hnone => simp [failsOnly_ok, hnone]
  · next body hbody => simp [failsOnly_map, hbody]

/-- A body that is read with faults of its own sorts only. -/
theorem failsOnly_ofBody {fields : List String} {read : Bytes → LooseText → Except Fault α}
    (h : ∀ body, FailsOnly (Fault.RefusesContent (some body) fields) (read body e.charset)) :
    FailsOnly (Fault.RefusesContent e.raw.body fields) (ofBody read e) := by
  rw [failsOnly_ofBody_iff]
  intro body hbody
  rw [body_eq_of_content? hbody]
  exact h body

/-! ### Items -/

theorem stayInCalendar_entriesOf_iff {entries : α → List Keystore.ItemEntry} {x : Except Fault α} :
    Keystore.StayInCalendar (entriesOf entries x) ↔ ∀ a, x = .ok a → Keystore.StayInCalendar (entries a) := by
  cases x with
  | ok a => simp [entriesOf]
  | error fault => simp [entriesOf, Keystore.stayInCalendar_nil]

/-- What decides on the bodies of a category decides on its replies. -/
theorem failsOnly_ofBody_items_iff {c : ReplyCategory} {fields : List String}
    {read : Bytes → LooseText → Except Fault α}
    (h : ∀ body, FailsOnly (Fault.RefusesContent (some body) fields) (read body e.charset) ↔
      Keystore.StayInCalendar (c.itemEntriesIn body e.charset)) :
    FailsOnly (Fault.RefusesContent e.raw.body fields) (ofBody read e) ↔
      Keystore.StayInCalendar (c.itemEntries e) := by
  rw [failsOnly_ofBody_iff, itemEntries]
  cases hbody : e.raw.content? with
  | none => simp [Keystore.stayInCalendar_nil]
  | some body => simp [body_eq_of_content? hbody, h]

/-- The categories without items of a keystore have no entries for them. -/
theorem stayInCalendar_of_nil {c : ReplyCategory} (h : ∀ body charset, c.itemEntriesIn body charset = []) :
    Keystore.StayInCalendar (c.itemEntries e) := by
  unfold itemEntries
  split
  · rw [h]
    exact Keystore.stayInCalendar_nil
  · exact Keystore.stayInCalendar_nil

/-- The content of a reply is refused for its body or by a rule of its category, exactly if no entry for a keystore
item that decides has a date beyond the calendar. -/
theorem failsOnly_refusesContent_iff (c : ReplyCategory) (e : Envelope) (hcharset : Charset.IsKnown e.charset)
    (hmetrics : ∀ name, IsNameable e.metrics name) :
    FailsOnly (Fault.RefusesContent e.raw.body c.ruleFields) (c.content e) ↔
      Keystore.StayInCalendar (c.itemEntries e) := by
  -- one category reads metrics, two read items, and the bodies of the others have no dates
  cases c with
  | keystoreItems =>
    refine failsOnly_map.trans (failsOnly_ofBody_items_iff fun body => ?_)
    exact (Keystore.failsOnly_readItems_iff hcharset body).trans stayInCalendar_entriesOf_iff.symm
  | keystoreItem =>
    refine failsOnly_map.trans (failsOnly_ofBody_items_iff fun body => ?_)
    exact (Keystore.failsOnly_readItem_iff hcharset body).trans stayInCalendar_entriesOf_iff.symm
  | keystores =>
    refine iff_of_true (failsOnly_map.mpr ?_) (stayInCalendar_of_nil fun _ _ => rfl)
    exact failsOnly_ofBody (Keystore.failsOnly_readStores hcharset)
  | keystoreRequest =>
    refine iff_of_true (failsOnly_map.mpr ?_) (stayInCalendar_of_nil fun _ _ => rfl)
    exact failsOnly_ofBody (Keystore.failsOnly_readRequest hcharset)
  | inventoryItems =>
    refine iff_of_true (failsOnly_map.mpr ?_) (stayInCalendar_of_nil fun _ _ => rfl)
    exact failsOnly_ofBody (Inventory.failsOnly_readItems hcharset)
  | inventoryBundles =>
    refine iff_of_true (failsOnly_map.mpr ?_) (stayInCalendar_of_nil fun _ _ => rfl)
    exact failsOnly_ofBody (Inventory.failsOnly_readBundles hcharset)
  | inventoryContainers =>
    refine iff_of_true (failsOnly_map.mpr ?_) (stayInCalendar_of_nil fun _ _ => rfl)
    exact failsOnly_ofBody (Inventory.failsOnly_readContainers hcharset)
  | inventoryPackages =>
    refine iff_of_true (failsOnly_map.mpr ?_) (stayInCalendar_of_nil fun _ _ => rfl)
    exact failsOnly_ofBody (Inventory.failsOnly_readPackages hcharset)
  | command =>
    refine iff_of_true (failsOnly_map.mpr ?_) (stayInCalendar_of_nil fun _ _ => rfl)
    exact (CommandResult.failsOnly_read hmetrics).refusesContent

/-! ### A date beyond the calendar -/

/-- An item whose certificate is valid from the first moment behind the calendar on. -/
def distantItem : Bytes := Charset.Utf8.ofText "\x7b\"alias\":\"k\",\"startDate\":253402300800000\x7d"

/-- The envelope of a reply with that item. -/
def distantEnvelope : Envelope :=
  { descriptor := Envelope.framedDescriptor, channel := Envelope.framedChannel
    code := .accepted, exceptionMessage := none, exceptionStack := none, metrics := .empty
    raw := Envelope.framed (some distantItem) .empty }

theorem read_distantEnvelope :
    Envelope.read (Envelope.framed (some distantItem) .empty) .packaged = .ok distantEnvelope :=
  Envelope.read_eq_ok_iff.mpr
    ⟨Envelope.resolve_framed _ _, Envelope.read_framedTopic, rfl, rfl, rfl, rfl, rfl⟩

theorem isNameable_empty (name : String) : IsNameable .empty name := by
  intro v h
  cases h

theorem failsOnly_refusesContent_iff_distant :
    FailsOnly (Fault.RefusesContent (some distantItem) Keystore.itemFields) (content .keystoreItem distantEnvelope) ↔
      Keystore.StayInCalendar (itemEntries .keystoreItem distantEnvelope) :=
  failsOnly_refusesContent_iff .keystoreItem distantEnvelope (by decide +kernel) isNameable_empty

/-- The fault of a date, if it is one. -/
def epochFault? {α : Type} : Except Fault α → Option EpochFault
  | .error (.epoch fault) => some fault
  | _ => none

theorem eq_of_epochFault? {α : Type} {x : Except Fault α} {fault : EpochFault}
    (h : epochFault? x = some fault) : x = .error (.epoch fault) := by
  unfold epochFault? at h
  split at h
  · cases h
    rfl
  · cases h

theorem not_forall_failsOnly_refusesContent :
    ¬∀ (c : ReplyCategory) (raw : RawMessage) (registry : Registry) (e : Envelope),
      Envelope.read raw registry = .ok e → Charset.IsKnown e.charset →
      (∀ name, IsNameable e.metrics name) →
      FailsOnly (Fault.RefusesContent e.raw.body c.ruleFields) (c.content e) := by
  intro h
  have hcontent : content .keystoreItem distantEnvelope = .error (.epoch (.yearOutOfRange 10000)) :=
    eq_of_epochFault? (by decide +kernel)
  exact Fault.not_refusesContent_epoch _
    (h _ _ _ _ read_distantEnvelope (by decide +kernel) isNameable_empty _ hcontent)

end DeviceRelay.ReplyCategory
