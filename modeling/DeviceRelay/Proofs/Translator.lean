import DeviceRelay.Translator
import DeviceRelay.Proofs.Checked

/-!
# The table of all categories

The full table translates a tag as its category does, and the tags of the categories are told apart.

* `TranslatorTable.translate_full` — the table by categories instead of translators.
* `TranslatorTable.translate_full_eq_ok_iff` — what is let through.
-/

namespace DeviceRelay

/-- Each category is that of its tag. -/
theorem Category.ofTag?_tag (c : Category) : ofTag? c.tag = some c := by
  rcases c with ⟨⟨⟩⟩ | ⟨⟨⟩⟩ <;> decide

/-- The content of a message, if it is a reply. -/
def Message.content? : Message → Option ReplyContent
  | .reply _ _ _ _ content => some content
  | .notification _ _ _ _ => none

namespace TranslatorTable

theorem get?_full (registry : Registry) (tag : String) :
    (full registry).get? tag = (Category.ofTag? tag).map fun c => .ofCategory c registry := by
  unfold get? full Translator.all Category.ofTag?
  exact List.find?_map

/-- The full table, by categories. -/
theorem translate_full (registry : Registry) (tag : String) (raw : RawMessage) :
    (full registry).translate tag raw =
      match Category.ofTag? tag with
      | none => .error (.notFound tag)
      | some c => (c.message registry raw).mapError fun cause => .rejected cause raw := by
  rw [translate, get?_full]
  cases Category.ofTag? tag <;> rfl

theorem translate_full_tag (registry : Registry) (c : Category) (raw : RawMessage) :
    (full registry).translate c.tag raw = (c.message registry raw).mapError fun cause => .rejected cause raw := by
  rw [translate_full, c.ofTag?_tag]

theorem translate_full_reply (registry : Registry) (c : ReplyCategory) (raw : RawMessage) :
    (full registry).translate c.tag raw =
      ((Category.reply c).message registry raw).mapError fun cause => .rejected cause raw :=
  translate_full_tag registry (.reply c) raw

theorem translate_full_eq_ok_iff {registry : Registry} {tag : String} {raw : RawMessage} {m : Message} :
    (full registry).translate tag raw = .ok m ↔
      ∃ c, Category.ofTag? tag = some c ∧ c.message registry raw = .ok m := by
  rw [translate_full]
  cases Category.ofTag? tag with
  | none => simp
  | some c => simp [mapError_eq_ok]

/-- A rejection keeps the raw message. -/
theorem kept_of_translate_full {registry : Registry} {tag : String} {raw kept : RawMessage} {cause : Fault}
    (h : (full registry).translate tag raw = .error (.rejected cause kept)) : kept = raw := by
  rw [translate_full] at h
  split at h
  · cases h
  · next c _ =>
    cases hm : c.message registry raw with
    | ok m =>
      rw [hm] at h
      cases h
    | error cause' =>
      rw [hm] at h
      cases h
      rfl

end TranslatorTable

end DeviceRelay
