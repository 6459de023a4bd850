import DeviceRelay.Category
import DeviceRelay.Log

/-!
# Translators and their table

A translator turns the raw messages of one category into messages. A table of translators has one per
category at most, so a category determines who translates; a table is refused if two translators share
a category. The order in which translators were given plays no role afterwards.
-/

namespace DeviceRelay

/-- A translator of one category. -/
structure Translator where
  category : String
  /-- The translator in words. -/
  label : String
  run : RawMessage → Except Fault Message

namespace Translator

/-- The translator of a category that is known. -/
def ofCategory (c : Category) (registry : Registry) : Translator where
  category := c.tag
  label :=
    match c with
    | .reply _ =>
      "ResponseTranslator(category=" ++ Text.quoted c.tag ++ ", message_type=" ++ c.messageKind ++ ")"
    | .lifecycle phase =>
      "LifecycleTranslator(category=" ++ Text.quoted c.tag ++ ", phase=" ++ phase.text ++ ")"
  run := c.message registry

/-- The translator of a tag, if it is the tag of a category. -/
def ofTag? (tag : String) (registry : Registry) : Option Translator :=
  (Category.ofTag? tag).map fun c => ofCategory c registry

/-- The part that reports tags of no category. -/
def logSource : String := "kura_translator.translation.factory"

/-- What is reported about a tag. -/
def reportOf (tag : String) : List LogEntry :=
  match Category.ofTag? tag with
  | some _ => []
  | none => [.error logSource s!"Unknown translator category: {tag}"]

/-- A translator for each category. -/
def all (registry : Registry) : List Translator := Category.all.map fun c => ofCategory c registry

end Translator

/-- Translators of distinct categories. -/
structure TranslatorTable where
  translators : List Translator
  distinct : (translators.map Translator.category).Nodup

namespace TranslatorTable

/-- The first member of a list that is there before. -/
def firstRepeated? (seen : List String) : List String → Option String
  | [] => none
  | tag :: rest => if seen.contains tag then some tag else firstRepeated? (tag :: seen) rest

theorem nodup_of_firstRepeated? {seen tags : List String} (h : firstRepeated? seen tags = none) :
    tags.Nodup ∧ ∀ tag ∈ tags, tag ∉ seen := by
  induction tags generalizing seen with
  | nil => simp
  | cons tag rest ih =>
    simp only [firstRepeated?] at h
    split at h
    · simp at h
    · next hn =>
      obtain ⟨hnodup, hnew⟩ := ih h
      refine ⟨List.nodup_cons.mpr ⟨fun hm => ?_, hnodup⟩, fun t ht => ?_⟩
      · exact hnew tag hm (List.mem_cons_self ..)
      · rcases List.mem_cons.mp ht with rfl | ht
        · simpa using hn
        · exact fun hs => hnew t ht (List.mem_cons_of_mem _ hs)

/-- The table of a list of translators; an error names the first category that is there twice. -/
def ofList (translators : List Translator) : Except String TranslatorTable :=
  match h : firstRepeated? [] (translators.map Translator.category) with
  | some tag => .error tag
  | none => .ok ⟨translators, (nodup_of_firstRepeated? h).1⟩

/-- What is said of a list in which a category is there twice. -/
def repeatedMessage (tag : String) : String := s!"Duplicate translator for category '{tag}'"

/-- The translator of a category. -/
def get? (t : TranslatorTable) (tag : String) : Option Translator :=
  t.translators.find? fun translator => translator.category = tag

/-- Translate a raw message of a category. -/
def translate (t : TranslatorTable) (tag : String) (raw : RawMessage) : Except Failure Message :=
  match t.get? tag with
  | none => .error (.notFound tag)
  | some translator => (translator.run raw).mapError fun cause => .rejected cause raw

/-- The categories, in the order of their code points. -/
def categories (t : TranslatorTable) : List String :=
  (t.translators.map Translator.category).mergeSort fun a b => decide (a ≤ b)

/-- The number of translators. -/
def size (t : TranslatorTable) : Nat := t.translators.length

theorem tags_nodup : (Category.all.map Category.tag).Nodup := by decide

/-- The table of all categories. -/
def full (registry : Registry) : TranslatorTable :=
  ⟨Translator.all registry, by
    simpa [Translator.all, Translator.ofCategory, Function.comp_def] using tags_nodup⟩

end TranslatorTable

end DeviceRelay
