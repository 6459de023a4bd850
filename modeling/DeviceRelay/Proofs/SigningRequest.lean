import Mathlib.Data.List.TakeWhile
import DeviceRelay.Proofs.Charset.Spelling
import DeviceRelay.Proofs.Keystore
import DeviceRelay.Proofs.Presence
import DeviceRelay.Proofs.Body

/-!
# Signing requests in their bodies

A signing request is what is left of a body's text without the blanks at both ends, as long as it begins with one of two
headers. The mark of a charset is taken off before the blanks are, and a mark that stays in the text is no blank.

    body ──Spells──▶ text ──Trims──▶ request
    body ◀──encode── request

What is left has no blanks at its ends any more. So blanks around a text make no difference, and a signing request that
is encoded and read again is the same.

* `Text.Trims` — what is left of a text, apart from how it is found.
* `SigningRequest.HeldBy` — the signing request in a body.
* `readRequest_eq_ok_iff` — that one is read, and no other.
* `TranslatorTable.request_stable` — replies with a signing request.
-/

namespace DeviceRelay

/-! ### Without blanks -/

namespace Text

/-- What is left of a text without the blanks at both ends. -/
structure Trims (text kept : List Char) : Prop where
  around : ∃ front back, text = front ++ kept ++ back ∧ front.all isBlank ∧ back.all isBlank
  head_ne : ∀ c ∈ kept.head?, isBlank c = false
  last_ne : ∀ c ∈ kept.getLast?, isBlank c = false

variable {text kept u w : List Char}

theorem trim_of_blank (h : text.all isBlank) : trim text = [] := by
  rw [trim, trimBy, List.dropWhile_eq_nil_iff.mpr (List.all_eq_true.mp h)]
  rfl

theorem trims_iff : Trims text kept ↔ trim text = kept := by
  constructor
  · rintro ⟨⟨front, back, rfl, hfront, hback⟩, hhead, hlast⟩
    by_cases hkept : kept = []
    · subst hkept
      apply trim_of_blank
      rw [List.append_nil, List.all_append, hfront, hback, Bool.true_and]
    · exact trimBy_between hfront hback hkept hhead hlast
  · rintro rfl
    obtain ⟨front, back, htext, hfront, hback⟩ := trimBy_decompose isBlank text
    exact ⟨⟨front, back, htext, hfront, hback⟩, fun _ => head?_trimBy, fun _ => getLast?_trimBy⟩

/-- Of a text with more blanks around it, the same is left. -/
theorem Trims.padded (h : Trims text kept) (hu : u.all isBlank) (hw : w.all isBlank) : Trims (u ++ text ++ w) kept := by
  obtain ⟨⟨front, back, rfl, hfront, hback⟩, hhead, hlast⟩ := h
  refine ⟨⟨u ++ front, back ++ w, ?_, ?_, ?_⟩, hhead, hlast⟩
  · simp only [List.append_assoc]
  · rw [List.all_append, hu, hfront, Bool.true_and]
  · rw [List.all_append, hback, hw, Bool.true_and]

/-- What is left is all that is left of it. -/
theorem Trims.again (h : Trims text kept) : Trims kept kept :=
  ⟨⟨[], [], by simp, rfl, rfl⟩, h.head_ne, h.last_ne⟩

theorem trim_padded (hu : u.all isBlank) (hw : w.all isBlank) : trim (u ++ text ++ w) = trim text :=
  trims_iff.mp ((trims_iff.mpr rfl).padded hu hw)

/-- The mark of byte order is not among the blanks. -/
example : trim ['\ufeff', '-', ' '] = ['\ufeff', '-'] := by decide

end Text

/-! ### Requests in bodies -/

namespace Keystore

/-- The body holds the signing request in a charset: it spells the request with blanks around it. -/
structure SigningRequest.HeldBy (r : SigningRequest) (charset : Charset) (body : Bytes) : Prop where
  spelled : ∃ text, charset.Spells body text ∧ Text.Trims text r.text.toList
  header : ∃ header ∈ requestHeaders, header.toList <+: r.text.toList

theorem SigningRequest.ofText_eq_ok_iff {text : List Char} {r : SigningRequest} :
    ofText text = .ok r ↔
      Text.Trims text r.text.toList ∧ ∃ header ∈ requestHeaders, header.toList <+: r.text.toList := by
  have hheader : (requestHeaders.any fun header => header.toList.isPrefixOf (Text.trim text)) = true ↔
      ∃ header ∈ requestHeaders, header.toList <+: Text.trim text := by
    simp only [List.any_eq_true, List.isPrefixOf_iff_prefix]
  rw [Text.trims_iff]
  unfold ofText
  dsimp only
  split
  · next h =>
    rw [Except.ok.injEq]
    constructor
    · rintro rfl
      rw [String.toList_ofList]
      exact ⟨rfl, hheader.mp h⟩
    · rintro ⟨htext, -⟩
      rw [htext, String.ofList_toList]
  · next h =>
    refine iff_of_false nofun ?_
    rintro ⟨htext, hprefix⟩
    rw [← htext] at hprefix
    exact h (hheader.mpr hprefix)

/-- Blanks around a text make no difference to the signing request in it, or to why there is none. -/
theorem SigningRequest.ofText_padded {text u w : List Char} (hu : u.all Text.isBlank) (hw : w.all Text.isBlank) :
    ofText (u ++ text ++ w) = ofText text := by
  unfold ofText
  rw [Text.trim_padded hu hw]

variable {charset : LooseText}

/-- The signing request of a body is read, and no other. -/
theorem readRequest_eq_ok_iff (hcharset : Charset.IsKnown charset) {body : Bytes} {r : SigningRequest} :
    readRequest body charset = .ok r ↔ ∃ c ∈ Charset.ofName? charset, r.HeldBy c body := by
  refine bind_eq_ok.trans ?_
  constructor
  · rintro ⟨text, htext, h⟩
    obtain ⟨_, hbody, c, hc, hdecode⟩ := (Body.text_eq_ok_iff hcharset).mp htext
    obtain rfl := Option.some.inj hbody
    obtain ⟨htrims, hheader⟩ := SigningRequest.ofText_eq_ok_iff.mp h
    exact ⟨c, hc, ⟨text.toList, Charset.decode_eq_ok_iff.mp hdecode, htrims⟩, hheader⟩
  · rintro ⟨c, hc, ⟨text, hspells, htrims⟩, hheader⟩
    refine ⟨String.ofList text, (Body.text_eq_ok_iff hcharset).mpr ⟨body, rfl, c, hc, ?_⟩, ?_⟩
    · rw [String.toList_ofList]
      exact Charset.decode_eq_ok_iff.mpr hspells
    · rw [String.toList_ofList]
      exact SigningRequest.ofText_eq_ok_iff.mpr ⟨htrims, hheader⟩

/-- What is read from an encoded text is the signing request in the text. -/
theorem readRequest_of_encodeText (hcharset : Charset.IsKnown charset) {text : List Char} {body : Bytes}
    (h : Body.encodeText text charset = .ok body) : readRequest body charset = SigningRequest.ofText text := by
  show (Body.text (some body) charset).bind (fun text => SigningRequest.ofText text.toList) = _
  rw [Body.text_of_encodeText hcharset h]
  show SigningRequest.ofText (String.ofList text).toList = _
  rw [String.toList_ofList]

/-- Only a text without characters may have no octets. -/
theorem eq_nil_of_encodeText (hcharset : Charset.IsKnown charset) {text : List Char}
    (h : Body.encodeText text charset = .ok []) : text = [] := by
  obtain ⟨c, -, hencode⟩ := Body.exists_encodeText_eq hcharset
  rw [hencode, mapError_eq_ok] at h
  exact Except.ok.inj ((Charset.decode_of_encode h).symm.trans c.decode_nil)

/-- A signing request is its own signing request. -/
theorem SigningRequest.ofText_again {text : List Char} {r : SigningRequest} (h : ofText text = .ok r) :
    ofText r.text.toList = .ok r := by
  obtain ⟨htrims, hheader⟩ := ofText_eq_ok_iff.mp h
  exact ofText_eq_ok_iff.mpr ⟨htrims.again, hheader⟩

theorem SigningRequest.text_ne_nil {text : List Char} {r : SigningRequest} (h : ofText text = .ok r) :
    r.text.toList ≠ [] := by
  obtain ⟨-, header, hheader, hprefix⟩ := ofText_eq_ok_iff.mp h
  intro hnil
  rw [hnil, List.prefix_nil] at hprefix
  exact absurd hprefix ((by decide : ∀ header ∈ requestHeaders, header.toList ≠ []) header hheader)

end Keystore

/-! ### Replies -/

/-- The reply with a signing request. -/
def Category.requestReply (e : Envelope) (r : Keystore.SigningRequest) : Message :=
  replyMessage .keystoreRequest e (.keystore { KeystoreContent.empty with request := some r })

theorem Category.requestReply_injective {e : Envelope} {r r' : Keystore.SigningRequest}
    (h : requestReply e r = requestReply e r') : r = r' := by
  injection h with _ _ _ _ hcontent
  injection hcontent with hcontent
  exact Option.some.inj (KeystoreContent.mk.inj hcontent).2.2.2

namespace TranslatorTable

open Keystore

variable {registry : Registry} {raw : RawMessage} {e : Envelope}

/-- A body that is there is a reply with the signing request in it, or is rejected for having none. -/
theorem translate_request (he : Envelope.read raw registry = .ok e) {body : Bytes} (hbody : body ≠ []) :
    (full registry).translate ReplyCategory.keystoreRequest.tag (raw.withBody (some body)) =
      ((readRequest body e.charset).map (Category.requestReply e)).mapError fun cause =>
        .rejected cause (raw.withBody (some body)) := by
  cases body with
  | nil => exact absurd rfl hbody
  | cons b bytes =>
    rw [translate_full_reply, Category.reply_withBody, he]
    show Except.mapError _ (Except.map _ (Except.map _ (Except.map some (readRequest (b :: bytes) e.charset)))) = _
    cases readRequest (b :: bytes) e.charset <;> rfl

/-- In a Unicode charset, the signing requests that bodies hold are translated, and nothing else is. A text makes the
same message, or is rejected for the same cause, with blanks around it. The signing request of a message is translated to
that message. -/
theorem request_stable (he : Envelope.read raw registry = .ok e) (hcharset : Charset.NamesUnicode e.charset) :
    (∀ body ≠ [], ∀ m,
        (full registry).translate ReplyCategory.keystoreRequest.tag (raw.withBody (some body)) = .ok m ↔
          ∃ r, (∃ c ∈ Charset.ofName? e.charset, r.HeldBy c body) ∧ Category.requestReply e r = m) ∧
      (∀ text body, Body.encodeText text e.charset = .ok body → body ≠ [] → ∀ u w, u.all Text.isBlank →
        w.all Text.isBlank → ∃ padded, Body.encodeText (u ++ text ++ w) e.charset = .ok padded ∧
          ∃ outcome : Except Fault Message, ∀ bytes ∈ [body, padded],
            (full registry).translate ReplyCategory.keystoreRequest.tag (raw.withBody (some bytes)) =
              outcome.mapError fun cause => .rejected cause (raw.withBody (some bytes))) ∧
      ∀ body ≠ [], ∀ r,
        (full registry).translate ReplyCategory.keystoreRequest.tag (raw.withBody (some body)) =
          .ok (Category.requestReply e r) →
        ∃ again, Body.encodeText r.text.toList e.charset = .ok again ∧
          (full registry).translate ReplyCategory.keystoreRequest.tag (raw.withBody (some again)) =
            .ok (Category.requestReply e r) := by
  have hknown := hcharset.isKnown
  refine ⟨?_, ?_, ?_⟩
  · intro body hbody m
    rw [translate_request he hbody, mapError_eq_ok, map_eq_ok]
    exact exists_congr fun r => and_congr_left fun _ => readRequest_eq_ok_iff hknown
  · intro text body hencode hbody u w hu hw
    obtain ⟨padded, hpadded⟩ := Body.encodeText_isOk hcharset (u ++ text ++ w)
    have hne : padded ≠ [] := by
      rintro rfl
      -- then there is no text to put blanks around, and its octets are the same
      obtain ⟨rfl, rfl, rfl⟩ := by simpa using eq_nil_of_encodeText hknown hpadded
      exact hbody (Except.ok.inj (hencode.symm.trans hpadded))
    refine ⟨padded, hpadded, (SigningRequest.ofText text).map (Category.requestReply e), ?_⟩
    rw [List.forall_mem_cons, List.forall_mem_singleton]
    constructor
    · rw [translate_request he hbody, readRequest_of_encodeText hknown hencode]
    · rw [translate_request he hne, readRequest_of_encodeText hknown hpadded, SigningRequest.ofText_padded hu hw]
  · intro body hbody r h
    rw [translate_request he hbody, mapError_eq_ok, map_eq_ok] at h
    obtain ⟨r', hread, hreply⟩ := h
    obtain rfl := Category.requestReply_injective hreply
    obtain ⟨text, -, htext⟩ := bind_eq_ok.mp hread
    obtain ⟨again, hagain⟩ := Body.encodeText_isOk hcharset r'.text.toList
    refine ⟨again, hagain, ?_⟩
    have hne : again ≠ [] := by
      rintro rfl
      exact SigningRequest.text_ne_nil htext (eq_nil_of_encodeText hknown hagain)
    rw [translate_request he hne, readRequest_of_encodeText hknown hagain, SigningRequest.ofText_again htext]
    rfl

/-! ### A body with the other mark -/

/-- The connector with another charset. -/
def markedDescriptor : Descriptor := { Envelope.framedDescriptor with charset := "utf-16" }

/-- A message of the connector. -/
def markedMessage : RawMessage := Envelope.framed none .empty

/-- Its envelope. -/
def markedEnvelope : Envelope :=
  { descriptor := markedDescriptor, channel := Envelope.framedChannel, code := .accepted, exceptionMessage := none
    exceptionStack := none, metrics := .empty, raw := markedMessage }

theorem read_markedEnvelope : Envelope.read markedMessage ⟨[.ofList [markedDescriptor]]⟩ = .ok markedEnvelope :=
  Envelope.read_eq_ok_iff.mpr
    ⟨rfl, ReplyChannel.read_eq_ok_iff.mpr
      ⟨by decide +kernel, rfl, by decide, by decide, by decide, by decide, by decide, by decide⟩, rfl, rfl, rfl, rfl, rfl⟩

/-- A text with blanks of three kinds around a header. -/
def blankedText : List Char := "\u3000-----BEGIN CERTIFICATE REQUEST-----\x1c\n".toList

/-- A body with its big end first is a reply without blanks, which is sent with the little end first. -/
theorem request_stable_marked :
    ∃ r : SigningRequest, r.text = "-----BEGIN CERTIFICATE REQUEST-----" ∧
      (full ⟨[.ofList [markedDescriptor]]⟩).translate ReplyCategory.keystoreRequest.tag
          (markedMessage.withBody (some (0xFE :: 0xFF :: Charset.Utf16.encode .big blankedText))) =
        .ok (Category.requestReply markedEnvelope r) ∧
      ∃ again, Body.encodeText r.text.toList "utf-16" = .ok again ∧
        (full ⟨[.ofList [markedDescriptor]]⟩).translate ReplyCategory.keystoreRequest.tag
            (markedMessage.withBody (some again)) = .ok (Category.requestReply markedEnvelope r) := by
  obtain ⟨hheld, -, hagain⟩ := request_stable read_markedEnvelope (by decide +kernel)
  have hrequest : (full ⟨[.ofList [markedDescriptor]]⟩).translate ReplyCategory.keystoreRequest.tag
      (markedMessage.withBody (some (0xFE :: 0xFF :: Charset.Utf16.encode .big blankedText))) =
        .ok (Category.requestReply markedEnvelope ⟨"-----BEGIN CERTIFICATE REQUEST-----"⟩) := by
    refine (hheld _ (List.cons_ne_nil _ _) _).mpr ⟨_, ⟨.utf16, by decide +kernel, ⟨_, .bigMarked _, ?_⟩, ?_⟩, rfl⟩
    · exact Text.trims_iff.mpr (by decide +kernel)
    · exact ⟨_, .head _, List.prefix_rfl⟩
  exact ⟨_, rfl, hrequest, hagain _ (List.cons_ne_nil _ _) _ hrequest⟩

end TranslatorTable

end DeviceRelay
