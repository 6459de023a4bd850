import DeviceRelay.ReplyChannel
import DeviceRelay.Proofs.Segments

/-!
# Reply topics and their channels

A channel has a topic of its own, which joins its segments over the descriptor's separator. Reading is
characterized by the segments alone:

    read topic d = .ok ch ↔ split d.topicSeparator topic = ch.segments d ∧ ch.WellFormed d

* `topic_of_read` — what is read was written: a channel that is read from a topic is well formed, and
  its topic is the one it was read from. So no two topics give one channel.
* `read_topic` — what is written is read: under a separator of one character the topic of a well-formed
  channel without that character gives the channel back.
-/

namespace DeviceRelay.ReplyChannel

/-- The segments of a channel's topic, first to last. -/
def segments (d : Descriptor) (ch : ReplyChannel) : List String :=
  [d.controlPrefix, ch.account, ch.clientId, ch.appName ++ "-" ++ ch.appVersion, ch.verb] ++
    ch.requestId.toList ++ ch.semanticParts

/-- The topic of a channel. -/
def topic (d : Descriptor) (ch : ReplyChannel) : String :=
  String.intercalate d.topicSeparator (ch.segments d)

/-- What every channel of a descriptor keeps to. -/
structure WellFormed (d : Descriptor) (ch : ReplyChannel) : Prop where
  verb_eq : ch.verb = d.replyVerb
  account_ne : ch.account ≠ ""
  clientId_ne : ch.clientId ≠ ""
  appName_ne : ch.appName ≠ ""
  appVersion_ne : ch.appVersion ≠ ""
  /-- The dash in front of the version is the last one. -/
  dash_notMem : '-' ∉ ch.appVersion.toList
  /-- Parts follow a request id. -/
  parts_eq_nil : ch.requestId = none → ch.semanticParts = []

/-! ### The application's segment -/

theorem application?_eq_some_iff {segment name version : String} :
    application? segment = some (name, version) ↔
      segment = name ++ "-" ++ version ∧ name ≠ "" ∧ version ≠ "" ∧ '-' ∉ version.toList := by
  constructor
  · intro h
    unfold application? at h
    split at h
    · cases h
    · next front back hcut =>
      split at h
      · cases h
      · next hne =>
        obtain ⟨rfl, rfl⟩ := Prod.mk.inj (Option.some.inj h)
        obtain ⟨hsegment, hdash⟩ := Text.cutLast?_eq_some_iff.mp hcut
        have hfront : front ≠ [] := fun he => hne (Or.inl (by rw [he]; rfl))
        have hback : back ≠ [] := fun he => hne (Or.inr (by rw [he]; rfl))
        refine ⟨?_, by simpa using hfront, by simpa using hback, by simpa using hdash⟩
        apply String.toList_inj.mp
        rw [hsegment]
        simp
  · rintro ⟨rfl, hname, hversion, hdash⟩
    have hcut : Text.cutLast? '-' (name ++ "-" ++ version).toList =
        some (name.toList, version.toList) := by
      rw [Text.cutLast?_eq_some_iff]
      exact ⟨by simp, hdash⟩
    unfold application?
    rw [hcut]
    simp [hname, hversion]

/-! ### Reading by segments -/

/-- The segments behind the fifth are a request id and parts, or nothing at all. -/
theorem head?_append_tail (rest : List String) : rest.head?.toList ++ rest.tail = rest := by
  cases rest with
  | nil => rfl
  | cons _ _ => rfl

/-- A topic gives a channel exactly if it has the channel's segments and the channel is well formed. -/
theorem read_eq_ok_iff {topic : String} {d : Descriptor} {ch : ReplyChannel} :
    read topic d = .ok ch ↔ Text.split d.topicSeparator topic = ch.segments d ∧ ch.WellFormed d := by
  constructor
  · intro h
    unfold read at h
    split at h
    · next start account clientId app verb rest hsplit =>
      split at h
      · cases h
      next hstart =>
      split at h
      · cases h
      next hverb =>
      split at h
      · cases h
      next howner =>
      split at h
      · cases h
      next name version happ =>
      obtain ⟨hsegment, hname, hversion, hdash⟩ := application?_eq_some_iff.mp happ
      obtain ⟨haccount, hclient⟩ := not_or.mp howner
      obtain rfl := Except.ok.inj h
      constructor
      · rw [hsplit, Decidable.not_not.mp hstart, hsegment]
        simp only [segments, List.cons_append, List.nil_append, head?_append_tail]
      · refine ⟨Decidable.not_not.mp hverb, haccount, hclient, hname, hversion, hdash, ?_⟩
        intro hnone
        rw [List.head?_eq_none_iff.mp hnone]
        rfl
    · cases h
  · rintro ⟨hsplit, hch⟩
    have happ : application? (ch.appName ++ "-" ++ ch.appVersion) =
        some (ch.appName, ch.appVersion) :=
      application?_eq_some_iff.mpr ⟨rfl, hch.appName_ne, hch.appVersion_ne, hch.dash_notMem⟩
    have hrest : (ch.requestId.toList ++ ch.semanticParts).head? = ch.requestId ∧
        (ch.requestId.toList ++ ch.semanticParts).tail = ch.semanticParts := by
      cases hid : ch.requestId with
      | none => simp [hch.parts_eq_nil hid]
      | some id => simp
    unfold read
    rw [hsplit]
    simp only [segments, List.cons_append, List.nil_append, happ, hrest.1, hrest.2, hch.verb_eq,
      hch.account_ne, hch.clientId_ne, ne_eq, not_true_eq_false, or_self, if_false]
    rw [← hch.verb_eq]

/-! ### What is read was written -/

/-- The channel of a topic is well formed and has that topic; no other topic gives the channel. -/
theorem topic_of_read {topic : String} {d : Descriptor} {ch : ReplyChannel}
    (h : read topic d = .ok ch) :
    ch.topic d = topic ∧ ch.WellFormed d ∧ ∀ other, read other d = .ok ch → other = topic := by
  have htopic : ∀ t, read t d = .ok ch → ch.topic d = t := by
    intro t ht
    obtain ⟨hsplit, -⟩ := read_eq_ok_iff.mp ht
    rw [ReplyChannel.topic, ← hsplit, Text.intercalate_split]
  refine ⟨htopic topic h, (read_eq_ok_iff.mp h).2, ?_⟩
  intro other hother
  rw [← htopic other hother, htopic topic h]

/-- A descriptor whose separator has two characters. -/
def doubled : Descriptor :=
  { Descriptor.ofName "utf-8" "doubled" with topicSeparator := "//", separator_ne := by decide }

/-- Three slashes are a separator and a segment that begins with the last of them; the request id may be
empty. -/
theorem topic_of_read_doubled :
    topic doubled ⟨"acme", "/gw-1", "KEYS-V1", "2", "REPLY", some "", []⟩ =
        "$EDC//acme///gw-1//KEYS-V1-2//REPLY//" ∧
      WellFormed doubled ⟨"acme", "/gw-1", "KEYS-V1", "2", "REPLY", some "", []⟩ ∧
      ∀ other, read other doubled = .ok ⟨"acme", "/gw-1", "KEYS-V1", "2", "REPLY", some "", []⟩ →
        other = "$EDC//acme///gw-1//KEYS-V1-2//REPLY//" :=
  topic_of_read <| read_eq_ok_iff.mpr
    ⟨by decide +kernel, rfl, by decide, by decide, by decide, by decide, by decide, by decide⟩

/-! ### What is written is read -/

/-- No segment of a channel holds the separator's mark. -/
theorem notMem_of_mem_segments {mark : Char} {d : Descriptor} {ch : ReplyChannel} (hdash : mark ≠ '-')
    (hstart : mark ∉ d.controlPrefix.toList) (hverb : mark ∉ ch.verb.toList)
    (hfree : ∀ s ∈ [ch.account, ch.clientId, ch.appName, ch.appVersion] ++ ch.requestId.toList ++
      ch.semanticParts, mark ∉ s.toList) :
    ∀ s ∈ ch.segments d, mark ∉ s.toList := by
  have happ : mark ∉ (ch.appName ++ "-" ++ ch.appVersion).toList := by
    have hname := hfree ch.appName (by simp)
    have hversion := hfree ch.appVersion (by simp)
    simp [hname, hversion, hdash]
  intro s hs
  simp only [segments, List.cons_append, List.nil_append, List.mem_cons, List.mem_append] at hs
  rcases hs with rfl | rfl | rfl | rfl | rfl | hs | hs
  · exact hstart
  · exact hfree _ (by simp)
  · exact hfree _ (by simp)
  · exact happ
  · exact hverb
  · exact hfree s (by simp [hs])
  · exact hfree s (by simp [hs])

/-- Under a separator of one character, the topic of a well-formed channel whose parts are free of that
character gives the channel back. -/
theorem read_topic {mark : Char} {d : Descriptor} {ch : ReplyChannel}
    (hsep : d.topicSeparator = String.singleton mark) (hdash : mark ≠ '-')
    (hstart : mark ∉ d.controlPrefix.toList) (hverb : mark ∉ d.replyVerb.toList)
    (hch : ch.WellFormed d)
    (hfree : ∀ s ∈ [ch.account, ch.clientId, ch.appName, ch.appVersion] ++ ch.requestId.toList ++
      ch.semanticParts, mark ∉ s.toList) :
    read (ch.topic d) d = .ok ch := by
  have hsegments := notMem_of_mem_segments hdash hstart (hch.verb_eq ▸ hverb) hfree
  have hsplit : Text.split d.topicSeparator (ch.topic d) = ch.segments d := by
    rw [topic, hsep]
    exact Text.split_intercalate (by simp [segments]) hsegments
  exact read_eq_ok_iff.mpr ⟨hsplit, hch⟩

/-- A name with dashes, and an empty part between others. -/
theorem read_topic_dashes :
    read (topic (Descriptor.ofName "utf-8" "kura")
        ⟨"acme", "gw-1", "ASSET-V1-", "2.0", "REPLY", some "42", ["a", "", "-b-"]⟩)
      (Descriptor.ofName "utf-8" "kura") =
    .ok ⟨"acme", "gw-1", "ASSET-V1-", "2.0", "REPLY", some "42", ["a", "", "-b-"]⟩ :=
  read_topic (show _ = String.singleton '/' from rfl) (by decide) (by decide) (by decide)
    ⟨rfl, by decide, by decide, by decide, by decide, by decide, by decide⟩ (by decide)

end DeviceRelay.ReplyChannel
