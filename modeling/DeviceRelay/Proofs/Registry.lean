import DeviceRelay.Proofs.Envelope
import DeviceRelay.Proofs.Translator

/-!
# Names in layers

A provider keeps the first descriptor of each name, and a registry takes the answer of the first provider that has
one. The two layers together search one flat list:

    provider      provider      …
    [d₁, d₂, …] ++ [e₁, e₂, …] ++ …  ──find?──▶ the descriptor, or none

* `Provider.get?_ofList` — what is left out of a provider is never asked for.
* `Registry.lookup_ofLists` — the first match in the lists put together.
* `Registry.lookup_perm` — providers that know no name in common may stand in any order.
* `TranslatorTable.rejected_of_unknown` — messages of a connector that nobody knows.
-/

namespace DeviceRelay

/-! ### One provider -/

namespace Provider

/-- Of the descriptors that are kept, those whose names are not among `seen` are found as before. -/
theorem find?_keepFirst (seen : List LooseText) (ds : List Descriptor) (name : LooseText) :
    (keepFirst seen ds).find? (fun d => d.name = name) =
      if name ∈ seen then none else ds.find? fun d => d.name = name := by
  induction ds generalizing seen with
  | nil => simp [keepFirst]
  | cons e rest ih =>
    rw [keepFirst]
    by_cases he : e.name = name
    · subst he
      by_cases hseen : e.name ∈ seen
      · simp [hseen, ih]
      · simp [hseen]
    · -- a name that is not asked for makes no difference, whether it is new or not
      have hskip : name ∈ e.name :: seen ↔ name ∈ seen := by simp [Ne.symm he]
      split
      · rw [ih, List.find?_cons_of_neg (by simpa using he)]
      · rw [List.find?_cons_of_neg (by simpa using he), ih, List.find?_cons_of_neg (by simpa using he)]
        simp only [hskip]

/-- A provider finds the first descriptor of a name in its list. -/
theorem get?_ofList (ds : List Descriptor) (name : String) :
    (ofList ds).get? name = ds.find? fun d => d.name = .text name := by
  show (keepFirst [] ds).find? _ = _
  rw [find?_keepFirst, if_neg (List.not_mem_nil)]

theorem get?_eq_none_iff {p : Provider} {name : String} : p.get? name = none ↔ .text name ∉ p.names := by
  simp [get?, names]

/-- No name is known to both providers. -/
def Apart (p q : Provider) : Prop := ∀ name ∈ p.names, name ∉ q.names

instance (p q : Provider) : Decidable (p.Apart q) := by
  unfold Apart; infer_instance

theorem Apart.symm {p q : Provider} (h : p.Apart q) : q.Apart p :=
  fun name hq hp => h name hp hq

/-- Of two such providers one has no answer. -/
theorem Apart.get?_eq_none {p q : Provider} (h : p.Apart q) (name : String) :
    p.get? name = none ∨ q.get? name = none := by
  by_cases hp : .text name ∈ p.names
  · exact Or.inr (get?_eq_none_iff.mpr (h _ hp))
  · exact Or.inl (get?_eq_none_iff.mpr hp)

end Provider

/-! ### A row of providers -/

namespace Registry

/-- The registry with a provider for each list, in their order. -/
def ofLists (lists : List (List Descriptor)) : Registry := ⟨lists.map .ofList⟩

/-- A registry finds the first descriptor of a name in all lists, put together. -/
theorem lookup_ofLists (lists : List (List Descriptor)) (name : String) :
    (ofLists lists).lookup name = lists.flatten.find? fun d => d.name = .text name := by
  rw [List.find?_flatten, lookup, ofLists, List.findSome?_map]
  exact congrArg (List.findSome? · lists) (funext fun ds => Provider.get?_ofList ds name)

/-- Providers that know no name in common may stand in any order. -/
theorem lookup_perm {ps qs : List Provider} (h : ps.Perm qs) (hps : ps.Pairwise Provider.Apart)
    (name : String) : lookup ⟨ps⟩ name = lookup ⟨qs⟩ name := by
  unfold lookup
  induction h with
  | nil => rfl
  | cons p _ ih =>
    rw [List.findSome?_cons, List.findSome?_cons, ih (List.Pairwise.of_cons hps)]
  | swap p q rest =>
    -- at most one of the two has an answer, so it does not matter which is asked first
    have hpq : q.Apart p := List.rel_of_pairwise_cons hps List.mem_cons_self
    simp only [List.findSome?_cons]
    rcases hpq.get?_eq_none name with hnone | hnone
    · rw [hnone]
    · rw [hnone]
  | trans hfirst _ ih ih' =>
    have hmiddle := (hfirst.pairwise_iff Provider.Apart.symm).mp hps
    exact (ih hps).trans (ih' hmiddle)

end Registry

/-! ### Connectors that nobody knows -/

theorem Envelope.resolve_of_unknown {raw : RawMessage} {registry : Registry}
    (h : registry.lookup raw.connectorName = none) :
    resolve raw registry = .error (.unknownConnector raw.connectorName) := by
  rw [resolve, h]

/-- Every category starts with the connector, and without one comes to nothing else. -/
theorem Category.message_of_unknown {raw : RawMessage} {registry : Registry}
    (h : registry.lookup raw.connectorName = none) (c : Category) :
    c.message registry raw = .error (.envelope (.unknownConnector raw.connectorName)) := by
  have hresolve := Envelope.resolve_of_unknown h
  cases c with
  | reply r =>
    have hread : Envelope.read raw registry = .error (.envelope (.unknownConnector raw.connectorName)) := by
      rw [Envelope.read, hresolve]
      rfl
    rw [message, hread]
    rfl
  | lifecycle phase =>
    rw [message, hresolve]
    rfl

theorem TranslatorTable.rejected_of_unknown {raw : RawMessage} {registry : Registry}
    (h : registry.lookup raw.connectorName = none) (c : Category) :
    (full registry).translate c.tag raw =
      .error (.rejected (.envelope (.unknownConnector raw.connectorName)) raw) := by
  rw [translate_full_tag, Category.message_of_unknown h]
  rfl

/-- A registry of lists answers a name with the first descriptor of that name in all lists put together, and has no
answer exactly if there is none. The name of an answer is the one that was asked for, and a name is in the registry
exactly if it has an answer. Providers without a common name may change places. Where there is no answer, every
category rejects the connector's messages, whatever else they hold. -/
theorem Registry.lookup_first_match (lists : List (List Descriptor)) (name : String) :
    (ofLists lists).lookup name = lists.flatten.find? (fun d => d.name = .text name) ∧
      ((ofLists lists).lookup name = none ↔ ∀ ds ∈ lists, ∀ d ∈ ds, d.name ≠ .text name) ∧
      (∀ d, (ofLists lists).lookup name = some d → d.name = .text name) ∧
      ((ofLists lists).has name = true ↔ ∃ d, (ofLists lists).lookup name = some d) ∧
      (∀ others, lists.Perm others → (lists.map Provider.ofList).Pairwise Provider.Apart →
        (ofLists others).lookup name = (ofLists lists).lookup name) ∧
      ((ofLists lists).lookup name = none → ∀ (c : Category) (raw : RawMessage), raw.connectorName = name →
        (TranslatorTable.full (ofLists lists)).translate c.tag raw =
          .error (.rejected (.envelope (.unknownConnector name)) raw)) := by
  have hlookup := lookup_ofLists lists name
  refine ⟨hlookup, ?_, ?_, ?_, ?_, ?_⟩
  · rw [hlookup, List.find?_eq_none]
    simp only [decide_eq_true_eq, List.forall_mem_flatten]
  · intro d hd
    rw [hlookup] at hd
    simpa using List.find?_some hd
  · exact Option.isSome_iff_exists
  · intro others hperm hapart
    exact (lookup_perm (hperm.map _) hapart name).symm
  · rintro hnone c raw rfl
    exact TranslatorTable.rejected_of_unknown hnone c

/-- Two lists without a common name, one of which has a name twice. -/
def layeredLists : List (List Descriptor) :=
  [[.ofName "utf-8" "north", .ofName "ascii" "north", .ofName "utf-8" "east"], [], [.ofName "latin-1" "south"]]

theorem Registry.lookup_first_match_layered :
    (ofLists layeredLists).lookup "north" = some (.ofName "utf-8" "north") ∧
      (ofLists layeredLists.reverse).lookup "north" = some (.ofName "utf-8" "north") ∧
      (TranslatorTable.full (ofLists layeredLists)).translate ReplyCategory.command.tag
        (Envelope.framed none .empty) =
          .error (.rejected (.envelope (.unknownConnector "kura-mqtt")) (Envelope.framed none .empty)) := by
  obtain ⟨hnorth, -, -, -, hperm, -⟩ := lookup_first_match layeredLists "north"
  obtain ⟨-, hnone, -, -, -, hrejected⟩ := lookup_first_match layeredLists "kura-mqtt"
  have hfound : (ofLists layeredLists).lookup "north" = some (.ofName "utf-8" "north") :=
    hnorth.trans (by decide +kernel)
  have hreverse := hperm layeredLists.reverse (List.reverse_perm _).symm (by decide +kernel)
  exact ⟨hfound, hreverse.trans hfound,
    hrejected (hnone.mpr (by decide +kernel)) (.reply .command) _ rfl⟩

end DeviceRelay
