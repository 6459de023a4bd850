import DeviceRelay.Proofs.Problem
import DeviceRelay.Proofs.Schema.Member
import DeviceRelay.Proofs.Schema.Projection
import Mathlib.Data.List.Lex

/-!
# Values that conform to a shape

A value conforms to a shape if every part of it is of the kind that the shape has in its place: nothing is made to
fit. What does not fit is a problem at its place, `Schema.Misfit`, and `Schema.rank` says where a place stands: of two
members the one that is defined first, of two items the one that comes first.

                   Schema.Conforms        Schema.Misfit, Schema.rank
                          ▲                          ▲
    Schema.read v =    .ok item                .error problems

* `Schema.conforms_iff` — a value conforms exactly if it is read.
* `Schema.mem_problems_iff` — the problems that reading reports are the misfits,
* `Schema.ordered_problems` — in their order, each once.
* `Schema.read_eq_ok_iff` — what is read is the document with the projection of the value.
-/

namespace DeviceRelay

open Json (last?)

mutual

/-- A value is of the kinds that a shape asks for, without a change. -/
inductive Schema.Conforms : Schema → Json → Prop
  | text (s : String) : Schema.Conforms .text (.str s)
  | integer (n : Int) : Schema.Conforms .integer (.int n)
  | boolean (b : Bool) : Schema.Conforms .boolean (.bool b)
  | array {item : Schema} {values : List Json} (h : ∀ v ∈ values, Schema.Conforms item v) :
    Schema.Conforms (.array item) (.arr values)
  | object {members : Members} {values : List (String × Json)}
    (h : ∀ m ∈ members.toList, Member.Conforms m values) : Schema.Conforms (.object members) (.obj values)

/-- An object has what a member asks for; an optional member may be missing or null. -/
inductive Member.Conforms : Member → List (String × Json) → Prop
  | missing {m : Member} {values : List (String × Json)} (hm : m.isOptional = true)
    (h : ∀ name v, ¬m.Given values name v) : Member.Conforms m values
  | null {m : Member} {values : List (String × Json)} {name : String} (hm : m.isOptional = true)
    (h : m.Given values name .null) : Member.Conforms m values
  | given {m : Member} {values : List (String × Json)} {name : String} {v : Json}
    (h : m.Given values name v) (hv : Schema.Conforms m.schema v) : Member.Conforms m values

end

/-- A value is of the kind that a shape asks for, whatever is inside it. -/
def Schema.Suits : Schema → Json → Prop
  | .text, .str _ | .integer, .int _ | .boolean, .bool _ | .array _, .arr _ | .object _, .obj _ => True
  | _, _ => False

/-- What is wrong with a value of another kind. -/
def Schema.unsuited : Schema → ProblemKind
  | .text => .notText
  | .integer => .notInteger
  | .boolean => .notBoolean
  | .array _ => .notArray
  | .object _ => .notObject

mutual

/-- There is this problem with a value. -/
inductive Schema.Misfit : Schema → Json → Problem → Prop
  | kind {schema : Schema} {v : Json} (h : ¬schema.Suits v) : Schema.Misfit schema v ⟨schema.unsuited, []⟩
  | item {item : Schema} {values : List Json} {i : Nat} {v : Json} {p : Problem} (hi : values[i]? = some v)
    (h : Schema.Misfit item v p) : Schema.Misfit (.array item) (.arr values) (p.under (.index i))
  | member {members : Members} {values : List (String × Json)} {m : Member} {p : Problem}
    (hm : m ∈ members.toList) (h : Member.Misfit m values p) : Schema.Misfit (.object members) (.obj values) p

/-- There is this problem with an object's member. -/
inductive Member.Misfit : Member → List (String × Json) → Problem → Prop
  | missing {m : Member} {values : List (String × Json)} (hm : m.isOptional = false)
    (h : ∀ name v, ¬m.Given values name v) : Member.Misfit m values (.ofField m.wire .missing)
  | given {m : Member} {values : List (String × Json)} {name : String} {v : Json} {p : Problem}
    (h : m.Given values name v) (hnull : m.isOptional = true → v ≠ .null) (hp : Schema.Misfit m.schema v p) :
    Member.Misfit m values (p.under (.field name))

end

mutual

/-- The numbers that say where a place stands in a document: at every step down, how many members are defined in
front of the member, or how many items stand in front of the item. -/
def Schema.rank : Schema → List PathStep → List Nat
  | .array item, .index i :: path => i :: item.rank path
  | .object members, path => members.rank 0 path
  | _, _ => []

/-- The numbers of a place in a row of members, if `n` members stand in front of the row. -/
def Members.rank : Members → Nat → List PathStep → List Nat
  | .required wire own schema rest, n, step :: path | .optional wire own schema rest, n, step :: path =>
    if step = .field wire ∨ step = .field own then n :: schema.rank path else rest.rank (n + 1) (step :: path)
  | _, _, _ => []

end

/-! ### The problems of a member -/

/-- The problems that reading a member meets. -/
def Member.problems (m : Member) (values : List (String × Json)) : List Problem := Checked.problems (m.read values)

section Member

variable {m : Member} {values : List (String × Json)} {name : String} {v : Json}

theorem Member.problems_of_missing (h : ∀ name v, ¬m.Given values name v) :
    m.problems values = if m.isOptional then [] else [.ofField m.wire .missing] := by
  rw [problems, read_of_missing h]
  split <;> rfl

theorem Member.problems_of_null (hm : m.isOptional = true) (h : m.Given values name .null) :
    m.problems values = [] := by
  rw [problems, read_of_null hm h, Checked.problems_ok]

theorem Member.problems_of_given (h : m.Given values name v) (hnull : m.isOptional = true → v ≠ .null) :
    m.problems values = (Checked.problems (m.schema.read v)).map (Problem.under (.field name)) := by
  rw [problems, read_of_given h hnull, Checked.problems_map, Checked.problems_under]

end Member

/-- The problems of an object are those of its members, one member after another. -/
theorem Members.problems_read : ∀ (members : Members) (values : List (String × Json)),
    Checked.problems (members.read values) = members.toList.flatMap fun m => m.problems values
  | .done, _ => rfl
  | .required wire own schema rest, values => by
    rw [toList, List.flatMap_cons, ← problems_read rest values, Member.problems, ← Checked.problems_both,
      ← read_required, Checked.problems_map]
  | .optional wire own schema rest, values => by
    rw [toList, List.flatMap_cons, ← problems_read rest values, Member.problems, ← Checked.problems_both]
    exact congrArg Checked.problems read_optional

theorem Members.stated_read : ∀ {members : Members}, (∀ m ∈ members.toList, ∀ v, Checked.Stated (m.schema.read v)) →
    ∀ values, Checked.Stated (members.read values)
  | .done, _, _ => Checked.stated_ok ()
  | .required wire own schema rest, h, values => by
    obtain ⟨hschema, hrest⟩ := List.forall_mem_cons.mp h
    refine Checked.Stated.both ?_ (stated_read hrest values)
    split
    · simp [Checked.Stated]
    · next name v hfound => exact (hschema v).under (.field name)
  | .optional wire own schema rest, h, values => by
    obtain ⟨hschema, hrest⟩ := List.forall_mem_cons.mp h
    refine Checked.Stated.both ?_ (stated_read hrest values)
    split
    · exact Checked.stated_ok _
    · exact Checked.stated_ok _
    · next name v hne hfound => exact ((hschema v).under (.field name)).map _

/-- A value that is refused is refused for a problem. -/
theorem Schema.stated_read (schema : Schema) : ∀ v, Checked.Stated (schema.read v) := by
  induction schema using Schema.induction with
  | text =>
    intro v
    cases v with
    | str s => exact Checked.stated_ok s
    | _ => exact Checked.stated_refuse .notText
  | integer =>
    intro v
    cases v with
    | int n => exact Checked.stated_ok n
    | _ => exact Checked.stated_refuse .notInteger
  | boolean =>
    intro v
    cases v with
    | bool b => exact Checked.stated_ok b
    | _ => exact Checked.stated_refuse .notBoolean
  | array item ih =>
    intro v
    cases v with
    | arr values => exact Checked.stated_items (fun a _ => ih a) 0
    | _ => exact Checked.stated_refuse .notArray
  | object members ih =>
    intro v
    cases v with
    | obj values => exact Members.stated_read ih values
    | _ => exact Checked.stated_refuse .notObject

/-! ### What conforms, and what does not -/

/-- A member is as it has to be exactly if it has no problems, as far as the same is known of values. -/
theorem Member.conforms_iff {m : Member} {values : List (String × Json)}
    (ih : ∀ v, m.schema.Conforms v ↔ Checked.problems (m.schema.read v) = []) :
    m.Conforms values ↔ m.problems values = [] := by
  rcases m.missing_or_null_or_given values with hnone | ⟨hm, name, hnull⟩ | ⟨name, v, hgiven, hnull⟩
  · rw [problems_of_missing hnone]
    constructor
    · rintro (⟨hm, -⟩ | ⟨-, h⟩ | ⟨h, -⟩)
      · rw [if_pos hm]
      · exact absurd h (hnone _ _)
      · exact absurd h (hnone _ _)
    · intro h
      cases hm : m.isOptional with
      | true => exact .missing hm hnone
      | false => simp [hm] at h
  · exact iff_of_true (.null hm hnull) (problems_of_null hm hnull)
  · rw [problems_of_given hgiven hnull, List.map_eq_nil_iff, ← ih]
    constructor
    · rintro (⟨-, h⟩ | ⟨hm, h⟩ | ⟨h, hv⟩)
      · exact absurd hgiven (h name v)
      · exact absurd (given_unique h hgiven).2 (hnull hm)
      · rw [(given_unique h hgiven).2]
        exact hv
    · exact .given hgiven

/-- A value conforms to a shape exactly if reading it meets no problem. -/
theorem Schema.conforms_iff_problems (schema : Schema) :
    ∀ v, schema.Conforms v ↔ Checked.problems (schema.read v) = [] := by
  induction schema using Schema.induction with
  | text =>
    intro v
    cases v with
    | str s => exact iff_of_true (.text s) rfl
    | _ => exact iff_of_false (fun h => nomatch h) (List.cons_ne_nil _ _)
  | integer =>
    intro v
    cases v with
    | int n => exact iff_of_true (.integer n) rfl
    | _ => exact iff_of_false (fun h => nomatch h) (List.cons_ne_nil _ _)
  | boolean =>
    intro v
    cases v with
    | bool b => exact iff_of_true (.boolean b) rfl
    | _ => exact iff_of_false (fun h => nomatch h) (List.cons_ne_nil _ _)
  | array item ih =>
    intro v
    cases v with
    | arr values =>
      refine Iff.trans ?_ Checked.problems_items_eq_nil_iff.symm
      constructor
      · intro hvalues v hv
        cases hvalues with
        | array h => exact (ih v).mp (h v hv)
      · intro h
        exact .array fun v hv => (ih v).mpr (h v hv)
    | _ => exact iff_of_false (fun h => nomatch h) (List.cons_ne_nil _ _)
  | object members ih =>
    intro v
    cases v with
    | obj values =>
      show _ ↔ Checked.problems (members.read values) = []
      rw [Members.problems_read, List.flatMap_eq_nil_iff]
      constructor
      · intro hvalues m hm
        cases hvalues with
        | object h => exact (Member.conforms_iff (ih m hm)).mp (h m hm)
      · intro h
        exact .object fun m hm => (Member.conforms_iff (ih m hm)).mpr (h m hm)
    | _ => exact iff_of_false (fun h => nomatch h) (List.cons_ne_nil _ _)

/-- A value conforms to a shape exactly if it is read. -/
theorem Schema.conforms_iff {schema : Schema} {v : Json} : schema.Conforms v ↔ ∃ x, schema.read v = .ok x := by
  rw [conforms_iff_problems]
  exact Checked.problems_eq_nil_iff (schema.stated_read v)

/-- The problems of a member are its misfits, as far as the same is known of values. -/
theorem Member.mem_problems_iff {m : Member} {values : List (String × Json)} {p : Problem}
    (ih : ∀ v p, p ∈ Checked.problems (m.schema.read v) ↔ m.schema.Misfit v p) :
    p ∈ m.problems values ↔ m.Misfit values p := by
  rcases m.missing_or_null_or_given values with hnone | ⟨hm, name, hnull⟩ | ⟨name, v, hgiven, hnull⟩
  · rw [problems_of_missing hnone]
    constructor
    · intro hp
      cases hm : m.isOptional with
      | true => simp [hm] at hp
      | false =>
        obtain rfl : p = .ofField m.wire .missing := by simpa [hm] using hp
        exact .missing hm hnone
    · rintro (⟨hm, -⟩ | ⟨h, -, -⟩)
      · simp [hm]
      · exact absurd h (hnone _ _)
  · rw [problems_of_null hm hnull]
    refine iff_of_false (List.not_mem_nil) ?_
    rintro (⟨-, h⟩ | ⟨h, hne, -⟩)
    · exact h name .null hnull
    · exact hne hm (given_unique hnull h).2
  · rw [problems_of_given hgiven hnull, List.mem_map]
    constructor
    · rintro ⟨q, hq, rfl⟩
      exact .given hgiven hnull ((ih v q).mp hq)
    · rintro (⟨-, h⟩ | ⟨h, -, hq⟩)
      · exact absurd hgiven (h name v)
      · obtain ⟨rfl, rfl⟩ := given_unique hgiven h
        exact ⟨_, (ih _ _).mpr hq, rfl⟩

/-- A value of another kind has one problem, which is its kind. -/
theorem Schema.mem_problems_of_unsuited {schema : Schema} {v : Json} (h : ¬schema.Suits v) (p : Problem) :
    p ∈ Checked.problems (schema.read v) ↔ schema.Misfit v p := by
  have hread : schema.read v = Checked.refuse schema.unsuited := by
    cases schema <;> cases v <;> first | rfl | exact absurd trivial h
  rw [hread, Checked.problems_refuse, List.mem_singleton]
  constructor
  · rintro rfl
    exact .kind h
  · intro hp
    cases hp with
    | kind => rfl
    | item => exact absurd trivial h
    | member => exact absurd trivial h

/-- What reading reports of a value are its misfits. -/
theorem Schema.mem_problems_iff (schema : Schema) :
    ∀ v p, p ∈ Checked.problems (schema.read v) ↔ schema.Misfit v p := by
  induction schema using Schema.induction with
  | text =>
    intro v p
    cases v with
    | str s =>
      refine iff_of_false List.not_mem_nil fun hp => ?_
      cases hp with
      | kind h => exact h trivial
    | _ => exact mem_problems_of_unsuited (by simp [Suits]) p
  | integer =>
    intro v p
    cases v with
    | int n =>
      refine iff_of_false List.not_mem_nil fun hp => ?_
      cases hp with
      | kind h => exact h trivial
    | _ => exact mem_problems_of_unsuited (by simp [Suits]) p
  | boolean =>
    intro v p
    cases v with
    | bool b =>
      refine iff_of_false List.not_mem_nil fun hp => ?_
      cases hp with
      | kind h => exact h trivial
    | _ => exact mem_problems_of_unsuited (by simp [Suits]) p
  | array item ih =>
    intro v p
    cases v with
    | arr values =>
      refine Checked.mem_problems_items_iff.trans ⟨?_, ?_⟩
      · rintro ⟨i, v, q, hv, hq, rfl⟩
        rw [Nat.zero_add]
        exact .item hv ((ih v q).mp hq)
      · intro hp
        cases hp with
        | kind h => exact absurd trivial h
        | item hv hq => exact ⟨_, _, _, hv, (ih _ _).mpr hq, by rw [Nat.zero_add]⟩
    | _ => exact mem_problems_of_unsuited (by simp [Suits]) p
  | object members ih =>
    intro v p
    cases v with
    | obj values =>
      show p ∈ Checked.problems (members.read values) ↔ _
      rw [Members.problems_read, List.mem_flatMap]
      constructor
      · rintro ⟨m, hm, hp⟩
        exact .member hm ((Member.mem_problems_iff (ih m hm)).mp hp)
      · intro hp
        cases hp with
        | kind h => exact absurd trivial h
        | member hm hp => exact ⟨_, hm, (Member.mem_problems_iff (ih _ hm)).mpr hp⟩
    | _ => exact mem_problems_of_unsuited (by simp [Suits]) p

/-! ### The order of problems -/

/-- The problems come in the order of their places. -/
def Ordered (rank : List PathStep → List Nat) (problems : List Problem) : Prop :=
  problems.Pairwise fun p q => rank p.path < rank q.path

theorem Schema.ordered_items {item : Schema} (h : ∀ v, Ordered item.rank (Checked.problems (item.read v))) :
    ∀ (values : List Json) (n : Nat),
      Ordered (Schema.array item).rank (Checked.problems (Checked.items item.read n values))
  | [], _ => .nil
  | v :: rest, n => by
    rw [Ordered, Checked.problems_items_cons, List.pairwise_append]
    refine ⟨?_, ordered_items h rest (n + 1), ?_⟩
    · rw [List.pairwise_map]
      exact (h v).imp fun hlt => List.cons_lt_cons_iff.mpr (Or.inr ⟨rfl, hlt⟩)
    · intro p hp q hq
      obtain ⟨p, -, rfl⟩ := List.mem_map.mp hp
      obtain ⟨i, a, q, -, -, rfl⟩ := Checked.mem_problems_items_iff.mp hq
      exact List.cons_lt_cons_iff.mpr (Or.inl (by omega))

/-- A problem of a member is at a place inside it, under one of its names. -/
theorem Member.exists_path_of_mem_problems {m : Member} {values : List (String × Json)} {p : Problem}
    (h : p ∈ m.problems values) : ∃ name ∈ m.names, ∃ path, p.path = .field name :: path := by
  rcases m.missing_or_null_or_given values with hnone | ⟨hm, name, hnull⟩ | ⟨name, v, hgiven, hnull⟩
  · rw [problems_of_missing hnone] at h
    split at h
    · cases h
    · obtain rfl := List.mem_singleton.mp h
      exact ⟨m.wire, mem_names_iff.mpr (Or.inl rfl), [], rfl⟩
  · rw [problems_of_null hm hnull] at h
    cases h
  · rw [problems_of_given hgiven hnull] at h
    obtain ⟨q, -, rfl⟩ := List.mem_map.mp h
    exact ⟨name, mem_names_of_given hgiven, q.path, rfl⟩

/-- The problems of one member are in order, wherever the member is counted. -/
theorem Member.ordered_problems {m : Member} (h : ∀ v, Ordered m.schema.rank (Checked.problems (m.schema.read v)))
    {rank : List PathStep → List Nat} {n : Nat}
    (hrank : ∀ name ∈ m.names, ∀ path, rank (.field name :: path) = n :: m.schema.rank path)
    (values : List (String × Json)) : Ordered rank (m.problems values) := by
  rcases m.missing_or_null_or_given values with hnone | ⟨hm, name, hnull⟩ | ⟨name, v, hgiven, hnull⟩
  · rw [problems_of_missing hnone]
    split
    · exact .nil
    · exact List.pairwise_singleton _ _
  · rw [problems_of_null hm hnull]
    exact .nil
  · rw [problems_of_given hgiven hnull, Ordered, List.pairwise_map]
    refine (h v).imp fun hlt => ?_
    have hname := hrank name (mem_names_of_given hgiven)
    show rank (.field name :: _) < rank (.field name :: _)
    rw [hname, hname]
    exact List.cons_lt_cons_iff.mpr (Or.inr ⟨rfl, hlt⟩)

/-- A place in a row of members is counted from the number of members in front of the row on. -/
theorem Members.le_rank : ∀ (members : Members) {name : String}, name ∈ members.names →
    ∀ (n : Nat) (path : List PathStep), ∃ k more, members.rank n (.field name :: path) = k :: more ∧ n ≤ k
  | .done, _, h, _, _ => nomatch h
  | .required wire own schema rest, name, h, n, path | .optional wire own schema rest, name, h, n, path => by
    rw [rank]
    split
    · exact ⟨n, _, rfl, Nat.le_refl n⟩
    · next hne =>
      have hrest : name ∈ rest.names := by
        simp only [PathStep.field.injEq, not_or] at hne
        simpa [names, hne.1, hne.2] using h
      obtain ⟨k, more, hk, hle⟩ := le_rank rest hrest (n + 1) path
      exact ⟨k, more, hk, by omega⟩

/-- The problems of a member and of those behind it are in order, if the member is counted first. -/
theorem Members.ordered_cons {m : Member} {rest : Members} {values : List (String × Json)} {n : Nat}
    {rank : List PathStep → List Nat}
    (hm : ∀ name ∈ m.names, ∀ path, rank (.field name :: path) = n :: m.schema.rank path)
    (hrest : ∀ name ∈ rest.names, ∀ path, rank (.field name :: path) = rest.rank (n + 1) (.field name :: path))
    (hschema : ∀ v, Ordered m.schema.rank (Checked.problems (m.schema.read v)))
    (hmore : Ordered (rest.rank (n + 1)) (rest.toList.flatMap fun m => m.problems values)) :
    Ordered rank (m.problems values ++ rest.toList.flatMap fun m => m.problems values) := by
  have hpath : ∀ q ∈ rest.toList.flatMap (fun m => m.problems values),
      ∃ name ∈ rest.names, ∃ path, q.path = .field name :: path := by
    intro q hq
    obtain ⟨m, hmem, hq⟩ := List.mem_flatMap.mp hq
    obtain ⟨name, hname, hpath⟩ := Member.exists_path_of_mem_problems hq
    exact ⟨name, mem_names_iff.mpr ⟨m, hmem, hname⟩, hpath⟩
  refine List.pairwise_append.mpr ⟨Member.ordered_problems hschema hm values, ?_, ?_⟩
  · refine hmore.imp_of_mem fun {p q} hp hq hlt => ?_
    obtain ⟨name, hname, path, hp⟩ := hpath p hp
    obtain ⟨name', hname', path', hq⟩ := hpath q hq
    rw [hp, hq] at hlt ⊢
    rw [hrest name hname, hrest name' hname']
    exact hlt
  · intro p hp q hq
    obtain ⟨name, hname, path, hp⟩ := Member.exists_path_of_mem_problems hp
    obtain ⟨name', hname', path', hq⟩ := hpath q hq
    obtain ⟨k, more, hk, hle⟩ := rest.le_rank hname' (n + 1) path'
    rw [hp, hq, hm name hname, hrest name' hname', hk]
    exact List.cons_lt_cons_iff.mpr (Or.inl hle)

/-- The problems of the members of an object are in order, if those inside the members are. -/
theorem Members.ordered_problems : ∀ {members : Members}, members.Distinct →
    (∀ m ∈ members.toList, ∀ v, Ordered m.schema.rank (Checked.problems (m.schema.read v))) →
    ∀ (values : List (String × Json)) (n : Nat),
      Ordered (members.rank n) (members.toList.flatMap fun m => m.problems values)
  | .done, _, _, _, _ => .nil
  | .required wire own schema rest, ⟨⟨hwire, hown⟩, _, hdistinct⟩, h, values, n
  | .optional wire own schema rest, ⟨⟨hwire, hown⟩, _, hdistinct⟩, h, values, n => by
    obtain ⟨hschema, hrest⟩ := List.forall_mem_cons.mp h
    -- the names of the first member count as `n`, and those behind it are not among them
    have hfirst : ∀ name ∈ [wire, own], ∀ path,
        (if PathStep.field name = .field wire ∨ PathStep.field name = .field own then n :: schema.rank path
          else rest.rank (n + 1) (.field name :: path)) = n :: schema.rank path := by
      intro name hname path
      rw [if_pos]
      simpa using hname
    have hskip : ∀ name ∈ rest.names, ∀ path,
        (if PathStep.field name = .field wire ∨ PathStep.field name = .field own then n :: schema.rank path
          else rest.rank (n + 1) (.field name :: path)) = rest.rank (n + 1) (.field name :: path) := by
      intro name hname path
      rw [if_neg]
      rintro (hname' | hname')
      · exact hwire (PathStep.field.inj hname' ▸ hname)
      · exact hown (PathStep.field.inj hname' ▸ hname)
    rw [toList, List.flatMap_cons]
    exact ordered_cons hfirst hskip hschema (ordered_problems hdistinct hrest values (n + 1))

/-- The problems of a value are reported in the order of their places. -/
theorem Schema.ordered_problems (schema : Schema) :
    schema.Distinct → ∀ v, Ordered schema.rank (Checked.problems (schema.read v)) := by
  induction schema using Schema.induction with
  | array item ih =>
    intro h v
    cases v with
    | arr values => exact ordered_items (ih h) values 0
    | _ => exact List.pairwise_singleton _ _
  | object members ih =>
    intro h v
    cases v with
    | obj values =>
      show Ordered (members.rank 0) (Checked.problems (members.read values))
      rw [Members.problems_read]
      refine Members.ordered_problems h (fun m hm => ?_) values 0
      exact ih m hm (Members.distinct_of_mem h m hm)
    | _ => exact List.pairwise_singleton _ _
  | _ =>
    -- a leaf has at most one problem
    intro _ v
    cases v <;> first | exact .nil | exact List.pairwise_singleton _ _

/-! ### Reading as a whole -/

/-- The problems are those of the value: all of them, each at a place of its own, in the order of the places. -/
structure Schema.Reports (schema : Schema) (v : Json) (problems : List Problem) : Prop where
  ne_nil : problems ≠ []
  mem_iff : ∀ p, p ∈ problems ↔ schema.Misfit v p
  once : (problems.map Problem.path).Nodup
  ordered : Ordered schema.rank problems

/-- A value that is refused is refused with a report of its problems. -/
theorem Schema.reports_of_read {schema : Schema} (h : schema.Distinct) {v : Json} {problems : List Problem}
    (hread : schema.read v = .error problems) : schema.Reports v problems := by
  have hordered := schema.ordered_problems h v
  have hmem := schema.mem_problems_iff v
  rw [hread, Checked.problems_error] at hordered hmem
  refine ⟨?_, hmem, ?_, hordered⟩
  · rintro rfl
    exact schema.stated_read v hread
  · -- places that stand in front of one another are not the same
    refine List.pairwise_map.mpr (hordered.imp fun {p q} hlt hpath => ?_)
    rw [hpath] at hlt
    exact List.lt_irrefl _ hlt

/-- What is read is the document that is written as the projection of the value. -/
theorem Schema.read_eq_ok_iff {schema : Schema} (h : schema.Distinct) {v : Json} {x : schema.Item} :
    schema.read v = .ok x ↔ schema.Conforms v ∧ schema.write x = schema.project v := by
  constructor
  · intro hx
    exact ⟨conforms_iff.mpr ⟨x, hx⟩, schema.write_eq_project hx⟩
  · rintro ⟨hv, hx⟩
    obtain ⟨y, hy⟩ := conforms_iff.mp hv
    -- two documents that are written alike are the same, because both are read back
    have hwrite : schema.write x = schema.write y := hx.trans (schema.write_eq_project hy).symm
    have hread := schema.read_write x h
    rw [hwrite, schema.read_write y h] at hread
    rw [hy, hread]

end DeviceRelay
