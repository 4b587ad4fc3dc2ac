import Mathlib.Data.List.Induction
import Mathlib.Data.List.Nodup
import SfcWeave.Component.ChildTags

/-!
# Which tags a class registers

A decorator registers a component with a direct member of the object that is its `components`:
`Registers` says so by the places of the decorator and of the member, and by their forms. The tags
of the child components are those of all registrations, in the order of their places, and each only
where it occurs first:

    childTags_firstOccurrences :
      ∃ registrations, ListsRegistrations decorators registrations ∧
        ∀ tags, childTags decorators = tags ↔ IsFirstOccurrences (registrations.map …) tags

What no form allows for registers nothing, such as the keys of nested objects, and decorators that
are called with anything besides one object.
-/

namespace SfcWeave

open Script

variable {decorator value : Expr} {decorators : List Expr} {member : Member}
  {members : List Member} {key : PropertyKey} {name text tag : String} {tags all : List String}

/-! ### Keys and values -/

/-- The text of a key that is a name or a string. -/
inductive KeyText : PropertyKey → String → Prop
  | name (text : String) : KeyText (.name text) text
  | string (text : String) : KeyText (.string text) text

theorem text?_eq_some_iff : key.text? = some text ↔ KeyText key text := by
  constructor
  · intro h
    cases key with
    | name _ => cases h; exact .name text
    | string _ => cases h; exact .string text
    | other => cases h
  · rintro (_ | _) <;> rfl

/-- The key of a member that registers a component. -/
inductive HasKey : Member → String → Prop
  | shorthand (name : String) : HasKey (.shorthand name) name
  | keyValue {key : PropertyKey} {text : String} (value : Expr) : KeyText key text →
      HasKey (.keyValue key value) text

theorem registeredKey?_eq_some_iff : registeredKey? member = some text ↔ HasKey member text := by
  constructor
  · intro h
    cases member with
    | shorthand _ => cases h; exact .shorthand text
    | keyValue key value => exact .keyValue value (text?_eq_some_iff.mp h)
    | withDefault _ => cases h
    | method _ => cases h
    | spread _ => cases h
  · rintro (_ | ⟨value, htext⟩)
    · rfl
    · exact text?_eq_some_iff.mpr htext

/-- The first member `name: value` has this value. -/
def FirstValue (name : String) (members : List Member) (value : Expr) : Prop :=
  ∃ before key after, members = before ++ .keyValue key value :: after ∧ KeyText key name ∧
    ∀ key' value', .keyValue key' value' ∈ before → ¬ KeyText key' name

theorem firstValue_cons_iff : FirstValue name (member :: members) value ↔
    (∃ key, member = .keyValue key value ∧ KeyText key name) ∨
    (∀ key' value', member = .keyValue key' value' → ¬ KeyText key' name) ∧
      FirstValue name members value := by
  constructor
  · rintro ⟨before, key, after, hmembers, hkey, hnone⟩
    cases before with
    | nil =>
      obtain ⟨rfl, rfl⟩ := List.cons.inj hmembers
      exact .inl ⟨key, rfl, hkey⟩
    | cons first before =>
      obtain ⟨rfl, rfl⟩ := List.cons.inj hmembers
      refine .inr ⟨?_, before, key, after, rfl, hkey, ?_⟩
      · rintro key' value' rfl
        exact hnone key' value' List.mem_cons_self
      · intro key' value' hmem
        exact hnone key' value' (List.mem_cons_of_mem _ hmem)
  · rintro (⟨key, rfl, hkey⟩ | ⟨hfirst, before, key, after, rfl, hkey, hnone⟩)
    · exact ⟨[], key, members, rfl, hkey, by simp⟩
    · refine ⟨member :: before, key, after, rfl, hkey, ?_⟩
      intro key' value' hmem
      rcases List.mem_cons.mp hmem with heq | hmem
      · exact hfirst key' value' heq.symm
      · exact hnone key' value' hmem

theorem memberValue?_eq_some_iff :
    memberValue? name members = some value ↔ FirstValue name members value := by
  fun_induction memberValue? name members with
  | case1 => simp [FirstValue]
  | case2 key found rest hkey =>
    rw [firstValue_cons_iff]
    simp [← text?_eq_some_iff, hkey, eq_comm]
  | case3 key found rest hkey ih =>
    rw [firstValue_cons_iff, ih]
    simp [← text?_eq_some_iff, hkey]
  | case4 member rest hmember ih =>
    rw [firstValue_cons_iff, ih]
    constructor
    · intro h
      exact .inr ⟨fun key' value' heq => absurd heq (hmember key' value'), h⟩
    · rintro (⟨key', heq, -⟩ | ⟨-, h⟩)
      · exact absurd heq (hmember key' value)
      · exact h

/-! ### Registrations -/

/-- The object with the components of a decorator has these members: the decorator is a call with
one argument, which is an object with `components`. -/
inductive ComponentsOf : Expr → List Member → Prop
  | call {callee : Expr} {outer inner : Span} {options members : List Member} :
      FirstValue "components" options (.object inner members) →
      ComponentsOf (.call callee [.plain (.object outer options)]) members

/-- A registration: the numbers of a decorator of the class and of a member of its components, and
the key of the member. -/
structure Registration where
  decorator : Nat
  member : Nat
  key : String

namespace Registration

/-- A registration comes before another one: by its decorator, and by its member in the same one. -/
def Precedes (a b : Registration) : Prop :=
  a.decorator < b.decorator ∨ a.decorator = b.decorator ∧ a.member < b.member

end Registration

/-- A class has a registration. -/
def Registers (decorators : List Expr) (r : Registration) : Prop :=
  ∃ decorator members member, decorators[r.decorator]? = some decorator ∧
    ComponentsOf decorator members ∧ members[r.member]? = some member ∧ HasKey member r.key

/-- A list of all registrations of a class, each once, in the order of their places. -/
structure ListsRegistrations (decorators : List Expr) (registrations : List Registration) :
    Prop where
  mem_iff : ∀ r, r ∈ registrations ↔ Registers decorators r
  ordered : registrations.Pairwise Registration.Precedes

/-- The members of the components of a decorator. -/
def componentMembers? (decorator : Expr) : Option (List Member) :=
  ((decoratorOptions? decorator).bind (memberValue? "components")).bind objectMembers?

theorem objectMembers?_eq_some_iff :
    objectMembers? value = some members ↔ ∃ span, value = .object span members := by
  cases value <;> simp [objectMembers?]

theorem decoratorOptions?_eq_some_iff : decoratorOptions? decorator = some members ↔
    ∃ callee span, decorator = .call callee [.plain (.object span members)] := by
  constructor
  · intro h
    unfold decoratorOptions? at h
    split at h
    · next callee options =>
      obtain ⟨span, rfl⟩ := objectMembers?_eq_some_iff.mp h
      exact ⟨callee, span, rfl⟩
    · cases h
  · rintro ⟨callee, span, rfl⟩
    rfl

theorem componentMembers?_eq_some_iff :
    componentMembers? decorator = some members ↔ ComponentsOf decorator members := by
  simp only [componentMembers?, Option.bind_eq_some_iff, decoratorOptions?_eq_some_iff,
    memberValue?_eq_some_iff, objectMembers?_eq_some_iff]
  constructor
  · rintro ⟨_, ⟨options, ⟨callee, outer, rfl⟩, hvalue⟩, inner, rfl⟩
    exact .call hvalue
  · rintro ⟨hvalue⟩
    exact ⟨_, ⟨_, ⟨_, _, rfl⟩, hvalue⟩, _, rfl⟩

/-- The registrations by the members of an object. -/
def memberRegistrations (decorator : Nat) (members : List Member) : List Registration :=
  members.zipIdx.filterMap fun place =>
    (registeredKey? place.1).map fun key => ⟨decorator, place.2, key⟩

/-- The registrations of a class, in order. -/
def registrations (decorators : List Expr) : List Registration :=
  decorators.zipIdx.flatMap fun place =>
    memberRegistrations place.2 ((componentMembers? place.1).getD [])

theorem mem_memberRegistrations_iff {r : Registration} {i : Nat} :
    r ∈ memberRegistrations i members ↔
      r.decorator = i ∧ ∃ member, members[r.member]? = some member ∧ HasKey member r.key := by
  obtain ⟨decorator, index, key⟩ := r
  simp only [memberRegistrations, List.mem_filterMap, Option.map_eq_some_iff, Prod.exists,
    List.mem_zipIdx_iff_getElem?, registeredKey?_eq_some_iff, Registration.mk.injEq]
  constructor
  · rintro ⟨member, _, hmember, _, hkey, rfl, rfl, rfl⟩
    exact ⟨rfl, member, hmember, hkey⟩
  · rintro ⟨rfl, member, hmember, hkey⟩
    exact ⟨member, index, hmember, key, hkey, rfl, rfl, rfl⟩

theorem mem_registrations_iff {r : Registration} :
    r ∈ registrations decorators ↔ Registers decorators r := by
  simp only [registrations, Registers, List.mem_flatMap, Prod.exists,
    List.mem_zipIdx_iff_getElem?, mem_memberRegistrations_iff, ← componentMembers?_eq_some_iff]
  constructor
  · rintro ⟨decorator, _, hdecorator, rfl, member, hmember, hkey⟩
    cases hmembers : componentMembers? decorator with
    | none => simp [hmembers] at hmember
    | some members =>
      rw [hmembers, Option.getD_some] at hmember
      exact ⟨decorator, members, member, hdecorator, hmembers, hmember, hkey⟩
  · rintro ⟨decorator, members, member, hdecorator, hmembers, hmember, hkey⟩
    refine ⟨decorator, r.decorator, hdecorator, rfl, member, ?_, hkey⟩
    rw [hmembers, Option.getD_some, hmember]

/-- Elements with their numbers are in the order of the numbers. -/
theorem pairwise_zipIdx {α : Type} (as : List α) :
    as.zipIdx.Pairwise fun a b => a.2 < b.2 := by
  rw [← List.pairwise_map (f := Prod.snd) (R := (· < ·)), List.zipIdx_map_snd]
  exact List.pairwise_lt_range'

theorem listsRegistrations_registrations (decorators : List Expr) :
    ListsRegistrations decorators (registrations decorators) := by
  refine ⟨fun _ => mem_registrations_iff, ?_⟩
  rw [registrations, List.pairwise_flatMap]
  constructor
  · rintro ⟨decorator, i⟩ -
    rw [memberRegistrations, List.pairwise_filterMap]
    refine (pairwise_zipIdx _).imp ?_
    rintro ⟨_, j⟩ ⟨_, k⟩ hlt r hr r' hr'
    obtain ⟨_, -, rfl⟩ := Option.map_eq_some_iff.mp hr
    obtain ⟨_, -, rfl⟩ := Option.map_eq_some_iff.mp hr'
    exact .inr ⟨rfl, hlt⟩
  · refine (pairwise_zipIdx decorators).imp ?_
    rintro ⟨_, i⟩ ⟨_, j⟩ hlt r hr r' hr'
    rw [mem_memberRegistrations_iff] at hr hr'
    exact .inl (hr.1 ▸ hr'.1 ▸ hlt)

theorem map_key_memberRegistrations (i : Nat) (members : List Member) :
    (memberRegistrations i members).map Registration.key = members.filterMap registeredKey? := by
  conv_rhs => rw [← List.zipIdx_map_fst 0 members, List.filterMap_map]
  simp [memberRegistrations, List.map_filterMap, Function.comp_def]

theorem registeredNames_eq (decorator : Expr) :
    registeredNames decorator =
      ((componentMembers? decorator).getD []).filterMap registeredKey? := by
  unfold registeredNames componentMembers?
  split
  · next h => rw [h]; rfl
  · next h => rw [h]; rfl

theorem map_key_registrations (decorators : List Expr) :
    (registrations decorators).map Registration.key = decorators.flatMap registeredNames := by
  conv_rhs => rw [← List.zipIdx_map_fst 0 decorators, List.flatMap_map]
  simp [registrations, List.map_flatMap, map_key_memberRegistrations, registeredNames_eq]

/-! ### First occurrences -/

/-- `tags` has what occurs in `all`, each once and in the order in which it occurs there first. -/
structure IsFirstOccurrences (all tags : List String) : Prop where
  nodup : tags.Nodup
  mem_iff : ∀ tag, tag ∈ tags ↔ tag ∈ all
  ordered : tags.Pairwise fun a b => all.idxOf a < all.idxOf b

/-- What is in the order of its first occurrences stays so when something is appended. -/
theorem pairwise_idxOf_append (hmem : ∀ tag ∈ tags, tag ∈ all) (more : List String)
    (h : tags.Pairwise fun a b => all.idxOf a < all.idxOf b) :
    tags.Pairwise fun a b => (all ++ more).idxOf a < (all ++ more).idxOf b := by
  refine h.imp_of_mem ?_
  intro a b ha hb hlt
  rwa [List.idxOf_append_of_mem (hmem a ha), List.idxOf_append_of_mem (hmem b hb)]

theorem isFirstOccurrences_eraseDups (all : List String) :
    IsFirstOccurrences all all.eraseDups := by
  induction all using List.reverseRec with
  | nil => exact ⟨.nil, by simp, .nil⟩
  | append_singleton all tag ih =>
    have hall : ∀ tag ∈ all.eraseDups, tag ∈ all := fun tag => (ih.mem_iff tag).mp
    have hordered := pairwise_idxOf_append hall [tag] ih.ordered
    by_cases hmem : tag ∈ all
    · -- it has occurred already, and adds nothing
      have hsame : (all ++ [tag]).eraseDups = all.eraseDups := by
        simp [List.eraseDups_append, List.removeAll, hmem]
      rw [hsame]
      refine ⟨ih.nodup, ?_, hordered⟩
      intro other
      rw [ih.mem_iff, List.mem_append, List.mem_singleton]
      exact ⟨.inl, fun h => h.elim id fun heq => heq ▸ hmem⟩
    · have hnew : (all ++ [tag]).eraseDups = all.eraseDups ++ [tag] := by
        simp [List.eraseDups_append, List.eraseDups_cons, List.removeAll, hmem]
      have hother : tag ∉ all.eraseDups := fun h => hmem (hall tag h)
      rw [hnew]
      refine ⟨?_, fun other => by simp, ?_⟩
      · rw [← List.concat_eq_append]
        exact List.Nodup.concat hother ih.nodup
      · rw [List.pairwise_append]
        refine ⟨hordered, List.pairwise_singleton _ tag, ?_⟩
        simp only [List.mem_singleton, forall_eq]
        intro other hother
        rw [List.idxOf_append_of_mem (hall other hother), List.idxOf_append_of_notMem hmem]
        exact Nat.lt_add_right _ (List.idxOf_lt_length_of_mem (hall other hother))

theorem IsFirstOccurrences.unique {tags' : List String} (h : IsFirstOccurrences all tags)
    (h' : IsFirstOccurrences all tags') : tags = tags' := by
  have hperm : tags.Perm tags' := (List.perm_ext_iff_of_nodup h.nodup h'.nodup).mpr fun tag =>
    (h.mem_iff tag).trans (h'.mem_iff tag).symm
  apply hperm.eq_of_pairwise _ h.ordered h'.ordered
  intro a b _ _ hab hba
  exact absurd hab (Nat.lt_asymm hba)

theorem eraseDups_eq_iff : all.eraseDups = tags ↔ IsFirstOccurrences all tags := by
  constructor
  · rintro rfl
    exact isFirstOccurrences_eraseDups all
  · exact (isFirstOccurrences_eraseDups all).unique

/-- The child tags of a class are those of its registrations, each where it occurs first. -/
theorem childTags_firstOccurrences (decorators : List Expr) :
    ∃ registrations, ListsRegistrations decorators registrations ∧
      ∀ tags, childTags decorators = tags ↔
        IsFirstOccurrences (registrations.map fun r => hyphenate r.key) tags := by
  refine ⟨registrations decorators, listsRegistrations_registrations decorators, ?_⟩
  intro tags
  have htags : (registrations decorators).map (fun r => hyphenate r.key) =
      registeredTags decorators := by
    rw [registeredTags, ← map_key_registrations, List.map_map]
    rfl
  rw [htags]
  exact eraseDups_eq_iff

end SfcWeave
