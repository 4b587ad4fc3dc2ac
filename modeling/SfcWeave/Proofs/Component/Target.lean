import SfcWeave.Proofs.Weaving.Insertion
import SfcWeave.Proofs.Weaving.Outcome

/-!
# Which default export is the component

The contenders are the default-exported classes and the default-exported calls with an object
literal as their first argument, wherever they stand in the tree of a script. If items stand in
their places, the first contender in the source alone decides what is found, and each of the others
is worth one warning:

    findTarget_decides : ItemsPlaced script script.module.items →
      ∃ contenders, IsListing script script.module.items contenders ∧
        (findTarget file script).run.run session = …

An item is known by its place: the way to it from the top, as numbers among siblings. So a listing
holds every contender once, and it is in the order of the source.
-/

namespace SfcWeave

open Script

variable {σ : Type} {parse : Parser} {script : Snapshot parse}

/-! ### Places of items -/

/-- The item at a place: the numbers among siblings on the way to it. -/
inductive ItemAt : List Item → List Nat → Item → Prop
  | here {item items} : ItemAt (item :: items) [0] item
  | inside {item items place found} : ItemAt item.nested place found →
      ItemAt (item :: items) (0 :: place) found
  | behind {item items n place found} : ItemAt items (n :: place) found →
      ItemAt (item :: items) ((n + 1) :: place) found

/-- One span lies inside another. -/
def Encloses (outer inner : Span) : Prop := outer.start ≤ inner.start ∧ inner.stop ≤ outer.stop

instance (outer inner : Span) : Decidable (Encloses outer inner) :=
  inferInstanceAs (Decidable (_ ∧ _))

/-- A default-exported class has a closing brace. -/
def RoleClosed (script : Snapshot parse) : ItemRole → Prop
  | .defaultClass declaration => '\x7d' ∈ (script.source declaration.span).toList
  | _ => True

instance (script : Snapshot parse) : DecidablePred (RoleClosed script)
  | .defaultClass _ => inferInstanceAs (Decidable (_ ∈ _))
  | .importFrom _ | .defaultExpression _ | .plain => .isTrue trivial

mutual

/-- The items inside an item stand inside its span. -/
def ItemPlaced (script : Snapshot parse) : Item → Prop
  | .mk span role nested =>
    RoleClosed script role ∧ (∀ child ∈ nested, Encloses span child.span) ∧
      ItemsPlaced script nested

/-- Siblings stand one behind the other. -/
def ItemsPlaced (script : Snapshot parse) : List Item → Prop
  | [] => True
  | item :: items =>
    ItemPlaced script item ∧ (∀ next ∈ items, item.span.stop ≤ next.span.start) ∧
      ItemsPlaced script items

end

mutual

instance decidableItemPlaced (script : Snapshot parse) :
    (item : Item) → Decidable (ItemPlaced script item)
  | .mk span role nested =>
    have := decidableItemsPlaced script nested
    inferInstanceAs (Decidable (RoleClosed script role ∧
      (∀ child ∈ nested, Encloses span child.span) ∧ ItemsPlaced script nested))

instance decidableItemsPlaced (script : Snapshot parse) :
    (items : List Item) → Decidable (ItemsPlaced script items)
  | [] => .isTrue trivial
  | item :: items =>
    have := decidableItemPlaced script item
    have := decidableItemsPlaced script items
    inferInstanceAs (Decidable (ItemPlaced script item ∧
      (∀ next ∈ items, item.span.stop ≤ next.span.start) ∧ ItemsPlaced script items))

end

/-! ### Contenders -/

/-- The default exports among which the component is looked for. -/
inductive Contends : ItemRole → Prop
  | cls {declaration} : Contends (.defaultClass declaration)
  | options {callee span members others} :
      Contends (.defaultExpression (.call callee (.plain (.object span members) :: others)))

/-- What a contender is found to be, if it is the first. The brace that closes a class is the last
one in its text. -/
inductive IsCandidate (script : Snapshot parse) : ItemRole → Candidate → Prop
  | unnamedClass {span decorators} :
      IsCandidate script (.defaultClass ⟨none, span, decorators⟩) (.unnamedClass span)
  | cls {name span decorators before after} :
      (script.source span).toList = before ++ '\x7d' :: after → '\x7d' ∉ after →
      IsCandidate script (.defaultClass ⟨some name, span, decorators⟩)
        (.component (.cls ⟨name, span, span.start + Text.byteLength before, childTags decorators⟩))
  | options {callee span members others} :
      IsCandidate script
        (.defaultExpression (.call callee (.plain (.object span members) :: others)))
        (.component (.options span))

/-- The registrations of a contender under reserved tags; those of a class without a name are not
looked at. -/
def shadowedBy : ItemRole → List String
  | .defaultClass ⟨some _, _, decorators⟩ => shadowedTags decorators
  | _ => []

/-- A contender, where it stands, and what it is found to be. -/
structure Contender where
  place : List Nat
  item : Item
  candidate : Candidate

namespace Contender

/-- What is found of a contender. -/
def found (c : Contender) : Found := ⟨c.candidate, shadowedBy c.item.role⟩

/-- A contender inside the first item. -/
def inside (c : Contender) : Contender := { c with place := 0 :: c.place }

/-- A contender behind the first item. -/
def behind (c : Contender) : Contender :=
  { c with place := c.place.modifyHead (· + 1) }

/-- A contender comes before another one: its item ends before the other starts, or holds it. -/
def Precedes (a b : Contender) : Prop :=
  a.place < b.place ∧ (a.item.span.stop ≤ b.item.span.start ∨ a.place <+: b.place)

end Contender

/-- A list of all contenders, each once, in the order of the source. -/
structure IsListing (script : Snapshot parse) (items : List Item) (contenders : List Contender) :
    Prop where
  complete : ∀ place item, (∃ c ∈ contenders, c.place = place ∧ c.item = item) ↔
    ItemAt items place item ∧ Contends item.role
  candidate : ∀ c ∈ contenders, IsCandidate script c.item.role c.candidate
  ordered : contenders.Pairwise Contender.Precedes

variable {item : Item} {items nested : List Item} {place : List Nat} {role : ItemRole} {span : Span}
  {contenders inner outer : List Contender} {a b : Contender}

/-! ### Places and spans -/

theorem itemAt_cons_iff {found : Item} : ItemAt (item :: items) place found ↔
    (place = [0] ∧ found = item) ∨ (∃ rest, place = 0 :: rest ∧ ItemAt item.nested rest found) ∨
      ∃ n rest, place = (n + 1) :: rest ∧ ItemAt items (n :: rest) found := by
  constructor
  · intro h
    cases h with
    | here => exact .inl ⟨rfl, rfl⟩
    | inside h => exact .inr (.inl ⟨_, rfl, h⟩)
    | behind h => exact .inr (.inr ⟨_, _, rfl, h⟩)
  · rintro (⟨rfl, rfl⟩ | ⟨rest, rfl, h⟩ | ⟨n, rest, rfl, h⟩)
    · exact .here
    · exact .inside h
    · exact .behind h

theorem ItemAt.ne_nil {found : Item} (h : ItemAt items place found) : place ≠ [] := by
  cases h <;> exact List.cons_ne_nil _ _

theorem roleClosed_of_placed (h : ItemPlaced script item) : RoleClosed script item.role := by
  obtain ⟨span, role, nested⟩ := item
  exact h.1

/-- What holds of the spans of siblings, and of all spans inside one of which it holds, holds of the
items inside them. -/
theorem forall_itemAt (holds : Span → Prop) {found : Item}
    (hmono : ∀ outer inner, Encloses outer inner → holds outer → holds inner)
    (hplaced : ItemsPlaced script items) (hholds : ∀ item ∈ items, holds item.span)
    (h : ItemAt items place found) : holds found.span := by
  induction h with
  | here => exact hholds _ List.mem_cons_self
  | @inside item items place found h ih =>
    obtain ⟨span, role, nested⟩ := item
    obtain ⟨⟨-, hchildren, hnested⟩, -, -⟩ := hplaced
    apply ih hnested
    intro child hchild
    exact hmono span child.span (hchildren child hchild) (hholds _ List.mem_cons_self)
  | behind h ih =>
    obtain ⟨-, -, hitems⟩ := hplaced
    exact ih hitems fun item hitem => hholds item (List.mem_cons_of_mem _ hitem)

/-- An item inside another one ends before its parent does. -/
theorem stop_le_of_itemAt {found : Item} (hplaced : ItemPlaced script item)
    (h : ItemAt item.nested place found) : found.span.stop ≤ item.span.stop := by
  obtain ⟨span, role, nested⟩ := item
  obtain ⟨-, hchildren, hnested⟩ := hplaced
  apply forall_itemAt (fun inner => inner.stop ≤ span.stop) _ hnested _ h
  · intro outer inner henc houter
    exact Nat.le_trans henc.2 houter
  · intro child hchild
    exact (hchildren child hchild).2

/-- An item behind another one, or inside such an item, starts after it. -/
theorem le_start_of_itemAt {found : Item} (hplaced : ItemsPlaced script (item :: items))
    (h : ItemAt items place found) : item.span.stop ≤ found.span.start := by
  obtain ⟨-, hnext, hitems⟩ := hplaced
  apply forall_itemAt (fun inner => item.span.stop ≤ inner.start) _ hitems hnext h
  intro outer inner henc houter
  exact Nat.le_trans houter henc.1

/-! ### Listings -/

namespace Contender

@[simp] theorem inside_place (c : Contender) : c.inside.place = 0 :: c.place := rfl

@[simp] theorem inside_item (c : Contender) : c.inside.item = c.item := rfl

@[simp] theorem inside_candidate (c : Contender) : c.inside.candidate = c.candidate := rfl

@[simp] theorem behind_place (c : Contender) :
    c.behind.place = c.place.modifyHead (· + 1) := rfl

@[simp] theorem behind_item (c : Contender) : c.behind.item = c.item := rfl

@[simp] theorem behind_candidate (c : Contender) : c.behind.candidate = c.candidate := rfl

theorem precedes_inside (h : a.Precedes b) : a.inside.Precedes b.inside := by
  obtain ⟨hlt, horder⟩ := h
  refine ⟨by simpa using hlt, ?_⟩
  rcases horder with hstop | hprefix
  · exact .inl hstop
  · exact .inr (by simpa using hprefix)

theorem precedes_behind (ha : a.place ≠ []) (hb : b.place ≠ []) (h : a.Precedes b) :
    a.behind.Precedes b.behind := by
  obtain ⟨m, rest, ha⟩ := List.exists_cons_of_ne_nil ha
  obtain ⟨n, rest', hb⟩ := List.exists_cons_of_ne_nil hb
  unfold Precedes at *
  simp only [behind_place, behind_item, ha, hb, List.modifyHead_cons, List.cons_lt_cons_iff,
    List.cons_prefix_cons, Nat.add_lt_add_iff_right, Nat.add_right_cancel_iff] at h ⊢
  exact h

theorem first_precedes_inside {candidate : Candidate} (h : a.place ≠ []) :
    Precedes ⟨[0], item, candidate⟩ a.inside := by
  obtain ⟨n, rest, hplace⟩ := List.exists_cons_of_ne_nil h
  exact ⟨by simp [hplace], .inr (by simp)⟩

/-- What is behind an item comes after it, and after all inside it. -/
theorem precedes_behind_of_stop_le {before : Contender} {rest : List Nat}
    (hplaced : ItemsPlaced script (item :: items)) (hplace : before.place = 0 :: rest)
    (hstop : before.item.span.stop ≤ item.span.stop) (hat : ItemAt items a.place a.item) :
    before.Precedes a.behind := by
  obtain ⟨n, rest', hbehind⟩ := List.exists_cons_of_ne_nil hat.ne_nil
  exact ⟨by simp [hplace, hbehind, List.cons_lt_cons_iff],
    .inl (Nat.le_trans hstop (le_start_of_itemAt hplaced hat))⟩

end Contender

theorem isListing_nil : IsListing script [] [] := by
  refine ⟨?_, by simp, .nil⟩
  intro place item
  constructor
  · rintro ⟨c, hc, -⟩
    cases hc
  · rintro ⟨hat, -⟩
    cases hat

theorem IsListing.itemAt (h : IsListing script items contenders) :
    ∀ c ∈ contenders, ItemAt items c.place c.item := fun c hc =>
  ((h.complete c.place c.item).mp ⟨c, hc, rfl, rfl⟩).1

/-- An item comes before what is inside it, and both come before what is behind. -/
theorem pairwise_precedes_cons {own : Option Candidate}
    (hplaced : ItemsPlaced script (item :: items)) (hinner : IsListing script item.nested inner)
    (houter : IsListing script items outer) :
    ((own.map (Contender.mk [0] item)).toList ++ inner.map Contender.inside ++
        outer.map Contender.behind).Pairwise Contender.Precedes := by
  rw [List.pairwise_append, List.pairwise_append, List.pairwise_map, List.pairwise_map]
  refine ⟨⟨?_, ?_, ?_⟩, ?_, ?_⟩
  · cases own <;> simp
  · exact hinner.ordered.imp Contender.precedes_inside
  · intro first hfirst second hsecond
    simp only [Option.mem_toList, Option.map_eq_some_iff, List.mem_map] at hfirst hsecond
    obtain ⟨candidate, -, rfl⟩ := hfirst
    obtain ⟨c, hc, rfl⟩ := hsecond
    exact Contender.first_precedes_inside (hinner.itemAt c hc).ne_nil
  · refine houter.ordered.imp_of_mem ?_
    intro a b ha hb hprecedes
    exact Contender.precedes_behind (houter.itemAt a ha).ne_nil (houter.itemAt b hb).ne_nil
      hprecedes
  · intro first hfirst second hsecond
    simp only [List.mem_append, Option.mem_toList, Option.map_eq_some_iff, List.mem_map]
      at hfirst hsecond
    obtain ⟨c, hc, rfl⟩ := hsecond
    rcases hfirst with ⟨candidate, -, rfl⟩ | ⟨d, hd, rfl⟩
    · exact Contender.precedes_behind_of_stop_le hplaced rfl (Nat.le_refl _) (houter.itemAt c hc)
    · have hstop := stop_le_of_itemAt hplaced.1 (hinner.itemAt d hd)
      exact Contender.precedes_behind_of_stop_le hplaced rfl hstop (houter.itemAt c hc)

/-- The contenders of items are the first item, if it is one, those inside it, and those behind
it. -/
theorem isListing_cons {own : Option Candidate} (hplaced : ItemsPlaced script (item :: items))
    (hown : ∀ c ∈ own, IsCandidate script item.role c) (hcontends : own.isSome ↔ Contends item.role)
    (hinner : IsListing script item.nested inner) (houter : IsListing script items outer) :
    IsListing script (item :: items)
      ((own.map (Contender.mk [0] item)).toList ++ inner.map .inside ++ outer.map .behind) := by
  constructor
  case complete =>
    intro place found
    simp only [itemAt_cons_iff, List.mem_append, List.mem_map, Option.mem_toList,
      Option.map_eq_some_iff]
    constructor
    · rintro ⟨c, (⟨candidate, hcandidate, rfl⟩ | ⟨c, hc, rfl⟩) | ⟨c, hc, rfl⟩, rfl, rfl⟩
      · exact ⟨.inl ⟨rfl, rfl⟩, hcontends.mp (by simp [hcandidate])⟩
      · have hcontender := (hinner.complete c.place c.item).mp ⟨c, hc, rfl, rfl⟩
        exact ⟨.inr (.inl ⟨c.place, rfl, hcontender.1⟩), hcontender.2⟩
      · have hcontender := (houter.complete c.place c.item).mp ⟨c, hc, rfl, rfl⟩
        obtain ⟨n, rest, hplace⟩ := List.exists_cons_of_ne_nil hcontender.1.ne_nil
        refine ⟨.inr (.inr ⟨n, rest, by simp [hplace], ?_⟩), hcontender.2⟩
        rw [← hplace]
        exact hcontender.1
    · rintro ⟨⟨rfl, rfl⟩ | ⟨rest, rfl, hat⟩ | ⟨n, rest, rfl, hat⟩, hrole⟩
      · obtain ⟨candidate, hcandidate⟩ := Option.isSome_iff_exists.mp (hcontends.mpr hrole)
        exact ⟨_, .inl (.inl ⟨candidate, hcandidate, rfl⟩), rfl, rfl⟩
      · obtain ⟨c, hc, rfl, rfl⟩ := (hinner.complete rest found).mpr ⟨hat, hrole⟩
        exact ⟨c.inside, .inl (.inr ⟨c, hc, rfl⟩), rfl, rfl⟩
      · obtain ⟨c, hc, hplace, rfl⟩ := (houter.complete (n :: rest) found).mpr ⟨hat, hrole⟩
        exact ⟨c.behind, .inr ⟨c, hc, rfl⟩, by simp [hplace], rfl⟩
  case candidate =>
    intro c hc
    simp only [List.mem_append, List.mem_map, Option.mem_toList,
      Option.map_eq_some_iff] at hc
    rcases hc with (⟨candidate, hcandidate, rfl⟩ | ⟨c, hc, rfl⟩) | ⟨c, hc, rfl⟩
    · exact hown candidate hcandidate
    · exact hinner.candidate c hc
    · exact houter.candidate c hc
  case ordered => exact pairwise_precedes_cons hplaced hinner houter

/-! ### What the search finds -/

/-- A class with a closing brace is a candidate. -/
theorem exists_ofClass? {declaration : ClassDeclaration}
    (h : RoleClosed script (.defaultClass declaration)) :
    ∃ candidate, IsCandidate script (.defaultClass declaration) candidate ∧
      ofClass? script declaration = some ⟨candidate, shadowedBy (.defaultClass declaration)⟩ := by
  obtain ⟨name, span, decorators⟩ := declaration
  cases name with
  | none => exact ⟨_, .unnamedClass, rfl⟩
  | some name =>
    obtain ⟨before, after, hsource, hlast⟩ : ∃ before after,
        (script.source span).toList = before ++ '\x7d' :: after ∧ '\x7d' ∉ after := by
      obtain ⟨after, before, hreverse, hlast⟩ :=
        List.eq_append_cons_of_mem (List.mem_reverse.mpr h)
      refine ⟨before.reverse, after.reverse, ?_, by simpa using hlast⟩
      rw [← List.reverse_reverse (script.source span).toList, hreverse]
      simp
    refine ⟨_, .cls hsource hlast, ?_⟩
    unfold ofClass?
    dsimp only
    rw [hsource, lastOffset?_append_cons hlast]
    rfl

/-- An expression that is a candidate is a call with an object literal as its first argument. -/
theorem contends_of_ofExpression? {value : Expr} {found : Found}
    (h : ofExpression? value = some found) :
    Contends (.defaultExpression value) ∧
      IsCandidate script (.defaultExpression value) found.candidate ∧ found.shadowed = [] := by
  unfold ofExpression? at h
  split at h
  · obtain rfl := Option.some.inj h
    exact ⟨.options, .options, rfl⟩
  · cases h

/-- What is found at an item itself comes before what is found inside it. -/
theorem exists_candidatesOfItem (h : RoleClosed script item.role) :
    ∃ own : Option Candidate, (∀ c ∈ own, IsCandidate script item.role c) ∧
      (own.isSome ↔ Contends item.role) ∧
      candidatesOfItem script item =
        (own.map (Found.mk · (shadowedBy item.role))).toList ++
          candidatesOfItems script item.nested := by
  obtain ⟨span, role, nested⟩ := item
  dsimp only [Item.role, Item.nested] at h ⊢
  cases role with
  | importFrom | plain =>
    refine ⟨none, by simp, ?_, by simp [candidatesOfItem]⟩
    constructor <;> intro h <;> cases h
  | defaultClass declaration =>
    obtain ⟨candidate, hcandidate, hfound⟩ := exists_ofClass? h
    refine ⟨some candidate, ?_, ?_, ?_⟩
    · simpa using hcandidate
    · exact ⟨fun _ => .cls, fun _ => rfl⟩
    · simp [candidatesOfItem, hfound]
  | defaultExpression value =>
    cases hvalue : ofExpression? value with
    | none =>
      refine ⟨none, by simp, ⟨fun h => (by cases h), ?_⟩, by simp [candidatesOfItem, hvalue]⟩
      rintro ⟨⟩
      cases hvalue
    | some found =>
      obtain ⟨hcontends, hcandidate, hshadowed⟩ := contends_of_ofExpression? hvalue
      obtain ⟨candidate, shadowed⟩ := found
      obtain rfl : shadowed = [] := hshadowed
      refine ⟨some candidate, ?_, ⟨fun _ => hcontends, fun _ => rfl⟩, ?_⟩
      · simpa using hcandidate
      · simp [candidatesOfItem, hvalue, shadowedBy]

mutual

-- items hold items, so the listing of an item's own is the other lemma one level deeper
theorem exists_listing_nested {item : Item} (hplaced : ItemPlaced script item) :
    ∃ inner, IsListing script item.nested inner ∧
      candidatesOfItems script item.nested = inner.map Contender.found := by
  obtain ⟨span, role, nested⟩ := item
  obtain ⟨-, -, hnested⟩ := hplaced
  exact exists_listing hnested

/-- The search goes through the contenders in the order of the source. -/
theorem exists_listing {items : List Item} (hplaced : ItemsPlaced script items) :
    ∃ contenders, IsListing script items contenders ∧
      candidatesOfItems script items = contenders.map Contender.found := by
  cases items with
  | nil => exact ⟨[], isListing_nil, rfl⟩
  | cons item items =>
    have ⟨hitem, _, hitems⟩ := hplaced
    obtain ⟨inner, hinner, hinnerFound⟩ := exists_listing_nested hitem
    obtain ⟨outer, houter, houterFound⟩ := exists_listing hitems
    obtain ⟨own, hown, hcontends, hfound⟩ := exists_candidatesOfItem (roleClosed_of_placed hitem)
    refine ⟨_, isListing_cons hplaced hown hcontends hinner houter, ?_⟩
    rw [candidatesOfItems, hfound, hinnerFound, houterFound]
    simp only [List.map_append, List.map_map]
    cases own <;> rfl

end

/-- The first contender in the source decides what is found, and each other one is worth a warning
with the offset at which it starts. -/
theorem findTarget_decides (script : Snapshot parse)
    (hplaced : ItemsPlaced script script.module.items) (file : String) (session : Session σ) :
    ∃ contenders, IsListing script script.module.items contenders ∧
      (findTarget file script).run.run session =
        (match contenders.head?.map (·.candidate) with
          | none => .ok none
          | some (.component target) => .ok (some target)
          | some (.unnamedClass span) => .error (.unnamedClass file span),
        session.warned
          ((contenders.flatMap fun c => (shadowedBy c.item.role).map .shadowedTag) ++
            contenders.tail.map fun c => .extraComponent file c.candidate.start)) := by
  obtain ⟨contenders, hlisting, hfound⟩ := exists_listing hplaced
  have hlocate : locate file script =
      { first := contenders.head?.map (·.candidate)
        warnings := (contenders.flatMap fun c => (shadowedBy c.item.role).map .shadowedTag) ++
          contenders.tail.map fun c => .extraComponent file c.candidate.start } := by
    unfold locate
    simp only [hfound, List.flatMap_map, List.drop_one, List.head?_map, ← List.map_tail,
      List.map_map, Option.map_map]
    rfl
  have hrun := run_findTarget file script session
  rw [hlocate] at hrun
  exact ⟨contenders, hlisting, hrun⟩

/-- A component in a namespace, and a class behind it. -/
def namespaceSample : String :=
  "namespace N \x7b export default f(\x7b\x7d) \x7d\nexport default class A \x7b\x7d"

theorem findTarget_decides_namespaceSample :
    ∃ script : Snapshot Script.parse, script.text = namespaceSample ∧
      ItemsPlaced script script.module.items ∧
      ∃ contenders, IsListing script script.module.items contenders ∧
        contenders.head?.map (·.candidate) = some (.component (.options ⟨31, 33⟩)) ∧
        ((findTarget "A.vue" script).run.run (⟨(), []⟩ : Session Unit)).2.warnings =
          [.extraComponent "A.vue" 52] := by
  have hread : (Snapshot.ofText Script.parse namespaceSample).toOption.any fun script =>
      ItemsPlaced script script.module.items ∧
        ((findTarget "A.vue" script).run.run (⟨(), []⟩ : Session Unit)).1.toOption =
          some (some (.options ⟨31, 33⟩)) ∧
        ((findTarget "A.vue" script).run.run (⟨(), []⟩ : Session Unit)).2.warnings =
          [.extraComponent "A.vue" 52] := by
    decide +kernel
  cases hscript : Snapshot.ofText Script.parse namespaceSample with
  | error e =>
    rw [hscript] at hread
    cases hread
  | ok script =>
    rw [hscript] at hread
    obtain ⟨hplaced, hfirst, hwarnings⟩ := of_decide_eq_true hread
    obtain ⟨contenders, hlisting, hrun⟩ :=
      findTarget_decides script hplaced "A.vue" (⟨(), []⟩ : Session Unit)
    refine ⟨script, Snapshot.ofText_eq_ok_iff.mp hscript, hplaced, contenders, hlisting, ?_,
      hwarnings⟩
    rw [hrun] at hfirst
    -- only a component at the head is found without an error
    cases hhead : contenders.head?.map (·.candidate) with
    | none =>
      rw [hhead] at hfirst
      cases hfirst
    | some candidate =>
      rw [hhead] at hfirst
      cases candidate with
      | component target =>
        cases hfirst
        rfl
      | unnamedClass span => cases hfirst

end SfcWeave
