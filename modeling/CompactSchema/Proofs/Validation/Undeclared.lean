import CompactSchema.Proofs.Schema.Order
import CompactSchema.Proofs.Validation.Conformance
import Mathlib.Logic.Relation

/-
Undeclared names.

A check looks members up by name: it asks whether the required names are there, and goes
into the members of declared ones.  So whatever else the objects hold that it meets, at any
depth, has no part in the verdict, nor in the violation that is reported.
-/

namespace CompactSchema

open Json (NamesIncrease insertMember)

theorem Json.lookup_map {α β : Type} (f : String → α → β) (key : String) (members : List (String × α)) :
    (members.map fun member => (member.1, f member.1 member.2)).lookup key =
      (members.lookup key).map (f key) := by
  induction members with
  | nil => rfl
  | cons member rest ih =>
      obtain ⟨name, value⟩ := member
      rw [List.map_cons, lookup_cons, lookup_cons, ih]
      by_cases here : key = name
      · subst here
        rw [if_pos rfl, if_pos rfl, Option.map_some]
      · rw [if_neg here, if_neg here]

namespace Check

theorem required_eq {members members' : List (String × Json)} {names : List String}
    (same : ∀ name ∈ names, (members.lookup name).isSome = (members'.lookup name).isSome) :
    required members names = required members' names := by
  induction names with
  | nil => rfl
  | cons name rest ih =>
      obtain ⟨first, others⟩ := List.forall_mem_cons.1 same
      unfold required
      rw [first, ih others]

theorem property_eq {check : Json → Verdict} {members members' : List (String × Json)} {name : String}
    (same : (members.lookup name).map check = (members'.lookup name).map check) :
    property check members name = property check members' name := by
  unfold property
  cases found : members.lookup name with
  | none =>
      rw [found, Option.map_none, eq_comm, Option.map_eq_none_iff] at same
      rw [same]
  | some value =>
      rw [found, Option.map_some, eq_comm, Option.map_eq_some_iff] at same
      obtain ⟨value', found', verdicts⟩ := same
      rw [found']
      exact congrArg (Verdict.within (.key name) (.property name)) verdicts.symm

end Check

namespace Schema

theorem checkProperties_eq {properties : List (String × Schema)} {members members' : List (String × Json)}
    (same : ∀ property ∈ properties,
      (members.lookup property.1).map property.2.check = (members'.lookup property.1).map property.2.check) :
    checkProperties properties members = checkProperties properties members' := by
  induction properties with
  | nil => rfl
  | cons property rest ih =>
      obtain ⟨first, others⟩ := List.forall_mem_cons.1 same
      unfold checkProperties
      rw [Check.property_eq first, ih others]

theorem check_array_eq {items : Schema} {elements elements' : List Json}
    (same : elements.map items.check = elements'.map items.check) (count : LengthBounds) :
    (array items count).check (.array elements) = (array items count).check (.array elements') := by
  have lengths := congrArg List.length same
  rw [List.length_map, List.length_map] at lengths
  unfold check
  simp only [lengths, Check.elements_eq same]

theorem check_object_eq {properties : List (String × Schema)} {required : List String}
    {members members' : List (String × Json)}
    (asked : ∀ name ∈ required, (members.lookup name).isSome = (members'.lookup name).isSome)
    (declared : ∀ property ∈ properties,
      (members.lookup property.1).map property.2.check = (members'.lookup property.1).map property.2.check) :
    (object properties required).check (.object members) =
      (object properties required).check (.object members') := by
  unfold check
  simp only [Check.required_eq asked, checkProperties_eq declared]

def knows (properties : List (String × Schema)) (required : List String) (name : String) : Bool :=
  (properties.lookup name).isSome || required.contains name

mutual

/-- The value without the members, at any depth, whose names are neither declared nor
required.  Members that are required only get fresh values, which may depend on where in the
value they stand. -/
def strip : Schema → (List DataStep → Json) → Json → Json
  | .array items _, fresh, .array elements =>
      .array (elements.mapIdx fun i element => items.strip (fun place => fresh (.index i :: place)) element)
  | .object properties required, fresh, .object members =>
      .object ((members.filter fun member => knows properties required member.1).map fun member =>
        (member.1, stripMember properties fresh member.1 member.2))
  | _, _, value => value

def stripMember : List (String × Schema) → (List DataStep → Json) → String → Json → Json
  | [], fresh, name, _ => fresh [.key name]
  | (declared, schema) :: rest, fresh, name, value =>
      if name = declared then schema.strip (fun place => fresh (.key name :: place)) value
      else stripMember rest fresh name value

end

theorem stripMember_of_lookup {properties : List (String × Schema)} {name : String} {child : Schema}
    (declared : properties.lookup name = some child) (fresh : List DataStep → Json) (value : Json) :
    stripMember properties fresh name value = child.strip (fun place => fresh (.key name :: place)) value := by
  induction properties with
  | nil => cases declared
  | cons property rest ih =>
      obtain ⟨other, schema⟩ := property
      rw [Json.lookup_cons] at declared
      unfold stripMember
      by_cases here : name = other
      · rw [if_pos here, Option.some.injEq] at declared
        rw [if_pos here, declared]
      · rw [if_neg here] at declared
        rw [if_neg here, ih declared]

mutual

theorem check_strip (schema : Schema) (ordered : schema.Ordered) (fresh : List DataStep → Json)
    (value : Json) : schema.check (schema.strip fresh value) = schema.check value := by
  cases schema with
  | array items count =>
      cases value with
      | array elements =>
          unfold strip
          refine check_array_eq ?_ count
          apply List.ext_getElem?
          intro i
          rw [List.getElem?_map, List.getElem?_map, List.getElem?_mapIdx, Option.map_map]
          exact congrArg (Option.map · elements[i]?) (funext fun element => check_strip items ordered _ element)
      | _ => rfl
  | object properties required =>
      cases value with
      | object members =>
          unfold strip
          -- A name that the check asks for is known, so the filter lets its member through.
          refine check_object_eq ?_ ?_
          · intro name asked
            have kept : knows properties required name = true := by
              rw [knows, List.contains_iff_mem.2 asked, Bool.or_true]
            rw [Json.lookup_map, Json.lookup_filter, if_pos kept, Option.isSome_map]
          · intro property inside
            have declared := (Json.lookup_eq_some_iff_mem ordered.1).2 inside
            have kept : knows properties required property.1 = true := by
              rw [knows, declared, Option.isSome_some, Bool.true_or]
            rw [Json.lookup_map, Json.lookup_filter, if_pos kept, Option.map_map]
            refine congrArg (Option.map · (members.lookup property.1)) (funext fun value => ?_)
            rw [Function.comp_apply, stripMember_of_lookup declared]
            exact check_strip_of_mem properties ordered.2 property inside _ value
      | _ => rfl
  | _ => cases value <;> rfl

theorem check_strip_of_mem (properties : List (String × Schema)) (ordered : PropertiesOrdered properties) :
    ∀ property ∈ properties, ∀ fresh value,
      property.2.check (property.2.strip fresh value) = property.2.check value := by
  cases properties with
  | nil => exact fun property impossible => absurd impossible List.not_mem_nil
  | cons property rest =>
      obtain ⟨name, schema⟩ := property
      exact List.forall_mem_cons.2 ⟨fun fresh value => check_strip schema ordered.1 fresh value,
        check_strip_of_mem rest ordered.2⟩

end

/-- One member of an undeclared name is put in somewhere, or gets another value.  A required
name must be there before. -/
inductive Adds : Schema → Json → Json → Prop
  | put {properties : List (String × Schema)} {required : List String} {members : List (String × Json)}
      (name : String) (undeclared : properties.lookup name = none)
      (presentIfRequired : name ∈ required → (members.lookup name).isSome = true) (value : Json) :
      Adds (.object properties required) (.object members) (.object (insertMember name value members))
  | member {properties : List (String × Schema)} {required : List String} {members : List (String × Json)}
      (name : String) {child : Schema} {value value' : Json} (declared : properties.lookup name = some child)
      (present : members.lookup name = some value) (inner : Adds child value value') :
      Adds (.object properties required) (.object members) (.object (insertMember name value' members))
  | element {items : Schema} {value value' : Json} (count : LengthBounds) (before after : List Json)
      (inner : Adds items value value') :
      Adds (.array items count) (.array (before ++ value :: after)) (.array (before ++ value' :: after))

theorem PropertiesOrdered.of_mem {properties : List (String × Schema)} (ordered : PropertiesOrdered properties)
    {property : String × Schema} (inside : property ∈ properties) : property.2.Ordered := by
  induction inside with
  | head => exact ordered.1
  | tail _ _ ih => exact ih ordered.2

theorem check_eq_of_adds {schema : Schema} (ordered : schema.Ordered) {value value' : Json}
    (adds : schema.Adds value value') : schema.check value' = schema.check value := by
  induction adds with
  | @put properties required members name undeclared presentIfRequired value =>
      refine check_object_eq ?_ ?_
      · intro key asked
        rw [Json.lookup_insertMember]
        split
        · rename_i here
          subst here
          rw [presentIfRequired asked, Option.isSome_some]
        · rfl
      · intro property inside
        have declared := (Json.lookup_eq_some_iff_mem ordered.1).2 inside
        have different : property.1 ≠ name := by
          intro same
          rw [same, undeclared] at declared
          cases declared
        rw [Json.lookup_insertMember, if_neg different]
  | @member properties required members name child value value' declared present inner ih =>
      have same := ih (ordered.2.of_mem ((Json.lookup_eq_some_iff_mem ordered.1).1 declared))
      refine check_object_eq ?_ ?_
      · intro key _
        rw [Json.lookup_insertMember]
        split
        · rename_i here
          rw [here, present, Option.isSome_some, Option.isSome_some]
        · rfl
      · intro property inside
        rw [Json.lookup_insertMember]
        split
        · rename_i here
          have found := (Json.lookup_eq_some_iff_mem ordered.1).2 inside
          rw [here, declared, Option.some.injEq] at found
          rw [here, present, ← found, Option.map_some, Option.map_some, same]
        · rfl
  | element count before after inner ih =>
      refine check_array_eq ?_ count
      rw [List.map_append, List.map_append, List.map_cons, List.map_cons, ih ordered]

/-- Members of undeclared names, at any depth, can be taken away, put in and changed without
any change of the result, so long as no required name is lost or gained. -/
theorem check_ignores_undeclared (schema : Schema) (ordered : schema.Ordered) (value : Json) :
    (∀ fresh, schema.check (schema.strip fresh value) = schema.check value) ∧
      ∀ value', Relation.ReflTransGen schema.Adds value value' → schema.check value' = schema.check value := by
  refine ⟨fun fresh => check_strip schema ordered fresh value, ?_⟩
  intro value' additions
  induction additions with
  | refl => rfl
  | tail _ last ih => rw [check_eq_of_adds ordered last, ih]

def album : Schema :=
  .object
    [("tracks", .array (.object [("title", .string { length := { least := some 2 } })] ["note", "title"]) {})]
    ["owner", "tracks"]

/-- The title of the second track is too short. -/
def shortAlbum : Json :=
  .object
    [("owner", .null),
      ("tracks",
        .array
          [.object [("note", .null), ("title", .string "ab")], .object [("note", .null), ("title", .string "c")]])]

def labelledAlbum : Json :=
  .object
    [("label", .boolean true),
      ("owner", .null),
      ("tracks",
        .array
          [.object [("note", .null), ("title", .string "ab")],
            .object [("length", .string "long"), ("note", .string "loud"), ("title", .string "c")]])]

theorem check_ignores_undeclared_album :
    album.check (album.strip (fun place => .string (dataPath place)) labelledAlbum) = album.check labelledAlbum ∧
      album.check labelledAlbum = album.check shortAlbum ∧
      album.check shortAlbum = .error ⟨[.key "tracks", .index 1, .key "title"], .tooShort 2 1⟩ := by
  have ordered : album.Ordered := by
    simp only [album, Ordered, PropertiesOrdered, NamesIncrease]
    decide
  have labelled : Relation.ReflTransGen album.Adds shortAlbum labelledAlbum := by
    refine .head (.put "label" rfl (by decide) (.boolean true)) ?_
    refine .head (.member "tracks" rfl rfl (.element {} [_] [] (.put "length" rfl (by decide) (.string "long")))) ?_
    exact .single (.member "tracks" rfl rfl (.element {} [_] [] (.put "note" rfl (fun _ => rfl) (.string "loud"))))
  exact ⟨(check_ignores_undeclared album ordered labelledAlbum).1 _,
    (check_ignores_undeclared album ordered shortAlbum).2 labelledAlbum labelled, rfl⟩

end Schema
end CompactSchema
