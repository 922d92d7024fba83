import SecureBinding.Go.Encoding
import SecureBinding.Go.Json.Parse
import Mathlib.Data.List.Nodup

/-!
# Go.Json.Unmarshal

How `encoding/json` decodes the members of an object.

A member goes to the struct field of exactly its name or, failing that, to the one
whose name it equals ignoring case; a member that matches no field is ignored, and
of several members for one field the last one wins. A `map[string]any` has a slot
for every name. A `Shape` is a decoding target seen from this side: it says which
slot a member goes to, and what the value of the member is decoded into.
-/

namespace SecureBinding.Go.Json

/-! ### Matching names -/

/-- `foldName`, on the names that can match an ASCII name: letters in upper case,
with U+017F for `S` and U+212A for `K`. -/
def foldName : GoString → GoString
  | [] => []
  | 0xc5 :: 0xbf :: s => 0x53 :: foldName s
  | 0xe2 :: 0x84 :: 0xaa :: s => 0x4b :: foldName s
  | a :: s => (if 0x61 ≤ a ∧ a ≤ 0x7a then a - 0x20 else a) :: foldName s

def matchField {α : Type} (fields : List (GoString × α)) (name : GoString) :
    Option (GoString × α) :=
  (fields.find? fun f => f.1 == name).or (fields.find? fun f => foldName f.1 == foldName name)

/-! ### Decoding targets -/

inductive Shape
  /-- A target without members, or a value that is ignored. -/
  | leaf
  /-- `any`: objects become maps, at every depth. -/
  | any
  | struct (fields : List (GoString × Shape))

namespace Shape

/-- The slot a member of an object goes to, if any. -/
def slot : Shape → GoString → Option GoString
  | leaf, _ => none
  | any, name => some name
  | struct fields, name => (matchField fields name).map Prod.fst

/-- The target of a member's value. -/
def member : Shape → GoString → Shape
  | leaf, _ => leaf
  | any, _ => any
  | struct fields, name => ((matchField fields name).map Prod.snd).getD leaf

/-- The target of an item of an array. -/
def item : Shape → Shape
  | any => any
  | _ => leaf

/-- Two members go to the same slot. -/
def SameSlot (shape : Shape) (name name' : GoString) : Prop :=
  ∃ slot, shape.slot name = some slot ∧ shape.slot name' = some slot

/-- Two different spellings of a field name, equal ignoring case. -/
def Respelled : Shape → GoString → GoString → Prop
  | struct fields, name, name' =>
    name ≠ name' ∧ foldName name = foldName name' ∧ ∃ f ∈ fields, foldName f.1 = foldName name
  | _, _, _ => False

/-- The field names of every struct are different, also ignoring case. -/
inductive WellNamed : Shape → Prop
  | leaf : WellNamed leaf
  | any : WellNamed any
  | struct {fields : List (GoString × Shape)} (names : (fields.map fun f => foldName f.1).Nodup)
      (each : ∀ f ∈ fields, f.2.WellNamed) : WellNamed (struct fields)

end Shape

/-! ### Decoding structs -/

section Struct

variable {C : Type}

/-- How a value is stored in a struct, if the type of the field allows. -/
abbrev Store (C : Type) := Json → C → Option C

structure StructField (C : Type) where
  store : Store C
  shape : Shape := .leaf

abbrev StructType (C : Type) := List (GoString × StructField C)

def StructType.shape (fields : StructType C) : Shape :=
  .struct (fields.map fun f => (f.1, f.2.shape))

/-- The members of an object, stored in the fields they match. -/
def storeMembers (fields : StructType C) : List (GoString × Json) → C → Option C
  | [], c => some c
  | (name, v) :: ms, c =>
    match matchField fields name with
    | none => storeMembers fields ms c
    | some (_, field) => (field.store v c).bind (storeMembers fields ms)

/-- `json.Unmarshal` into a struct: `null` leaves it alone. -/
def storeStruct (fields : StructType C) : Store C
  | .null, c => some c
  | .obj ms, c => storeMembers fields ms c
  | _, _ => none

/-- A `string` field. -/
def storeString (set : GoString → C → C) : Store C
  | .null, c => some c
  | .str s, c => some (set s c)
  | _, _ => none

/-- The items of a `[]string`, `old` being what the slice holds: `null` leaves an
item alone. -/
def storeItems : List GoString → List Json → Option (List GoString)
  | _, [] => some []
  | old, .str s :: vs => (storeItems old.tail vs).map (s :: ·)
  | old, .null :: vs => (storeItems old.tail vs).map (old.headD [] :: ·)
  | _, _ => none

/-- A `[]string` field. -/
def storeStrings (get : C → List GoString) (set : List GoString → C → C) : Store C
  | .null, c => some (set [] c)
  | .arr vs, c => (storeItems (get c) vs).map fun values => set values c
  | _, _ => none

/-- The items of a slice of structs, `old` being what the slice holds: an item is decoded into the
struct that is there, or into a zero one. -/
def storeStructItems {D : Type} (fields : StructType D) (zero : D) :
    List D → List Json → Option (List D)
  | _, [] => some []
  | old, v :: vs =>
    (storeStruct fields v (old.headD zero)).bind fun d =>
      (storeStructItems fields zero old.tail vs).map (d :: ·)

/-- A slice of structs. -/
def storeStructs {D : Type} (fields : StructType D) (zero : D) (get : C → List D)
    (set : List D → C → C) : Store C
  | .null, c => some (set [] c)
  | .arr vs, c => (storeStructItems fields zero (get c) vs).map fun values => set values c
  | _, _ => none

/-- The value of a number without sign, fraction and exponent. -/
def decimal (raw : Bytes) : Option Nat :=
  if raw ≠ [] ∧ raw.all (fun a => 0x30 ≤ a && a ≤ 0x39) then
    some (raw.foldl (fun n a => n * 10 + (a.toNat - 0x30)) 0)
  else none

/-- `strconv.ParseInt` of a number, for 64 bits. -/
def parseInt : Bytes → Option Int
  | 0x2d :: raw => ((decimal raw).filter (· ≤ 2 ^ 63)).map fun n => -(n : Int)
  | raw => ((decimal raw).filter (· < 2 ^ 63)).map fun n => (n : Int)

/-- An `int` field. -/
def storeInt (set : Int → C → C) : Store C
  | .null, c => some c
  | .num raw, c => (parseInt raw).map fun n => set n c
  | _, _ => none

/-- The items of an array that is stored in a `[]byte`, `old` being what the slice holds. -/
def storeByteItems : Bytes → List Json → Option Bytes
  | _, [] => some []
  | old, .num raw :: vs =>
    ((decimal raw).filter (· < 256)).bind fun n =>
      (storeByteItems old.tail vs).map (UInt8.ofNat n :: ·)
  | old, .null :: vs => (storeByteItems old.tail vs).map (old.headD 0 :: ·)
  | _, _ => none

/-- A `[]byte` field: base64 in a string, or an array of numbers. -/
def storeBytes (get : C → Bytes) (set : Bytes → C → C) : Store C
  | .null, c => some (set [] c)
  | .str s, c => (base64StdDecode s).map fun bytes => set bytes c
  | .arr vs, c => (storeByteItems (get c) vs).map fun bytes => set bytes c
  | _, _ => none

end Struct

/-- Decoding into a `map[string]any`: the last member of a name wins. -/
def storeMap (ms : List (GoString × Json)) (name : GoString) : Option Json :=
  ms.reverse.lookup name

/-! ### Ambiguity -/

/-- No object decoded into a target, at any depth, has two members that `clash`. -/
inductive FreeOf (clash : Shape → GoString → GoString → Prop) : Shape → Json → Prop
  | null {shape : Shape} : FreeOf clash shape .null
  | bool {shape : Shape} {b : Bool} : FreeOf clash shape (.bool b)
  | num {shape : Shape} {raw : Bytes} : FreeOf clash shape (.num raw)
  | str {shape : Shape} {s : GoString} : FreeOf clash shape (.str s)
  | arr {shape : Shape} {items : List Json} (each : ∀ v ∈ items, FreeOf clash shape.item v) :
      FreeOf clash shape (.arr items)
  | obj {shape : Shape} {members : List (GoString × Json)}
      (pairs : members.Pairwise fun m m' => ¬clash shape m.1 m'.1)
      (each : ∀ m ∈ members, FreeOf clash (shape.member m.1) m.2) :
      FreeOf clash shape (.obj members)

/-- No object has two members that the decoder maps to the same slot. -/
def Unambiguous : Shape → Json → Prop := FreeOf Shape.SameSlot

/-- No object has members with different spellings of one field name. -/
def UniformlySpelled : Shape → Json → Prop := FreeOf Shape.Respelled

/-- No object, at any depth, has two members of exactly one name. -/
inductive NoDuplicates : Json → Prop
  | null : NoDuplicates .null
  | bool {b : Bool} : NoDuplicates (.bool b)
  | num {raw : Bytes} : NoDuplicates (.num raw)
  | str {s : GoString} : NoDuplicates (.str s)
  | arr {items : List Json} (each : ∀ v ∈ items, NoDuplicates v) : NoDuplicates (.arr items)
  | obj {members : List (GoString × Json)} (names : (members.map Prod.fst).Nodup)
      (each : ∀ m ∈ members, NoDuplicates m.2) : NoDuplicates (.obj members)

/-- If names are different ignoring case, matching ignores case. -/
theorem matchField_eq_find {α : Type} {fields : List (GoString × α)}
    (h : (fields.map fun f => foldName f.1).Nodup) (name : GoString) :
    matchField fields name = fields.find? fun f => foldName f.1 == foldName name := by
  unfold matchField
  cases hexact : fields.find? fun f => f.1 == name with
  | none => rfl
  | some f =>
    rw [Option.some_or]
    have hmem := List.mem_of_find?_eq_some hexact
    have hname : f.1 = name := by simpa using List.find?_some hexact
    cases hfold : fields.find? fun f => foldName f.1 == foldName name with
    | none =>
      have := List.find?_eq_none.mp hfold f hmem
      simp [hname] at this
    | some f' =>
      -- Two fields that match are one and the same.
      have hmem' := List.mem_of_find?_eq_some hfold
      have hname' : foldName f'.1 = foldName name := by simpa using List.find?_some hfold
      rw [List.inj_on_of_nodup_map h hmem hmem' (by rw [hname, hname'])]

theorem Shape.wellNamed_member {shape : Shape} (h : shape.WellNamed) (name : GoString) :
    (shape.member name).WellNamed := by
  cases h with
  | leaf => exact .leaf
  | any => exact .any
  | @struct fields names each =>
    rw [Shape.member, matchField_eq_find names]
    cases hfind : fields.find? fun f => foldName f.1 == foldName name with
    | none => exact .leaf
    | some f => exact each f (List.mem_of_find?_eq_some hfind)

theorem StructType.wellNamed_shape {C : Type} {fields : StructType C}
    (names : (fields.map fun f => foldName f.1).Nodup)
    (each : ∀ f ∈ fields, f.2.shape.WellNamed) : (StructType.shape fields).WellNamed := by
  refine .struct ?_ ?_
  · rw [List.map_map]
    exact names
  · intro f hf
    obtain ⟨g, hg, rfl⟩ := List.mem_map.mp hf
    exact each g hg

theorem Shape.wellNamed_item {shape : Shape} : shape.item.WellNamed := by
  cases shape with
  | leaf => exact .leaf
  | any => exact .any
  | struct fields => exact .leaf

/-- Two different names share a slot exactly when they are spellings of one field
name. -/
theorem Shape.sameSlot_iff_respelled {shape : Shape} (h : shape.WellNamed)
    {name name' : GoString} (hne : name ≠ name') :
    shape.SameSlot name name' ↔ shape.Respelled name name' := by
  cases h with
  | leaf => simp [SameSlot, Respelled, slot]
  | any => simp [SameSlot, Respelled, slot, hne.symm]
  | @struct fields names each =>
    simp only [SameSlot, slot, matchField_eq_find names]
    constructor
    · rintro ⟨slot, hslot, hslot'⟩
      obtain ⟨f, hf, rfl⟩ := Option.map_eq_some_iff.mp hslot
      obtain ⟨f', hf', heq⟩ := Option.map_eq_some_iff.mp hslot'
      have hfold : foldName f.1 = foldName name := by simpa using List.find?_some hf
      have hfold' : foldName f'.1 = foldName name' := by simpa using List.find?_some hf'
      refine ⟨hne, ?_, f, List.mem_of_find?_eq_some hf, hfold⟩
      rw [← hfold, ← hfold', heq]
    · rintro ⟨-, hfold, f, hmem, hf⟩
      rw [← hfold]
      cases hfind : fields.find? fun f => foldName f.1 == foldName name with
      | none =>
        have := List.find?_eq_none.mp hfind f hmem
        simp [hf] at this
      | some f' => exact ⟨f'.1, rfl, rfl⟩

/-- Without members of one name, ambiguity can only come from different spellings. -/
theorem unambiguous_iff_uniformlySpelled {shape : Shape} {v : Json} (hnms : shape.WellNamed)
    (h : NoDuplicates v) : Unambiguous shape v ↔ UniformlySpelled shape v := by
  constructor
  · intro hfree
    clear h
    induction hfree with
    | null => exact .null
    | bool => exact .bool
    | num => exact .num
    | str => exact .str
    | arr _ ih => exact .arr fun v hv => ih v hv Shape.wellNamed_item
    | @obj shape members pairs _ ih =>
      refine .obj (pairs.imp ?_) fun m hm => ih m hm (Shape.wellNamed_member hnms m.1)
      intro m m' hno hresp
      -- A name is not respelled as itself.
      have hne : m.1 ≠ m'.1 := by
        cases shape with
        | struct fields => exact hresp.1
        | leaf => exact hresp.elim
        | any => exact hresp.elim
      exact hno ((Shape.sameSlot_iff_respelled hnms hne).mpr hresp)
  · intro hfree
    induction hfree with
    | null => exact .null
    | bool => exact .bool
    | num => exact .num
    | str => exact .str
    | arr _ ih =>
      cases h with
      | arr each => exact .arr fun v hv => ih v hv Shape.wellNamed_item (each v hv)
    | obj pairs _ ih =>
      cases h with
      | obj names each =>
        refine .obj ?_ fun m hm => ih m hm (Shape.wellNamed_member hnms m.1) (each m hm)
        refine (pairs.and (List.pairwise_map.mp names)).imp fun hno hsame => ?_
        exact hno.1 ((Shape.sameSlot_iff_respelled hnms hno.2).mp hsame)

/-- A map has one slot for each name, so without duplicates it is unambiguous. -/
theorem unambiguous_any {v : Json} (h : NoDuplicates v) : Unambiguous .any v := by
  induction h with
  | null => exact .null
  | bool => exact .bool
  | num => exact .num
  | str => exact .str
  | arr _ ih => exact .arr ih
  | obj names _ ih =>
    refine .obj ?_ ih
    refine (List.pairwise_map.mp names).imp fun hne hsame => ?_
    obtain ⟨slot, h, h'⟩ := hsame
    exact hne (Option.some.inj (h.trans h'.symm))

end SecureBinding.Go.Json
