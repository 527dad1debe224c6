import FibrePool.Proofs.CompactText
import FibrePool.Proofs.RowCodec
import Mathlib.Data.List.Perm.Basic

/-!
# JSON in another order

The order in which an object lists its members means nothing.  A value is `Reordered` when the
members of its objects, of the outer one and of every one inside, are listed in another order, and a
written value `Conveys` what was written when it is read as that in every order of its members.

What conveys its meaning is put together from parts that do: lists (`Conveys.list`), values that may
be missing (`Conveys.option`), maps (`Conveys.map`) and records (`Conveys.record`).  Both layouts of
such a value are then read back from their text (`Conveys.ofText?_eq`).
-/

namespace FibrePool

set_option autoImplicit false

/-- Pairs under keys of their own give the same map in every order. -/
theorem OrderedMap.ofList_of_perm {K V : Type} [Ord K] [Std.TransOrd K] [Std.LawfulEqOrd K]
    {map : OrderedMap K V} {pairs : List (K × V)} (order : pairs.Perm map.entries) :
    ofList pairs = map := by
  have keys (probe : K) : (ofList pairs).contains probe = map.contains probe := by
    rw [Bool.eq_iff_iff, contains_ofList, ← mem_keys_iff]
    exact (order.map (·.1)).mem_iff
  -- no pair is replaced, so what is filed in the end is what the map lists
  refine ext_get? fun probe => ?_
  cases found : (ofList pairs).get? probe with
  | some value =>
    have listed := mem_of_mem_ofList (mem_entries_iff.2 found)
    exact (mem_entries_iff.1 (order.mem_iff.1 listed)).symm
  | none =>
    have absent := keys probe
    rw [contains, found, contains, Option.isSome_none, eq_comm, Option.isSome_eq_false_iff,
      Option.isNone_iff_eq_none] at absent
    exact absent.symm

namespace Json

/-! ## Values in another order -/

/-- The same value, with the members of its objects in another order. -/
inductive Reordered : Json → Json → Prop where
  | refl (value : Json) : Reordered value value
  | array {items others : List Json} (each : List.Forall₂ Reordered items others) :
    Reordered (array items) (array others)
  | /-- Every value of an object may be reordered, and then the members themselves. -/
    object {members changed others : List (String × Json)}
    (names : members.map (·.1) = changed.map (·.1))
    (values : List.Forall₂ Reordered (members.map (·.2)) (changed.map (·.2)))
    (order : changed.Perm others) : Reordered (object members) (object others)

/-- A member of the same name whose value may be reordered. -/
def MemberReordered (member other : String × Json) : Prop :=
  member.1 = other.1 ∧ Reordered member.2 other.2

variable {α : Type} {items others : List Json} {members : List (String × Json)} {value other : Json}

@[simp] theorem reordered_null_iff : Reordered null other ↔ other = null :=
  ⟨fun same => by cases same; rfl, fun same => same ▸ .refl _⟩

@[simp] theorem reordered_bool_iff {flag : Bool} :
    Reordered (bool flag) other ↔ other = bool flag :=
  ⟨fun same => by cases same; rfl, fun same => same ▸ .refl _⟩

@[simp] theorem reordered_natural_iff {number : Nat} :
    Reordered (natural number) other ↔ other = natural number :=
  ⟨fun same => by cases same; rfl, fun same => same ▸ .refl _⟩

@[simp] theorem reordered_text_iff {content : String} :
    Reordered (text content) other ↔ other = text content :=
  ⟨fun same => by cases same; rfl, fun same => same ▸ .refl _⟩

theorem reordered_to_null (same : Reordered value null) : value = null := by
  cases same
  rfl

theorem exists_of_reordered_array (same : Reordered (array items) other) :
    ∃ others, other = array others ∧ List.Forall₂ Reordered items others := by
  cases same with
  | refl => exact ⟨items, rfl, List.forall₂_same.2 fun item _ => .refl item⟩
  | array each => exact ⟨_, rfl, each⟩

/-- A reordered object has, up to their order, a reordered member for each member. -/
theorem exists_of_reordered_object (same : Reordered (object members) other) :
    ∃ changed others, other = object others ∧ List.Forall₂ MemberReordered members changed ∧
      changed.Perm others := by
  cases same with
  | refl => exact ⟨members, members, rfl, List.forall₂_same.2 fun _ _ => ⟨rfl, .refl _⟩, .refl _⟩
  | @object _ changed others names values order =>
    refine ⟨changed, others, rfl, ?_, order⟩
    clear order
    induction members generalizing changed with
    | nil =>
      obtain rfl := List.map_eq_nil_iff.1 names.symm
      exact .nil
    | cons member members ih =>
      cases changed with
      | nil => cases names
      | cons head changed =>
        obtain ⟨name, names⟩ := List.cons.inj names
        obtain ⟨here, there⟩ := List.forall₂_cons.1 values
        exact .cons ⟨name, here⟩ (ih names there)

/-! ### Leaves -/

variable {condition : Json → Bool}

mutual

/-- A value in another order has the same leaves. -/
theorem everyLeaf_of_reordered (value : Json) {other : Json} (same : Reordered value other)
    (holds : value.everyLeaf condition = true) : other.everyLeaf condition = true := by
  match value with
  | array items =>
    obtain ⟨others, rfl, each⟩ := exists_of_reordered_array same
    exact everyLeafOfAll_of_reordered items each holds
  | object members =>
    obtain ⟨changed, others, rfl, each, order⟩ := exists_of_reordered_object same
    have leaves := everyLeafOfMembers_iff.1 (everyLeafOfMembers_of_reordered members each holds)
    exact everyLeafOfMembers_iff.2 fun member listed => leaves member (order.mem_iff.2 listed)
  | null | bool _ | natural _ | number _ | text _ | illFormed | cut =>
    cases same
    exact holds

theorem everyLeafOfAll_of_reordered (items : List Json) {others : List Json}
    (each : List.Forall₂ Reordered items others)
    (holds : everyLeafOfAll condition items = true) : everyLeafOfAll condition others = true := by
  match items, each with
  | [], .nil => rfl
  | item :: items, .cons same each =>
    obtain ⟨here, there⟩ := Bool.and_eq_true_iff.1 holds
    exact Bool.and_eq_true_iff.2
      ⟨everyLeaf_of_reordered item same here, everyLeafOfAll_of_reordered items each there⟩

theorem everyLeafOfMembers_of_reordered (members : List (String × Json))
    {changed : List (String × Json)} (each : List.Forall₂ MemberReordered members changed)
    (holds : everyLeafOfMembers condition members = true) :
    everyLeafOfMembers condition changed = true := by
  match members, each with
  | [], .nil => rfl
  | (_, value) :: members, .cons same each =>
    obtain ⟨here, there⟩ := Bool.and_eq_true_iff.1 holds
    exact Bool.and_eq_true_iff.2
      ⟨everyLeaf_of_reordered value same.2 here, everyLeafOfMembers_of_reordered members each there⟩

end

/-! ## What a written value conveys -/

/-- In every order of its members a written value is read as `result`, and its leaves are plain. -/
structure Conveys (read : Json → Reading α) (written : Json) (result : α) : Prop where
  plain : written.everyLeaf isPlain = true
  back : ∀ {other : Json}, Reordered written other → read other = .ok result

variable {read : Json → Reading α} {write : α → Json} {result : α}

/-- **What was written is read back from both layouts, in every order of its members.** -/
theorem Conveys.ofText?_eq (conveys : Conveys read value result) (same : Reordered value other) :
    (ofText? other.compact).map read = some (.ok result) ∧
      (ofText? other.pretty).map read = some (.ok result) := by
  have plain := everyLeaf_of_reordered value same conveys.plain
  rw [ofText?_compact plain, ofText?_pretty plain, Option.map_some, conveys.back same]
  exact ⟨rfl, rfl⟩

/-- What conveys a value to one reader conveys to another what that one makes of the value. -/
theorem Conveys.of_read {β : Type} {further : Json → Reading β} {final : β}
    (conveys : Conveys read value result)
    (reads : ∀ {other : Json}, read other = .ok result → further other = .ok final) :
    Conveys further value final where
  plain := conveys.plain
  back same := reads (conveys.back same)

@[simp] theorem conveys_text (content : String) : Conveys asText (text content) content where
  plain := rfl
  back same := by
    rw [reordered_text_iff.1 same]
    rfl

@[simp] theorem conveys_bool (flag : Bool) : Conveys asBool (bool flag) flag where
  plain := rfl
  back same := by
    rw [reordered_bool_iff.1 same]
    rfl

theorem conveys_below {bound number : Nat} (below : number < bound) :
    Conveys (asBelow bound) (natural number) number where
  plain := rfl
  back same := by
    rw [reordered_natural_iff.1 same, asBelow, if_pos below]

/-- **A list conveys what its items do.** -/
theorem Conveys.list {values : List α} (each : ∀ value ∈ values, Conveys read (write value) value) :
    Conveys (asList read) (ofList write values) values where
  plain := everyLeafOfAll_iff.2
    (List.forall_mem_map.2 fun value listed => (each value listed).plain)
  back same := by
    obtain ⟨others, rfl, pairs⟩ := exists_of_reordered_array same
    rw [List.forall₂_map_left_iff] at pairs
    have reads := ((List.forall₂_and_left _ _).2 ⟨each, pairs⟩).imp
      fun _ _ both => both.1.back both.2
    exact Outcome.mapM_eq_ok.2 reads.flip

/-- **A value that may be missing conveys what it conveys when it is there**, if it is never written
as `null`. -/
theorem Conveys.option {given : Option α} (each : ∀ value ∈ given, Conveys read (write value) value)
    (shown : ∀ value, write value ≠ null) :
    Conveys (asOption read) (ofOption write given) given := by
  cases given with
  | none =>
    refine ⟨rfl, fun same => ?_⟩
    rw [reordered_null_iff.1 same]
    rfl
  | some value =>
    obtain ⟨plain, back⟩ := each value rfl
    refine ⟨plain, fun {other} same => ?_⟩
    rw [asOption, back same]
    · rfl
    · rintro rfl
      exact shown value (reordered_to_null same)

/-- **A map conveys its entries when its values do and its keys are read back.** -/
theorem Conveys.map {K V : Type} [Ord K] [Std.TransOrd K] [Std.LawfulEqOrd K]
    {key? : String → Option K} {key : K → String} {read : Json → Reading V} {write : V → Json}
    {map : OrderedMap K V} (keys : ∀ entry ∈ map.entries, key? (key entry.1) = some entry.1)
    (each : ∀ entry ∈ map.entries, Conveys read (write entry.2) entry.2) :
    Conveys (asMap key? read) (ofMap key write map) map where
  plain := everyLeafOfMembers_iff.2
    (List.forall_mem_map.2 fun entry listed => (each entry listed).plain)
  back same := by
    obtain ⟨changed, others, rfl, pairs, order⟩ := exists_of_reordered_object same
    rw [List.forall₂_map_left_iff] at pairs
    -- the entries are read in the order of the members, and that of the map is their own
    obtain ⟨entries, pairs, sorted⟩ := List.perm_comp_forall₂ order.symm pairs.flip
    have among : ∀ entry ∈ entries, entry ∈ map.entries := fun entry => sorted.mem_iff.1
    refine Outcome.bind_eq_ok.2 ⟨entries, Outcome.mapM_eq_ok.2 ?_, ?_⟩
    · refine (((List.forall₂_and_left _ _).2 ⟨among, pairs.flip⟩).imp ?_).flip
      rintro entry ⟨name, value⟩ ⟨listed, rfl, same⟩
      dsimp only [flip]
      rw [keys entry listed, (each entry listed).back same]
      rfl
    · rw [OrderedMap.ofList_of_perm sorted]
      rfl

/-! ## Records -/

/-- A field of a record with what is written there and what is meant by it. -/
structure Entry where
  {Value : Type}
  name : String
  read : Json → Reading Value
  written : Json
  value : Value

namespace Entry

/-- The field that the entry belongs to. -/
def field (entry : Entry) : Field := .of entry.name entry.read

/-- The member that is written for the entry. -/
def member (entry : Entry) : String × Json := (entry.name, entry.written)

/-- What is written in the entry conveys what is meant. -/
def Conveys (entry : Entry) : Prop := Json.Conveys entry.read entry.written entry.value

@[simp] theorem conveys_mk {name : String} :
    (Entry.mk name read value result).Conveys ↔ Json.Conveys read value result :=
  Iff.rfl

end Entry

/-- The field without the leave to end an array before it. -/
def Field.strict (field : Field) : Field := { field with omissible := false }

/-- What is meant by an entry is what a row gives for its field, with any default. -/
def Row.Gives (row : Row) (entry : Entry) : Prop :=
  row.required entry.name entry.read = .ok entry.value ∧
    ∀ default, row.withDefault entry.name entry.read default = .ok entry.value

@[simp] theorem Row.gives_mk {row : Row} {name : String} :
    row.Gives (.mk name read value result) ↔ row.required name read = .ok result ∧
      ∀ default, row.withDefault name read default = .ok result :=
  Iff.rfl

theorem lookup_of_mem {name : String} (once : (members.map (·.1)).Nodup)
    (listed : (name, value) ∈ members) : members.lookup name = some value := by
  induction members with
  | nil => cases listed
  | cons head members ih =>
    obtain ⟨first, held⟩ := head
    rw [List.map_cons, List.nodup_cons] at once
    rcases List.mem_cons.1 listed with same | later
    · cases same
      exact List.lookup_cons_self
    · have other : (name == first) = false :=
        beq_false_of_ne fun same => once.1 (List.mem_map.2 ⟨_, later, same⟩)
      rw [List.lookup_cons, other, ih once.2 later]

/-- **A record is read off its entries in every order**, and nothing else is in its row. -/
theorem Row.exists_of_reordered {fields : List Field} {entries : List Entry}
    (apart : (fields.map (·.name)).Nodup)
    (among : (entries.map Entry.field).Sublist (fields.map Field.strict))
    (conveys : ∀ entry ∈ entries, entry.Conveys)
    (same : Reordered (object (entries.map Entry.member)) other) :
    ∃ row, Row.read fields other = .ok row ∧ Row.readObject fields other = .ok row ∧
      (∀ entry ∈ entries, row.Gives entry) ∧
      ∀ name, (∀ entry ∈ entries, entry.name ≠ name) → row.lookup name = none := by
  obtain ⟨changed, row, rfl, pairs, order⟩ := exists_of_reordered_object same
  rw [List.forall₂_map_left_iff] at pairs
  have names : changed.map (·.1) = entries.map (·.name) := by
    rw [← List.forall₂_eq_eq_eq, List.forall₂_map_left_iff, List.forall₂_map_right_iff]
    exact (pairs.imp fun _ _ shown => shown.1.symm).flip
  have once : (row.map (·.1)).Nodup := by
    rw [← (order.map (·.1)).nodup_iff, names]
    have some := among.map (·.name)
    rw [List.map_map, List.map_map] at some
    exact apart.sublist some
  have shown : ∀ member ∈ row, ∃ entry ∈ entries, MemberReordered entry.member member :=
    fun member listed => exists_mem_of_forall₂ pairs (order.mem_iff.2 listed)
  have found : ∀ entry ∈ entries, ∃ value, row.lookup entry.name = some value ∧
      Reordered entry.written value := by
    intro entry listed
    obtain ⟨⟨name, value⟩, there, rfl, same⟩ := exists_mem_of_forall₂ pairs.flip listed
    exact ⟨value, lookup_of_mem once (order.mem_iff.1 there), same⟩
  have fits : ∀ member ∈ row, Row.Fits fields member := by
    intro member listed
    obtain ⟨entry, known, name, same⟩ := shown member listed
    obtain ⟨field, there, strict⟩ :=
      List.mem_map.1 (among.subset (List.mem_map_of_mem known))
    have named : field.strict.name = entry.name := congrArg (·.name) strict
    have checks : field.check member.2 = (fun _ => ()) <$> entry.read member.2 :=
      congrFun (congrArg (·.check) strict) member.2
    refine ⟨field, there, named.trans name, ?_⟩
    rw [checks, (conveys entry known).back same]
    rfl
  have checked : checkMembers fields [] row = .ok row :=
    checkMembers_eq_ok apart once fits fun _ _ => List.not_mem_nil
  refine ⟨row, checked, ?_, fun entry listed => ?_, fun name absent => ?_⟩
  · -- every member belongs to a field, so none is kept
    have none : (row.filter fun member => fields.all (·.name != member.1)) = [] := by
      rw [List.filter_eq_nil_iff]
      intro member listed strange
      obtain ⟨field, there, name, -⟩ := fits member listed
      exact absurd name (by simpa using List.all_eq_true.1 strange field there)
    rw [readObject, none]
    exact checked
  · obtain ⟨value, there, same⟩ := found entry listed
    have back := (conveys entry listed).back same
    exact ⟨by rw [required, there]; exact back, fun _ => by rw [withDefault, there]; exact back⟩
  · rw [List.lookup_eq_none_iff]
    intro member listed
    obtain ⟨entry, known, written, -⟩ := shown member listed
    have other : name ≠ member.1 := fun same => absent entry known (written.trans same.symm)
    simpa using other

/-- **A record conveys its entries when what is built from every row that gives them is right.** -/
theorem Conveys.record (fields : List Field) (entries : List Entry)
    (apart : (fields.map (·.name)).Nodup)
    (among : (entries.map Entry.field).Sublist (fields.map Field.strict))
    (conveys : ∀ entry ∈ entries, entry.Conveys)
    (builds : ∀ {other : Json} {row : Row}, Row.read fields other = .ok row →
      Row.readObject fields other = .ok row → (∀ entry ∈ entries, row.Gives entry) →
      (∀ name, (∀ entry ∈ entries, entry.name ≠ name) → row.lookup name = none) →
        read other = .ok result) :
    Conveys read (object (entries.map Entry.member)) result where
  plain := everyLeafOfMembers_iff.2
    (List.forall_mem_map.2 fun entry listed => (conveys entry listed).plain)
  back same := by
    obtain ⟨row, done, doneKeeping, gives, absent⟩ :=
      Row.exists_of_reordered apart among conveys same
    exact builds done doneKeeping gives absent

end Json

end FibrePool
