import FibrePool.Json.Row
import FibrePool.Proofs.Candidates
import Mathlib.Data.List.Nodup

/-!
# Rows and maps that are read

Every part of a map that is read was read itself (`mem_of_asMap`), and so was every value that a row
gives (`Row.exists_of_required`).  The members of an object are the row of a record when they have
different names and each is a value of the field with its name (`Row.checkMembers_eq_ok`).
-/

namespace FibrePool

set_option autoImplicit false

theorem OrderedMap.mem_of_mem_ofList {K V : Type} [Ord K] [Std.TransOrd K] {pairs : List (K × V)}
    {entry : K × V} (listed : entry ∈ (ofList pairs).entries) : entry ∈ pairs := by
  have further (map : OrderedMap K V) :
      entry ∈ (pairs.foldl (fun map pair => map.insert pair.1 pair.2) map).entries →
        entry ∈ map.entries ∨ entry ∈ pairs := by
    clear listed
    induction pairs generalizing map with
    | nil => exact Or.inl
    | cons pair pairs ih =>
      intro listed
      rcases ih _ listed with before | later
      · rcases mem_put before with rfl | before
        · exact Or.inr List.mem_cons_self
        · exact Or.inl before
      · exact Or.inr (List.mem_cons_of_mem _ later)
  rcases further ∅ listed with none | listed
  · cases none
  · exact listed

namespace Json

variable {α β ε : Type}

/-! ## Parts of a value -/

@[simp] theorem ok_bind (value : α) (next : α → Except ε β) : (.ok value >>= next) = next value :=
  rfl

@[simp] theorem asText_text (value : String) : asText (text value) = .ok value := rfl

theorem asWord_eq_ok {value : Json} {number : Nat} :
    asWord value = .ok number ↔ value = natural number ∧ number < 4294967296 := by
  unfold asWord asBelow
  split
  · next given =>
    split
    · next below =>
      constructor
      · intro same
        cases same
        exact ⟨rfl, below⟩
      · rintro ⟨same, -⟩
        cases same
        rfl
    · next large =>
      simp only [reduceCtorEq, natural.injEq, false_iff, not_and]
      rintro rfl
      exact large
  · next other =>
    simp only [reduceCtorEq, false_iff, not_and]
    rintro rfl
    exact absurd rfl (other number)

theorem asOption_eq_some {read : Json → Reading α} {value : Json} {result : α}
    (done : asOption read value = .ok (some result)) : read value = .ok result := by
  unfold asOption at done
  split at done
  · cases done
  · rcases outcome : read value with fault | found
    · rw [outcome] at done
      cases done
    · rw [outcome] at done
      cases done
      rfl

section Maps

variable {K V : Type} [Ord K] [Std.TransOrd K] {key? : String → Option K} {read : Json → Reading V}
  {map : OrderedMap K V}

/-- The keys and values of a map that was read were read themselves. -/
theorem mem_of_asMap {value : Json} (done : asMap key? read value = .ok map) {entry : K × V}
    (listed : entry ∈ map.entries) :
    (∃ name, key? name = some entry.1) ∧ ∃ part, read part = .ok entry.2 := by
  unfold asMap at done
  split at done
  · next members =>
    obtain ⟨pairs, steps, same⟩ := Outcome.bind_eq_ok.1 done
    cases same
    obtain ⟨⟨name, part⟩, _, step⟩ := exists_mem_of_forall₂ (Outcome.mapM_eq_ok.1 steps)
      (OrderedMap.mem_of_mem_ofList listed)
    dsimp only at step
    split at step
    · next key found =>
      obtain ⟨result, here, same⟩ := Outcome.bind_eq_ok.1 step
      cases same
      exact ⟨⟨name, found⟩, part, here⟩
    · cases step
  · cases done

end Maps

/-! ## Rows -/

namespace Row

variable {fields : List Field} {members row : Row} {name : String} {value : Json}

/-- A member is a value of the field with its name. -/
def Fits (fields : List Field) (member : String × Json) : Prop :=
  ∃ field ∈ fields, field.name = member.1 ∧ field.check member.2 = .ok ()

theorem find?_name {field : Field} (apart : (fields.map (·.name)).Nodup) (listed : field ∈ fields) :
    (fields.find? fun other => other.name == field.name) = some field := by
  induction fields with
  | nil => cases listed
  | cons head rest ih =>
    rw [List.map_cons, List.nodup_cons] at apart
    rcases List.mem_cons.1 listed with rfl | later
    · rw [List.find?_cons_of_pos (by simp)]
    · have other : head.name ≠ field.name := fun same =>
        apart.1 (same ▸ List.mem_map_of_mem later)
      rw [List.find?_cons_of_neg (by simpa using other), ih apart.2 later]

/-- **Members are the row of a record** when they have different names and each is a value of its
field. -/
theorem checkMembers_eq_ok (apart : (fields.map (·.name)).Nodup)
    (once : (members.map (·.1)).Nodup) (fits : ∀ member ∈ members, Fits fields member)
    {seen : List String} (fresh : ∀ member ∈ members, member.1 ∉ seen) :
    checkMembers fields seen members = .ok members := by
  induction members generalizing seen with
  | nil => rfl
  | cons member members ih =>
    obtain ⟨name, value⟩ := member
    rw [List.map_cons, List.nodup_cons] at once
    obtain ⟨⟨field, listed, rfl, checked⟩, others⟩ := List.forall_mem_cons.1 fits
    obtain ⟨unseen, later⟩ := List.forall_mem_cons.1 fresh
    have fresh' : ∀ member ∈ members, member.1 ∉ field.name :: seen := by
      intro member there again
      rcases List.mem_cons.1 again with same | earlier
      · exact once.1 (List.mem_map.2 ⟨member, there, same⟩)
      · exact later member there earlier
    rw [checkMembers, find?_name apart listed]
    dsimp only
    rw [if_neg (by simpa using unseen), checked, ih once.2 others fresh']
    rfl

/-- A value that is found in a row was read by its field. -/
theorem exists_of_required {read : Json → Reading α} {result : α}
    (done : row.required name read = .ok result) : ∃ value, read value = .ok result := by
  unfold required at done
  split at done
  · next value _ => exact ⟨value, done⟩
  · cases done

theorem exists_of_optional {read : Json → Reading α} {result : α}
    (done : row.optional name read = .ok (some result)) : ∃ value, read value = .ok result := by
  unfold optional withDefault at done
  split at done
  · next value _ => exact ⟨value, asOption_eq_some done⟩
  · cases done

end Row

end Json

end FibrePool
