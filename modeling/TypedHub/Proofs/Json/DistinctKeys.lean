import Mathlib.Data.List.Nodup
import TypedHub.Json.Value

/-!
# Values without repeated keys

Whether an object repeats a key can be tested. Where none does, nothing is left to settle:
`Json.settled` gives the value back. Settled values are such values, so settling twice is the same
as settling once.
-/

namespace TypedHub.Json

/-- No object in the value has two members with one key. -/
inductive DistinctKeys : Json → Prop
  | null : DistinctKeys null
  | bool {value : Bool} : DistinctKeys (bool value)
  | number {value : Number} : DistinctKeys (number value)
  | string {value : String} : DistinctKeys (string value)
  | array {items : List Json} (parts : ∀ item ∈ items, DistinctKeys item) :
      DistinctKeys (array items)
  | object {members : List (String × Json)} (nodup : (members.map Prod.fst).Nodup)
      (parts : ∀ member ∈ members, DistinctKeys member.2) : DistinctKeys (object members)

/-! ## Test -/

mutual

/-- Whether no object in the value repeats a key. -/
def keysDistinct : Json → Bool
  | array items => itemsDistinct items
  | object members => decide (members.map Prod.fst).Nodup && valuesDistinct members
  | null => true
  | bool _ => true
  | number _ => true
  | string _ => true

def itemsDistinct : List Json → Bool
  | [] => true
  | item :: rest => item.keysDistinct && itemsDistinct rest

def valuesDistinct : List (String × Json) → Bool
  | [] => true
  | (_, value) :: rest => value.keysDistinct && valuesDistinct rest

end

mutual

theorem distinctKeys_of_keysDistinct : (value : Json) → value.keysDistinct = true →
    value.DistinctKeys
  | array items, h => .array (distinctKeys_of_itemsDistinct items h)
  | object members, h => by
    rw [keysDistinct, Bool.and_eq_true, decide_eq_true_eq] at h
    exact .object h.1 (distinctKeys_of_valuesDistinct members h.2)
  | null, _ => .null
  | bool _, _ => .bool
  | number _, _ => .number
  | string _, _ => .string

theorem distinctKeys_of_itemsDistinct : (items : List Json) → itemsDistinct items = true →
    ∀ item ∈ items, item.DistinctKeys
  | [], _ => nofun
  | item :: rest, h => by
    rw [itemsDistinct, Bool.and_eq_true] at h
    exact List.forall_mem_cons.2
      ⟨distinctKeys_of_keysDistinct item h.1, distinctKeys_of_itemsDistinct rest h.2⟩

theorem distinctKeys_of_valuesDistinct : (members : List (String × Json)) →
    valuesDistinct members = true → ∀ member ∈ members, member.2.DistinctKeys
  | [], _ => nofun
  | (_, value) :: rest, h => by
    rw [valuesDistinct, Bool.and_eq_true] at h
    exact List.forall_mem_cons.2
      ⟨distinctKeys_of_keysDistinct value h.1, distinctKeys_of_valuesDistinct rest h.2⟩

end

theorem itemsDistinct_of_forall {items : List Json} (h : ∀ item ∈ items, item.keysDistinct = true) :
    itemsDistinct items = true := by
  induction items with
  | nil => rfl
  | cons item rest ih =>
    rw [List.forall_mem_cons] at h
    rw [itemsDistinct, h.1, ih h.2, Bool.and_self]

theorem valuesDistinct_of_forall {members : List (String × Json)}
    (h : ∀ member ∈ members, member.2.keysDistinct = true) : valuesDistinct members = true := by
  induction members with
  | nil => rfl
  | cons member rest ih =>
    rw [List.forall_mem_cons] at h
    rw [valuesDistinct, h.1, ih h.2, Bool.and_self]

theorem DistinctKeys.keysDistinct {value : Json} (h : value.DistinctKeys) :
    value.keysDistinct = true := by
  induction h with
  | null | bool | number | string => rfl
  | array _ ih => exact itemsDistinct_of_forall ih
  | object nodup _ ih =>
    rw [Json.keysDistinct, valuesDistinct_of_forall ih, decide_eq_true nodup, Bool.and_self]

instance : DecidablePred DistinctKeys := fun value =>
  decidable_of_iff (value.keysDistinct = true)
    ⟨distinctKeys_of_keysDistinct value, DistinctKeys.keysDistinct⟩

/-! ## Members -/

theorem putMember_of_not_mem {members : List (String × α)} {key : String} {value : α}
    (h : key ∉ members.map Prod.fst) : putMember members key value = members ++ [(key, value)] := by
  induction members with
  | nil => rfl
  | cons member rest ih =>
    obtain ⟨k, v⟩ := member
    simp only [List.map_cons, List.mem_cons, not_or] at h
    rw [putMember, if_neg (Ne.symm h.1), ih h.2, List.cons_append]

/-- Members with keys of their own are put at the end, one after the other. -/
theorem foldl_putMember {members : List (String × α)} (settled : List (String × α))
    (h : ((settled ++ members).map Prod.fst).Nodup) :
    members.foldl (fun settled member => putMember settled member.1 member.2) settled =
      settled ++ members := by
  induction members generalizing settled with
  | nil => simp
  | cons member rest ih =>
    rw [List.append_cons] at h
    have new : member.1 ∉ settled.map Prod.fst := by
      rw [List.map_append, List.map_append, List.append_assoc, List.nodup_append] at h
      exact fun mem => h.2.2 _ mem _ (by simp) rfl
    rw [List.foldl_cons, putMember_of_not_mem new, ih _ h, ← List.append_cons]

theorem settleMembers_of_nodup {members : List (String × α)} (h : (members.map Prod.fst).Nodup) :
    settleMembers members = members :=
  foldl_putMember [] h

theorem nodup_keys_putMember {members : List (String × α)} (h : (members.map Prod.fst).Nodup)
    (key : String) (value : α) : ((putMember members key value).map Prod.fst).Nodup := by
  rw [keys_putMember]
  split
  · exact h
  · next new =>
    rw [← List.concat_eq_append]
    exact h.concat new

theorem forall_mem_putMember {P : α → Prop} {members : List (String × α)}
    (h : ∀ member ∈ members, P member.2) (key : String) {value : α} (put : P value) :
    ∀ member ∈ putMember members key value, P member.2 := by
  induction members with
  | nil => exact List.forall_mem_singleton.2 put
  | cons member rest ih =>
    rw [List.forall_mem_cons] at h
    rw [putMember]
    split
    · exact List.forall_mem_cons.2 ⟨put, h.2⟩
    · exact List.forall_mem_cons.2 ⟨h.1, ih h.2⟩

theorem nodup_keys_settleMembers (members : List (String × α)) :
    ((settleMembers members).map Prod.fst).Nodup :=
  List.foldlRecOn (motive := fun settled => (List.map Prod.fst settled).Nodup) members _
    List.nodup_nil fun _ nodup member _ => nodup_keys_putMember nodup member.1 member.2

theorem forall_mem_settleMembers {P : α → Prop} {members : List (String × α)}
    (h : ∀ member ∈ members, P member.2) : ∀ member ∈ settleMembers members, P member.2 :=
  List.foldlRecOn (motive := fun settled => ∀ member ∈ settled, P (Prod.snd member)) members _
    (List.forall_mem_nil _) fun _ all member mem => forall_mem_putMember all member.1 (h member mem)

/-! ## Values -/

theorem settledItems_eq_map (items : List Json) : settledItems items = items.map settled := by
  induction items with
  | nil => rfl
  | cons item rest ih => rw [settledItems, ih, List.map_cons]

theorem settledValues_eq_map (members : List (String × Json)) :
    settledValues members = members.map fun member => (member.1, member.2.settled) := by
  induction members with
  | nil => rfl
  | cons member rest ih => rw [settledValues, ih, List.map_cons]

theorem DistinctKeys.settled_eq {value : Json} (h : value.DistinctKeys) : value.settled = value := by
  induction h with
  | null | bool | number | string => rfl
  | array _ ih => rw [settled, settledItems_eq_map, List.map_congr_left ih, List.map_id']
  | object nodup _ ih =>
    have values : ∀ member ∈ _, (member.1, settled member.2) = member := fun member mem =>
      Prod.ext rfl (ih member mem)
    rw [settled, settledValues_eq_map, List.map_congr_left values, List.map_id',
      settleMembers_of_nodup nodup]

mutual

/-- No settled value repeats a key. -/
theorem distinctKeys_settled : (value : Json) → value.settled.DistinctKeys
  | array items => .array (distinctKeys_settledItems items)
  | object members =>
    .object (nodup_keys_settleMembers _)
      (forall_mem_settleMembers (distinctKeys_settledValues members))
  | null => .null
  | bool _ => .bool
  | number _ => .number
  | string _ => .string

theorem distinctKeys_settledItems : (items : List Json) →
    ∀ item ∈ settledItems items, item.DistinctKeys
  | [] => nofun
  | item :: rest =>
    List.forall_mem_cons.2 ⟨distinctKeys_settled item, distinctKeys_settledItems rest⟩

theorem distinctKeys_settledValues : (members : List (String × Json)) →
    ∀ member ∈ settledValues members, member.2.DistinctKeys
  | [] => nofun
  | (_, value) :: rest =>
    List.forall_mem_cons.2 ⟨distinctKeys_settled value, distinctKeys_settledValues rest⟩

end

end TypedHub.Json
