import Mathlib.Data.List.Nodup
import Mathlib.Data.List.Perm.Subperm
import Mathlib.Order.Bounds.Defs
import TypedHub.Stub.Basic
import TypedHub.Stub.FreshName

/-!
# Fresh names

A fresh name is none of the taken ones (`freshName_not_mem`), and it is the wanted name with
underscores behind it (`exists_freshName_eq`).

It can be searched for round by round: as long as the name in hand is taken, it gets one more
underscore. No round tells how many are still to come. But the names in hand are different from each
other, and all except the last one are taken, so there are no more rounds than taken names; and
since no number of underscores is left out, the last name has the fewest that a free name can have
(`search_ends_least`).
-/

namespace TypedHub

/-! ## Underscores -/

/-- A name with underscores behind it. -/
def underscored (name : String) (count : Nat) : String :=
  String.ofList (name.toList ++ List.replicate count '_')

theorem toList_underscored (name : String) (count : Nat) :
    (underscored name count).toList = name.toList ++ List.replicate count '_' :=
  String.toList_ofList

theorem underscored_zero (name : String) : underscored name 0 = name := by
  rw [underscored, List.replicate_zero, List.append_nil, String.ofList_toList]

theorem underscored_succ (name : String) (count : Nat) :
    underscored name (count + 1) = underscored (name ++ "_") count := by
  refine String.toList_injective ?_
  rw [toList_underscored, toList_underscored, String.toList_append, List.append_assoc]
  rfl

theorem underscored_injective (name : String) : Function.Injective (underscored name) := by
  intro count other same
  have length := congrArg (·.toList.length) same
  simp only [toList_underscored, List.length_append, List.length_replicate] at length
  omega

theorem underscored_append (name : String) (count : Nat) :
    underscored name count ++ "_" = underscored name (count + 1) := by
  refine String.toList_injective ?_
  rw [String.toList_append, toList_underscored, toList_underscored, List.append_assoc,
    List.replicate_succ']
  rfl

/-! ## Fresh names -/

/-- A fresh name has as many underscores behind it as there have to be. -/
theorem exists_freshName_eq (name : String) (taken : List String) :
    ∃ count, freshName name taken = underscored name count ∧
      ∀ fewer < count, underscored name fewer ∈ taken := by
  induction name, taken using freshName.induct with
  | case1 name taken h ih =>
    obtain ⟨count, eq, least⟩ := ih
    rw [freshName, if_pos h]
    refine ⟨count + 1, by rw [eq, underscored_succ], ?_⟩
    intro fewer lt
    cases fewer with
    | zero =>
      rw [underscored_zero]
      exact h
    | succ fewer =>
      rw [underscored_succ]
      exact List.mem_of_mem_erase (least fewer (Nat.lt_of_succ_lt_succ lt))
  | case2 name taken h =>
    rw [freshName, if_neg h]
    refine ⟨0, (underscored_zero name).symm, ?_⟩
    intro fewer lt
    cases lt

/-- A fresh name is none of the taken ones. -/
theorem freshName_not_mem (name : String) (taken : List String) :
    freshName name taken ∉ taken := by
  induction name, taken using freshName.induct with
  | case1 name taken h ih =>
    rw [freshName, if_pos h]
    have longer : freshName (name ++ "_") (taken.erase name) ≠ name := by
      obtain ⟨count, eq, -⟩ := exists_freshName_eq (name ++ "_") (taken.erase name)
      rw [eq, ← underscored_succ]
      intro same
      have counts : count + 1 = 0 :=
        underscored_injective name (same.trans (underscored_zero name).symm)
      exact Nat.succ_ne_zero count counts
    intro mem
    exact ih ((List.mem_erase_of_ne longer).2 mem)
  | case2 name taken h =>
    rw [freshName, if_neg h]
    exact h

theorem freshName_of_not_mem {name : String} {taken : List String} (h : name ∉ taken) :
    freshName name taken = name := by
  rw [freshName, if_neg h]

theorem toList_freshName (name : String) (taken : List String) :
    ∃ count, (freshName name taken).toList = name.toList ++ List.replicate count '_' := by
  obtain ⟨count, eq, -⟩ := exists_freshName_eq name taken
  exact ⟨count, by rw [eq, toList_underscored]⟩

/-- A fresh name has no at sign in front unless the wanted name has. -/
theorem head?_freshName {name : String} (nonempty : name ≠ "") (taken : List String) :
    (freshName name taken).toList.head? = name.toList.head? := by
  obtain ⟨count, eq⟩ := toList_freshName name taken
  rw [eq]
  refine List.head?_append_of_ne_nil _ ?_
  intro nil
  exact nonempty (String.toList_injective nil)

/-! ## Rounds -/

/-- If the name is taken with each number of underscores below some number, then there are as many
taken names. -/
theorem le_length_of_underscored_mem {name : String} {taken : List String} {count : Nat}
    (h : ∀ fewer < count, underscored name fewer ∈ taken) : count ≤ taken.length := by
  have distinct : ((List.range count).map (underscored name)).Nodup :=
    List.nodup_range.map (underscored_injective name)
  have inside : (List.range count).map (underscored name) ⊆ taken := by
    intro candidate mem
    obtain ⟨fewer, lt, rfl⟩ := List.mem_map.1 mem
    exact h fewer (List.mem_range.1 lt)
  calc
    count = ((List.range count).map (underscored name)).length := by
      rw [List.length_map, List.length_range]
    _ ≤ taken.length := (List.subperm_of_subset distinct inside).length_le

/-- The name that the search for `wanted` has in hand after a number of rounds. -/
inductive Searches (taken : List String) (wanted : String) : Nat → String → Prop where
  | start : Searches taken wanted 0 wanted
  /-- A round is made while the name in hand is taken, and gives it one more underscore. -/
  | round {rounds : Nat} {name : String} (before : Searches taken wanted rounds name)
    (h : name ∈ taken) : Searches taken wanted (rounds + 1) (name ++ "_")

namespace Searches

variable {taken : List String} {wanted name : String} {rounds : Nat}

theorem name_eq (search : Searches taken wanted rounds name) :
    name = underscored wanted rounds := by
  induction search with
  | start => exact (underscored_zero wanted).symm
  | round before h ih => rw [ih, underscored_append]

/-- All names that were in hand before are taken. -/
theorem mem_of_lt (search : Searches taken wanted rounds name) :
    ∀ fewer < rounds, underscored wanted fewer ∈ taken := by
  induction search with
  | start => exact nofun
  | round before h ih =>
    intro fewer lt
    rcases Nat.lt_succ_iff_lt_or_eq.1 lt with earlier | rfl
    · exact ih fewer earlier
    · exact before.name_eq ▸ h

theorem of_mem (h : ∀ fewer < rounds, underscored wanted fewer ∈ taken) :
    Searches taken wanted rounds (underscored wanted rounds) := by
  induction rounds with
  | zero =>
    rw [underscored_zero]
    exact .start
  | succ rounds ih =>
    rw [← underscored_append]
    refine .round (ih fun fewer lt => ?_) (h rounds (Nat.lt_succ_self rounds))
    exact h fewer (Nat.lt_succ_of_lt lt)

/-- **The search does not go on for more rounds than there are taken names.** -/
theorem rounds_le (search : Searches taken wanted rounds name) : rounds ≤ taken.length :=
  le_length_of_underscored_mem search.mem_of_lt

/-- A search that has ended is ahead of all others. -/
theorem rounds_le_of_not_mem {last : String} {count : Nat}
    (search : Searches taken wanted rounds name) (ended : Searches taken wanted count last)
    (free : last ∉ taken) : rounds ≤ count := by
  by_contra more
  rw [ended.name_eq] at free
  exact free (search.mem_of_lt count (Nat.lt_of_not_le more))

end Searches

/-- **The search for a fresh name ends, and it ends with the fresh name.** It makes no more rounds
than there are parameters; it stands still at one name only, the fresh one; and that has as many
underscores as rounds were made, which are the fewest with which no parameter has the name. -/
theorem search_ends_least (wanted : String) (parameters : List Parameter) :
    ∃ count ≤ parameters.length,
      (∀ rounds name, Searches (parameters.map (·.name)) wanted rounds name → rounds ≤ count) ∧
      (∀ rounds name, Searches (parameters.map (·.name)) wanted rounds name ∧
          name ∉ parameters.map (·.name) ↔
        rounds = count ∧ name = freshName wanted (parameters.map (·.name))) ∧
      freshName wanted (parameters.map (·.name)) = underscored wanted count ∧
      IsLeast {underscores | ∀ parameter ∈ parameters,
        parameter.name ≠ underscored wanted underscores} count := by
  obtain ⟨count, fresh, least⟩ := exists_freshName_eq wanted (parameters.map (·.name))
  have free := freshName_not_mem wanted (parameters.map (·.name))
  have ended : Searches (parameters.map (·.name)) wanted count
      (freshName wanted (parameters.map (·.name))) := fresh ▸ .of_mem least
  refine ⟨count, ?few, fun rounds name search => search.rounds_le_of_not_mem ended free,
    fun rounds name => ⟨?only, ?reached⟩, fresh, ?isFree, ?isLeast⟩
  case few =>
    have few := ended.rounds_le
    rwa [List.length_map] at few
  case only =>
    rintro ⟨search, freeName⟩
    have same : rounds = count :=
      Nat.le_antisymm (search.rounds_le_of_not_mem ended free)
        (ended.rounds_le_of_not_mem search freeName)
    exact ⟨same, by rw [search.name_eq, fresh, same]⟩
  case reached =>
    rintro ⟨rfl, rfl⟩
    exact ⟨ended, free⟩
  case isFree =>
    intro parameter mem same
    rw [fresh, ← same] at free
    exact free (List.mem_map_of_mem mem)
  case isLeast =>
    intro underscores apart
    by_contra fewer
    obtain ⟨parameter, mem, same⟩ := List.mem_map.1 (least underscores (Nat.lt_of_not_le fewer))
    exact apart parameter mem same

end TypedHub
