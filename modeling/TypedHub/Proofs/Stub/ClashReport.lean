import Mathlib.Data.List.Sort
import TypedHub.Proofs.Stub.Clash

/-!
# What is reported about clashes

The report on a stub has one clash for each name that clashes, and nothing else. Which names these
are, in which order they come and what is told about each is said here without the groups that the
checks work on (`Stub.HasClashNames`); there is only one report of this kind, and it is the one that
the checks give (`Stub.clashes_reported`).
-/

namespace TypedHub

/-! ## First occurrences of the values with a property -/

/-- The values with a property, each of them once, in the order of their first occurrences. -/
structure Firsts {α : Type} [DecidableEq α] (values : List α) (wanted : α → Prop)
    (listed : List α) : Prop where
  mem_iff : ∀ value, value ∈ listed ↔ value ∈ values ∧ wanted value
  ordered : listed.Pairwise fun a b => values.idxOf a < values.idxOf b

section Firsts

variable {α : Type} [DecidableEq α] {values listed listed' : List α} {wanted wanted' : α → Prop}

/-- There is only one such list: it is in strict order, so its members determine it. -/
theorem Firsts.unique (h : Firsts values wanted listed) (h' : Firsts values wanted listed') :
    listed = listed' := by
  have : Std.Irrefl fun a b => values.idxOf a < values.idxOf b := ⟨fun _ => Nat.lt_irrefl _⟩
  have : Std.Antisymm fun a b => values.idxOf a < values.idxOf b :=
    ⟨fun _ _ less more => absurd more (Nat.lt_asymm less)⟩
  refine List.Pairwise.eq_of_mem_iff h.ordered h'.ordered fun value => ?_
  rw [h.mem_iff, h'.mem_iff]

theorem Firsts.congr (h : Firsts values wanted listed)
    (same : ∀ value ∈ values, wanted value ↔ wanted' value) : Firsts values wanted' listed where
  mem_iff value := by
    rw [h.mem_iff]
    exact and_congr_right (same value)
  ordered := h.ordered

/-- A further value does not change where the others occur first. -/
theorem pairwise_firstOccurrences (values : List α) :
    (firstOccurrences values).Pairwise fun a b => values.idxOf a < values.idxOf b := by
  induction values using List.reverseRecOn with
  | nil => exact List.Pairwise.nil
  | append_singleton values value ih =>
    have kept : (firstOccurrences values).Pairwise fun a b =>
        (values ++ [value]).idxOf a < (values ++ [value]).idxOf b := by
      refine ih.imp_of_mem fun {a b} ha hb less => ?_
      rw [mem_firstOccurrences] at ha hb
      rwa [List.idxOf_append_of_mem ha, List.idxOf_append_of_mem hb]
    rw [firstOccurrences_concat]
    split
    · exact kept
    · next new =>
      rw [mem_firstOccurrences] at new
      refine List.pairwise_append.2 ⟨kept, List.pairwise_singleton _ _, fun a ha b hb => ?_⟩
      rw [mem_firstOccurrences] at ha
      rw [List.mem_singleton] at hb
      subst hb
      rw [List.idxOf_append_of_mem ha, List.idxOf_append_of_notMem new]
      have inside := List.idxOf_lt_length_of_mem ha
      omega

theorem firsts_filter (values : List α) (wanted : α → Prop) [DecidablePred wanted] :
    Firsts values wanted ((firstOccurrences values).filter wanted) where
  mem_iff value := by rw [List.mem_filter, mem_firstOccurrences, decide_eq_true_eq]
  ordered := (pairwise_firstOccurrences values).filter _

/-- Leaving values out does not change the order of the first occurrences of the others. -/
theorem firstOccurrences_filter (values : List α) (wanted : α → Bool) :
    firstOccurrences (values.filter wanted) = (firstOccurrences values).filter wanted := by
  induction values using List.reverseRecOn with
  | nil => rfl
  | append_singleton values value ih =>
    rw [List.filter_append, firstOccurrences_concat]
    by_cases h : wanted value = true
    · have alone : [value].filter wanted = [value] := List.filter_cons_of_pos h
      rw [alone, firstOccurrences_concat, ih]
      simp only [mem_firstOccurrences, List.mem_filter, h, and_true]
      split
      · rfl
      · rw [List.filter_append, alone]
    · have alone : [value].filter wanted = [] := List.filter_cons_of_neg h
      rw [alone, List.append_nil, ih]
      split
      · rfl
      · rw [List.filter_append, alone, List.append_nil]

end Firsts

theorem filterMap_ite_some {α β : Type} (wanted : α → Prop) [DecidablePred wanted] (f : α → β)
    (values : List α) :
    values.filterMap (fun value => if wanted value then some (f value) else none) =
      (values.filter wanted).map f := by
  induction values with
  | nil => rfl
  | cons value rest ih => by_cases h : wanted value <;> simp [h, ih]

/-! ## Reports -/

/-- The names that a report lists. -/
structure ClashNames where
  /-- The names that a role has more than once. -/
  repeated : Role → List String
  /-- The handlers that methods share, each with the names of its methods. -/
  shared : List (String × List String)
  /-- The names that are both incoming and outgoing. -/
  both : List String

namespace Stub

variable {stub : Stub}

/-- The names of the methods of a role over all contracts. -/
def methodNames (stub : Stub) : Role → List String
  | .incoming => (stub.incoming.flatMap (·.methods)).map (·.name)
  | .outgoing => (stub.outgoing.flatMap (·.methods)).map (·.name)

/-- The names of the contracts of all methods that have the name, in the order of the methods. -/
def declaring (stub : Stub) (role : Role) (name : String) : List String :=
  let contracts := match role with
    | .incoming => stub.incoming
    | .outgoing => stub.outgoing
  contracts.flatMap fun contract =>
    (contract.methods.filter (·.name = name)).map fun _ => contract.name

/-- Incoming methods of different names have the handler. -/
def IsShared (stub : Stub) (handler : String) : Prop :=
  ∃ a ∈ stub.methodNames .incoming, ∃ b ∈ stub.methodNames .incoming,
    a ≠ b ∧ handlerName a = handler ∧ handlerName b = handler

/-- Something about the names of a stub clashes. -/
inductive HasClash (stub : Stub) : Prop
  | repeated {role : Role} {name : String} (twice : 2 ≤ (stub.methodNames role).count name)
  | shared {handler : String} (shared : stub.IsShared handler)
  | both {name : String} (incoming : name ∈ stub.methodNames .incoming)
      (outgoing : name ∈ stub.methodNames .outgoing)

/-- The listed names are those that clash, each once and in the order of first occurrences. -/
structure HasClashNames (stub : Stub) (names : ClashNames) : Prop where
  repeated : ∀ role, Firsts (stub.methodNames role)
    (fun name => 2 ≤ (stub.methodNames role).count name) (names.repeated role)
  handlers : Firsts ((stub.methodNames .incoming).map handlerName) stub.IsShared
    (names.shared.map (·.1))
  methods : ∀ group ∈ names.shared, Firsts (stub.methodNames .incoming)
    (fun name => handlerName name = group.1) group.2
  both : Firsts (stub.methodNames .incoming) (· ∈ stub.methodNames .outgoing) names.both

/-- The clashes of the listed names: first the repeated ones, the incoming ones in front, each with
all contracts that declare it, then the shared handlers, and then the names in both roles. -/
def report (stub : Stub) (names : ClashNames) : List Clash :=
  let repeated (role : Role) : List Clash := (names.repeated role).map fun name =>
    .duplicateMethod role name (stub.declaring role name)
  repeated .incoming ++ repeated .outgoing ++
    names.shared.map (fun group => .sharedHandler group.1 group.2) ++ names.both.map .bothRoles

/-! ## The report that is given -/

/-- The names of the incoming methods that have the handler. -/
def sharing (stub : Stub) (handler : String) : List String :=
  (firstOccurrences (stub.methodNames .incoming)).filter (handlerName · = handler)

/-- The names that the checks find. -/
def clashNames (stub : Stub) : ClashNames where
  repeated role := (firstOccurrences (stub.methodNames role)).filter fun name =>
    2 ≤ (stub.methodNames role).count name
  shared := ((firstOccurrences ((stub.methodNames .incoming).map handlerName)).filter fun handler =>
    1 < (stub.sharing handler).length).map fun handler => (handler, stub.sharing handler)
  both := (firstOccurrences (stub.methodNames .incoming)).filter (· ∈ stub.methodNames .outgoing)

theorem one_lt_length_sharing_iff {handler : String} :
    1 < (stub.sharing handler).length ↔ stub.IsShared handler := by
  rw [sharing, ← firstOccurrences_filter, ← Nat.not_le, length_firstOccurrences_le_one_iff]
  simp only [List.mem_filter, decide_eq_true_eq]
  -- that at most one name has the handler means that all names that have it are equal
  constructor
  · intro h
    by_contra none
    refine h fun a ha b hb => ?_
    by_contra apart
    exact none ⟨a, ha.1, b, hb.1, apart, ha.2, hb.2⟩
  · rintro ⟨a, ha, b, hb, apart, toA, toB⟩ same
    exact apart (same a ⟨ha, toA⟩ b ⟨hb, toB⟩)

theorem hasClashNames_clashNames (stub : Stub) : stub.HasClashNames stub.clashNames where
  repeated role := firsts_filter _ _
  handlers := by
    have keys : stub.clashNames.shared.map (·.1) =
        (firstOccurrences ((stub.methodNames .incoming).map handlerName)).filter
          fun handler => 1 < (stub.sharing handler).length := by
      rw [clashNames, List.map_map]
      exact List.map_id _
    rw [keys]
    exact (firsts_filter _ _).congr fun _ _ => one_lt_length_sharing_iff
  methods := by
    intro group mem
    obtain ⟨handler, -, rfl⟩ := List.mem_map.1 mem
    exact firsts_filter _ _
  both := firsts_filter _ _

/-- Only these names are listed by a report. A group is determined by its handler, and so the groups
are by the list of the handlers. -/
theorem HasClashNames.unique {names : ClashNames} (h : stub.HasClashNames names) :
    names = stub.clashNames := by
  have given := stub.hasClashNames_clashNames
  obtain ⟨repeated, shared, both⟩ := names
  have groups {list : List (String × List String)}
      (methods : ∀ group ∈ list, Firsts (stub.methodNames .incoming)
        (fun name => handlerName name = group.1) group.2) :
      list = (list.map (·.1)).map fun handler => (handler, stub.sharing handler) := by
    rw [List.map_map]
    conv_lhs => rw [← List.map_id list]
    refine List.map_congr_left fun group mem => ?_
    exact Prod.ext rfl ((methods group mem).unique (firsts_filter _ _))
  have sameRepeated : repeated = stub.clashNames.repeated :=
    funext fun role => (h.repeated role).unique (given.repeated role)
  have sameShared : shared = stub.clashNames.shared := by
    have sameHandlers : shared.map (·.1) = stub.clashNames.shared.map (·.1) :=
      h.handlers.unique given.handlers
    have mine : shared = _ := groups h.methods
    rw [mine, sameHandlers]
    exact (groups given.methods).symm
  have sameBoth : both = stub.clashNames.both := h.both.unique given.both
  rw [sameRepeated, sameShared, sameBoth]

/-! ## What the checks give -/

theorem methodNames_eq (stub : Stub) (role : Role) :
    stub.methodNames role = (stub.methods role).map (·.name) := by
  cases role <;> rfl

theorem declaring_eq (stub : Stub) (role : Role) (name : String) :
    stub.declaring role name =
      ((stub.methodsWithContract role).filter (·.2.name = name)).map (·.1.name) := by
  rw [methodsWithContract, List.filter_flatMap, List.map_flatMap]
  simp only [List.filter_map, List.map_map]
  cases role <;> rfl

theorem duplicateMethods_eq (stub : Stub) (role : Role) :
    stub.duplicateMethods role = (stub.clashNames.repeated role).map fun name =>
      .duplicateMethod role name (stub.declaring role name) := by
  let pairs : List (String × String) :=
    (stub.methodsWithContract role).map fun entry => (entry.2.name, entry.1.name)
  have keys : pairs.map (·.1) = stub.methodNames role :=
    (names_methodsWithContract stub role).trans (stub.methodNames_eq role).symm
  -- the contracts in the group of a name are those that declare it
  have grouped (name : String) :
      (pairs.filter (·.1 = name)).map (·.2) = stub.declaring role name := by
    rw [declaring_eq, List.filter_map, List.map_map]
    rfl
  have length (name : String) :
      (stub.declaring role name).length = (stub.methodNames role).count name := by
    rw [← grouped, List.length_map, length_filter_key, keys]
  change (groupPairs pairs).filterMap (fun group =>
    if 1 < group.2.length then some (Clash.duplicateMethod role group.1 group.2) else none) = _
  rw [groupPairs_eq, keys, List.filterMap_map]
  simp only [Function.comp_def, grouped, length]
  exact filterMap_ite_some (fun name => 1 < (stub.methodNames role).count name) _ _

theorem sharedHandlers_eq (stub : Stub) :
    stub.sharedHandlers =
      stub.clashNames.shared.map fun group => .sharedHandler group.1 group.2 := by
  have keys : (((stub.methods .incoming).map fun method =>
      (handlerName method.name, method.name)).map (·.1)) =
      (stub.methodNames .incoming).map handlerName := by
    rw [methodNames, List.map_map, List.map_map]
    rfl
  -- the names in the group of a handler are those of its methods
  have grouped (handler : String) :
      firstOccurrences ((((stub.methods .incoming).map fun method =>
        (handlerName method.name, method.name)).filter (·.1 = handler)).map (·.2)) =
      stub.sharing handler := by
    rw [sharing, ← firstOccurrences_filter, methodNames, List.filter_map, List.filter_map,
      List.map_map]
    rfl
  rw [sharedHandlers, groupPairs_eq, keys, List.filterMap_map]
  simp only [Function.comp_def, grouped]
  rw [clashNames, List.map_map]
  exact filterMap_ite_some (fun handler => 1 < (stub.sharing handler).length) _ _

theorem clashes_eq_report (stub : Stub) : stub.clashes = stub.report stub.clashNames := by
  rw [clashes, duplicateMethods_eq, duplicateMethods_eq, sharedHandlers_eq]
  rfl

theorem report_eq_nil_iff {names : ClashNames} :
    stub.report names = [] ↔
      (∀ role, names.repeated role = []) ∧ names.shared = [] ∧ names.both = [] := by
  simp only [report, List.append_eq_nil_iff, List.map_eq_nil_iff]
  constructor
  · rintro ⟨⟨⟨incoming, outgoing⟩, shared⟩, both⟩
    refine ⟨fun role => ?_, shared, both⟩
    cases role with
    | incoming => exact incoming
    | outgoing => exact outgoing
  · rintro ⟨repeated, shared, both⟩
    exact ⟨⟨⟨repeated .incoming, repeated .outgoing⟩, shared⟩, both⟩

/-- Nothing is listed if and only if nothing clashes. -/
theorem HasClashNames.report_eq_nil_iff {names : ClashNames} (h : stub.HasClashNames names) :
    stub.report names = [] ↔ ¬stub.HasClash := by
  rw [Stub.report_eq_nil_iff, ← List.map_eq_nil_iff (f := (·.1))]
  simp only [List.eq_nil_iff_forall_not_mem, (h.repeated _).mem_iff, h.handlers.mem_iff,
    h.both.mem_iff]
  constructor
  · rintro ⟨repeated, shared, both⟩ (⟨twice⟩ | ⟨shares⟩ | ⟨incoming, outgoing⟩)
    · exact repeated _ _ ⟨List.count_pos_iff.1 (by omega), twice⟩
    · obtain ⟨a, ha, b, hb, apart, toA, toB⟩ := shares
      exact shared _ ⟨toA ▸ List.mem_map_of_mem ha, a, ha, b, hb, apart, toA, toB⟩
    · exact both _ ⟨incoming, outgoing⟩
  · intro none
    exact ⟨fun role name listed => none (.repeated listed.2),
      fun handler listed => none (.shared listed.2),
      fun name listed => none (.both listed.1 listed.2)⟩

/-- **All clashes are reported, each once, and nothing else.** A list of clashes is the one that the
checks give if and only if it tells the names that clash, in the order of their first occurrences:
for each role the repeated names, with the contracts of all their methods; then the handlers that
different incoming methods share, with the names of these; then the names in both roles. The list is
empty if and only if nothing clashes. -/
theorem clashes_reported (stub : Stub) :
    (∀ reported, (∃ names, stub.HasClashNames names ∧ reported = stub.report names) ↔
      reported = stub.clashes) ∧
    (stub.clashes = [] ↔ ¬stub.HasClash) := by
  refine ⟨fun reported => ⟨?_, ?_⟩, ?_⟩
  · rintro ⟨names, listed, rfl⟩
    rw [listed.unique, clashes_eq_report]
  · rintro rfl
    exact ⟨stub.clashNames, stub.hasClashNames_clashNames, stub.clashes_eq_report⟩
  · rw [clashes_eq_report]
    exact stub.hasClashNames_clashNames.report_eq_nil_iff

/-- A name that takes part in clashes of all kinds. -/
example : (Stub.mk "Client" "" .isPublic
      [⟨"ICalls", [⟨"hello", .nothing, []⟩]⟩]
      [⟨"IFirst", [⟨"hello", .nothing, []⟩, ⟨"Hello", .nothing, []⟩]⟩,
        ⟨"ISecond", [⟨"hello", .nothing, []⟩]⟩]).clashes =
    [.duplicateMethod .incoming "hello" ["IFirst", "ISecond"],
      .sharedHandler "HelloHandler" ["hello", "Hello"], .bothRoles "hello"] := by
  decide

end Stub

end TypedHub
