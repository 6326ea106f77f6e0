import Mathlib.Data.List.Perm.Basic
import TypedHub.Proofs.CSharp.Identifier
import TypedHub.Proofs.Stub.Clash
import TypedHub.Stub.Source

/-!
# Names of the members

Which members of the two types of a source have the same name, as identifiers. The checks of a stub
compare names as they are spelled, methods with methods and handlers with handlers. So a stub
without clashes may still have members of one name; `NamesApart` says when it has none.

## How the members are counted

* In the class each outgoing method is counted once, by its overload without a token. The two
  overloads have the same name and may have it (`Overloads`).
* In the interface a delegate stands in front of each event. The members are reordered, with all
  delegates at the end, so that their names are those of the methods followed by the handlers.
-/

namespace TypedHub

open CSharp

/-! ## Members with given names -/

namespace CSharp

/-- Members with the given names are pairwise apart if the names are different identifiers. -/
theorem pairwise_not_sharesName_iff {members : List Member} (names : List String)
    (h : members.map Member.name? = names.map some) :
    (members.Pairwise fun a b => ¬ a.SharesName b) ↔ (names.map identifier).Nodup := by
  have byName : (members.Pairwise fun a b => ¬ a.SharesName b) ↔
      (members.map Member.name?).Pairwise fun x y =>
        ¬ ∃ name other, x = some name ∧ y = some other ∧ identifier name = identifier other := by
    rw [List.pairwise_map]
    rfl
  rw [byName, h, List.pairwise_map, List.Nodup, List.pairwise_map]
  simp

theorem sharesName_congr {a a' b b' : Member} (ha : a.name? = a'.name?) (hb : b.name? = b'.name?) :
    a.SharesName b ↔ a'.SharesName b' := by
  rw [Member.SharesName, ha, hb, Member.SharesName]

theorem Member.SharesName.symm {a b : Member} (h : a.SharesName b) : b.SharesName a := by
  obtain ⟨name, other, ha, hb, same⟩ := h
  exact ⟨other, name, hb, ha, same.symm⟩

end CSharp

namespace Stub

variable {settings : Settings} {stub : Stub}

/-! ## Members that are apart -/

/-- The two overloads that an outgoing method of the stub has in the class. -/
def Overloads (settings : Settings) (stub : Stub) (a b : Member) : Prop :=
  ∃ method ∈ stub.methods .outgoing,
    a = .method (method.forwarding settings) ∧ b = .method (method.cancellable settings)

/-- No two members have the same name, except for overloads, and no member has that of the class. -/
structure MembersApart (settings : Settings) (stub : Stub) (classType interfaceType : TypeDecl) :
    Prop where
  inClass : classType.members.Pairwise fun a b => a.SharesName b → Overloads settings stub a b
  fromClass : ∀ member ∈ classType.members, ∀ name ∈ member.name?,
    identifier name ≠ identifier classType.name
  inInterface : interfaceType.members.Pairwise fun a b => ¬ a.SharesName b

/-- What the checks leave open: names that differ by an at sign only, and names that are never
compared with each other. -/
structure NamesApart (settings : Settings) (stub : Stub) : Prop where
  methods : ∀ a ∈ stub.allMethods, ∀ b ∈ stub.allMethods,
    identifier a.name = identifier b.name → a.name = b.name
  handlers : ∀ a ∈ stub.methods .incoming, ∀ b ∈ stub.methods .incoming,
    identifier a.handler = identifier b.handler → a.handler = b.handler
  methodHandler : ∀ a ∈ stub.allMethods, ∀ b ∈ stub.methods .incoming,
    identifier a.name ≠ identifier b.handler
  methodConnection : ∀ a ∈ stub.allMethods,
    identifier a.name ≠ identifier settings.transport.connectionProperty
  methodClass : ∀ a ∈ stub.allMethods, identifier a.name ≠ identifier stub.className
  connectionClass :
    identifier settings.transport.connectionProperty ≠ identifier stub.className

/-! ## The class -/

/-- The class with one member for each method and without its constructor. -/
def memberPerMethod (settings : Settings) (stub : Stub) : List Member :=
  [.property (connectionProperty settings)] ++
    ((stub.methods .outgoing).map fun method => .method (method.forwarding settings)) ++
    (stub.methods .incoming).map fun method => .event (method.classEvent settings stub.interfaceName)

theorem name?_memberPerMethod (settings : Settings) (stub : Stub) :
    (stub.memberPerMethod settings).map Member.name? =
      (settings.transport.connectionProperty :: stub.allMethods.map (·.memberName)).map some := by
  simp [memberPerMethod, allMethods, Member.name?, connectionProperty, Signature.forwarding,
    Signature.classEvent, Function.comp_def]

theorem memberPerMethod_sublist :
    (stub.memberPerMethod settings).Sublist (stub.classMembers settings) := by
  have overloads : ((stub.methods .outgoing).map fun method =>
        Member.method (method.forwarding settings)).Sublist
      ((stub.methods .outgoing).flatMap fun method =>
        [.method (method.forwarding settings), .method (method.cancellable settings)]) := by
    induction stub.methods .outgoing with
    | nil => exact .slnil
    | cons method rest ih => exact .cons_cons _ (.cons _ ih)
  exact ((List.Sublist.refl _).append overloads |>.append (.refl _)).trans
    (List.sublist_append_left _ _)

/-- An overload with a token is asynchronous, and none of these members is. -/
theorem not_overloads_of_mem_memberPerMethod {a b : Member}
    (mem : b ∈ stub.memberPerMethod settings) : ¬ Overloads settings stub a b := by
  rintro ⟨method, -, -, rfl⟩
  simp [memberPerMethod, Signature.forwarding, Signature.cancellable] at mem

/-- Both overloads of a method have its name. -/
theorem name?_overload {method : Signature} {member : Member}
    (mem : member ∈
      [Member.method (method.forwarding settings), .method (method.cancellable settings)]) :
    member.name? = (Member.method (method.forwarding settings)).name? := by
  simp only [List.mem_cons, List.not_mem_nil, or_false] at mem
  obtain rfl | rfl := mem <;> rfl

/-- It is enough to look at one overload of each method. -/
theorem classMembers_apart_iff_memberPerMethod (settings : Settings) (stub : Stub) :
    ((stub.classMembers settings).Pairwise fun a b =>
        a.SharesName b → Overloads settings stub a b) ↔
      (stub.memberPerMethod settings).Pairwise fun a b => ¬ a.SharesName b := by
  constructor
  · intro apart
    refine (apart.sublist memberPerMethod_sublist).imp_of_mem fun _ mem imp shared => ?_
    exact not_overloads_of_mem_memberPerMethod mem (imp shared)
  · simp only [memberPerMethod, List.pairwise_append, List.pairwise_map, List.mem_append,
      List.mem_singleton, forall_eq, List.forall_mem_map, or_imp, forall_and]
    rintro ⟨⟨-, methods, property⟩, events, propertyEvents, methodEvents⟩
    refine List.pairwise_append.2 ⟨List.pairwise_append.2 ⟨List.pairwise_append.2
      ⟨List.pairwise_singleton _ _, List.pairwise_flatMap.2 ⟨?_, ?_⟩, ?_⟩, ?_, ?_⟩,
      List.pairwise_singleton _ _, ?_⟩
    · exact fun method mem => List.pairwise_pair.2 fun _ => ⟨method, mem, rfl, rfl⟩
    · refine methods.imp fun apart x hx y hy shared => absurd ?_ apart
      exact (sharesName_congr (name?_overload hx) (name?_overload hy)).1 shared
    · rintro _ hp y hy shared
      obtain rfl := List.mem_singleton.1 hp
      obtain ⟨method, mem, hy⟩ := List.mem_flatMap.1 hy
      exact absurd ((sharesName_congr rfl (name?_overload hy)).1 shared) (property method mem)
    · exact List.pairwise_map.2 (events.imp fun apart shared => absurd shared apart)
    · intro x hx y hy shared
      obtain ⟨event, declared, rfl⟩ := List.mem_map.1 hy
      rcases List.mem_append.1 hx with hp | hm
      · obtain rfl := List.mem_singleton.1 hp
        exact absurd shared (propertyEvents event declared)
      · obtain ⟨method, mem, hm⟩ := List.mem_flatMap.1 hm
        exact absurd ((sharesName_congr (name?_overload hm) rfl).1 shared)
          (methodEvents method mem event declared)
    · rintro x - y hy ⟨_, _, -, name, -⟩
      obtain rfl := List.mem_singleton.1 hy
      simp [Member.name?] at name

/-- Methods are declared under names with the identifiers of their own. -/
theorem identifier_memberNames (methods : List Signature) :
    (methods.map (·.memberName)).map identifier = (methods.map (·.name)).map identifier := by
  simp [Signature.memberName]

theorem classMembers_apart_iff (settings : Settings) (stub : Stub) :
    ((stub.classMembers settings).Pairwise fun a b =>
        a.SharesName b → Overloads settings stub a b) ↔
      ((settings.transport.connectionProperty :: stub.allMethods.map (·.name)).map
        identifier).Nodup := by
  rw [classMembers_apart_iff_memberPerMethod,
    pairwise_not_sharesName_iff _ (name?_memberPerMethod settings stub), List.map_cons,
    identifier_memberNames, List.map_cons]

/-- The names in the class are that of the connection and those of the methods. -/
theorem exists_classMember_iff {name : String} :
    (∃ member ∈ stub.classMembers settings, name ∈ member.name?) ↔
      name = settings.transport.connectionProperty ∨
        ∃ method ∈ stub.allMethods, name = method.memberName := by
  constructor
  · rintro ⟨member, mem, named⟩
    simp only [classMembers, List.mem_append, List.mem_singleton, List.mem_flatMap, List.mem_map]
      at mem
    obtain ((rfl | ⟨method, declared, overload⟩) | ⟨method, declared, rfl⟩) | rfl := mem
    · exact .inl (Option.some.inj named).symm
    · rw [name?_overload overload] at named
      exact .inr ⟨method, List.mem_append_left _ declared, (Option.some.inj named).symm⟩
    · exact .inr ⟨method, List.mem_append_right _ declared, (Option.some.inj named).symm⟩
    · cases named
  · intro named
    have mem : some name ∈ (stub.memberPerMethod settings).map Member.name? := by
      rw [name?_memberPerMethod, List.mem_map]
      refine ⟨name, ?_, rfl⟩
      simpa [eq_comm] using named
    obtain ⟨member, mem, named⟩ := List.mem_map.1 mem
    exact ⟨member, memberPerMethod_sublist.subset mem, named⟩

/-- No name in the class is that of the class if neither the connection nor a method has it. -/
theorem classMembers_ne_iff :
    (∀ member ∈ stub.classMembers settings, ∀ name ∈ member.name?,
        identifier name ≠ identifier stub.className) ↔
      identifier settings.transport.connectionProperty ≠ identifier stub.className ∧
        ∀ a ∈ stub.allMethods, identifier a.name ≠ identifier stub.className := by
  constructor
  · intro h
    have ne {name : String} (mem : ∃ member ∈ stub.classMembers settings, name ∈ member.name?) :
        identifier name ≠ identifier stub.className := by
      obtain ⟨member, mem, named⟩ := mem
      exact h member mem name named
    refine ⟨ne (exists_classMember_iff.2 (.inl rfl)), fun a mem => ?_⟩
    rw [← identifier_escapeKeyword]
    exact ne (exists_classMember_iff.2 (.inr ⟨a, mem, rfl⟩))
  · rintro ⟨connection, methods⟩ member mem name named
    obtain rfl | ⟨method, mem, rfl⟩ := exists_classMember_iff.1 ⟨member, mem, named⟩
    · exact connection
    · rw [Signature.memberName, identifier_escapeKeyword]
      exact methods method mem

/-! ## The interface -/

theorem interfaceMembers_apart_iff (settings : Settings) (stub : Stub) :
    ((stub.interfaceMembers settings).Pairwise fun a b => ¬ a.SharesName b) ↔
      ((stub.allMethods.map (·.name) ++ (stub.methods .incoming).map (·.handler)).map
        identifier).Nodup := by
  have reordered : (stub.interfaceMembers settings).Perm
      (((stub.methods .outgoing).map fun method => .method (method.declaration settings)) ++
        (((stub.methods .incoming).map fun method => .event method.interfaceEvent) ++
          (stub.methods .incoming).map fun method =>
            .delegate (method.delegate stub.interfaceName))) := by
    refine .append_left _ ((List.map_append_flatMap_perm _ _ _).symm.trans ?_)
    rw [← List.map_eq_flatMap]
    exact List.perm_append_comm
  rw [reordered.pairwise_iff fun h shared => h shared.symm, pairwise_not_sharesName_iff
    (stub.allMethods.map (·.memberName) ++ (stub.methods .incoming).map (·.handler))]
  · rw [List.map_append, identifier_memberNames, List.map_append]
  · simp [allMethods, Member.name?, Signature.declaration, Signature.interfaceEvent,
      Signature.delegate, Function.comp_def]

/-! ## Stubs without clashes -/

section WithoutClashes

variable (accepted : stub.clashes = [])

include accepted

/-- Methods are different identifiers if no two are told apart by an at sign only. -/
theorem nodup_identifiers_iff :
    ((stub.allMethods.map (·.name)).map identifier).Nodup ↔
      ∀ a ∈ stub.allMethods, ∀ b ∈ stub.allMethods,
        identifier a.name = identifier b.name → a.name = b.name := by
  rw [List.nodup_map_iff_inj_on (clashes_eq_nil_iff.1 accepted).1]
  simp only [List.forall_mem_map]

theorem nodup_handlers_iff :
    (((stub.methods .incoming).map (·.handler)).map identifier).Nodup ↔
      ∀ a ∈ stub.methods .incoming, ∀ b ∈ stub.methods .incoming,
        identifier a.handler = identifier b.handler → a.handler = b.handler := by
  rw [List.nodup_map_iff_inj_on (clashes_eq_nil_iff.1 accepted).2]
  simp only [List.forall_mem_map]

theorem membersApart_compilationUnit_iff :
    MembersApart settings stub (stub.classDecl settings) (stub.interfaceDecl settings) ↔
      NamesApart settings stub := by
  have inClass := classMembers_apart_iff settings stub
  rw [List.map_cons, List.nodup_cons, nodup_identifiers_iff accepted] at inClass
  simp only [List.mem_map, exists_exists_and_eq_and, not_exists, not_and] at inClass
  have inInterface := interfaceMembers_apart_iff settings stub
  rw [List.map_append, List.nodup_append, nodup_identifiers_iff accepted,
    nodup_handlers_iff accepted] at inInterface
  simp only [List.forall_mem_map] at inInterface
  constructor
  · rintro ⟨classApart, fromClass, interfaceApart⟩
    obtain ⟨methodConnection, methods⟩ := inClass.1 classApart
    obtain ⟨-, handlers, methodHandler⟩ := inInterface.1 interfaceApart
    obtain ⟨connectionClass, methodClass⟩ := classMembers_ne_iff.1 fromClass
    exact { methods, handlers, methodHandler, methodConnection, methodClass, connectionClass }
  · rintro ⟨methods, handlers, methodHandler, methodConnection, methodClass, connectionClass⟩
    exact {
      inClass := inClass.2 ⟨methodConnection, methods⟩
      fromClass := classMembers_ne_iff.2 ⟨connectionClass, methodClass⟩
      inInterface := inInterface.2 ⟨methods, handlers, methodHandler⟩ }

end WithoutClashes

/-- **A stub that passes the checks, and that can be written, has members of different names if and
only if none of its names are equal in a way that the checks leave open.** -/
theorem membersApart_iff (settings : Settings) (stub : Stub) {unit : CompilationUnit}
    (accepted : stub.clashes = []) (written : stub.lower settings = .ok unit) :
    ∃ classType interfaceType, unit.types = [classType, interfaceType] ∧
      (MembersApart settings stub classType interfaceType ↔ NamesApart settings stub) := by
  obtain ⟨-, rfl⟩ := lower_eq_ok_iff.1 written
  exact ⟨_, _, rfl, membersApart_compilationUnit_iff accepted⟩

/-- A client of a chat: it sends messages and is told of them. -/
def chat : Stub where
  className := "ChatClient"
  containingNamespace := "Chat"
  visibility := .isPublic
  outgoing := [⟨"IRoom", [⟨"Send", .nothing, [⟨"string", "text", false, none, false⟩]⟩]⟩]
  incoming := [⟨"IGuest", [⟨"Received", .nothing, [⟨"string", "text", false, none, false⟩]⟩]⟩]

theorem membersApart_chat :
    chat.clashes = [] ∧ chat.lower {} = .ok (chat.compilationUnit {}) ∧
      ∃ classType interfaceType, (chat.compilationUnit {}).types = [classType, interfaceType] ∧
        MembersApart {} chat classType interfaceType := by
  have accepted : chat.clashes = [] := by decide
  have written : chat.lower {} = .ok (chat.compilationUnit {}) := by rfl
  obtain ⟨classType, interfaceType, types, apart⟩ := membersApart_iff {} chat accepted written
  refine ⟨accepted, written, classType, interfaceType, types, apart.2 ?_⟩
  constructor <;> decide

/-- A client with a method for each role, whose names differ by an at sign only. -/
def twins : Stub where
  className := "C"
  containingNamespace := ""
  visibility := .isPublic
  outgoing := [⟨"IOut", [⟨"@sync", .nothing, []⟩]⟩]
  incoming := [⟨"IIn", [⟨"sync", .nothing, []⟩]⟩]

/-- The checks pass although the class has a method and an event of one name. -/
theorem not_membersApart_twins :
    twins.clashes = [] ∧ twins.lower {} = .ok (twins.compilationUnit {}) ∧
      ¬ MembersApart {} twins (twins.classDecl {}) (twins.interfaceDecl {}) := by
  have accepted : twins.clashes = [] := by decide
  refine ⟨accepted, rfl, fun apart => ?_⟩
  have names := ((membersApart_compilationUnit_iff accepted).1 apart).methods
  exact absurd names (by decide)

end Stub

end TypedHub
