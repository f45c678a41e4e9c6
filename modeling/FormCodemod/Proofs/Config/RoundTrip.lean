import FormCodemod.Config.File
import FormCodemod.Proofs.Json.Object
import Mathlib.Data.List.Nodup

/-!
# Configurations, written and read

A configuration that was written is read again, and so it is with further members among its own, in
any order and place, as long as their keys are others (`read_write`). For an object is looked up by
keys, of which each has one member, and a string is read as it was written.
-/

namespace FormCodemod.Config

open FormCodemod.Json

/-- The keys of a configuration. -/
def keys : List String :=
  ["namespace", "factory", "hook", "formProp", "decorator"]

/-- The texts of an object's members: in their order the given ones of a configuration, as they are
    written, and among them any others with other keys. -/
inductive WithOthers : List (String × String) → List (List Char) → Prop where
  | nil : WithOthers [] []
  | own {members : List (String × String)} {texts : List (List Char)} (member : String × String)
      (h : WithOthers members texts) :
      WithOthers (member :: members) (writeMember (member.1.toList, member.2.toList) :: texts)
  | other {members : List (String × String)} {texts : List (List Char)} {text : List Char}
      {member : List Char × Value} (htext : IsMember text member)
      (hkey : ∀ key ∈ keys, member.1 ≠ key.toList) (h : WithOthers members texts) :
      WithOthers members (text :: texts)

variable {config : Config} {members : List (String × String)} {texts : List (List Char)}
  {object : List (List Char × Value)} {key value : String}

/-- A member with a string as its value. -/
def entry (member : String × String) : List Char × Value :=
  (member.1.toList, .atom (.string member.2.toList))

theorem map_fst_members (config : Config) : config.members.map (·.1) = keys := rfl

/-- What the texts are read as: the given members, and others. -/
theorem WithOthers.exists_object (h : WithOthers members texts) :
    ∃ object, List.Forall₂ IsMember texts object ∧ (∀ member ∈ members, entry member ∈ object) ∧
      ∀ found ∈ object, (∃ member ∈ members, found = entry member) ∨
        ∀ key ∈ keys, found.1 ≠ key.toList := by
  induction h with
  | nil => exact ⟨[], .nil, nofun, nofun⟩
  | own member _ ih =>
    obtain ⟨object, hobject, hall, hfound⟩ := ih
    refine ⟨entry member :: object, .cons (isMember_writeMember _ _) hobject, ?_, ?_⟩
    · rw [List.forall_mem_cons]
      exact ⟨List.mem_cons_self, fun m hm => List.mem_cons_of_mem _ (hall m hm)⟩
    · rw [List.forall_mem_cons]
      refine ⟨.inl ⟨member, List.mem_cons_self, rfl⟩, fun found hmem => (hfound found hmem).imp_left ?_⟩
      rintro ⟨m, hm, heq⟩
      exact ⟨m, List.mem_cons_of_mem _ hm, heq⟩
  | other htext hkey _ ih =>
    obtain ⟨object, hobject, hall, hfound⟩ := ih
    exact ⟨_ :: object, .cons htext hobject, fun m hm => List.mem_cons_of_mem _ (hall m hm),
      List.forall_mem_cons.2 ⟨.inr hkey, hfound⟩⟩

theorem withOthers_written (members : List (String × String)) :
    WithOthers members
      (members.map fun member => writeMember (member.1.toList, member.2.toList)) := by
  induction members with
  | nil => exact .nil
  | cons member members ih => exact .own member ih

/-- The string under a key that has a single member. -/
theorem lookup_eq (hmem : entry (key, value) ∈ object)
    (hone : ∀ found ∈ object, found.1 = key.toList → found = entry (key, value)) :
    lookup object key = some value := by
  have hfind : object.reverse.find? (·.1 = key.toList) = some (entry (key, value)) := by
    cases h : object.reverse.find? (·.1 = key.toList) with
    | none =>
      have := List.find?_eq_none.1 h _ (List.mem_reverse.2 hmem)
      exact absurd rfl (of_decide_eq_false (Bool.eq_false_iff.2 this))
    | some found =>
      have hkey : found.1 = key.toList := by simpa using List.find?_some h
      rw [hone found (List.mem_reverse.1 (List.mem_of_find?_eq_some h)) hkey]
  rw [lookup, hfind]
  exact congrArg some String.ofList_toList

/-- An object that holds the members of a configuration, each once, tells it. -/
theorem ofLookup_eq (hall : ∀ member ∈ config.members, entry member ∈ object)
    (hfound : ∀ found ∈ object, (∃ member ∈ config.members, found = entry member) ∨
      ∀ key ∈ keys, found.1 ≠ key.toList) :
    ofLookup (lookup object) = config := by
  have hlookup : ∀ member ∈ config.members, lookup object member.1 = some member.2 := by
    intro member hmember
    refine lookup_eq (hall member hmember) fun found hmem hkey => ?_
    have hkeys : member.1 ∈ keys := map_fst_members config ▸ List.mem_map_of_mem hmember
    rcases hfound found hmem with ⟨other, hother, rfl⟩ | hne
    · -- No two keys of a configuration are the same.
      have hnodup : (config.members.map (·.1)).Nodup := by
        rw [map_fst_members]
        decide
      rw [List.inj_on_of_nodup_map hnodup hother hmember (String.toList_inj.1 hkey)]
    · exact absurd hkey (hne _ hkeys)
  have howner := hlookup ("namespace", config.owner) (by simp [members])
  have hfactory := hlookup ("factory", config.factory) (by simp [members])
  have hhook := hlookup ("hook", config.hook) (by simp [members])
  have hformProp := hlookup ("formProp", config.formProp) (by simp [members])
  have hdecorator := hlookup ("decorator", config.decorator) (by simp [members])
  rw [ofLookup, howner, hfactory, hhook, hformProp, hdecorator]
  rfl

/-- A configuration is read as it was written, with any others among its members. -/
theorem read_write (config : Config) :
    Config.read config.write = .ok config ∧
      ∀ texts, WithOthers config.members texts → Config.read (objectOf texts) = .ok config := by
  have hothers : ∀ texts, WithOthers config.members texts →
      Config.read (objectOf texts) = .ok config := by
    intro texts htexts
    obtain ⟨object, hobject, hall, hfound⟩ := htexts.exists_object
    rw [Config.read, readObject_objectOf hobject, Except.map, ofLookup_eq hall hfound]
  refine ⟨?_, hothers⟩
  rw [Config.write, writeObject, List.map_map]
  exact hothers _ (withOthers_written config.members)

/-- A member ahead, with an escape in its key, and characters of all kinds in a string. -/
theorem read_write_nested :
    let config : Config := { owner := "", hook := "\"\\\n\x01\u266d𝄫" }
    let texts := " \"\\u0078\" : [1, \x7b\"a\" : null\x7d] ".toList ::
      config.members.map fun member => writeMember (member.1.toList, member.2.toList)
    WithOthers config.members texts ∧ Config.read (objectOf texts) = .ok config := by
  intro config texts
  have hvalue : readWhole " [1, \x7b\"a\" : null\x7d] ".toList =
      .ok (.list [.atom (.number (.natural 1)), .object [(['a'], .atom .null)]]) := rfl
  have htext : IsMember " \"\\u0078\" : [1, \x7b\"a\" : null\x7d] ".toList
      (['x'], .list [.atom (.number (.natural 1)), .object [(['a'], .atom .null)]]) :=
    ⟨[' '], "\\u0078\"".toList, [' '], _, rfl, rfl, rfl, rfl, hvalue, (by decide : 2 < depthLimit)⟩
  have hothers : WithOthers config.members texts :=
    .other htext (by decide) (withOthers_written config.members)
  exact ⟨hothers, (read_write config).2 texts hothers⟩

end FormCodemod.Config
