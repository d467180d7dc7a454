import CrudPlan.Proofs.Schema.Registry
import CrudPlan.Proofs.Text.Ascii
import CrudPlan.Service.Operation
import Mathlib.Data.List.Infix
import Mathlib.Data.List.Nodup
import Mathlib.Data.String.Basic

namespace CrudPlan

open Text

namespace OperationKind

def verb : OperationKind → String
  | .getOne | .getMany => "get"
  | .createOne => "create"
  | .updateOne => "update"
  | .deleteOne => "delete"

def quantity : OperationKind → String
  | .getMany => "Many"
  | _ => "One"

/-- What stands behind the camel case of a model's name. -/
def ending (k : OperationKind) (camel : List Char) : List Char :=
  if camel = [] then k.name.toList
  else if lastClass camel = .prepended then ' ' :: k.name.toList
  else k.title.toList

/-- All endings of a kind. -/
def endings (k : OperationKind) : List (List Char) :=
  [k.name.toList, ' ' :: k.name.toList, k.title.toList]

variable {k k' : OperationKind} {m m' s : String} {camel camel' : List Char}

theorem phrase (k : OperationKind) :
    Phrase k.name.toList (k.verb.toList.map ([·])) [k.quantity.toList.map ([·])] := by
  have hprintable : (k.name.toList.all fun x => 32 ≤ x.toNat ∧ x.toNat < 127) = true := by
    cases k <;> decide
  refine ⟨?_, ?_, ?_, ?_, ?_⟩
  · intro x hx
    have hbounds := of_decide_eq_true (List.all_eq_true.1 hprintable x hx)
    exact clusterClass_of_printable hbounds.1 hbounds.2
  all_goals cases k <;> decide +kernel

theorem behind_eq_ending (k : OperationKind) (camel : List Char) :
    Phrase.behind camel (k.verb.toList.map ([·])) [k.quantity.toList.map ([·])] =
      k.ending camel := by
  have hname : (k.verb.toList.map ([·])).flatten ++ capitalized (k.quantity.toList.map ([·])) =
      k.name.toList := by
    cases k <;> decide +kernel
  have htitle : capitalized (k.verb.toList.map ([·])) ++ capitalized (k.quantity.toList.map ([·])) =
      k.title.toList := by
    cases k <;> decide +kernel
  simp only [Phrase.behind, ending, List.flatMap_cons, List.flatMap_nil, List.append_nil,
    List.cons_append, hname, htitle]

theorem toList_operationName (k : OperationKind) (m : String) :
    (k.operationName m).toList = (camelCase [m]).toList ++ k.ending (camelCase [m]).toList := by
  have hname := k.phrase.joinCamel_append m.toList
  rw [behind_eq_ending] at hname
  simpa [operationName, camelCase, String.intercalate_cons_cons] using hname

theorem ending_mem (k : OperationKind) (camel : List Char) : k.ending camel ∈ k.endings := by
  unfold ending endings
  repeat' split
  all_goals simp

/-- Where one ending is the end of another one, both are of one kind. Apart from a blank they are
the same. -/
theorem eq_of_isSuffix : ∀ k ∈ all, ∀ k' ∈ all, ∀ e ∈ k.endings, ∀ e' ∈ k'.endings, e <:+ e' →
    k = k' ∧ (e = e' ∨ e = k.name.toList ∧ e' = ' ' :: k.name.toList) := by
  decide +kernel

theorem mem_all (k : OperationKind) : k ∈ all := by
  cases k <;> decide

theorem eq_nil_of_ending (h : k.ending camel = k.name.toList) : camel = [] := by
  unfold ending at h
  split at h
  · assumption
  · split at h
    · exact absurd (congrArg List.length h) (by simp)
    · exact absurd h (by cases k <;> decide)

theorem eq_of_append_ending_eq (hlen : (k.ending camel).length ≤ (k'.ending camel').length)
    (h : camel ++ k.ending camel = camel' ++ k'.ending camel') : k = k' ∧ camel = camel' := by
  have hsuffix : k.ending camel <:+ k'.ending camel' :=
    List.suffix_of_suffix_length_le ⟨camel, h⟩ ⟨camel', rfl⟩ hlen
  obtain ⟨rfl, he | ⟨he, he'⟩⟩ := eq_of_isSuffix k k.mem_all k' k'.mem_all _ (k.ending_mem camel)
    _ (k'.ending_mem camel') hsuffix
  · rw [he] at h
    exact ⟨rfl, List.append_cancel_right h⟩
  · -- the blank would have to come from nothing
    obtain rfl := eq_nil_of_ending he
    rw [he, he'] at h
    have hlength := congrArg List.length h
    simp at hlength
    omega

theorem operationName_inj : k.operationName m = k'.operationName m' ↔
    k = k' ∧ camelCase [m] = camelCase [m'] := by
  rw [← String.toList_inj, toList_operationName, toList_operationName, ← String.toList_inj]
  constructor
  · intro h
    rcases Nat.le_total (k.ending (camelCase [m]).toList).length
      (k'.ending (camelCase [m']).toList).length with hle | hle
    · exact eq_of_append_ending_eq hle h
    · obtain ⟨hk, hcamel⟩ := eq_of_append_ending_eq hle h.symm
      exact ⟨hk.symm, hcamel.symm⟩
  · rintro ⟨rfl, h⟩
    rw [h]

theorem lastClass_name_ne (k : OperationKind) (cs : List Char) :
    lastClass (cs ++ ' ' :: k.name.toList) ≠ .prepended := by
  have hblank : clusterClass ' ' = .other := clusterClass_of_printable (by decide) (by decide)
  have hothers : ∀ x ∈ ' ' :: k.name.toList, clusterClass x = .other :=
    List.forall_mem_cons.2 ⟨hblank, k.phrase.others⟩
  rw [lastClass_append_others (List.cons_ne_nil _ _) hothers]
  decide

theorem words_append_name_ne_nil (k : OperationKind) (cs : List Char) :
    words (cs ++ ' ' :: k.name.toList) ≠ [] := by
  intro hnil
  have hname := k.phrase.joinCamel_append cs
  rw [hnil, behind_eq_ending] at hname
  have hending := (List.append_eq_nil_iff.1 hname.symm).2
  have hmem := k.ending_mem (joinCamel (words cs))
  rw [hending] at hmem
  exact absurd hmem (by cases k <;> decide)

/-- What the name of a type adds to the name of the operation does not depend on it. -/
theorem toList_typeName (k : OperationKind) (m : String) (hs : BeginsCluster s.toList) :
    (k.typeName m s).toList =
      (k.operationName m).toList ++ (words s.toList).flatMap capitalized := by
  have hwords := words_append_blank (k.lastClass_name_ne m.toList) hs
  have hjoin := Text.joinCamel_append (k.words_append_name_ne_nil m.toList) (words s.toList)
  rw [← hwords] at hjoin
  simpa [typeName, operationName, camelCase, String.intercalate_cons_cons] using hjoin

theorem operationName_eq (k : OperationKind) (hm : lastClass m.toList ≠ .prepended) :
    k.operationName m = if words m.toList = [] then k.name else camelCase [m] ++ k.title := by
  have hcamel : (camelCase [m]).toList = joinCamel (words m.toList) := by simp [camelCase]
  rw [← String.toList_inj, toList_operationName, ending, hcamel]
  by_cases hnil : words m.toList = []
  · rw [if_pos (joinCamel_words_eq_nil_iff.2 hnil), if_pos hnil, hnil]
    rfl
  · rw [if_neg (mt joinCamel_words_eq_nil_iff.1 hnil), if_neg hnil,
      if_neg (mt (lastClass_joinCamel hnil).2.1 hm), String.toList_append, hcamel]

theorem words_joined (k : OperationKind) (hm : lastClass m.toList ≠ .prepended)
    (hs : BeginsCluster s.toList) :
    words (" ".intercalate [m, k.name, s]).toList =
      words m.toList ++ words k.name.toList ++ words s.toList := by
  rw [← words_append_blank hm k.phrase.beginsCluster,
    ← words_append_blank (k.lastClass_name_ne m.toList) hs]
  simp [String.intercalate_cons_cons]

theorem capitalize_name (k : OperationKind) : k.name.capitalize = k.title := by
  cases k <;> decide +kernel

/-- Joined names keep the words of their parts: behind the camel case of the model's name stands the
kind, and behind that the further words, whatever the parts begin and end with. -/
theorem names_compose (k : OperationKind) (hm : Ascii m.toList) (hs : Ascii s.toList) :
    k.operationName m =
      (if words m.toList = [] then k.name else camelCase [m] ++ k.name.capitalize) ∧
    k.typeName m s = k.operationName m ++
      .ofList ((words s.toList).flatMap fun w => capitalizeAscii w.flatten) ∧
    words (" ".intercalate [m, k.name]).toList = words m.toList ++ words k.name.toList ∧
    words (" ".intercalate [m, k.name, s]).toList =
      words m.toList ++ words k.name.toList ++ words s.toList ∧
    Function.Injective fun k => operationName k m := by
  refine ⟨?_, ?_, ?_, k.words_joined hm.lastClass_ne hs.beginsCluster, ?_⟩
  · rw [capitalize_name]
    exact k.operationName_eq hm.lastClass_ne
  · rw [← String.toList_inj, String.toList_append, String.toList_ofList, ← hs.capitalized_words]
    exact k.toList_typeName m hs.beginsCluster
  · have hname := words_append_blank hm.lastClass_ne k.phrase.beginsCluster
    simpa [String.intercalate_cons_cons] using hname
  · intro k k' he
    exact (operationName_inj.1 he).1

/-- An acronym, a digit and a separator at the seams, and a name that has no words. -/
theorem names_compose_acronym : Ascii "user_XMLHTTP".toList ∧ Ascii "2xType-".toList ∧
    Ascii "-_".toList ∧ getMany.operationName "user_XMLHTTP" = "userXmlhttpGetMany" ∧
    getMany.typeName "user_XMLHTTP" "2xType-" = "userXmlhttpGetMany2XType" ∧
    words (" ".intercalate ["user_XMLHTTP", getMany.name, "2xType-"]).toList =
      words "user_XMLHTTP".toList ++ words getMany.name.toList ++ words "2xType-".toList ∧
    getOne.operationName "user_XMLHTTP" ≠ getMany.operationName "user_XMLHTTP" ∧
    getOne.operationName "-_" = "getOne" := by
  have hm : Ascii "user_XMLHTTP".toList := by decide +kernel
  have hs : Ascii "2xType-".toList := by decide +kernel
  have hnone : Ascii "-_".toList := by decide +kernel
  have hwords : words "user_XMLHTTP".toList ≠ [] := by decide +kernel
  have hcamel : camelCase ["user_XMLHTTP"] = "userXmlhttp" := by decide +kernel
  have hending : ((words "2xType-".toList).flatMap fun w => capitalizeAscii w.flatten) =
      "2XType".toList := by decide +kernel
  obtain ⟨hname, htype, _, hjoined, hinj⟩ := getMany.names_compose hm hs
  obtain ⟨hbare, _⟩ := getOne.names_compose hnone hs
  rw [if_neg hwords, hcamel] at hname
  rw [hname, hending] at htype
  refine ⟨hm, hs, hnone, hname.trans (by decide), htype.trans (by decide), hjoined, ?_, ?_⟩
  · intro he
    cases hinj he
  · rw [hbare, if_pos (by decide +kernel)]
    rfl

end OperationKind

namespace Registry

/-- The names of the operations on all models. -/
def operationNames (r : Registry) : List String :=
  r.models.flatMap fun m => OperationKind.all.map fun k => k.operationName m.name

variable {d : Declaration} {r : Registry}

theorem operationNames_nodup_iff :
    r.operationNames.Nodup ↔ (r.models.map fun m => camelCase [m.name]).Nodup := by
  have hkinds : ∀ m ∈ r.models, (OperationKind.all.map fun k => k.operationName m.name).Nodup := by
    intro m _
    refine List.Nodup.map ?_ (by decide)
    intro k k' he
    exact (OperationKind.operationName_inj.1 he).1
  rw [operationNames, List.nodup_flatMap, and_iff_right hkinds, List.Nodup, List.pairwise_map]
  constructor
  · refine List.Pairwise.imp ?_
    intro m m' hdisjoint he
    refine hdisjoint (List.mem_map_of_mem OperationKind.getOne.mem_all) ?_
    rw [OperationKind.operationName_inj.2 ⟨rfl, he⟩]
    exact List.mem_map_of_mem OperationKind.getOne.mem_all
  · refine List.Pairwise.imp ?_
    intro m m' hne name hname hname'
    obtain ⟨k, _, rfl⟩ := List.mem_map.1 hname
    obtain ⟨k', _, he⟩ := List.mem_map.1 hname'
    exact hne (OperationKind.operationName_inj.1 he).2.symm

/-- Two operations of a registry have one name exactly if they are of one kind and on models with
different names that are the same in camel case. So all names differ exactly if the camel cases of
the models' names do. -/
theorem operationNames_collide_iff (h : Registry.build d = .ok r) :
    (∀ m ∈ r.models, ∀ m' ∈ r.models, ∀ k k', (m, k) ≠ (m', k') →
      (OperationKind.operationName k m.name = OperationKind.operationName k' m'.name ↔
        k = k' ∧ m.name ≠ m'.name ∧ camelCase [m.name] = camelCase [m'.name])) ∧
    (r.operationNames.Nodup ↔ (r.models.map fun m => camelCase [m.name]).Nodup) := by
  refine ⟨?_, operationNames_nodup_iff⟩
  intro m hm m' hm' k k' hne
  have hr := Registry.coherent_of_build h
  rw [OperationKind.operationName_inj]
  constructor
  · rintro ⟨rfl, hcamel⟩
    refine ⟨rfl, ?_, hcamel⟩
    intro hname
    exact hne (by rw [hr.ranked.eq_of_name hm hm' hname])
  · rintro ⟨rfl, _, hcamel⟩
    exact ⟨rfl, hcamel⟩

end Registry

theorem operationNames_blog : ∃ r m m', Registry.build blog = .ok r ∧ m ∈ r.models ∧
    m' ∈ r.models ∧ OperationKind.getOne.operationName m.name = "postsGetOne" ∧
      OperationKind.getOne.operationName m.name ≠ OperationKind.getOne.operationName m'.name ∧
      r.operationNames.Nodup := by
  have h : Registry.build blog = .ok _ := rfl
  obtain ⟨hpairs, hall⟩ := Registry.operationNames_collide_iff h
  have hpair := hpairs _ (List.mem_of_getElem? (i := 0) rfl) _ (List.mem_of_getElem? (i := 1) rfl)
    .getOne .getOne fun he => by cases he
  have hposts : camelCase ["posts"] = "posts" := by decide +kernel
  have husers : camelCase ["users"] = "users" := by decide +kernel
  have hdiffer : camelCase ["posts"] ≠ camelCase ["users"] := by
    rw [hposts, husers]
    decide
  refine ⟨_, _, _, h, List.mem_of_getElem? (i := 0) rfl, List.mem_of_getElem? (i := 1) rfl,
    by decide +kernel, fun he => hdiffer (hpair.1 he).2.2, hall.2 ?_⟩
  exact List.pairwise_pair.2 hdiffer

/-- The same words twice, once in camel case and once with an underscore. -/
def spelled : Declaration where
  tables := .ofList [
    ("blogPosts", ⟨"a", [{ name := "id", dataType := .serial, primaryKey := true }]⟩),
    ("blog_posts", ⟨"b", [{ name := "id", dataType := .serial, primaryKey := true }]⟩)]

/-- Every operation on the one model has the name of that on the other one. -/
theorem operationNames_collide_spelled : ∃ r m m', Registry.build spelled = .ok r ∧
    m ∈ r.models ∧ m' ∈ r.models ∧ m.name = "blogPosts" ∧ m'.name = "blog_posts" ∧
      (∀ k : OperationKind, k.operationName m.name = k.operationName m'.name) ∧
      ¬ r.operationNames.Nodup := by
  have h : Registry.build spelled = .ok _ := rfl
  have hcamel : camelCase ["blogPosts"] = camelCase ["blog_posts"] := by decide +kernel
  refine ⟨_, _, _, h, List.mem_of_getElem? (i := 0) rfl, List.mem_of_getElem? (i := 1) rfl, rfl,
    rfl, fun k => OperationKind.operationName_inj.2 ⟨rfl, hcamel⟩, ?_⟩
  rw [Registry.operationNames_nodup_iff]
  intro hnodup
  have hdiffer := (List.pairwise_pair.1 hnodup)
  exact hdiffer hcamel

end CrudPlan
