import Mathlib.Data.List.Forall2
import MetricScraper.Fixture.Document

/-!
# What documents say

The tree of a document says of an object why it fails, or else which instances it has, in their
order and with their counters, or else nothing.  A document that has been read answers for every
object as its tree says.
-/

namespace MetricScraper.Document

open Json (Tree)

/-! ### Members and fields -/

/-- The value of a name in an object; the last member of that name counts. -/
def member? (name : String) : Tree → Option Tree
  | .object members => (members.reverse.find? fun m => m.1 == some name).map Prod.snd
  | _ => none

/-- The value of a field of a record, which is found by its name or by its place. -/
def field? (fields : List String) (field : String) : Tree → Option Tree
  | .object members => (membersNamed field members).head?
  | .array items => items[fields.idxOf field]?
  | _ => none

def items? : Tree → Option (List Tree)
  | .array items => some items
  | _ => none

variable {α β : Type}

theorem forall₂_of_mapM {f : α → Option β} {l : List α} {l' : List β} (h : l.mapM f = some l') :
    List.Forall₂ (fun x y => f x = some y) l l' := by
  induction l generalizing l' with
  | nil =>
    rw [List.mapM_nil] at h
    cases h
    exact .nil
  | cons x l ih =>
    rw [List.mapM_cons] at h
    obtain ⟨y, hy, h⟩ := Option.bind_eq_some_iff.mp h
    obtain ⟨ys, hys, h⟩ := Option.bind_eq_some_iff.mp h
    cases h
    exact .cons hy (ih hys)

theorem readMember_eq_some {read : Tree → Option α} {m : Option String × Tree} {e : String × α}
    (h : readMember read m = some e) : m.1 = some e.1 ∧ read m.2 = some e.2 := by
  obtain ⟨name, hname, h⟩ := Option.bind_eq_some_iff.mp h
  obtain ⟨value, hvalue, h⟩ := Option.bind_eq_some_iff.mp h
  cases h
  exact ⟨hname, hvalue⟩

theorem find?_of_forall₂ {read : Tree → Option α} {members : List (Option String × Tree)}
    {entries : List (String × α)}
    (h : List.Forall₂ (fun m e => readMember read m = some e) members entries) (name : String) :
    ((members.find? fun m => m.1 == some name).map Prod.snd).map read =
      (entries.lookup name).map some := by
  induction h with
  | nil => rfl
  | @cons m e members entries hm hrest ih =>
    obtain ⟨hname, hvalue⟩ := readMember_eq_some hm
    rw [List.find?_cons, List.lookup_cons, hname]
    by_cases hn : name = e.1
    · subst hn
      simp [hvalue]
    · have hbeq : (some e.1 == some name) = false := by simpa using Ne.symm hn
      rw [hbeq, beq_false_of_ne hn]
      exact ih

theorem lookup_of_map? {read : Tree → Option α} {tree : Tree} {entries : List (String × α)}
    (h : map? read tree = some entries) (name : String) :
    (member? name tree).map read = (entries.lookup name).map some := by
  cases tree with
  | object members =>
    obtain ⟨es, hes, rfl⟩ := Option.map_eq_some_iff.mp h
    exact find?_of_forall₂ (List.forall₂_reverse_iff.mpr (forall₂_of_mapM hes)) name
  | _ => cases h

theorem lookup_of_orDefault {read : Tree → Option α} {section? : Option Tree}
    {entries : List (String × α)} (h : orDefault [] (map? read) section? = some entries)
    (name : String) :
    (section?.bind (member? name)).map read = (entries.lookup name).map some := by
  cases section? with
  | none =>
    cases h
    rfl
  | some tree => exact lookup_of_map? h name

theorem bind_eq_of_map_eq {f : α → Option β} {o : Option α} {o' : Option β}
    (h : o.map f = o'.map some) : o.bind f = o' := by
  cases o with
  | none => exact (Option.map_eq_none_iff.mp h.symm).symm
  | some x =>
    obtain ⟨y, rfl, hy⟩ := Option.map_eq_some_iff.mp h.symm
    exact hy.symm

theorem items_of_list? {read : Tree → Option α} {tree : Tree} {l : List α}
    (h : list? read tree = some l) :
    ∃ items, items? tree = some items ∧ List.Forall₂ (fun t x => read t = some x) items l := by
  cases tree with
  | array items => exact ⟨items, rfl, forall₂_of_mapM h⟩
  | _ => cases h

theorem fieldTree_of_object {members : List (Option String × Tree)} {field : String}
    {tree? : Option Tree}
    (h : (match membersNamed field members with
      | [] => some none
      | [tree] => some (some tree)
      | _ => none) = some tree?) : tree? = (membersNamed field members).head? := by
  split at h
  · rename_i hnil
    cases h
    rw [hnil]
    rfl
  · rename_i tree hone
    cases h
    rw [hone]
    rfl
  · cases h

theorem fieldTrees?_eq {fields : List String} (hnodup : fields.Nodup) {tree : Tree}
    {trees : List (Option Tree)} (h : fieldTrees? fields tree = some trees) :
    trees = fields.map fun field => field? fields field tree := by
  cases tree with
  | array items =>
    rw [fieldTrees?] at h
    split at h
    · cases h
      apply List.ext_getElem
      · simp
      · intro i hi hi'
        have hlt : i < fields.length := by simpa using hi
        simp [field?, hnodup.idxOf_getElem i hlt]
    · cases h
  | object members =>
    rw [fieldTrees?] at h
    split at h
    · cases h
    · have hall := forall₂_of_mapM h
      rw [← List.forall₂_eq_eq_eq, List.forall₂_map_right_iff]
      refine (hall.imp fun field tree? hfield => ?_).flip
      exact fieldTree_of_object hfield
  | _ => cases h

/-! ### Instances -/

def instanceFields : List String := ["instance", "counters"]

/-- A tree describes an instance by its name, if it has one, and by the number of each counter. -/
structure Describes (tree : Tree) (i : Instance) : Prop where
  name : i.name = (field? instanceFields "instance" tree).bind text?
  counter : ∀ counter, i.counter? counter =
    ((field? instanceFields "counters" tree).bind (member? counter)).bind float?

theorem name_of_orDefault {tree? : Option Tree} {name : Option String}
    (h : orDefault none optionalText? tree? = some name) : name = tree?.bind text? := by
  cases tree? with
  | none =>
    cases h
    rfl
  | some tree =>
    cases tree with
    | null =>
      cases h
      rfl
    | string s =>
      obtain ⟨text, htext, rfl⟩ := Option.map_eq_some_iff.mp (show (text? _).map some = _ from h)
      exact htext.symm
    | _ => cases h

theorem describes_of_instance? {tree : Tree} {i : Instance} (h : instance? tree = some i) :
    Describes tree i := by
  obtain ⟨trees, htrees, h⟩ := Option.bind_eq_some_iff.mp h
  have hnodup : instanceFields.Nodup := by decide
  obtain rfl := fieldTrees?_eq hnodup htrees
  obtain ⟨name, hname, h⟩ := Option.bind_eq_some_iff.mp h
  obtain ⟨counters, hcounters, h⟩ := Option.bind_eq_some_iff.mp h
  cases h
  refine ⟨name_of_orDefault hname, fun counter => ?_⟩
  exact (bind_eq_of_map_eq (lookup_of_orDefault hcounters counter)).symm

/-! ### Objects -/

def documentFields : List String := ["objects", "failing", "queries"]

/-- Why an object fails, if it is listed among those that do. -/
def reason? (tree : Tree) (object : String) : Option String :=
  ((field? documentFields "failing" tree).bind (member? object)).bind text?

/-- The trees of the instances that are listed for an object. -/
def instanceTrees? (tree : Tree) (object : String) : Option (List Tree) :=
  ((field? documentFields "objects" tree).bind (member? object)).bind items?

/-- What a document says of an object. -/
inductive Tells (tree : Tree) (object : String) : ObjectAnswer → Prop where
  | fails {reason : String} (h : reason? tree object = some reason) :
      Tells tree object (.error (.read object reason))
  | lists {trees : List Tree} {instances : List Instance} (hr : reason? tree object = none)
      (h : instanceTrees? tree object = some trees)
      (hall : List.Forall₂ Describes trees instances) :
      Tells tree object (.ok ⟨object, instances⟩)
  | omits (hr : reason? tree object = none) (h : instanceTrees? tree object = none) :
      Tells tree object (.error (.notFound object))

theorem sections_of_ofTree? {tree : Tree} {d : Document} (h : ofTree? tree = some d) :
    orDefault [] (map? (list? instance?)) (field? documentFields "objects" tree) =
        some d.objects ∧
      orDefault [] (map? text?) (field? documentFields "failing" tree) = some d.failing := by
  obtain ⟨trees, htrees, h⟩ := Option.bind_eq_some_iff.mp h
  have hnodup : documentFields.Nodup := by decide
  obtain rfl := fieldTrees?_eq hnodup htrees
  obtain ⟨objects, hobjects, h⟩ := Option.bind_eq_some_iff.mp h
  obtain ⟨failing, hfailing, h⟩ := Option.bind_eq_some_iff.mp h
  obtain ⟨queries, hqueries, h⟩ := Option.bind_eq_some_iff.mp h
  cases h
  exact ⟨hobjects, hfailing⟩

theorem tells_answer {tree : Tree} {d : Document} (h : ofTree? tree = some d) (object : String) :
    Tells tree object (d.answer object) := by
  obtain ⟨hobjects, hfailing⟩ := sections_of_ofTree? h
  have hreason : reason? tree object = d.failing.lookup object :=
    bind_eq_of_map_eq (lookup_of_orDefault hfailing object)
  have hmember := lookup_of_orDefault hobjects object
  unfold answer
  -- a reason comes first, so the instances are looked up in its absence only
  cases hr : d.failing.lookup object with
  | some reason => exact .fails (hreason.trans hr)
  | none =>
    rw [hr] at hreason
    cases hi : d.objects.lookup object with
    | some instances =>
      rw [hi] at hmember
      obtain ⟨list, hlist, hread⟩ := Option.map_eq_some_iff.mp hmember
      obtain ⟨trees, htrees, hall⟩ := items_of_list? hread
      refine .lists hreason ?_ (hall.imp fun _ _ => describes_of_instance?)
      unfold instanceTrees?
      rw [hlist, Option.bind_some, htrees]
    | none =>
      rw [hi] at hmember
      refine .omits hreason ?_
      unfold instanceTrees?
      rw [Option.map_eq_none_iff.mp hmember]
      rfl

end MetricScraper.Document
