import AssetOverlay.Json.Reader
import Mathlib.Data.String.Basic

/-!
# Trees in order

The members of an object are kept in ascending order of their names, each name once: inserting a
member keeps this order, and whatever is read from a text has it in all of its objects.  What is
said about the member with a given name is then said about one member at most.
-/

namespace AssetOverlay.Json

namespace Tree

/-- In every object of a tree the members are in ascending order of their names. -/
inductive Ordered : Tree → Prop
  | null : Ordered .null
  | bool (value : Bool) : Ordered (.bool value)
  | number (value : Number) : Ordered (.number value)
  | text (value : String) : Ordered (.text value)
  | list {items : List Tree} (hitems : ∀ item ∈ items, Ordered item) : Ordered (.list items)
  | object {members : List (String × Tree)}
      (hnames : members.Pairwise fun first second ↦ first.1 < second.1)
      (hvalues : ∀ member ∈ members, Ordered member.2) : Ordered (.object members)

theorem mem_insertMember {name : String} {value : Tree} {members : List (String × Tree)}
    {member : String × Tree} (h : member ∈ insertMember name value members) :
    member = (name, value) ∨ member ∈ members := by
  induction members with
  | nil => exact .inl (List.mem_singleton.mp h)
  | cons first rest ih =>
    rw [insertMember] at h
    split_ifs at h with hbefore hsame
    · exact List.mem_cons.mp h
    · exact (List.mem_cons.mp h).imp_right (List.mem_cons_of_mem first)
    · rcases List.mem_cons.mp h with rfl | hrest
      · exact .inr List.mem_cons_self
      · exact (ih hrest).imp_right (List.mem_cons_of_mem first)

theorem pairwise_insertMember {members : List (String × Tree)}
    (h : members.Pairwise fun first second ↦ first.1 < second.1) (name : String) (value : Tree) :
    (insertMember name value members).Pairwise fun first second ↦ first.1 < second.1 := by
  induction members with
  | nil => exact List.pairwise_singleton _ _
  | cons first rest ih =>
    obtain ⟨hfirst, hrest⟩ := List.pairwise_cons.mp h
    rw [insertMember]
    split_ifs with hbefore hsame
    · refine List.pairwise_cons.mpr ⟨?_, h⟩
      intro member hmem
      rcases List.mem_cons.mp hmem with rfl | hmem
      · exact hbefore
      · exact lt_trans hbefore (hfirst member hmem)
    · subst hsame
      exact List.pairwise_cons.mpr ⟨hfirst, hrest⟩
    · refine List.pairwise_cons.mpr ⟨?_, ih hrest⟩
      intro member hmem
      rcases mem_insertMember hmem with rfl | hmem
      · exact lt_of_le_of_ne (not_lt.mp hbefore) (Ne.symm hsame)
      · exact hfirst member hmem

theorem Ordered.insertMember {members : List (String × Tree)} (h : Ordered (.object members))
    (name : String) {value : Tree} (hvalue : value.Ordered) :
    Ordered (.object (insertMember name value members)) := by
  obtain _ | _ | _ | _ | _ | ⟨hnames, hvalues⟩ := h
  refine .object (pairwise_insertMember hnames name value) ?_
  intro member hmem
  rcases mem_insertMember hmem with rfl | hmem
  · exact hvalue
  · exact hvalues member hmem

/-- Whatever the order in which members come, the object of them is in order. -/
theorem ordered_ofMembers {members : List (String × Tree)}
    (h : ∀ member ∈ members, member.2.Ordered) : (ofMembers members).Ordered := by
  have hsorted (sorted : List (String × Tree)) (hobject : Ordered (.object sorted)) :
      Ordered (.object (members.foldl
        (fun sorted member ↦ insertMember member.1 member.2 sorted) sorted)) := by
    induction members generalizing sorted with
    | nil => exact hobject
    | cons first rest ih =>
      obtain ⟨hfirst, hrest⟩ := List.forall_mem_cons.mp h
      exact ih hrest _ (hobject.insertMember first.1 hfirst)
  exact hsorted [] (.object List.Pairwise.nil (fun _ hmem ↦ absurd hmem List.not_mem_nil))

/-- An object in order has one member of a name at most. -/
theorem Ordered.nodup_names {members : List (String × Tree)} (h : Ordered (.object members)) :
    (members.map Prod.fst).Nodup := by
  obtain _ | _ | _ | _ | _ | ⟨hnames, hvalues⟩ := h
  exact List.pairwise_map.mpr (hnames.imp ne_of_lt)

/-- The member of a name, if there is one, is in order like the object. -/
theorem Ordered.member? {tree value : Tree} (h : tree.Ordered) {name : String}
    (hmember : tree.member? name = some value) : value.Ordered := by
  cases h with
  | object hnames hvalues =>
    obtain ⟨member, hfind, rfl⟩ := Option.map_eq_some_iff.mp hmember
    exact hvalues member (List.mem_of_find?_eq_some hfind)
  | _ => cases hmember

theorem Ordered.items? {tree : Tree} {items : List Tree} (h : tree.Ordered)
    (hitems : tree.items? = some items) : ∀ item ∈ items, item.Ordered := by
  cases h with
  | list h =>
    cases hitems
    exact h
  | _ => cases hitems

end Tree

/-! ## Trees that are read -/

theorem map_eq_ok_iff {Problem Found Value : Type} {outcome : Except Problem Found}
    {transform : Found → Value} {value : Value} :
    outcome.map transform = .ok value ↔ ∃ found, outcome = .ok found ∧ transform found = value := by
  cases outcome <;> simp [Except.map]

theorem ordered_readLeaf {byte : UInt8} {cursor after : Cursor} {tree : Tree}
    (h : readLeaf byte cursor = .ok (tree, after)) : tree.Ordered := by
  unfold readLeaf at h
  dsimp only at h
  split_ifs at h
  case pos | pos | pos | pos | pos | pos =>
    obtain ⟨found, -, heq⟩ := map_eq_ok_iff.mp h
    cases heq
    constructor
  case neg => cases h

/-- Whatever can be read with some fuel is in order: values, the items of lists, and the values of
members. -/
structure ReadsOrdered (fuel : Nat) : Prop where
  tree {depth : Nat} {cursor after : Cursor} {tree : Tree}
    (h : readTree fuel depth cursor = .ok (tree, after)) : tree.Ordered
  items {depth : Nat} {first : Bool} {cursor after : Cursor} {items : List Tree}
    (h : readItems fuel depth first cursor = .ok (items, after)) : ∀ item ∈ items, item.Ordered
  members {depth : Nat} {first : Bool} {cursor after : Cursor} {members : List (String × Tree)}
    (h : readMembers fuel depth first cursor = .ok (members, after)) :
    ∀ member ∈ members, member.2.Ordered

theorem readsOrdered (fuel : Nat) : ReadsOrdered fuel := by
  induction fuel with
  | zero => exact ⟨nofun, nofun, nofun⟩
  | succ fuel ih =>
    refine ⟨?tree, ?items, ?members⟩
    case tree =>
      intro depth start after tree h
      rw [readTree] at h
      dsimp only at h
      split at h
      · cases h
      · split_ifs at h
        · cases h
        · obtain ⟨⟨items, _⟩, hitems, heq⟩ := map_eq_ok_iff.mp h
          cases heq
          exact .list (ih.items hitems)
        · obtain ⟨⟨members, _⟩, hmembers, heq⟩ := map_eq_ok_iff.mp h
          cases heq
          exact Tree.ordered_ofMembers (ih.members hmembers)
        · exact ordered_readLeaf h
    case items =>
      intro depth first cursor after items h
      rw [readItems] at h
      split at h
      · cases h
      · cases h
        exact nofun
      · split at h
        · cases h
        · next tree _ htree =>
          obtain ⟨⟨rest, _⟩, hrest, heq⟩ := map_eq_ok_iff.mp h
          cases heq
          exact List.forall_mem_cons.mpr ⟨ih.tree htree, ih.items hrest⟩
    case members =>
      intro depth first cursor after members h
      rw [readMembers] at h
      split at h
      · cases h
      · cases h
        exact nofun
      · split at h
        · cases h
        · split at h
          · cases h
          · split at h
            · cases h
            · next tree _ htree =>
              obtain ⟨⟨rest, _⟩, hrest, heq⟩ := map_eq_ok_iff.mp h
              cases heq
              exact List.forall_mem_cons.mpr ⟨ih.tree htree, ih.members hrest⟩

theorem ordered_of_read {bytes : Bytes} {tree : Tree} (h : read bytes = .ok tree) :
    tree.Ordered := by
  unfold read at h
  split at h
  · cases h
  · next htree =>
    dsimp only at h
    split at h
    · cases h
      exact (readsOrdered _).tree htree
    · cases h

end AssetOverlay.Json
