import AssetOverlay.Package.Entry
import AssetOverlay.Proofs.Json.Ordered
import AssetOverlay.Proofs.Key.Literal

/-!
# What declares an entry

A member of a data list declares an entry in one of three forms: an object with a kind, a name, a
path and perhaps hooks, among any other members; the list of a kind, a name and a path; or that list
with hooks behind.  Nothing else is an entry: a member that is there has to be right, even where it
may be missing, and a list has nothing behind the hooks.

Members of an object are looked at one by one, and each part of the draft is touched by the members
of one name only.  So the four parts are followed separately, all in the same way.
-/

namespace AssetOverlay

open Json

/-- A text names a kind of asset, in letters of either case. -/
def NamesKind (text : String) (kind : AssetKind) : Prop :=
  List.Forall₂ CaseOf text.toList kind.name.toList

/-- The list of some texts. -/
def Json.Tree.ofTexts (texts : List String) : Tree :=
  .list (texts.map .text)

/-- A tree declares an entry.  An object may have other members as well. -/
inductive Declares : Tree → Entry → Prop
  | object {members : List (String × Tree)} {word : String} {entry : Entry}
      (htype : ("type", .text word) ∈ members) (hkind : NamesKind word entry.kind)
      (hname : ("name", .text entry.name) ∈ members)
      (hpath : ("path", .text entry.path.text) ∈ members)
      (hhooks : ("hooks", Tree.ofTexts entry.hooks) ∈ members ∨
        "hooks" ∉ members.map Prod.fst ∧ entry.hooks = []) :
      Declares (.object members) entry
  | withoutHooks {word : String} {entry : Entry} (hkind : NamesKind word entry.kind)
      (hhooks : entry.hooks = []) :
      Declares (.list [.text word, .text entry.name, .text entry.path.text]) entry
  | withHooks {word : String} {entry : Entry} (hkind : NamesKind word entry.kind) :
      Declares (.list [.text word, .text entry.name, .text entry.path.text,
        Tree.ofTexts entry.hooks]) entry

/-! ## Values -/

theorem AssetKind.ofName?_eq_some_iff {text : String} {kind : AssetKind} :
    ofName? text = some kind ↔ NamesKind text kind := by
  have hnames : NamesKind text kind ↔ text.toList.map Char.toLower = kind.name.toList := by
    rw [NamesKind, ← List.forall₂_eq_eq_eq, List.forall₂_map_left_iff]
    rfl
  rw [hnames, ofName?]
  constructor
  · intro h
    have hfound := List.find?_some h
    exact (beq_iff_eq.mp hfound).symm
  · intro h
    rw [h]
    cases kind <;> rfl

namespace Entry

theorem readText_eq_ok_iff {expected : Expectation} {tree : Tree} {text : String} :
    readText expected tree = .ok text ↔ tree = .text text := by
  cases tree <;> simp [readText, wrongType]

theorem readKind_eq_ok_iff {tree : Tree} {kind : AssetKind} :
    readKind tree = .ok kind ↔ ∃ word, tree = .text word ∧ NamesKind word kind := by
  unfold readKind
  cases tree with
  | text word =>
    simp only [readText, Tree.text.injEq, exists_eq_left', ← AssetKind.ofName?_eq_some_iff]
    cases AssetKind.ofName? word <;> simp
  | _ => simp [readText, wrongType]

theorem readTexts_eq_ok_iff {items : List Tree} {texts : List String} :
    readTexts items = .ok texts ↔ items = texts.map .text := by
  induction items generalizing texts with
  | nil => cases texts <;> simp [readTexts]
  | cons item rest ih =>
    rw [readTexts]
    cases texts with
    | nil =>
      cases readText .text item with
      | error problem => simp
      | ok text => simp [map_eq_ok_iff]
    | cons text texts =>
      rw [List.map_cons, List.cons.injEq, ← ih, ← @readText_eq_ok_iff .text]
      cases readText .text item with
      | error problem => simp
      | ok first => simp [map_eq_ok_iff, and_comm]

theorem readHooks_eq_ok_iff {tree : Tree} {hooks : List String} :
    readHooks tree = .ok hooks ↔ tree = Tree.ofTexts hooks := by
  cases tree <;> simp [readHooks, wrongType, Tree.ofTexts, readTexts_eq_ok_iff]

/-- Reads the path of an entry. -/
def readPath (tree : Tree) : Except Problem Path :=
  (readText .path tree).map Path.mk

theorem readPath_eq_ok_iff {tree : Tree} {path : Path} :
    readPath tree = .ok path ↔ tree = .text path.text := by
  simp only [readPath, map_eq_ok_iff, readText_eq_ok_iff]
  constructor
  · rintro ⟨text, htree, rfl⟩
    exact htree
  · intro htree
    exact ⟨path.text, htree, rfl⟩

/-! ## Members of an object -/

/-- What becomes of a part of a draft: members with its name, and only these, set it to their
value. -/
def Takes {Value : Type} (read : Tree → Except Problem Value) (name : String) :
    List (String × Tree) → (before after : Option Value) → Prop
  | [], before, after => before = after
  | member :: rest, before, after =>
    if member.1 = name then
      ∃ value, read member.2 = .ok value ∧ Takes read name rest (some value) after
    else Takes read name rest before after

section Takes

variable {Value : Type} {read : Tree → Except Problem Value} {name : String}

theorem takes_cons {member : String × Tree} {rest : List (String × Tree)}
    {before after : Option Value} : Takes read name (member :: rest) before after ↔
      ∃ middle, Takes read name [member] before middle ∧ Takes read name rest middle after := by
  simp only [Takes]
  split_ifs <;> simp

theorem takes_of_not_mem {members : List (String × Tree)} (h : name ∉ members.map Prod.fst)
    {before after : Option Value} : Takes read name members before after ↔ before = after := by
  induction members with
  | nil => rfl
  | cons member rest ih =>
    obtain ⟨hne, hrest⟩ := not_or.mp (mt List.mem_cons.mpr h)
    rw [Takes, if_neg (Ne.symm hne), ih hrest]

/-- If no name is there twice, a part is set by its member or left out. -/
theorem takes_none_iff {members : List (String × Tree)} (h : (members.map Prod.fst).Nodup)
    {after : Option Value} : Takes read name members none after ↔
      (∃ tree value, (name, tree) ∈ members ∧ read tree = .ok value ∧ after = some value) ∨
        name ∉ members.map Prod.fst ∧ after = none := by
  induction members with
  | nil => simp [Takes, eq_comm]
  | cons member rest ih =>
    obtain ⟨first, tree⟩ := member
    obtain ⟨hnew, hrest⟩ := List.nodup_cons.mp h
    rw [Takes]
    by_cases hname : first = name
    · subst hname
      have hlater (other : Tree) : (first, other) ∉ rest := fun hmem ↦
        hnew (List.mem_map.mpr ⟨_, hmem, rfl⟩)
      simp [takes_of_not_mem hnew, hlater, eq_comm]
    · rw [if_neg hname, ih hrest]
      simp [Ne.symm hname]

theorem takes_some_iff {members : List (String × Tree)} (h : (members.map Prod.fst).Nodup)
    {value : Value} : Takes read name members none (some value) ↔
      ∃ tree, (name, tree) ∈ members ∧ read tree = .ok value := by
  simp [takes_none_iff h]

end Takes

/-- What becomes of a draft: its parts go their ways, each with the members of its own name. -/
@[mk_iff]
structure Draft.Becomes (draft : Draft) (members : List (String × Tree)) (result : Draft) :
    Prop where
  kind : Takes readKind "type" members draft.kind result.kind
  name : Takes (readText .text) "name" members draft.name result.name
  path : Takes readPath "path" members draft.path result.path
  hooks : Takes readHooks "hooks" members draft.hooks result.hooks

theorem Draft.becomes_cons {draft result : Draft} {member : String × Tree}
    {rest : List (String × Tree)} : draft.Becomes (member :: rest) result ↔
      ∃ next, draft.Becomes [member] next ∧ next.Becomes rest result := by
  constructor
  · rintro ⟨hkind, hname, hpath, hhooks⟩
    obtain ⟨kind, hkind, hkinds⟩ := takes_cons.mp hkind
    obtain ⟨name, hname, hnames⟩ := takes_cons.mp hname
    obtain ⟨path, hpath, hpaths⟩ := takes_cons.mp hpath
    obtain ⟨hooks, hhook, hhooks⟩ := takes_cons.mp hhooks
    exact ⟨⟨kind, name, path, hooks⟩, ⟨hkind, hname, hpath, hhook⟩,
      ⟨hkinds, hnames, hpaths, hhooks⟩⟩
  · rintro ⟨next, hfirst, hrest⟩
    exact ⟨takes_cons.mpr ⟨_, hfirst.kind, hrest.kind⟩, takes_cons.mpr ⟨_, hfirst.name, hrest.name⟩,
      takes_cons.mpr ⟨_, hfirst.path, hrest.path⟩, takes_cons.mpr ⟨_, hfirst.hooks, hrest.hooks⟩⟩

/-- One member is taken into account. -/
theorem Draft.add_eq_ok_iff {draft next : Draft} {name : String} {tree : Tree} :
    draft.add name tree = .ok next ↔ draft.Becomes [(name, tree)] next := by
  rcases draft with ⟨_, _, _, _⟩
  rcases next with ⟨_, _, _, _⟩
  rw [becomes_iff]
  unfold add
  split_ifs with htype hname hpath hhooks
  · cases h : readKind tree <;> simp [Takes, htype, h, Except.map]
  · cases h : readText .text tree <;> simp [Takes, hname, h, Except.map]
  · cases h : readText .path tree <;> simp [Takes, hpath, readPath, h, Except.map]
  · cases h : readHooks tree <;> simp [Takes, hhooks, h, Except.map]
  · simp [Takes, htype, hname, hpath, hhooks]

/-- All members are taken into account. -/
theorem Draft.addAll_eq_ok_iff {draft result : Draft} {members : List (String × Tree)} :
    draft.addAll members = .ok result ↔ draft.Becomes members result := by
  induction members generalizing draft with
  | nil =>
    rcases draft with ⟨_, _, _, _⟩
    rcases result with ⟨_, _, _, _⟩
    constructor
    · intro h
      cases h
      exact ⟨rfl, rfl, rfl, rfl⟩
    · rintro ⟨rfl, rfl, rfl, rfl⟩
      rfl
  | cons member rest ih =>
    obtain ⟨name, tree⟩ := member
    rw [addAll, becomes_cons]
    simp only [← add_eq_ok_iff, ← ih]
    cases draft.add name tree <;> simp

theorem Draft.finish_eq_ok_iff {draft : Draft} {entry : Entry} :
    draft.finish = .ok entry ↔ draft.kind = some entry.kind ∧ draft.name = some entry.name ∧
      draft.path = some entry.path ∧ draft.hooks.getD [] = entry.hooks := by
  obtain ⟨kind, name, path, hooks⟩ := entry
  rcases draft with ⟨_ | _, _ | _, _ | _, _⟩ <;> simp [finish]

/-- An object is an entry if its members say so. -/
theorem ofTree_object_eq_ok_iff {members : List (String × Tree)}
    (h : (members.map Prod.fst).Nodup) {entry : Entry} :
    ofTree (.object members) = .ok entry ↔ Declares (.object members) entry := by
  have hdraft : ofTree (.object members) = .ok entry ↔
      ∃ draft, Draft.Becomes ⟨none, none, none, none⟩ members draft ∧ draft.finish = .ok entry := by
    simp only [← Draft.addAll_eq_ok_iff, ofTree]
    cases Draft.addAll ⟨none, none, none, none⟩ members <;> simp
  rw [hdraft]
  constructor
  · rintro ⟨⟨kind, name, path, hooks⟩, ⟨htype, hname, hpath, hhooks⟩, hfinish⟩
    obtain ⟨rfl, rfl, rfl, hentry⟩ := Draft.finish_eq_ok_iff.mp hfinish
    obtain ⟨_, htype, hread⟩ := (takes_some_iff h).mp htype
    obtain ⟨word, rfl, hkind⟩ := readKind_eq_ok_iff.mp hread
    obtain ⟨_, hname, hread⟩ := (takes_some_iff h).mp hname
    obtain rfl := readText_eq_ok_iff.mp hread
    obtain ⟨_, hpath, hread⟩ := (takes_some_iff h).mp hpath
    obtain rfl := readPath_eq_ok_iff.mp hread
    refine .object htype hkind hname hpath ?_
    rcases (takes_none_iff h).mp hhooks with ⟨_, _, hmem, hread, rfl⟩ | ⟨hnone, rfl⟩
    · obtain rfl := readHooks_eq_ok_iff.mp hread
      exact .inl (hentry ▸ hmem)
    · exact .inr ⟨hnone, hentry.symm⟩
  · rintro ⟨htype, hkind, hname, hpath, hhooks⟩
    obtain ⟨hooks, htakes, hentry⟩ : ∃ hooks : Option (List String),
        Takes readHooks "hooks" members none hooks ∧ hooks.getD [] = entry.hooks := by
      rcases hhooks with hmem | ⟨hnone, hempty⟩
      · exact ⟨_, (takes_some_iff h).mpr ⟨_, hmem, readHooks_eq_ok_iff.mpr rfl⟩, rfl⟩
      · exact ⟨none, (takes_none_iff h).mpr (.inr ⟨hnone, rfl⟩), hempty.symm⟩
    refine ⟨⟨some entry.kind, some entry.name, some entry.path, hooks⟩, ⟨?_, ?_, ?_, htakes⟩,
      Draft.finish_eq_ok_iff.mpr ⟨rfl, rfl, rfl, hentry⟩⟩
    · exact (takes_some_iff h).mpr ⟨_, htype, readKind_eq_ok_iff.mpr ⟨_, rfl, hkind⟩⟩
    · exact (takes_some_iff h).mpr ⟨_, hname, readText_eq_ok_iff.mpr rfl⟩
    · exact (takes_some_iff h).mpr ⟨_, hpath, readPath_eq_ok_iff.mpr rfl⟩

/-! ## Lists -/

theorem declares_of_ofItems {items : List Tree} {entry : Entry} :
    ofItems items = .ok entry → Declares (.list items) entry := by
  -- Reading a list has ten outcomes, and only two of them are entries: without hooks and with them.
  fun_cases ofItems items with
  | case7 _ _ _ hkind _ _ hname _ hpath =>
    intro h
    obtain ⟨word, rfl, hword⟩ := readKind_eq_ok_iff.mp hkind
    obtain rfl := readText_eq_ok_iff.mp hname
    obtain rfl := readText_eq_ok_iff.mp hpath
    cases h
    exact @Declares.withoutHooks word ⟨_, _, ⟨_⟩, []⟩ hword rfl
  | case9 _ _ _ hkind _ _ hname _ _ hpath _ hhooks =>
    intro h
    obtain ⟨word, rfl, hword⟩ := readKind_eq_ok_iff.mp hkind
    obtain rfl := readText_eq_ok_iff.mp hname
    obtain rfl := readText_eq_ok_iff.mp hpath
    obtain rfl := readHooks_eq_ok_iff.mp hhooks
    cases h
    exact @Declares.withHooks word ⟨_, _, ⟨_⟩, _⟩ hword
  | _ => exact nofun

theorem ofItems_of_declares {items : List Tree} {entry : Entry}
    (h : Declares (.list items) entry) : ofItems items = .ok entry := by
  obtain _ | ⟨hkind, hhooks⟩ | hkind := h
  all_goals
    have hread : readKind (.text _) = .ok entry.kind := readKind_eq_ok_iff.mpr ⟨_, rfl, hkind⟩
  · simp [ofItems, hread, readText, ← hhooks]
  · have hhooks : readHooks (Tree.ofTexts entry.hooks) = .ok entry.hooks :=
      readHooks_eq_ok_iff.mpr rfl
    simp [ofItems, hread, readText, hhooks]

/-- A tree in order is an entry exactly if it declares this entry. -/
theorem ofTree_eq_ok_iff {tree : Tree} (h : tree.Ordered) {entry : Entry} :
    ofTree tree = .ok entry ↔ Declares tree entry := by
  cases tree with
  | object members => exact ofTree_object_eq_ok_iff h.nodup_names
  | list items => exact ⟨declares_of_ofItems, ofItems_of_declares⟩
  | _ => exact ⟨nofun, nofun⟩

end Entry

end AssetOverlay
