import QueryWarden.Configuration.Tree
import QueryWarden.Proofs.Lookup
import Mathlib.Data.List.Basic

/-!
# Layers over each other

A layer changes a tree at the ends of its paths, and tables in it are merged key by key. So a tree
with a layer over it can be told from the tree below and from what the layer makes of nothing at
all: where the layer says nothing the tree below stands, and where it says something it decides.
-/

namespace QueryWarden.Configuration

/-! ## Members -/

namespace Tree

/-- A table, with members or without. -/
def IsTable (tree : Tree) : Prop := ∃ origin members, tree = .table origin members

/-- The member of a table under a name. -/
def member? (tree : Tree) (name : String) : Option Tree :=
  match tree with
  | .table _ members => members.lookup name
  | _ => none

/-- What stands under a key of a section. -/
def named? (tree : Tree) (sectionName key : String) : Option Tree :=
  (tree.member? sectionName).bind (·.member? key)

end Tree

section Members

variable {change : Tree → Tree} {tree : Tree} {name other : String}

theorem lookup_changeMember (members : List (String × Tree)) :
    (changeMember name change members).lookup other =
      if other = name then some (change ((members.lookup name).getD .nothing))
      else members.lookup other := by
  induction members with
  | nil => exact lookup_cons (_, _) [] other
  | cons member members ih =>
      obtain ⟨key, value⟩ := member
      rw [changeMember]
      split
      next hkey =>
        obtain rfl : key = name := hkey
        rw [lookup_cons, lookup_cons, lookup_cons, if_pos rfl, Option.getD_some]
        split <;> rfl
      next hkey =>
        have hname : name ≠ key := Ne.symm hkey
        rw [lookup_cons, lookup_cons, lookup_cons, if_neg hname, ih]
        by_cases hother : other = name
        · simp [hother, hname]
        · simp [hother]

theorem isTable_changeKey : (tree.changeKey name change).IsTable := by
  cases tree <;> exact ⟨_, _, rfl⟩

theorem member?_changeKey : (tree.changeKey name change).member? other =
    if other = name then some (change ((tree.member? name).getD .nothing))
    else tree.member? other := by
  cases tree <;> exact lookup_changeMember _

/-- What is no table counts for nothing where a key is changed. -/
theorem changeKey_of_not_isTable (htree : ¬ tree.IsTable) :
    tree.changeKey name change = Tree.nothing.changeKey name change := by
  cases tree with
  | table origin members => exact absurd ⟨origin, members, rfl⟩ htree
  | scalar | list => rfl

/-- A change under a key of a section shows under that key and nowhere else. -/
theorem named?_changeAt (sectionName key otherSection otherKey : String) :
    (tree.changeAt change [.key sectionName, .key key]).named? otherSection otherKey =
      if otherSection = sectionName ∧ otherKey = key then
        some (change ((tree.named? sectionName key).getD .nothing))
      else tree.named? otherSection otherKey := by
  simp only [Tree.named?, Tree.changeAt, member?_changeKey]
  by_cases hsection : otherSection = sectionName
  · subst hsection
    rw [if_pos rfl, Option.bind_some, member?_changeKey]
    cases tree.member? otherSection with
    | none => simp [Tree.nothing, Tree.member?]
    | some found => simp
  · simp [hsection]

end Members

/-! ## A tree below and a layer above -/

/-- No list anywhere: the values are scalars, and tables of such. -/
inductive Tree.IsListless : Tree → Prop
  | scalar (origin : Origin) (value : Scalar) : IsListless (.scalar origin value)
  | table (origin : Origin) (members : List (String × Tree))
      (hmembers : ∀ name, ∀ member ∈ members.lookup name, member.IsListless) :
      IsListless (.table origin members)

/-- What becomes of a value below once a layer is put over it, given what the layer makes of
nothing at all. -/
inductive Rests : (below own whole : Option Tree) → Prop
  /-- The layer says nothing. -/
  | untouched (below : Option Tree) : Rests below none below
  /-- The layer decides. -/
  | decided (below own : Option Tree) : Rests below own own
  /-- Tables are merged. -/
  | merged {below own whole : Tree} (hbelow : below.IsTable) (hown : own.IsTable)
      (hwhole : whole.IsTable)
      (hmembers : ∀ name, Rests (below.member? name) (own.member? name) (whole.member? name)) :
      Rests (some below) (some own) (some whole)
  /-- A table without members leaves a scalar. -/
  | left (origin : Origin) (value : Scalar) :
      Rests (some (.scalar origin value)) (some (.table none [])) (some (.scalar origin value))

namespace Rests

variable {below own whole : Option Tree}

/-- The relation passes to the members. -/
theorem member? (hrests : Rests below own whole) (name : String) :
    Rests (below.bind (·.member? name)) (own.bind (·.member? name))
      (whole.bind (·.member? name)) := by
  cases hrests with
  | untouched => exact .untouched _
  | decided => exact .decided _ _
  | merged _ _ _ hmembers => exact hmembers name
  | left => exact .decided _ _

theorem eq_of_none (hrests : Rests none own whole) : whole = own := by
  cases hrests <;> rfl

/-- A scalar below stays, or gives way as a whole. -/
theorem of_scalar {origin : Origin} {value : Scalar}
    (hrests : Rests (some (.scalar origin value)) own whole) :
    whole = own ∨ whole = some (.scalar origin value) ∧
      (own = none ∨ own = some (.table none [])) := by
  cases hrests with
  | untouched => exact .inr ⟨rfl, .inl rfl⟩
  | decided => exact .inl rfl
  | merged hbelow =>
      obtain ⟨_, _, hbelow⟩ := hbelow
      cases hbelow
  | left => exact .inr ⟨rfl, .inr rfl⟩

/-- Where there was none below, a list is that of the layer. -/
theorem list_iff (hrests : Rests below own whole)
    (hbelow : ∀ origin items, below ≠ some (.list origin items)) {origin : Origin}
    {items : List Tree} : whole = some (.list origin items) ↔ own = some (.list origin items) := by
  cases hrests with
  | untouched => simp [hbelow]
  | decided => rfl
  | merged _ hown hwhole =>
      obtain ⟨_, _, rfl⟩ := hown
      obtain ⟨_, _, rfl⟩ := hwhole
      simp
  | left => simp

end Rests

/-- Whatever the layer has said so far, the change keeps to what it makes of the layer alone. -/
def Keeps (change : Tree → Tree) : Prop :=
  ∀ {below own whole : Option Tree}, (∀ tree ∈ below, tree.IsListless) → Rests below own whole →
    Rests below (some (change (own.getD .nothing))) (some (change (whole.getD .nothing)))

section Steps

variable {change : Tree → Tree} {below own whole : Option Tree}

theorem Tree.IsListless.member? {tree : Tree} (htree : tree.IsListless) (name : String) :
    ∀ member ∈ tree.member? name, member.IsListless := by
  cases htree with
  | scalar => simp [Tree.member?]
  | table _ _ hmembers => exact hmembers name

/-- A change of two tables under one key. -/
theorem merged_changeKey (hchange : Keeps change) {below own whole : Tree}
    (hlistless : below.IsListless) (hbelow : below.IsTable) (name : String)
    (hmembers : ∀ name, Rests (below.member? name) (own.member? name) (whole.member? name)) :
    Rests (some below) (some (own.changeKey name change)) (some (whole.changeKey name change)) := by
  refine .merged hbelow isTable_changeKey isTable_changeKey fun other => ?_
  rw [member?_changeKey, member?_changeKey]
  split
  next hother => exact hchange (hlistless.member? other) (by rw [hother]; exact hmembers name)
  next => exact hmembers other

theorem keeps_changeKey (hchange : Keeps change) (name : String) :
    Keeps (Tree.changeKey name change) := by
  intro below own whole hlistless hrests
  cases hrests with
  | untouched =>
      cases below with
      | none => exact .decided _ _
      | some below =>
          by_cases hbelow : below.IsTable
          · exact merged_changeKey hchange (hlistless below rfl) hbelow name
              fun _ => .untouched _
          · rw [Option.getD_some, changeKey_of_not_isTable hbelow]
            exact .decided _ _
  | decided => exact .decided _ _
  | merged hbelow _ _ hmembers =>
      exact merged_changeKey hchange (hlistless _ rfl) hbelow name hmembers
  | left => exact .decided _ _

/-- What is no list counts for nothing where an item is changed. -/
theorem keeps_changeIndex (change : Tree → Tree) (position : Int) :
    Keeps (Tree.changeIndex position change) := by
  intro below own whole hlistless hrests
  cases hrests with
  | untouched =>
      cases below with
      | none => exact .decided _ _
      | some below => cases hlistless below rfl <;> exact .decided _ _
  | decided => exact .decided _ _
  | merged _ hown hwhole =>
      obtain ⟨_, _, rfl⟩ := hown
      obtain ⟨_, _, rfl⟩ := hwhole
      exact .decided _ _
  | left => exact .decided _ _

theorem keeps_filled : Keeps Tree.filled := by
  intro below own whole hlistless hrests
  cases hrests with
  | untouched =>
      cases below with
      | none => exact .decided _ _
      | some below =>
          cases hlistless below rfl with
          | scalar origin value =>
              cases value with
              | nothing => exact .decided _ _
              | bool | integer | float | text => exact .left _ _
          | table => exact .merged ⟨_, _, rfl⟩ ⟨_, _, rfl⟩ ⟨_, _, rfl⟩ fun _ => .untouched _
  | decided => exact .decided _ _
  | merged hbelow hown hwhole hmembers =>
      obtain ⟨_, _, rfl⟩ := hown
      obtain ⟨_, _, rfl⟩ := hwhole
      exact .merged hbelow ⟨_, _, rfl⟩ ⟨_, _, rfl⟩ hmembers
  | left origin value =>
      cases value with
      | nothing => exact .decided _ _
      | bool | integer | float | text => exact .left _ _

mutual

theorem keeps_over : ∀ value : Tree, Keeps value.over
  | .scalar _ _ | .list _ _ => by
      intro _ _
      rw [Tree.over, Tree.over]
      · exact .decided _ _
      all_goals nofun
  | .table _ members => by
      intro hlistless hrests
      rw [Tree.over, Tree.over]
      exact keeps_membersOver members hlistless (keeps_filled hlistless hrests)

theorem keeps_membersOver : ∀ (members : List (String × Tree)) {below : Option Tree}
    {own whole : Tree}, (∀ tree ∈ below, tree.IsListless) → Rests below (some own) (some whole) →
      Rests below (some (membersOver members own)) (some (membersOver members whole))
  | [], _, _, _, _, hrests => by
      rwa [membersOver, membersOver]
  | (name, value) :: members, _, _, _, hlistless, hrests => by
      rw [membersOver, membersOver]
      exact keeps_membersOver members hlistless
        (keeps_changeKey (keeps_over value) name hlistless hrests)

end

theorem keeps_changeAt (hchange : Keeps change) (path : List Step) :
    Keeps (Tree.changeAt change path) := by
  induction path with
  | nil => exact hchange
  | cons step path ih =>
      cases step with
      | key name => exact keeps_changeKey ih name
      | index position => exact keeps_changeIndex _ position

end Steps

/-! ## Whole layers -/

theorem pathOfName_cons (name : String) : ∃ first path, pathOfName name = .key first :: path := by
  unfold pathOfName
  dsimp only
  split <;> exact ⟨_, _, rfl⟩

theorem isTable_putLayer {tree : Tree} (htree : tree.IsTable) (layer : Layer) :
    (tree.putLayer layer).IsTable := by
  induction layer generalizing tree with
  | nil => exact htree
  | cons entry layer ih =>
      obtain ⟨first, path, hpath⟩ := pathOfName_cons entry.1
      have hchanged : (tree.changeAt entry.2.over (pathOfName entry.1)).IsTable := by
        rw [hpath]
        exact isTable_changeKey
      exact ih hchanged

theorem isTable_ofLayers (layers : List Layer) : (Tree.ofLayers layers).IsTable := by
  have hfrom : ∀ tree : Tree, tree.IsTable → (layers.foldl Tree.putLayer tree).IsTable := by
    induction layers with
    | nil => exact fun _ htree => htree
    | cons layer layers ih => exact fun tree htree => ih _ (isTable_putLayer htree layer)
  exact hfrom _ ⟨_, _, rfl⟩

/-- A layer whose names are different keys, and so are those of its tables. -/
structure Layer.IsPlain (layer : Layer) : Prop where
  pathOfName : ∀ entry ∈ layer, pathOfName entry.1 = [.key entry.1]
  nodup : (layer.map Prod.fst).Nodup
  nodup_members : ∀ name origin members, (name, Tree.table origin members) ∈ layer →
    (members.map Prod.fst).Nodup

section Plain

variable {entries : List (String × Tree)} {name : String}

/-- Different keys changed one after the other. -/
theorem member?_foldl_changeKey (hnodup : (entries.map Prod.fst).Nodup) (tree : Tree) :
    (entries.foldl (fun tree entry => tree.changeKey entry.1 entry.2.over) tree).member? name =
      match entries.lookup name with
      | some value => some (value.over ((tree.member? name).getD .nothing))
      | none => tree.member? name := by
  induction entries generalizing tree with
  | nil => rfl
  | cons entry entries ih =>
      obtain ⟨key, value⟩ := entry
      obtain ⟨hkey, hnodup⟩ := List.nodup_cons.mp hnodup
      rw [List.foldl_cons, ih hnodup, lookup_cons, member?_changeKey]
      by_cases hname : name = key
      · subst hname
        have hlookup : entries.lookup name = none := by
          rw [List.lookup_eq_none_iff]
          intro entry hmem
          rw [bne_iff_ne]
          exact fun hsame => hkey (List.mem_map.mpr ⟨entry, hmem, hsame.symm⟩)
        simp [hlookup]
      · simp only [if_neg hname]

theorem membersOver_eq_foldl (members : List (String × Tree)) (below : Tree) :
    membersOver members below =
      members.foldl (fun tree entry => tree.changeKey entry.1 entry.2.over) below := by
  induction members generalizing below with
  | nil => rw [membersOver, List.foldl_nil]
  | cons member members ih => rw [membersOver, ih, List.foldl_cons]

variable {layer : Layer}

/-- What a plain layer makes of nothing is what it holds itself. -/
theorem Layer.IsPlain.member?_ofLayers (hplain : layer.IsPlain) (name : String) :
    (Tree.ofLayers [layer]).member? name = (layer.lookup name).map (·.over .nothing) := by
  have hput : Tree.ofLayers [layer] =
      layer.foldl (fun tree entry => tree.changeKey entry.1 entry.2.over) (.table none []) := by
    change (Tree.table none []).putLayer layer = _
    refine List.foldl_ext _ _ _ fun tree entry hmem => ?_
    rw [hplain.pathOfName entry hmem]
    rfl
  rw [hput, member?_foldl_changeKey hplain.nodup]
  cases layer.lookup name <;> rfl

theorem table_over_nothing (origin : Origin) (members : List (String × Tree)) :
    (Tree.table origin members).over .nothing =
      members.foldl (fun tree entry => tree.changeKey entry.1 entry.2.over) (.table none []) := by
  rw [Tree.over, membersOver_eq_foldl]
  rfl

theorem member?_table_over_nothing {origin : Origin} {members : List (String × Tree)}
    (hnodup : (members.map Prod.fst).Nodup) (name : String) :
    ((Tree.table origin members).over .nothing).member? name =
      (members.lookup name).map (·.over .nothing) := by
  rw [table_over_nothing, member?_foldl_changeKey hnodup]
  cases members.lookup name <;> rfl

theorem isTable_table_over_nothing (origin : Origin) (members : List (String × Tree)) :
    ((Tree.table origin members).over .nothing).IsTable := by
  rw [table_over_nothing]
  have hfrom : ∀ tree : Tree, tree.IsTable →
      (members.foldl (fun tree entry => tree.changeKey entry.1 entry.2.over) tree).IsTable := by
    induction members with
    | nil => exact fun _ htree => htree
    | cons member members ih => exact fun _ _ => ih _ isTable_changeKey
  exact hfrom _ ⟨_, _, rfl⟩

end Plain

/-- Entry by entry, a layer over a tree keeps to what the layer is on its own. -/
theorem Rests.putLayer {below : Option Tree} {own whole : Tree}
    (hlistless : ∀ tree ∈ below, tree.IsListless) (hrests : Rests below (some own) (some whole))
    (layer : Layer) :
    Rests below (some (own.putLayer layer)) (some (whole.putLayer layer)) := by
  induction layer generalizing own whole with
  | nil => exact hrests
  | cons entry layer ih =>
      exact ih (keeps_changeAt (keeps_over entry.2) (pathOfName entry.1) hlistless hrests)

/-- A layer over a table without lists. -/
theorem rests_putLayer {below : Tree} (htable : below.IsTable) (hlistless : below.IsListless)
    (layer : Layer) :
    Rests (some below) (some (Tree.ofLayers [layer])) (some (below.putLayer layer)) := by
  apply Rests.putLayer (by simpa using hlistless)
  exact .merged htable ⟨_, _, rfl⟩ htable fun _ => .untouched _

end QueryWarden.Configuration
