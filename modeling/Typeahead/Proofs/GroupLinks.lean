import Mathlib.Data.List.Nodup
import Mathlib.Logic.Relation
import Typeahead.Highlight.Keyword
import Typeahead.Proofs.Acts
import Typeahead.Proofs.GroupListing
import Typeahead.Table

namespace Typeahead.Highlight

open Relation

/-! Which groups of a listing give keywords: those from which links lead up to one of the roots. The descent from the
roots follows the links down. It ends where no link comes back to its start, since no path then meets a group twice. -/

/-- The names that are read off the lines of a group are those that it has a line of a link for. -/
theorem mem_parents_iff {group : Group} {parent : String} :
    parent ∈ group.parents ↔ "links to " ++ parent ∈ group.lines := by
  rw [Group.parents, List.mem_filterMap]
  constructor
  · intro ⟨line, listed, found⟩
    split at found
    · next starts =>
        cases found
        rwa [← linkStart, ← Text.eq_append_drop starts]
    · cases found
  · intro listed
    exact ⟨_, listed, by rw [← linkStart, if_pos (Text.startsWith_append _ _), Text.drop_append]⟩

section Descent

variable {table : Table} {node other : Node}

def IsChild (table : Table) (parent child : Node) : Prop := child ∈ children table parent

/-- A descent that ends has come to all that is below, and to nothing else. -/
theorem mem_descendants_iff {fuel : Nat} {below : List Node} (done : descendants table fuel node = .ok below) :
    other ∈ below ↔ TransGen (IsChild table) node other := by
  induction fuel generalizing node below with
  | zero => cases done
  | succ fuel ih =>
      obtain ⟨lists, each, done⟩ := bind_eq_ok_iff.mp done
      cases done
      have descended {child : Node} {list : List Node}
          (read : (descendants table fuel child).map (child :: ·) = .ok list) :
          other ∈ list ↔ ReflTransGen (IsChild table) child other := by
        cases deeper : descendants table fuel child with
        | error fault => simp [deeper, Except.map] at read
        | ok found =>
            rw [deeper] at read
            cases read
            rw [List.mem_cons, ih deeper, reflTransGen_iff_eq_or_transGen]
      rw [List.mem_flatten, TransGen.head'_iff]
      constructor
      · intro ⟨list, isList, member⟩
        obtain ⟨child, isChild, read⟩ := (mem_iff_of_mapM_ok each).mp isList
        exact ⟨child, isChild, (descended read).mp member⟩
      · intro ⟨child, isChild, reached⟩
        obtain ⟨list, read⟩ := exists_read_of_mapM_ok each isChild
        exact ⟨list, (mem_iff_of_mapM_ok each).mpr ⟨child, isChild, read⟩, (descended read).mpr reached⟩

/-- The group that goes by a built-in name until one of that name is listed. -/
def fixedNode (name : String) : Node := ⟨⟨name, []⟩, true⟩

theorem mem_fixed_children_iff {name : String} :
    other ∈ (builtIn.filterMap fun entry => if entry.2 == some name then some (fixedNode entry.1) else none) ↔
      ∃ child, (child, some name) ∈ builtIn ∧ other = fixedNode child := by
  rw [List.mem_filterMap]
  constructor
  · intro ⟨⟨child, above⟩, member, found⟩
    by_cases same : above = some name
    · subst same
      exact ⟨child, member, by simpa [eq_comm] using found⟩
    · simp [same] at found
  · intro ⟨child, member, same⟩
    exact ⟨(child, some name), member, by simp [same]⟩

theorem mem_linked_children_iff {name : String} :
    other ∈ (table.flatMap fun entry => (entry.2.group.parents.filter (· == name)).map fun _ => entry.2) ↔
      ∃ entry ∈ table, name ∈ entry.2.group.parents ∧ other = entry.2 := by
  rw [List.mem_flatMap]
  apply exists_congr
  intro entry
  apply and_congr_right
  intro _
  rw [List.mem_map]
  constructor
  · intro ⟨parent, isParent, same⟩
    obtain ⟨isParent, named⟩ := List.mem_filter.mp isParent
    exact ⟨beq_iff_eq.mp named ▸ isParent, same.symm⟩
  · intro ⟨isParent, same⟩
    exact ⟨name, List.mem_filter.mpr ⟨isParent, beq_self_eq_true name⟩, same.symm⟩

theorem mem_children_iff : other ∈ children table node ↔
    (node.isBuiltIn = true ∧ ∃ name, (name, some node.group.name) ∈ builtIn ∧ other = fixedNode name) ∨
      (table.lookup node.group.name = some node ∧ ∃ entry ∈ table, node.group.name ∈ entry.2.group.parents ∧
        other = entry.2) := by
  rw [← mem_fixed_children_iff, ← mem_linked_children_iff]
  refine List.mem_append.trans (or_congr ?_ ?_)
  · cases node.isBuiltIn with
    | false => simp
    | true => exact (and_iff_right rfl).symm
  · by_cases held : table.lookup node.group.name = some node
    · rw [if_pos (beq_iff_eq.mpr held)]
      exact (and_iff_right held).symm
    · simp [held]

def knownNodes (table : Table) : List Node := table.map (·.2) ++ builtIn.map fun entry => fixedNode entry.1

theorem mem_knownNodes_of_isChild (isChild : IsChild table node other) : other ∈ knownNodes table := by
  unfold knownNodes
  rw [List.mem_append]
  rcases mem_children_iff.mp isChild with ⟨_, name, isFixed, same⟩ | ⟨_, entry, member, _, same⟩
  · exact .inr (List.mem_map.mpr ⟨_, isFixed, same.symm⟩)
  · exact .inl (List.mem_map.mpr ⟨entry, member, same.symm⟩)

/-- The nodes on the way down are all different where none comes back, so that the fuel lasts as long as there are
nodes that have not been met. -/
theorem exists_descendants (acyclic : ∀ node, ¬ TransGen (IsChild table) node node) {fuel : Nat} {path : List Node}
    (distinct : (node :: path).Nodup) (known : node :: path ⊆ knownNodes table)
    (leads : ∀ earlier ∈ path, TransGen (IsChild table) earlier node)
    (enough : (knownNodes table).length < fuel + (node :: path).length) :
    ∃ below, descendants table fuel node = .ok below := by
  induction fuel generalizing node path with
  | zero =>
      have fits := distinct.length_le_of_subset known
      omega
  | succ fuel ih =>
      have each : ∀ child ∈ children table node,
          ∃ list, (descendants table fuel child).map (child :: ·) = .ok list := by
        intro child isChild
        have reaches : ∀ earlier ∈ node :: path, TransGen (IsChild table) earlier child := by
          intro earlier member
          rcases List.mem_cons.mp member with same | before
          · rw [same]
            exact .single isChild
          · exact (leads earlier before).tail isChild
        have isNew : child ∉ node :: path := fun again => acyclic child (reaches child again)
        have stillKnown : child :: node :: path ⊆ knownNodes table :=
          List.cons_subset.mpr ⟨mem_knownNodes_of_isChild isChild, known⟩
        obtain ⟨below, deeper⟩ := ih (List.nodup_cons.mpr ⟨isNew, distinct⟩) stillKnown reaches
          (by rw [List.length_cons]; omega)
        exact ⟨child :: below, by rw [deeper]; rfl⟩
      obtain ⟨lists, done⟩ := exists_mapM_ok each
      exact ⟨lists.flatten, bind_eq_ok_iff.mpr ⟨lists, done, rfl⟩⟩

end Descent

section Tables

/-- A table holds the listed groups under their names, and the built-in ones under the names that are not listed. -/
structure Represents (table : Table) (groups : List Group) : Prop where
  listed : ∀ group ∈ groups, table.lookup group.name = some ⟨group, false⟩
  unlisted : ∀ name ∉ groups.map (·.name),
    table.lookup name = if name ∈ builtIn.map (·.1) then some (fixedNode name) else none
  distinct : (table.map (·.1)).Nodup

variable {table : Table} {groups : List Group} {group : Group} {node : Node} {name : String}

theorem Table.put_eq (table : Table) (node : Node) :
    Table.put table node = Typeahead.Table.put node.group.name node table := by
  induction table with
  | nil => rfl
  | cons entry rest ih =>
      simp only [Table.put, Typeahead.Table.put, Typeahead.Table.alter] at ih ⊢
      by_cases same : entry.1 = node.group.name
      · simp [same]
      · simp [same, ih]

theorem lookup_initial (name : String) :
    initial.lookup name = if name ∈ builtIn.map (·.1) then some (fixedNode name) else none := by
  unfold initial
  induction builtIn with
  | nil => rfl
  | cons entry rest ih =>
      by_cases same : name = entry.1
      · simp [same, fixedNode]
      · have other : (name == entry.1) = false := beq_eq_false_iff_ne.mpr same
        simp only [List.map_cons, List.lookup_cons, other, ih, List.mem_cons, same, false_or]

theorem represents_initial : Represents initial [] where
  listed := by simp
  unlisted name _ := lookup_initial name
  distinct := by decide

theorem Represents.put (represents : Represents table groups) (group : Group) :
    Represents (Table.put table ⟨group, false⟩) (groups.filter (·.name ≠ group.name) ++ [group]) := by
  rw [Table.put_eq]
  constructor
  · intro other member
    rcases List.mem_append.mp member with earlier | here
    · obtain ⟨kept, different⟩ := List.mem_filter.mp earlier
      rw [Typeahead.Table.lookup_put_other _ _ (by simpa using different)]
      exact represents.listed other kept
    · rw [List.mem_singleton.mp here]
      exact Typeahead.Table.lookup_put_self _ _ _
  · intro name absent
    have different : name ≠ group.name := by
      intro same
      exact absent (by simp [same])
    rw [Typeahead.Table.lookup_put_other _ _ different]
    apply represents.unlisted
    intro listed
    obtain ⟨other, member, named⟩ := List.mem_map.mp listed
    exact absent (List.mem_map.mpr ⟨other, by simp [member, named, different], named⟩)
  · exact Typeahead.Table.nodup_keys_alter _ _ represents.distinct

theorem Represents.fixed_or_listed (represents : Represents table groups) (found : table.lookup name = some node) :
    (name ∈ builtIn.map (·.1) ∧ name ∉ groups.map (·.name) ∧ node = fixedNode name) ∨
      ∃ group ∈ groups, group.name = name ∧ node = ⟨group, false⟩ := by
  by_cases listed : name ∈ groups.map (·.name)
  · obtain ⟨group, member, named⟩ := List.mem_map.mp listed
    rw [← named, represents.listed group member] at found
    cases found
    exact .inr ⟨group, member, named, rfl⟩
  · rw [represents.unlisted name listed] at found
    split at found
    · next isFixed =>
        cases found
        exact .inl ⟨isFixed, listed, rfl⟩
    · cases found

theorem Represents.name_eq (represents : Represents table groups) (found : table.lookup name = some node) :
    node.group.name = name := by
  rcases represents.fixed_or_listed found with ⟨_, _, same⟩ | ⟨group, _, named, same⟩
  · rw [same]
    rfl
  · rw [same]
    exact named

theorem Represents.isChild_iff (represents : Represents table groups) {parent child : Node} :
    IsChild table parent child ↔
      (parent.isBuiltIn = true ∧ ∃ name, (name, some parent.group.name) ∈ builtIn ∧ child = fixedNode name) ∨
        (table.lookup parent.group.name = some parent ∧ ∃ group ∈ groups, parent.group.name ∈ group.parents ∧
          child = ⟨group, false⟩) := by
  refine mem_children_iff.trans (or_congr_right (and_congr_right fun _ => ?_))
  constructor
  · intro ⟨entry, member, isParent, same⟩
    have found := (Typeahead.Table.mem_iff_lookup represents.distinct).mp member
    rcases represents.fixed_or_listed found with ⟨_, _, isFixed⟩ | ⟨group, listed, _, isNode⟩
    · -- a built-in group has no lines, and so no links
      rw [isFixed] at isParent
      exact absurd isParent (by simp [fixedNode, Group.parents])
    · rw [isNode] at isParent same
      exact ⟨group, listed, isParent, same⟩
  · intro ⟨group, member, isParent, same⟩
    have found := (Typeahead.Table.mem_iff_lookup represents.distinct).mpr (represents.listed group member)
    exact ⟨_, found, isParent, same⟩

end Tables

section Links

/-- A group of the first name has a line that links it to the second. -/
def Links (groups : List Group) (name parent : String) : Prop :=
  ∃ group ∈ groups, group.name = name ∧ "links to " ++ parent ∈ group.lines

/-- A built-in group has its place below another as long as neither of the two is listed. -/
def Belongs (groups : List Group) (name parent : String) : Prop :=
  (name, some parent) ∈ builtIn ∧ name ∉ groups.map (·.name) ∧ parent ∉ groups.map (·.name)

def IsUnder (groups : List Group) (name parent : String) : Prop := Links groups name parent ∨ Belongs groups name parent

def Leads (groups : List Group) (name : String) : Prop := ∃ root ∈ roots, TransGen (IsUnder groups) name root

theorem builtIn_flat {name parent : String} {above : Option String} (isBelow : (name, some parent) ∈ builtIn)
    (isBuiltIn : (parent, above) ∈ builtIn) : above = none := by
  have flat : ∀ entry ∈ builtIn, ∀ other ∈ builtIn, entry.2 = some other.1 → other.2 = none := by decide
  exact flat _ isBelow _ isBuiltIn rfl

variable {table : Table} {groups : List Group} {parent child node top : Node}

theorem links_below_listed (represents : Represents table groups) (listed : node.isBuiltIn = false)
    (below : TransGen (IsChild table) node child) :
    child.isBuiltIn = false ∧ TransGen (Links groups) child.group.name node.group.name := by
  have step {parent child : Node} (listed : parent.isBuiltIn = false) (isChild : IsChild table parent child) :
      child.isBuiltIn = false ∧ Links groups child.group.name parent.group.name := by
    rcases represents.isChild_iff.mp isChild with ⟨isBuiltIn, _⟩ | ⟨_, group, member, isParent, same⟩
    · rw [listed] at isBuiltIn
      cases isBuiltIn
    · rw [same]
      exact ⟨rfl, group, member, rfl, mem_parents_iff.mp isParent⟩
  induction below with
  | single isChild =>
      obtain ⟨stillListed, link⟩ := step listed isChild
      exact ⟨stillListed, .single link⟩
  | tail _ isChild ih =>
      obtain ⟨stillListed, link⟩ := step ih.1 isChild
      exact ⟨stillListed, .head link ih.2⟩

theorem fixed_of_isBuiltIn (represents : Represents table groups) (isChild : IsChild table parent child)
    (isBuiltIn : child.isBuiltIn = true) :
    parent.isBuiltIn = true ∧ (child.group.name, some parent.group.name) ∈ builtIn := by
  rcases represents.isChild_iff.mp isChild with ⟨isBuiltIn, name, isFixed, same⟩ | ⟨_, _, _, _, same⟩
  · rw [same]
    exact ⟨isBuiltIn, isFixed⟩
  · rw [same] at isBuiltIn
    cases isBuiltIn

theorem acyclic_of_links (represents : Represents table groups)
    (acyclic : ∀ name, ¬ TransGen (Links groups) name name) (node : Node) : ¬ TransGen (IsChild table) node node := by
  intro cycle
  cases isBuiltIn : node.isBuiltIn with
  | false => exact acyclic _ (links_below_listed represents isBuiltIn cycle).2
  | true =>
      -- a built-in group that is a child is below one that is no child
      obtain ⟨parent, reached, isChild⟩ := TransGen.tail'_iff.mp cycle
      obtain ⟨parentBuiltIn, below⟩ := fixed_of_isBuiltIn represents isChild isBuiltIn
      rcases ReflTransGen.cases_tail reached with same | ⟨above, _, isParent⟩
      · rw [same] at below
        cases builtIn_flat below below
      · cases builtIn_flat below (fixed_of_isBuiltIn represents isParent parentBuiltIn).2

/-- A descent passes through nodes of the table only, though it may end elsewhere. -/
theorem held_of_isChild (represents : Represents table groups) (isChild : IsChild table parent node)
    (isParent : IsChild table node child) : table.lookup node.group.name = some node := by
  rcases represents.isChild_iff.mp isChild with ⟨_, name, isFixed, same⟩ | ⟨_, group, member, _, same⟩
  · rcases represents.isChild_iff.mp isParent with ⟨_, other, isAlso, _⟩ | ⟨held, _⟩
    · rw [same] at isAlso
      cases builtIn_flat isAlso isFixed
    · exact held
  · rw [same]
    exact represents.listed group member

theorem isUnder_of_isChild (represents : Represents table groups) (isChild : IsChild table parent child)
    (parentHeld : table.lookup parent.group.name = some parent) (childHeld : table.lookup child.group.name = some child) :
    IsUnder groups child.group.name parent.group.name := by
  rcases represents.isChild_iff.mp isChild with ⟨isBuiltIn, name, isFixed, same⟩ | ⟨_, group, member, isParent, same⟩
  · have unlisted {node : Node} (isBuiltIn : node.isBuiltIn = true)
        (held : table.lookup node.group.name = some node) : node.group.name ∉ groups.map (·.name) := by
      rcases represents.fixed_or_listed held with ⟨_, unlisted, _⟩ | ⟨_, _, _, isListed⟩
      · exact unlisted
      · rw [isListed] at isBuiltIn
        cases isBuiltIn
    rw [same] at childHeld ⊢
    exact .inr ⟨isFixed, unlisted rfl childHeld, unlisted isBuiltIn parentHeld⟩
  · rw [same]
    exact .inl ⟨group, member, rfl, mem_parents_iff.mp isParent⟩

theorem isChild_of_isUnder (represents : Represents table groups) {name above : String}
    (isUnder : IsUnder groups name above) (found : table.lookup above = some parent) :
    ∃ node, table.lookup name = some node ∧ IsChild table parent node := by
  have named := represents.name_eq found
  rcases isUnder with ⟨group, member, isName, isLine⟩ | ⟨isFixed, unlisted, parentUnlisted⟩
  · refine ⟨⟨group, false⟩, isName ▸ represents.listed group member, represents.isChild_iff.mpr (.inr ?_)⟩
    rw [named]
    exact ⟨found, group, member, mem_parents_iff.mpr isLine, rfl⟩
  · have isBuiltIn : name ∈ builtIn.map (·.1) := List.mem_map.mpr ⟨_, isFixed, rfl⟩
    refine ⟨fixedNode name, by rw [represents.unlisted name unlisted, if_pos isBuiltIn],
      represents.isChild_iff.mpr (.inl ?_)⟩
    rcases represents.fixed_or_listed found with ⟨_, _, same⟩ | ⟨group, member, isName, _⟩
    · rw [named, same]
      exact ⟨rfl, name, isFixed, rfl⟩
    · exact absurd (List.mem_map.mpr ⟨group, member, isName⟩) parentUnlisted

theorem isUnder_of_below (represents : Represents table groups) (below : TransGen (IsChild table) top node)
    (topHeld : table.lookup top.group.name = some top) (held : table.lookup node.group.name = some node) :
    TransGen (IsUnder groups) node.group.name top.group.name := by
  induction below with
  | single isChild => exact .single (isUnder_of_isChild represents isChild topHeld held)
  | tail between isChild ih =>
      obtain ⟨above, _, isParent⟩ := TransGen.tail'_iff.mp between
      have betweenHeld := held_of_isChild represents isParent isChild
      exact .head (isUnder_of_isChild represents isChild betweenHeld held) (ih betweenHeld)

theorem below_of_isUnder (represents : Represents table groups) {name root : String}
    (isUnder : TransGen (IsUnder groups) name root) (found : table.lookup root = some top) :
    ∃ node, table.lookup name = some node ∧ TransGen (IsChild table) top node := by
  induction isUnder using TransGen.head_induction_on with
  | single step =>
      obtain ⟨node, here, isChild⟩ := isChild_of_isUnder represents step found
      exact ⟨node, here, .single isChild⟩
  | head step _ ih =>
      obtain ⟨between, there, below⟩ := ih
      obtain ⟨node, here, isChild⟩ := isChild_of_isUnder represents step there
      exact ⟨node, here, below.tail isChild⟩

theorem below_root_iff (represents : Represents table groups) {group : Group} (member : group ∈ groups) {root : String}
    (found : table.lookup root = some top) :
    TransGen (IsChild table) top ⟨group, false⟩ ↔ TransGen (IsUnder groups) group.name root := by
  have named := represents.name_eq found
  have held := represents.listed group member
  constructor
  · intro below
    rw [← named]
    exact isUnder_of_below represents below (named ▸ found) held
  · intro isUnder
    obtain ⟨node, here, below⟩ := below_of_isUnder represents isUnder found
    rw [held] at here
    cases here
    exact below

theorem roots_builtIn : ∀ root ∈ roots, root ∈ builtIn.map (·.1) := by decide

theorem lookup_root (represents : Represents table groups) {root : String} (isRoot : root ∈ roots) :
    ∃ top, table.lookup root = some top := by
  by_cases listed : root ∈ groups.map (·.name)
  · obtain ⟨group, member, named⟩ := List.mem_map.mp listed
    exact ⟨_, named ▸ represents.listed group member⟩
  · exact ⟨fixedNode root, by rw [represents.unlisted root listed, if_pos (roots_builtIn root isRoot)]⟩

theorem exists_descendants_of_held (represents : Represents table groups)
    (acyclic : ∀ name, ¬ TransGen (Links groups) name name) {root : String} (found : table.lookup root = some top) :
    ∃ below, descendants table (table.length + builtIn.length + 1) top = .ok below := by
  have known : top ∈ knownNodes table := by
    have member := (Typeahead.Table.mem_iff_lookup represents.distinct).mpr found
    exact List.mem_append_left _ (List.mem_map.mpr ⟨_, member, rfl⟩)
  have size : (knownNodes table).length = table.length + builtIn.length := by simp [knownNodes]
  apply exists_descendants (acyclic_of_links represents acyclic) (List.nodup_singleton top)
  · simpa using known
  · simp
  · rw [List.length_singleton]
    omega

/-- What the descent from a root comes to. -/
def belowRoot (table : Table) (root : String) : Except Fault (List Node) :=
  match table.lookup root with
  | some node => descendants table (table.length + builtIn.length + 1) node
  | none => .error (.missing (.text root))

theorem exists_belowRoot (represents : Represents table groups)
    (acyclic : ∀ name, ¬ TransGen (Links groups) name name) {root : String} (isRoot : root ∈ roots) :
    ∃ below, belowRoot table root = .ok below := by
  obtain ⟨top, found⟩ := lookup_root represents isRoot
  obtain ⟨below, done⟩ := exists_descendants_of_held represents acyclic found
  exact ⟨below, by rw [belowRoot, found]; exact done⟩

theorem keyword_below_iff (represents : Represents table groups) {root : String} {below : List Node}
    (done : belowRoot table root = .ok below) (word : String) :
    (∃ node ∈ below, word ∈ node.group.keywords) ↔
      ∃ group ∈ groups, TransGen (IsUnder groups) group.name root ∧ word ∈ group.keywords := by
  unfold belowRoot at done
  cases found : table.lookup root with
  | none => simp [found] at done
  | some top =>
      rw [found] at done
      constructor
      · intro ⟨node, member, isKeyword⟩
        have isBelow := (mem_descendants_iff done).mp member
        obtain ⟨above, _, isChild⟩ := TransGen.tail'_iff.mp isBelow
        rcases represents.isChild_iff.mp isChild with ⟨_, name, _, same⟩ | ⟨_, group, listed, _, same⟩
        · rw [same] at isKeyword
          cases isKeyword
        · subst same
          exact ⟨group, listed, (below_root_iff represents listed found).mp isBelow, isKeyword⟩
      · intro ⟨group, listed, isUnder, isKeyword⟩
        have isBelow := (below_root_iff represents listed found).mpr isUnder
        exact ⟨⟨group, false⟩, (mem_descendants_iff done).mpr isBelow, isKeyword⟩

/-- Where no links come back, the keywords are those of the groups that lead to a root. -/
theorem keywords_eq {output : String} (represents : Represents (Highlight.table output) groups)
    (acyclic : ∀ name, ¬ TransGen (Links groups) name name) :
    ∃ found, keywords output = .ok found ∧
      ∀ word, word ∈ found ↔ ∃ group ∈ groups, Leads groups group.name ∧ word ∈ group.keywords := by
  obtain ⟨lists, done⟩ := exists_mapM_ok fun root isRoot => exists_belowRoot represents acyclic isRoot
  refine ⟨_, bind_eq_ok_iff.mpr ⟨lists, done, rfl⟩, fun word => ?_⟩
  rw [List.mem_eraseDups, List.mem_flatMap]
  constructor
  · intro ⟨node, member, isKeyword⟩
    obtain ⟨list, isList, member⟩ := List.mem_flatten.mp member
    obtain ⟨root, isRoot, read⟩ := (mem_iff_of_mapM_ok done).mp isList
    obtain ⟨group, listed, isUnder, isKeyword⟩ := (keyword_below_iff represents read word).mp ⟨node, member, isKeyword⟩
    exact ⟨group, listed, ⟨root, isRoot, isUnder⟩, isKeyword⟩
  · intro ⟨group, listed, ⟨root, isRoot, isUnder⟩, isKeyword⟩
    obtain ⟨list, read⟩ := exists_read_of_mapM_ok done isRoot
    obtain ⟨node, member, isKeyword⟩ := (keyword_below_iff represents read word).mpr ⟨group, listed, isUnder, isKeyword⟩
    have isList := (mem_iff_of_mapM_ok done).mpr ⟨root, isRoot, read⟩
    exact ⟨node, List.mem_flatten.mpr ⟨list, isList, member⟩, isKeyword⟩

end Links

end Typeahead.Highlight
