import Mathlib.Data.List.Induction
import Typeahead.Proofs.GroupLinks

namespace Typeahead.Highlight

open Relation

/-! The keywords of a listing, and what becomes of them when it lists one more group. Of groups with one name the last
one stands. A group that takes a built-in name also takes it out of its place: a group below `Statement` or `Type` is
no longer there unless it links to them, and those two lose the built-in groups below them. -/

section Standing

/-- The groups that are not listed again. -/
def standing : List Group → List Group
  | [] => []
  | group :: rest => if group.name ∈ rest.map (·.name) then standing rest else group :: standing rest

variable {groups : List Group} {group : Group}

theorem standing_concat (groups : List Group) (group : Group) :
    standing (groups ++ [group]) = (standing groups).filter (·.name ≠ group.name) ++ [group] := by
  induction groups with
  | nil => simp [standing]
  | cons first rest ih =>
      have again_iff : first.name ∈ (rest ++ [group]).map (·.name) ↔
          first.name ∈ rest.map (·.name) ∨ first.name = group.name := by
        rw [List.map_append, List.mem_append, List.map_singleton, List.mem_singleton]
      rw [List.cons_append, standing, standing]
      by_cases again : first.name ∈ rest.map (·.name)
      · rw [if_pos again, if_pos (again_iff.mpr (.inl again)), ih]
      · by_cases same : first.name = group.name
        · rw [if_neg again, if_pos (again_iff.mpr (.inr same)), ih, List.filter_cons_of_neg (by simpa using same)]
        · have notAgain : ¬ first.name ∈ (rest ++ [group]).map (·.name) := by
            rw [again_iff]
            exact fun either => either.elim again same
          rw [if_neg again, if_neg notAgain, ih, List.filter_cons_of_pos (by simpa using same), List.cons_append]

theorem mem_names_standing (name : String) :
    name ∈ (standing groups).map (·.name) ↔ name ∈ groups.map (·.name) := by
  induction groups with
  | nil => rfl
  | cons first rest ih =>
      rw [standing]
      split
      · next again =>
          rw [ih, List.map_cons, List.mem_cons]
          constructor
          · exact .inr
          · intro either
            rcases either with same | later
            · rw [same]
              exact again
            · exact later
      · rw [List.map_cons, List.map_cons, List.mem_cons, List.mem_cons, ih]

theorem standing_eq_self (once : (groups.map (·.name)).Nodup) : standing groups = groups := by
  induction groups with
  | nil => rfl
  | cons first rest ih =>
      obtain ⟨isNew, once⟩ := List.nodup_cons.mp once
      rw [standing, if_neg isNew, ih once]

theorem standing_concat_of_new (isNew : group.name ∉ groups.map (·.name)) :
    standing (groups ++ [group]) = standing groups ++ [group] := by
  rw [standing_concat, List.filter_eq_self.mpr]
  intro other member
  have listed := (mem_names_standing other.name).mp (List.mem_map.mpr ⟨other, member, rfl⟩)
  have different : other.name ≠ group.name := by
    intro same
    rw [same] at listed
    exact isNew listed
  simpa using different

theorem represents_standing (groups : List Group) :
    Represents (groups.foldl (fun table group => table.put ⟨group, false⟩) initial) (standing groups) := by
  induction groups using List.reverseRecOn with
  | nil => exact represents_initial
  | append_singleton groups group ih =>
      rw [List.foldl_concat, standing_concat]
      exact ih.put group

end Standing

section Foreign

variable {groups : List Group}

theorem root_or_below_root :
    ∀ entry ∈ builtIn, entry.2 = none ∧ entry.1 ∈ roots ∨ ∃ root ∈ roots, entry.2 = some root := by decide

/-- As long as no built-in name is listed, all built-in groups are in their places, and a group leads to a root if its
links lead to a built-in name. -/
theorem leads_iff_of_foreign (foreign : ∀ group ∈ groups, group.name ∉ builtIn.map (·.1)) {name : String}
    (isForeign : name ∉ builtIn.map (·.1)) :
    Leads groups name ↔ ∃ top ∈ builtIn.map (·.1), TransGen (Links groups) name top := by
  have unlisted {name : String} (isBuiltIn : name ∈ builtIn.map (·.1)) : name ∉ groups.map (·.name) := by
    intro listed
    obtain ⟨group, member, named⟩ := List.mem_map.mp listed
    exact foreign group member (named ▸ isBuiltIn)
  constructor
  · intro ⟨root, isRoot, isUnder⟩
    -- links lead up until a built-in name is met, and from there on there are none
    have climbs {name : String} (isUnder : TransGen (IsUnder groups) name root) :
        name ∈ builtIn.map (·.1) ∨ ∃ top ∈ builtIn.map (·.1), TransGen (Links groups) name top := by
      induction isUnder using TransGen.head_induction_on with
      | single step =>
          rcases step with links | belongs
          · exact .inr ⟨root, roots_builtIn root isRoot, .single links⟩
          · exact .inl (List.mem_map.mpr ⟨_, belongs.1, rfl⟩)
      | head step _ ih =>
          rcases step with links | belongs
          · rcases ih with isBuiltIn | ⟨top, isTop, linked⟩
            · exact .inr ⟨_, isBuiltIn, .single links⟩
            · exact .inr ⟨top, isTop, .head links linked⟩
          · exact .inl (List.mem_map.mpr ⟨_, belongs.1, rfl⟩)
    exact (climbs isUnder).resolve_left isForeign
  · intro ⟨top, isTop, linked⟩
    have isUnder : TransGen (IsUnder groups) name top := TransGen.mono (fun _ _ => .inl) _ _ linked
    obtain ⟨⟨_, above⟩, isBuiltIn, rfl⟩ := List.mem_map.mp isTop
    rcases root_or_below_root _ isBuiltIn with ⟨_, isRoot⟩ | ⟨root, isRoot, rfl⟩
    · exact ⟨_, isRoot, isUnder⟩
    · have belongs : Belongs groups _ root := ⟨isBuiltIn, unlisted isTop, unlisted (roots_builtIn root isRoot)⟩
      exact ⟨root, isRoot, isUnder.tail (.inr belongs)⟩

end Foreign

/-- In a listing without repeated and without built-in names, and without a cycle of links, the keywords are those of
the groups from which one or more links lead to a built-in name. -/
theorem keywords_of_linked_groups (output : String) (once : ((listed output).map (·.name)).Nodup)
    (foreign : ∀ group ∈ listed output, group.name ∉ builtIn.map (·.1))
    (acyclic : ∀ name, ¬ TransGen (Links (listed output)) name name) :
    IsListing (Text.split '\n' output) (listed output) ∧ ∃ found, keywords output = .ok found ∧
      ∀ word, word ∈ found ↔ ∃ group ∈ listed output,
        (∃ top ∈ builtIn.map (·.1), TransGen (Links (listed output)) group.name top) ∧ word ∈ group.keywords := by
  have represents : Represents (table output) (listed output) := by
    have stands := represents_standing (listed output)
    rw [standing_eq_self once] at stands
    exact stands
  obtain ⟨found, done, isKeyword⟩ := keywords_eq represents acyclic
  refine ⟨isListing_listed output, found, done, fun word => ?_⟩
  rw [isKeyword]
  apply exists_congr
  intro group
  apply and_congr_right
  intro member
  rw [leads_iff_of_foreign foreign (foreign group member)]

theorem acyclic_of_rank {groups : List Group} (rank : String → Nat)
    (climbs : ∀ group ∈ groups, ∀ parent ∈ group.parents, rank group.name < rank parent) (name : String) :
    ¬ TransGen (Links groups) name name := by
  have rises {name top : String} (linked : TransGen (Links groups) name top) : rank name < rank top := by
    induction linked with
    | single link =>
        obtain ⟨group, member, rfl, isLine⟩ := link
        exact climbs group member _ (mem_parents_iff.mpr isLine)
    | tail _ link ih =>
        obtain ⟨group, member, rfl, isLine⟩ := link
        have higher := climbs group member _ (mem_parents_iff.mpr isLine)
        omega
  exact fun cycle => Nat.lt_irrefl _ (rises cycle)

/-- A group that links to one that links to a built-in name gives keywords, and one without a link does not. -/
theorem keywords_of_linked_groups_nested :
    let output := "inner xxx if\n links to outer\nouter xxx for, fold\n links to Label\nloose xxx in"
    ((listed output).map (·.name)).Nodup ∧ (∀ group ∈ listed output, group.name ∉ builtIn.map (·.1)) ∧
      (∀ name, ¬ TransGen (Links (listed output)) name name) ∧ keywords output = .ok ["for", "if"] ∧
      ∀ word, word ∈ ["for", "if"] ↔ ∃ group ∈ listed output,
        (∃ top ∈ builtIn.map (·.1), TransGen (Links (listed output)) group.name top) ∧ word ∈ group.keywords := by
  intro output
  have groups : listed output = [⟨"inner", ["if", "links to outer"]⟩, ⟨"outer", ["for, fold", "links to Label"]⟩,
      ⟨"loose", ["in"]⟩] := by
    decide +kernel
  have once : ((listed output).map (·.name)).Nodup := by rw [groups]; decide
  have foreign : ∀ group ∈ listed output, group.name ∉ builtIn.map (·.1) := by rw [groups]; decide
  have acyclic : ∀ name, ¬ TransGen (Links (listed output)) name name := by
    rw [groups]
    exact acyclic_of_rank (fun name => if name = "inner" then 0 else if name = "outer" then 1 else 2)
      (by decide)
  have computed : keywords output = .ok ["for", "if"] := Act.eq_ok_of_toOption (by decide +kernel)
  obtain ⟨_, found, done, isKeyword⟩ := keywords_of_linked_groups output once foreign acyclic
  rw [computed] at done
  cases done
  exact ⟨once, foreign, acyclic, computed, isKeyword⟩

section Longer

variable {groups : List Group} {group : Group} {name child root : String}

/-- A group that is listed takes a built-in one out of its place, itself or one below it. -/
def Displaces (groups : List Group) (group : Group) (child : String) : Prop :=
  ∃ parent, Belongs groups child parent ∧ (child = group.name ∨ parent = group.name)

theorem links_mono : Links groups ≤ Links (groups ++ [group]) := by
  intro name parent ⟨linked, member, named, isLine⟩
  exact ⟨linked, List.mem_append_left _ member, named, isLine⟩

theorem not_isUnder_of_belongs {parent above : String} (belongs : Belongs groups name parent) :
    ¬ IsUnder groups parent above := by
  intro isUnder
  rcases isUnder with ⟨linked, member, named, _⟩ | ⟨isFixed, _⟩
  · exact belongs.2.2 (List.mem_map.mpr ⟨linked, member, named⟩)
  · cases builtIn_flat belongs.1 isFixed

theorem belongs_or_displaces {parent : String} (belongs : Belongs groups name parent) :
    Belongs (groups ++ [group]) name parent ∨ Displaces groups group name := by
  by_cases displaced : name = group.name ∨ parent = group.name
  · exact .inr ⟨parent, belongs, displaced⟩
  · obtain ⟨isFixed, unlisted, parentUnlisted⟩ := belongs
    push Not at displaced
    exact .inl ⟨isFixed, by simp [unlisted, displaced.1], by simp [parentUnlisted, displaced.2]⟩

/-- A way up to a root stays when a group is added, unless it passes a built-in group that is taken out of its place. -/
theorem isUnder_or_displaces (isUnder : TransGen (IsUnder groups) name root) :
    TransGen (IsUnder (groups ++ [group])) name root ∨
      ∃ child, Displaces groups group child ∧ ReflTransGen (Links groups) name child := by
  induction isUnder using TransGen.head_induction_on with
  | single step =>
      rcases step with links | belongs
      · exact .inl (.single (.inl (links_mono _ _ links)))
      · rcases belongs_or_displaces belongs with still | displaces
        · exact .inl (.single (.inr still))
        · exact .inr ⟨_, displaces, .refl⟩
  | head step rest ih =>
      rcases step with links | belongs
      · rcases ih with still | ⟨child, displaces, linked⟩
        · exact .inl (.head (.inl (links_mono _ _ links)) still)
        · exact .inr ⟨child, displaces, .head links linked⟩
      · obtain ⟨above, next, _⟩ := TransGen.head'_iff.mp rest
        exact absurd next (not_isUnder_of_belongs belongs)

theorem leads_of_displaces (displaces : Displaces groups group child) (linked : TransGen (Links groups) name child) :
    Leads groups name := by
  obtain ⟨parent, belongs, _⟩ := displaces
  have isUnder : TransGen (IsUnder groups) name parent :=
    (TransGen.mono (fun _ _ => .inl) _ _ linked).tail (.inr belongs)
  rcases root_or_below_root _ belongs.1 with ⟨isTop, _⟩ | ⟨root, isRoot, same⟩
  · cases isTop
  · cases same
    exact ⟨parent, isRoot, isUnder⟩

/-- A group that leads to a root still does when another is added, unless its links lead to a built-in group that is
taken out of its place and does not lead to a root from where it is then. -/
theorem leads_or_displaced {other : Group} (member : other ∈ groups) (leads : Leads groups other.name) :
    Leads (groups ++ [group]) other.name ∨
      ∃ child, Displaces groups group child ∧ ¬ Leads (groups ++ [group]) child ∧
        TransGen (Links groups) other.name child := by
  obtain ⟨root, isRoot, isUnder⟩ := leads
  rcases isUnder_or_displaces isUnder with still | ⟨child, displaces, linked⟩
  · exact .inl ⟨root, isRoot, still⟩
  · rcases reflTransGen_iff_eq_or_transGen.mp linked with same | linked
    · obtain ⟨_, belongs, _⟩ := displaces
      exact absurd (List.mem_map.mpr ⟨other, member, same.symm⟩) belongs.2.1
    · by_cases leadsThere : Leads (groups ++ [group]) child
      · obtain ⟨root, isRoot, isUnder⟩ := leadsThere
        have longer : TransGen (IsUnder (groups ++ [group])) other.name child :=
          TransGen.mono (fun _ _ links => .inl (links_mono _ _ links)) _ _ linked
        exact .inl ⟨root, isRoot, longer.trans isUnder⟩
      · exact .inr ⟨child, displaces, leadsThere, linked⟩

end Longer

/-- One more group at the end of a listing leaves all keywords there, except those of groups whose links lead to a
built-in group that the new one takes out of its place, and to no root without it, as far as no other group that leads
to a root has them. -/
theorem longer_listing_keeps_iff (output entry : String) (group : Group) (isEntry : IsEntry (Text.split '\n' entry) group)
    (isNew : group.name ∉ (listed output).map (·.name))
    (acyclic : ∀ name, ¬ TransGen (Links (standing (listed output) ++ [group])) name name) :
    let groups := standing (listed output)
    ∃ before after, keywords output = .ok before ∧ keywords (output ++ "\n" ++ entry) = .ok after ∧
      ((∀ word ∈ before, word ∈ after) ↔
        ∀ child, Displaces groups group child → ¬ Leads (groups ++ [group]) child →
          ∀ other ∈ groups, TransGen (Links groups) other.name child → ∀ word ∈ other.keywords,
            ∃ third ∈ groups ++ [group], Leads (groups ++ [group]) third.name ∧ word ∈ third.keywords) := by
  intro groups
  have shorterAcyclic : ∀ name, ¬ TransGen (Links groups) name name :=
    fun name cycle => acyclic name (TransGen.mono links_mono _ _ cycle)
  have longerStands : Represents (table (output ++ "\n" ++ entry)) (groups ++ [group]) := by
    have stands := represents_standing (listed (output ++ "\n" ++ entry))
    rw [listed_append output isEntry, standing_concat_of_new isNew] at stands
    unfold table
    rw [listed_append output isEntry]
    exact stands
  obtain ⟨before, done, inBefore⟩ := keywords_eq (represents_standing (listed output)) shorterAcyclic
  obtain ⟨after, doneLonger, inAfter⟩ := keywords_eq longerStands acyclic
  refine ⟨before, after, done, doneLonger, ?_⟩
  constructor
  · intro kept child displaces _ other member linked word isKeyword
    have leads := leads_of_displaces displaces linked
    exact (inAfter word).mp (kept word ((inBefore word).mpr ⟨other, member, leads, isKeyword⟩))
  · intro elsewhere word isKeyword
    obtain ⟨other, member, leads, isKeyword⟩ := (inBefore word).mp isKeyword
    rw [inAfter]
    rcases leads_or_displaced member leads with still | ⟨child, displaces, lost, linked⟩
    · exact ⟨other, List.mem_append_left _ member, still, isKeyword⟩
    · exact elsewhere child displaces lost other member linked word isKeyword

section Conditionals

def conditionals : String := "cConditional xxx if else\n links to Conditional"

theorem listed_conditionals : listed conditionals = [⟨"cConditional", ["if else", "links to Conditional"]⟩] := by
  decide +kernel

theorem isEntry_one_line {line name content : String} (oneLine : '\n' ∉ line.toList)
    (starts : heading? line = some (name, content)) : IsEntry (Text.split '\n' line) ⟨name, [content]⟩ := by
  rw [Text.split_of_not_mem oneLine]
  exact isEntry_of_heading? starts (by simp)

end Conditionals

/-- A group of the name `Conditional` takes the built-in one out of its place, but links back to it: nothing is lost. -/
theorem longer_listing_keeps_iff_relinked :
    let entry := "Conditional xxx links to Statement"
    let group : Group := ⟨"Conditional", ["links to Statement"]⟩
    let groups := standing (listed conditionals)
    IsEntry (Text.split '\n' entry) group ∧ group.name ∉ (listed conditionals).map (·.name) ∧
      (∀ name, ¬ TransGen (Links (groups ++ [group])) name name) ∧
      keywords conditionals = .ok ["if", "else"] ∧ keywords (conditionals ++ "\n" ++ entry) = .ok ["if", "else"] ∧
      ∀ child, Displaces groups group child → ¬ Leads (groups ++ [group]) child →
        ∀ other ∈ groups, TransGen (Links groups) other.name child → ∀ word ∈ other.keywords,
          ∃ third ∈ groups ++ [group], Leads (groups ++ [group]) third.name ∧ word ∈ third.keywords := by
  intro entry group groups
  have isEntry : IsEntry (Text.split '\n' entry) group := isEntry_one_line (by decide) (by decide +kernel)
  have isNew : group.name ∉ (listed conditionals).map (·.name) := by rw [listed_conditionals]; decide
  have acyclic : ∀ name, ¬ TransGen (Links (groups ++ [group])) name name := by
    simp only [groups, listed_conditionals]
    exact acyclic_of_rank (fun name => if name = "cConditional" then 0 else if name = "Conditional" then 1 else 2)
      (by decide)
  have first : keywords conditionals = .ok ["if", "else"] := Act.eq_ok_of_toOption (by decide +kernel)
  have longer : keywords (conditionals ++ "\n" ++ entry) = .ok ["if", "else"] :=
    Act.eq_ok_of_toOption (by decide +kernel)
  obtain ⟨before, after, done, doneLonger, keeps_iff⟩ :=
    longer_listing_keeps_iff conditionals entry group isEntry isNew acyclic
  rw [first] at done
  rw [longer] at doneLonger
  cases done
  cases doneLonger
  exact ⟨isEntry, isNew, acyclic, first, longer, keeps_iff.mp fun _ kept => kept⟩

/-- A group of its own by the name `Statement` takes all keywords of conditionals away. -/
theorem conditionals_lost_to_statement :
    let entry := "Statement xxx contained"
    let group : Group := ⟨"Statement", ["contained"]⟩
    IsEntry (Text.split '\n' entry) group ∧ group.name ∉ (listed conditionals).map (·.name) ∧
      (∀ name, ¬ TransGen (Links (listed conditionals ++ [group])) name name) ∧
      keywords conditionals = .ok ["if", "else"] ∧ keywords (conditionals ++ "\n" ++ entry) = .ok [] := by
  intro entry group
  refine ⟨isEntry_one_line (by decide) (by decide +kernel), by rw [listed_conditionals]; decide, ?_,
    Act.eq_ok_of_toOption (by decide +kernel), Act.eq_ok_of_toOption (by decide +kernel)⟩
  rw [listed_conditionals]
  exact acyclic_of_rank (fun name => if name = "cConditional" then 0 else 1) (by decide)

end Typeahead.Highlight
