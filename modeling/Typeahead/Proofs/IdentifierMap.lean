import Mathlib.Data.Set.Insert
import Typeahead.Identifier.Search
import Typeahead.Proofs.Acts
import Typeahead.Proofs.InternedCandidates
import Typeahead.Proofs.TagLines

namespace Typeahead

/-! The identifier database as a map. Every source, a file under a filetype, has its set of texts, and the tables
of a database represent such a map: adding, emptying and reading from buffers and tags files do the same to both.
A query then finds the texts that its filetype's files have in the map. -/

open Letter

namespace Identifier

namespace Database

variable {database : Database} {filetype : Bytes} {source : Source}

/-- The candidates of one file. -/
def candidatesAt (database : Database) (source : Source) : List Nat :=
  ((database.files source.filetype).lookup source.path).getD []

/-- The texts of one file. -/
def textsAt (database : Database) (source : Source) : List Bytes :=
  (database.candidatesAt source).filterMap database.repository.text?

theorem files_onFile_self (source : Source) (change : List Nat → List Nat) :
    (database.onFile source change).files source.filetype =
      Table.alter source.path (fun candidates => change (candidates.getD [])) (database.files source.filetype) := by
  rw [files, onFile, Table.lookup_alter_self]
  rfl

theorem lookup_onFile_other (source : Source) (change : List Nat → List Nat)
    (different : filetype ≠ source.filetype) :
    (database.onFile source change).tables.lookup filetype = database.tables.lookup filetype :=
  Table.lookup_alter_other _ _ different

theorem files_onFile_other (source : Source) (change : List Nat → List Nat)
    (different : filetype ≠ source.filetype) :
    (database.onFile source change).files filetype = database.files filetype := by
  rw [files, files, lookup_onFile_other source change different]

theorem candidatesAt_onFile (source other : Source) (change : List Nat → List Nat) :
    (database.onFile source change).candidatesAt other =
      if other = source then change (database.candidatesAt source) else database.candidatesAt other := by
  by_cases same : other = source
  · subst same
    rw [if_pos rfl, candidatesAt, files_onFile_self, Table.lookup_alter_self]
    rfl
  · rw [if_neg same, candidatesAt, candidatesAt]
    by_cases sameType : other.filetype = source.filetype
    · have otherPath : other.path ≠ source.path := by
        intro samePath
        obtain ⟨_, _⟩ := other
        obtain ⟨_, _⟩ := source
        exact same (by simp_all)
      rw [sameType, files_onFile_self, Table.lookup_alter_other _ _ otherPath]
    · rw [files_onFile_other source change sameType]

theorem candidatesAt_add (source other : Source) (given : List Bytes) :
    (database.add source given).candidatesAt other =
      if other = source then
        (database.repository.internAll given).1.foldl insertNew (database.candidatesAt source)
      else database.candidatesAt other :=
  @candidatesAt_onFile database source other ((database.repository.internAll given).1.foldl insertNew ·)

theorem lookup_add_other (source : Source) (given : List Bytes) (different : filetype ≠ source.filetype) :
    (database.add source given).tables.lookup filetype = database.tables.lookup filetype :=
  @lookup_onFile_other database filetype source ((database.repository.internAll given).1.foldl insertNew ·) different

theorem mem_textsAt {text : Bytes} :
    text ∈ database.textsAt source ↔
      ∃ candidate ∈ database.candidatesAt source, database.repository.text? candidate = some text :=
  List.mem_filterMap

/-- What reading a buffer comes to: what its file had is gone, and what is found in the buffer is added. -/
theorem run_addBuffer (givesUp : Bytes → Bool) (source : Source) (contents : Bytes) (fromIgnored : Bool)
    (database : Database) :
    (addBuffer givesUp source contents fromIgnored).run.run database =
      match ofBuffer givesUp fromIgnored contents with
      | .ok found => (.ok (), (database.clear source).add source found)
      | .error fault => (.error fault, database.clear source) := by
  cases result : ofBuffer givesUp fromIgnored contents with
  | ok found =>
      unfold addBuffer
      rw [result]
      rfl
  | error fault =>
      unfold addBuffer
      rw [result]
      rfl

end Database

/-- The texts that each source has. -/
abbrev Known := Source → Set Bytes

namespace Known

/-- Gives a source the texts, each as it can be shown. -/
def add (known : Known) (source : Source) (given : List Bytes) : Known :=
  Function.update known source (known source ∪ {text | ∃ one ∈ given, text = Candidate.shown one})

/-- Takes all texts from a source. -/
def clear (known : Known) (source : Source) : Known := Function.update known source ∅

/-- Takes all texts from a source and gives it those that are found in a buffer, unless the search is given up. -/
def addBuffer (givesUp : Bytes → Bool) (known : Known) (source : Source) (contents : Bytes) (fromIgnored : Bool) :
    Known :=
  match ofBuffer givesUp fromIgnored contents with
  | .ok found => (known.clear source).add source found
  | .error _ => known.clear source

/-- What the entries of a tags file name goes to the sources that they tell, where their language is a known one. -/
def addTags (known : Known) (tagsPath contents : Bytes) : Known := fun source =>
  known source ∪ {text | ∃ entry ∈ entries contents, filetype? entry.language = some source.filetype ∧
    locate (folderOf tagsPath) entry.path = source.path ∧ text = Candidate.shown entry.name}

end Known

/-- What can be done with a database. A tags file is given by its path and what it holds. -/
inductive Operation where
  | add (source : Source) (given : List Bytes)
  | addBuffer (source : Source) (contents : Bytes) (fromIgnored : Bool)
  | addTags (tagsFiles : List (Bytes × Bytes))
  | query (asked filetype : Bytes)

namespace Operation

variable (givesUp : Bytes → Bool)

/-- Does an operation; only a query has an answer. A query may fail, and so may reading a buffer. -/
def perform : Operation → Act Database (List Bytes)
  | .add source given => do
    modify (·.add source given)
    return []
  | .addBuffer source contents fromIgnored => do
    Database.addBuffer givesUp source contents fromIgnored
    return []
  | .addTags tagsFiles => do
    modify fun database => tagsFiles.foldl (fun database (path, contents) => database.addTags path contents) database
    return []
  | .query asked filetype => do
    (← get).query asked filetype

theorem perform_query (asked filetype : Bytes) (database : Database) :
    ((query asked filetype).perform givesUp).run.run database = (database.query asked filetype, database) := rfl

theorem perform_addBuffer (source : Source) (contents : Bytes) (fromIgnored : Bool) (database : Database) :
    ((addBuffer source contents fromIgnored).perform givesUp).run.run database =
      match ofBuffer givesUp fromIgnored contents with
      | .ok found => (.ok [], (database.clear source).add source found)
      | .error fault => (.error fault, database.clear source) := by
  have reading := Database.run_addBuffer givesUp source contents fromIgnored database
  cases result : ofBuffer givesUp fromIgnored contents with
  | ok found =>
      rw [result] at reading
      exact Act.run_bind_ok reading
  | error fault =>
      rw [result] at reading
      exact Act.run_bind_error reading

/-- The database after operations, one after another, whether or not they fail. -/
def run (operations : List Operation) (database : Database) : Database :=
  operations.foldl (fun database operation => ((operation.perform givesUp).run.run database).2) database

/-- What an operation means for the texts that sources have. -/
def meaning : Operation → Known → Known
  | .add source given, known => known.add source given
  | .addBuffer source contents fromIgnored, known => known.addBuffer givesUp source contents fromIgnored
  | .addTags tagsFiles, known => tagsFiles.foldl (fun known (path, contents) => known.addTags path contents) known
  | .query _ _, known => known

/-- The texts that sources have after operations on an empty map. -/
def meaningOf (operations : List Operation) : Known :=
  operations.foldl (fun known operation => operation.meaning givesUp known) fun _ => ∅

/-- The filetypes whose texts an operation adds to. -/
def AddsUnder (filetype : Bytes) : Operation → Prop
  | .add source _ => source.filetype = filetype
  | .addBuffer source _ _ => source.filetype = filetype
  | .addTags tagsFiles => ∃ file ∈ tagsFiles, ∃ entry ∈ entries file.2, filetype? entry.language = some filetype
  | .query _ _ => False

end Operation

/-- A database whose tables hold what a map says. All candidates that files list have been made. -/
structure Represents (database : Database) (known : Known) : Prop where
  distinct : ∀ filetype, ((database.files filetype).map (·.1)).Nodup
  made : ∀ source, ∀ candidate ∈ database.candidatesAt source, ∃ text, database.repository.text? candidate = some text
  holds : ∀ source text, text ∈ database.textsAt source ↔ text ∈ known source
  printable : ∀ source, ∀ text ∈ known source, ∀ letter ∈ text, isPrintable letter

namespace Represents

variable {database : Database} {known : Known}

theorem empty (made : Repository) : Represents { repository := made } fun _ => ∅ := by
  constructor
  · intro filetype
    exact List.nodup_nil
  · intro source candidate listed
    cases listed
  · intro source text
    simp [Database.textsAt, Database.candidatesAt, Database.files]
  · intro source text member
    cases member

theorem congr {other : Known} (represents : Represents database known) (same : ∀ source, other source = known source) :
    Represents database other := by
  rwa [funext same]

theorem distinct_onFile (represents : Represents database known) (source : Source) (change : List Nat → List Nat)
    (filetype : Bytes) : (((database.onFile source change).files filetype).map (·.1)).Nodup := by
  by_cases same : filetype = source.filetype
  · subst same
    rw [Database.files_onFile_self]
    exact Table.nodup_keys_alter source.path _ (represents.distinct source.filetype)
  · rw [Database.files_onFile_other source change same]
    exact represents.distinct filetype

/-- Candidates keep their texts when others are made. -/
theorem text?_add_iff (represents : Represents database known) {source : Source} {candidate : Nat}
    (listed : candidate ∈ database.candidatesAt source) (given : List Bytes) (text : Bytes) :
    (database.repository.internAll given).2.text? candidate = some text ↔
      database.repository.text? candidate = some text := by
  have grows := database.repository.prefix_internAll given
  obtain ⟨kept, found⟩ := represents.made source candidate listed
  rw [Repository.text?_mono grows found, found]

theorem made_add (represents : Represents database known) (source other : Source) (given : List Bytes) {candidate : Nat}
    (listed : candidate ∈ (database.add source given).candidatesAt other) :
    ∃ text, (database.repository.internAll given).2.text? candidate = some text := by
  have before : ∀ {place}, candidate ∈ database.candidatesAt place →
      ∃ text, (database.repository.internAll given).2.text? candidate = some text := by
    intro place there
    obtain ⟨text, found⟩ := represents.made place candidate there
    exact ⟨text, Repository.text?_mono (database.repository.prefix_internAll given) found⟩
  rw [Database.candidatesAt_add] at listed
  split at listed
  · rw [Database.mem_foldl_insertNew] at listed
    exact listed.elim before Repository.exists_text?_internAll
  · exact before listed

theorem holds_add (represents : Represents database known) (source other : Source) (given : List Bytes) (text : Bytes) :
    text ∈ (database.add source given).textsAt other ↔ text ∈ known.add source given other := by
  have kept : ∀ place, (∃ candidate ∈ database.candidatesAt place,
      (database.repository.internAll given).2.text? candidate = some text) ↔ text ∈ known place := by
    intro place
    rw [← represents.holds place text, Database.mem_textsAt]
    exact exists_congr fun candidate => and_congr_right fun there => represents.text?_add_iff there given text
  rw [Database.mem_textsAt, Database.candidatesAt_add]
  by_cases same : other = source
  · subst same
    rw [if_pos rfl, Known.add, Function.update_self, Set.mem_union, ← kept, Set.mem_ofPred_eq,
      ← database.repository.exists_mem_internAll_iff given text]
    simp only [Database.mem_foldl_insertNew, or_and_right, exists_or]
    rfl
  · rw [if_neg same, Known.add, Function.update_of_ne same]
    exact kept other

theorem add (represents : Represents database known) (source : Source) (given : List Bytes) :
    Represents (database.add source given) (known.add source given) := by
  constructor
  · exact represents.distinct_onFile source ((database.repository.internAll given).1.foldl Database.insertNew ·)
  · exact fun other candidate => represents.made_add source other given
  · exact fun other text => represents.holds_add source other given text
  · intro other text there
    by_cases same : other = source
    · subst same
      rw [Known.add, Function.update_self] at there
      rcases there with there | ⟨one, _, rfl⟩
      · exact represents.printable other text there
      · exact Candidate.isPrintable_of_mem_shown one
    · rw [Known.add, Function.update_of_ne same] at there
      exact represents.printable other text there

theorem clear (represents : Represents database known) (source : Source) :
    Represents (database.clear source) (known.clear source) := by
  refine ⟨represents.distinct_onFile source _, ?_, ?_, ?_⟩
  · intro other candidate listed
    rw [Database.clear, Database.candidatesAt_onFile] at listed
    split at listed
    · cases listed
    · exact represents.made other candidate listed
  · intro other text
    rw [Database.mem_textsAt, Database.clear, Database.candidatesAt_onFile]
    by_cases same : other = source
    · subst same
      simp [Known.clear]
    · rw [if_neg same, Known.clear, Function.update_of_ne same, ← represents.holds other text, Database.mem_textsAt]
      rfl
  · intro other text there
    by_cases same : other = source
    · subst same
      simp [Known.clear] at there
    · rw [Known.clear, Function.update_of_ne same] at there
      exact represents.printable other text there

theorem addBuffer (represents : Represents database known) (givesUp : Bytes → Bool) (source : Source)
    (contents : Bytes) (fromIgnored : Bool) :
    Represents (((Operation.addBuffer source contents fromIgnored).perform givesUp).run.run database).2
      (known.addBuffer givesUp source contents fromIgnored) := by
  rw [Operation.perform_addBuffer, Known.addBuffer]
  cases ofBuffer givesUp fromIgnored contents with
  | ok found => exact (represents.clear source).add source found
  | error fault => exact represents.clear source

theorem addAll (represents : Represents database known) (found : List (Source × Bytes)) :
    Represents (found.foldl (fun database (source, text) => database.add source [text]) database)
      fun source => known source ∪ {text | ∃ name, (source, name) ∈ found ∧ text = Candidate.shown name} := by
  induction found generalizing database known with
  | nil => simpa using represents
  | cons tagged found ih =>
      refine (ih (represents.add tagged.1 [tagged.2])).congr fun source => ?_
      ext text
      by_cases same : source = tagged.1
      · subst same
        simp only [Known.add, Function.update_self, Set.mem_union, Set.mem_ofPred_eq, List.mem_cons,
          List.not_mem_nil, or_false, exists_eq_left, or_assoc]
        refine or_congr_right ?_
        constructor
        · rintro ⟨name, isFirst | later, shown⟩
          · exact Or.inl (by rw [shown, ← isFirst])
          · exact Or.inr ⟨name, later, shown⟩
        · rintro (shown | ⟨name, later, shown⟩)
          · exact ⟨tagged.2, Or.inl rfl, shown⟩
          · exact ⟨name, Or.inr later, shown⟩
      · have notFirst : ∀ name, (source, name) ≠ tagged := fun name isFirst => same (by rw [← isFirst])
        simp [Known.add, Function.update_of_ne same, notFirst]

theorem addTags (represents : Represents database known) (tagsPath contents : Bytes) :
    Represents (database.addTags tagsPath contents) (known.addTags tagsPath contents) := by
  refine (represents.addAll (ofTags tagsPath contents)).congr fun source => ?_
  ext text
  simp only [Known.addTags, ofTags, Set.mem_union, Set.mem_ofPred_eq, List.mem_filterMap, Option.map_eq_some_iff]
  refine or_congr_right ?_
  constructor
  · rintro ⟨entry, listed, isType, isPath, shown⟩
    exact ⟨entry.name, ⟨entry, listed, source.filetype, isType, by rw [isPath]⟩, shown⟩
  · rintro ⟨name, ⟨entry, listed, filetype, isType, same⟩, shown⟩
    cases same
    exact ⟨entry, listed, isType, rfl, shown⟩

/-- One operation does to the database what it means for the map. -/
theorem perform (represents : Represents database known) (givesUp : Bytes → Bool) (operation : Operation) :
    Represents ((operation.perform givesUp).run.run database).2 (operation.meaning givesUp known) := by
  cases operation with
  | add source given => exact represents.add source given
  | addBuffer source contents fromIgnored => exact represents.addBuffer givesUp source contents fromIgnored
  | addTags tagsFiles =>
      change Represents (tagsFiles.foldl _ database) (tagsFiles.foldl _ known)
      induction tagsFiles generalizing database known with
      | nil => exact represents
      | cons file rest ih => exact ih (represents.addTags file.1 file.2)
  | query asked filetype =>
      rw [Operation.perform_query]
      exact represents

theorem run (represents : Represents database known) (givesUp : Bytes → Bool) (operations : List Operation) :
    Represents (Operation.run givesUp operations database)
      (operations.foldl (fun known operation => operation.meaning givesUp known) known) := by
  induction operations generalizing database known with
  | nil => exact represents
  | cons operation rest ih => exact ih (represents.perform givesUp operation)

/-- The candidates under a filetype are those of its files. -/
theorem mem_candidates_iff (represents : Represents database known) (filetype : Bytes) {candidate : Nat} :
    candidate ∈ Database.candidates (database.files filetype) ↔
      ∃ path, candidate ∈ database.candidatesAt ⟨filetype, path⟩ := by
  have distinct := represents.distinct filetype
  rw [Database.mem_candidates]
  constructor
  · rintro ⟨⟨path, listed⟩, member, there⟩
    refine ⟨path, ?_⟩
    rw [Database.candidatesAt, (Table.mem_iff_lookup distinct).mp member]
    exact there
  · rintro ⟨path, there⟩
    rw [Database.candidatesAt] at there
    cases found : (database.files filetype).lookup path with
    | none => simp [found] at there
    | some listed =>
        rw [found] at there
        exact ⟨(path, listed), (Table.mem_iff_lookup distinct).mpr found, there⟩

theorem mem_texts_iff (represents : Represents database known) (filetype text : Bytes) :
    text ∈ database.texts filetype ↔ ∃ path, text ∈ known ⟨filetype, path⟩ := by
  simp only [Database.texts, List.mem_filterMap, represents.mem_candidates_iff, ← represents.holds, Database.mem_textsAt]
  constructor
  · rintro ⟨candidate, ⟨path, there⟩, found⟩
    exact ⟨path, candidate, there, found⟩
  · rintro ⟨path, candidate, there, found⟩
    exact ⟨candidate, ⟨path, there⟩, found⟩

/-- The texts under a filetype stay when other candidates are made, as long as its own table does. -/
theorem texts_eq (represents : Represents database known) {after : Database} {filetype : Bytes}
    (grows : database.repository.texts <+: after.repository.texts)
    (kept : after.tables.lookup filetype = database.tables.lookup filetype) :
    after.texts filetype = database.texts filetype := by
  have sameFiles : after.files filetype = database.files filetype := by rw [Database.files, Database.files, kept]
  rw [Database.texts, Database.texts, sameFiles]
  apply List.filterMap_congr
  intro candidate listed
  obtain ⟨path, there⟩ := (represents.mem_candidates_iff filetype).mp listed
  obtain ⟨text, found⟩ := represents.made _ candidate there
  rw [found, Repository.text?_mono grows found]

/-- A query answers with the texts of its filetype that have its letters in order, each once. -/
theorem query (represents : Represents database known) {asked : Bytes} (filetype : Bytes) (nonempty : asked ≠ [])
    (ascii : ∀ letter ∈ asked, isAscii letter) :
    ∃ answer, database.query asked filetype = .ok answer ∧ answer.Nodup ∧
      ∀ text, text ∈ answer ↔ (∃ path, text ∈ known ⟨filetype, path⟩) ∧
        List.SublistForall₂ (Accepts (Ranking.caseCounts asked)) asked text := by
  obtain ⟨answer, ranked, kept⟩ := Ranking.rank_perm_filter id (database.texts filetype) nonempty ascii
  refine ⟨answer, (Database.query_eq_rank nonempty ascii).trans ranked, ?_, ?_⟩
  · exact kept.nodup_iff.mpr ((database.nodup_texts filetype).filter _)
  · intro text
    rw [kept.mem_iff, List.mem_filter, represents.mem_texts_iff, decide_eq_true_eq]
    constructor
    · rintro ⟨there, _, embeds⟩
      exact ⟨there, embeds⟩
    · rintro ⟨⟨path, there⟩, embeds⟩
      exact ⟨⟨path, there⟩, represents.printable _ text there, embeds⟩

end Represents

/-- Nothing changes under a filetype: its table stays, and candidates at most become more. -/
structure Database.Spares (filetype : Bytes) (before after : Database) : Prop where
  grows : before.repository.texts <+: after.repository.texts
  kept : after.tables.lookup filetype = before.tables.lookup filetype

namespace Database.Spares

variable {filetype : Bytes} {before between after : Database}

theorem rfl : Spares filetype before before := ⟨List.prefix_rfl, Eq.refl _⟩

theorem trans (first : Spares filetype before between) (second : Spares filetype between after) :
    Spares filetype before after :=
  ⟨first.grows.trans second.grows, second.kept.trans first.kept⟩

theorem add {source : Source} (elsewhere : source.filetype ≠ filetype) (given : List Bytes) :
    Spares filetype before (before.add source given) :=
  ⟨before.repository.prefix_internAll given, lookup_add_other source given elsewhere.symm⟩

theorem clear {source : Source} (elsewhere : source.filetype ≠ filetype) :
    Spares filetype before (before.clear source) :=
  ⟨List.prefix_rfl, lookup_onFile_other source _ elsewhere.symm⟩

theorem addTags {tagsPath contents : Bytes}
    (elsewhere : ∀ entry ∈ entries contents, filetype? entry.language ≠ some filetype) :
    Spares filetype before (before.addTags tagsPath contents) := by
  have others : ∀ tagged ∈ ofTags tagsPath contents, tagged.1.filetype ≠ filetype := by
    intro tagged listed
    obtain ⟨entry, inFile, same⟩ := List.mem_filterMap.mp listed
    obtain ⟨found, isType, rfl⟩ := Option.map_eq_some_iff.mp same
    exact fun isFiletype => elsewhere entry inFile (isType.trans (congrArg some isFiletype))
  unfold Database.addTags
  generalize ofTags tagsPath contents = found at others
  induction found generalizing before with
  | nil => exact rfl
  | cons tagged found ih =>
      have first : Spares filetype before (before.add tagged.1 [tagged.2]) := add (others tagged List.mem_cons_self) _
      exact first.trans (ih fun other listed => others other (List.mem_cons_of_mem _ listed))

end Database.Spares

namespace Operation

/-- An operation changes nothing under the filetypes that it does not add under. -/
theorem spares_perform (givesUp : Bytes → Bool) (database : Database) {operation : Operation} {filetype : Bytes}
    (elsewhere : ¬ operation.AddsUnder filetype) :
    database.Spares filetype ((operation.perform givesUp).run.run database).2 := by
  cases operation with
  | add source given => exact .add elsewhere given
  | addBuffer source contents fromIgnored =>
      have cleared : database.Spares filetype (database.clear source) := .clear elsewhere
      rw [perform_addBuffer]
      cases ofBuffer givesUp fromIgnored contents with
      | ok found => exact cleared.trans (.add elsewhere found)
      | error fault => exact cleared
  | addTags tagsFiles =>
      change database.Spares filetype (tagsFiles.foldl _ database)
      induction tagsFiles generalizing database with
      | nil => exact .rfl
      | cons file rest ih =>
          have first : database.Spares filetype (database.addTags file.1 file.2) :=
            .addTags fun entry listed isType => elsewhere ⟨file, List.mem_cons_self, entry, listed, isType⟩
          refine first.trans (ih _ fun later => elsewhere ?_)
          obtain ⟨other, member, under⟩ := later
          exact ⟨other, List.mem_cons_of_mem _ member, under⟩
  | query asked other => exact .rfl

theorem fails_of_perform {givesUp : Bytes → Bool} {database : Database} {operation : Operation} {fault : Fault}
    (failed : ((operation.perform givesUp).run.run database).1 = .error fault) :
    (∃ source contents, operation = .addBuffer source contents false ∧ removeIgnored givesUp contents = .error fault) ∨
      ∃ other under, operation = .query other under := by
  cases operation with
  | add source given => cases failed
  | addTags tagsFiles => cases failed
  | query other under => exact Or.inr ⟨other, under, rfl⟩
  | addBuffer source contents fromIgnored =>
      left
      rw [perform_addBuffer] at failed
      cases fromIgnored with
      | true => cases failed
      | false =>
          refine ⟨source, contents, rfl, ?_⟩
          cases removed : removeIgnored givesUp contents with
          | ok rest => simp [ofBuffer, removed, Except.map] at failed
          | error other => simpa [ofBuffer, removed, Except.map] using failed

/-- After any operations a query answers with the texts of its filetype that have its letters in order, each once,
where the texts of every file are those that the operations before it mean; this does not depend on the candidates that
had been made before. A query itself changes nothing, and an operation that adds nothing under a filetype does not
change what queries answer there. Reading a buffer fails where the search for comments and quoted texts is given up, and
nothing else that adds fails. The entries of a tags file are those of its lines. -/
theorem run_refines_map (givesUp : Bytes → Bool) (made : Repository) (operations : List Operation) {asked : Bytes}
    (filetype : Bytes) (nonempty : asked ≠ []) (ascii : ∀ letter ∈ asked, isAscii letter) :
    let after := fun operations => run givesUp operations { repository := made }
    (∃ answer, (after operations).query asked filetype = .ok answer ∧ answer.Nodup ∧
      ∀ text, text ∈ answer ↔
        (∃ path, text ∈ meaningOf givesUp operations ⟨filetype, path⟩) ∧
          List.SublistForall₂ (Accepts (Ranking.caseCounts asked)) asked text) ∧
    (∀ other under, after (operations ++ [.query other under]) = after operations) ∧
    (∀ operation : Operation, ¬ operation.AddsUnder filetype → ∀ other,
      (after (operations ++ [operation])).query other filetype = (after operations).query other filetype) ∧
    (∀ (operation : Operation) fault, ((operation.perform givesUp).run.run (after operations)).1 = .error fault →
      (∃ source contents, operation = .addBuffer source contents false ∧ removeIgnored givesUp contents = .error fault) ∨
        ∃ other under, operation = .query other under) ∧
    ∀ lines found, List.Forall₂ IsLine found lines → entries ([lineFeed].intercalate lines) = found := by
  intro after
  have represents : Represents (after operations) (meaningOf givesUp operations) :=
    (Represents.empty made).run givesUp operations
  have concat : ∀ operation : Operation,
      after (operations ++ [operation]) = ((operation.perform givesUp).run.run (after operations)).2 := by
    intro operation
    simp only [after, run, List.foldl_append, List.foldl_cons, List.foldl_nil]
  refine ⟨represents.query filetype nonempty ascii, ?_, ?_, fun _ _ => fails_of_perform,
    fun lines found => entries_intercalate⟩
  · intro other under
    rw [concat, perform_query]
  · intro operation elsewhere other
    have spares := spares_perform givesUp (after operations) elsewhere
    have same := represents.texts_eq spares.grows spares.kept
    rw [concat, Database.query, Database.query, same, spares.kept]

/-- A buffer that is read again loses what it had, and what it has in quotes is left out. A text that two files have is
found once, and so is one of a tags file. -/
theorem run_refines_map_rereading :
    let here : Source := ⟨Bytes.ofString "c", Bytes.ofString "/a"⟩
    let there : Source := ⟨Bytes.ofString "c", Bytes.ofString "/b"⟩
    let operations := [.add here [Bytes.ofString "fa", Bytes.ofString "fb"],
      .addBuffer here (Bytes.ofString "fb 'fx' fc") false, .add there [Bytes.ofString "fb", [102, 200]],
      .query [200] (Bytes.ofString "c"),
      .addTags [(Bytes.ofString "/tags", Bytes.ofString "fd\tb\tlanguage:C\nfe\tb\tlanguage:Klingon")]]
    ∃ answer, (run Search.givesUp operations {}).query (Bytes.ofString "f") (Bytes.ofString "c") = .ok answer ∧
      answer.Nodup ∧
      ∀ text, text ∈ answer ↔ text = Bytes.ofString "fb" ∨ text = Bytes.ofString "fc" ∨ text = Bytes.ofString "fd" := by
  intro here there operations
  have ascii : ∀ letter ∈ Bytes.ofString "f", isAscii letter := by decide +kernel
  obtain ⟨⟨answer, answered, distinct, mem_iff⟩, _⟩ :=
    run_refines_map Search.givesUp .empty operations (Bytes.ofString "c") (by decide +kernel) ascii
  have read : ofBuffer Search.givesUp false (Bytes.ofString "fb 'fx' fc") =
      .ok [Bytes.ofString "fb", Bytes.ofString "fc"] := Act.eq_ok_of_toOption (by decide +kernel)
  have tagged : entries (Bytes.ofString "fd\tb\tlanguage:C\nfe\tb\tlanguage:Klingon") =
      [⟨Bytes.ofString "fd", Bytes.ofString "b", Bytes.ofString "C"⟩,
        ⟨Bytes.ofString "fe", Bytes.ofString "b", Bytes.ofString "Klingon"⟩] := by decide +kernel
  have ofC : filetype? (Bytes.ofString "C") = some (Bytes.ofString "c") := by decide +kernel
  have unknown : filetype? (Bytes.ofString "Klingon") = none := by decide +kernel
  have located : locate (folderOf (Bytes.ofString "/tags")) (Bytes.ofString "b") = there.path := by decide +kernel
  have hidden : Candidate.shown [102, 200] = [] := by decide +kernel
  have shown : ∀ name ∈ ["fb", "fc", "fd"], Candidate.shown (Bytes.ofString name) = Bytes.ofString name := by
    decide +kernel
  have apart : there ≠ here := by decide +kernel
  have known : ∀ path text, text ∈ meaningOf Search.givesUp operations ⟨Bytes.ofString "c", path⟩ ↔
      (path = here.path ∧ (text = Bytes.ofString "fb" ∨ text = Bytes.ofString "fc")) ∨
        (path = there.path ∧ (text = Bytes.ofString "fd" ∨ text = Bytes.ofString "fb" ∨ text = [])) := by
    intro path text
    have isHere : (⟨Bytes.ofString "c", path⟩ : Source) = here ↔ path = here.path := by simp [here]
    have isThere : (⟨Bytes.ofString "c", path⟩ : Source) = there ↔ path = there.path := by simp [there]
    have pathsApart : there.path ≠ here.path := by decide +kernel
    simp only [operations, meaningOf, meaning, Known.add, Known.addBuffer, Known.clear, Known.addTags, read, tagged,
      List.foldl_cons, List.foldl_nil, Function.update_apply, isThere, isHere, if_neg apart]
    by_cases atThere : path = there.path
    · simp [atThere, ofC, unknown, located, hidden, shown, pathsApart]
    · by_cases atHere : path = here.path
      · simp [atHere, ofC, unknown, located, shown, pathsApart, Ne.symm pathsApart]
      · simp [atHere, atThere, ofC, unknown, located, Ne.symm atThere]
  refine ⟨answer, answered, distinct, fun text => (mem_iff text).trans ?_⟩
  constructor
  · rintro ⟨⟨path, held⟩, embeds⟩
    rcases (known path text).mp held with ⟨_, rfl | rfl⟩ | ⟨_, rfl | rfl | rfl⟩
    · exact Or.inl rfl
    · exact Or.inr (Or.inl rfl)
    · exact Or.inr (Or.inr rfl)
    · exact Or.inl rfl
    · exact absurd embeds (by decide +kernel)
  · rintro (rfl | rfl | rfl)
    · exact ⟨⟨here.path, (known _ _).mpr (by simp)⟩, by decide +kernel⟩
    · exact ⟨⟨here.path, (known _ _).mpr (by simp)⟩, by decide +kernel⟩
    · exact ⟨⟨there.path, (known _ _).mpr (by simp)⟩, by decide +kernel⟩

end Operation

end Identifier

end Typeahead
