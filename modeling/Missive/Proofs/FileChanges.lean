import Missive.Compile
import Missive.Files.Tree
import Missive.Proofs.Statements
/-!
# What a job changes in a file tree

A job changes nothing, or it puts its code where its output is to go, after all of it has been
generated.

* `Job.runOn`, `Job.code` -- a job on a file tree, and the code that it comes to there;
* `Job.runOn_eq` -- the job step by step;
* `FileTree.node?_put`, `FileTree.write_eq_ok_iff` -- the writes that succeed, and what they put
  where;
* `FileTree.locate_put`, `FileTree.read_of_write` -- what is on the way to a file stays there, and
  what was written to a path is read from it;
* `Job.changes_only_output` -- all that a job changes.
-/

namespace Missive

/-- Code is generated for a message that is read and emitted. -/
theorem Config.generate_message {config : Config} {formatter : Code.Formatter}
    {package name source code : String} {bytes : Bytes} {m : Message}
    (hread : Resolver.readMessage ⟨config, package⟩ name bytes = .ok m)
    (hemit : emitMessage config formatter source m = .ok code) :
    config.generate formatter ⟨.message, package, name, source, bytes⟩ = .ok code := by
  rw [generate]
  dsimp only
  rw [hread]
  show (emitMessage config formatter source m).mapError GenerateError.emission = _
  rw [hemit, Except.mapError_ok]

namespace FileTree

variable {tree after : FileTree} {place : Place} {path : Path} {bytes : Bytes}

/-! ## Putting an entry where no directory is -/

theorem not_around_of_node? (h : tree.node? place ≠ some .directory) :
    ¬place.isPrefixOf tree.working = true :=
  fun haround => h (if_pos haround)

/-- Entries at other places are not looked at. -/
theorem lookup_filter {other : Place} (hne : other ≠ place) (entries : List (Place × Node)) :
    (entries.filter (·.1 != place)).lookup other = entries.lookup other := by
  induction entries with
  | nil => rfl
  | cons entry rest ih =>
    obtain ⟨spot, node⟩ := entry
    by_cases hplace : spot = place
    · subst hplace
      rw [List.filter_cons_of_neg (by simp), ih, List.lookup_cons, beq_false_of_ne hne]
    · rw [List.filter_cons_of_pos (by simpa using hplace), List.lookup_cons, List.lookup_cons, ih]

/-- What is put at a place is there, and nothing else changes. -/
theorem node?_put (h : tree.node? place ≠ some .directory) (node : Node) (other : Place) :
    (tree.put place node).node? other = if other = place then some node else tree.node? other := by
  rw [node?, node?, put]
  by_cases hother : other = place
  · subst hother
    rw [if_neg (not_around_of_node? h), if_pos rfl, List.lookup_cons, beq_self_eq_true]
  · rw [if_neg hother, List.lookup_cons, beq_false_of_ne hother]
    dsimp only
    rw [lookup_filter hother]

/-- All directories stay. -/
theorem directory_put (h : tree.node? place ≠ some .directory) (node : Node) {other : Place}
    (hother : tree.node? other = some .directory) :
    (tree.put place node).node? other = some .directory := by
  have hne : other ≠ place := fun heq => h (heq ▸ hother)
  rw [node?_put h, if_neg hne, hother]

theorem follow_put (h : tree.node? place ≠ some .directory) (node : Node) {start out : Place}
    {parts : List Bytes} (hfollow : tree.follow start parts = .ok out) :
    (tree.put place node).follow start parts = .ok out := by
  induction parts generalizing start with
  | nil => exact hfollow
  | cons part rest ih =>
    rw [follow] at hfollow ⊢
    split at hfollow
    · cases hfollow
    · rename_i hlong
      rw [if_neg hlong]
      dsimp only at hfollow ⊢
      cases hnode : tree.node? (onward start part) with
      | none =>
        rw [hnode] at hfollow
        cases hfollow
      | some found =>
        rw [hnode] at hfollow
        cases found with
        | file => cases hfollow
        | directory =>
          rw [directory_put h node hnode]
          exact ih hfollow

/-- A path that leads somewhere still leads there. -/
theorem locate_put (h : tree.node? place ≠ some .directory) (node : Node) {location : Location}
    (hlocate : tree.locate path = .ok location) :
    (tree.put place node).locate path = .ok location := by
  have hstart : (tree.put place node).start path = tree.start path := rfl
  rw [locate] at hlocate ⊢
  split_ifs at hlocate ⊢
  dsimp only at hlocate ⊢
  split at hlocate
  · cases hlocate
  · rename_i out hfollow
    rw [hstart, follow_put h node hfollow]
    exact hlocate

/-! ## Writing -/

/-- A write succeeds where no directory is, unless the name is too long or written like that of a
directory. -/
theorem write_eq_ok_iff :
    tree.write path bytes = .ok after ↔
      ∃ location, tree.locate path = .ok location ∧
        tree.node? location.place ≠ some .directory ∧ location.slash = false ∧
        location.tooLong = false ∧ after = tree.put location.place (.file bytes) := by
  rw [write]
  cases tree.locate path with
  | error fault => exact ⟨nofun, fun ⟨_, h, _⟩ => nomatch h⟩
  | ok location =>
    dsimp only
    constructor
    · intro h
      split at h
      · cases h
      · rename_i hnode
        split_ifs at h with hslash hlong
        exact ⟨location, rfl, hnode, Bool.eq_false_iff.2 hslash, Bool.eq_false_iff.2 hlong,
          (Except.ok.inj h).symm⟩
    · rintro ⟨_, hlocation, hnode, hslash, hlong, rfl⟩
      cases hlocation
      split
      · contradiction
      · rw [hslash, hlong]
        rfl

/-- What was written is read. -/
theorem read_of_write (h : tree.write path bytes = .ok after) : after.read path = .ok bytes := by
  obtain ⟨location, hlocate, hnode, hslash, -, rfl⟩ := write_eq_ok_iff.1 h
  rw [read, locate_put hnode _ hlocate]
  dsimp only
  rw [node?_put hnode, if_pos rfl, hslash]
  rfl

/-! ## The tree as a file system -/

theorem access_read (path : Path) (tree : FileTree) :
    (access.read path).run tree = (tree.read path, tree) := rfl

theorem access_write (path : Path) (bytes : Bytes) (tree : FileTree) :
    (access.write path bytes).run tree =
      match tree.write path bytes with
      | .error fault => (.error fault, tree)
      | .ok after => (.ok (), after) := by
  rcases h : tree.write path bytes with fault | after
  · simp only [access, StateT.run_bind, StateT.run_get, pure_bind, h]
    rfl
  · simp only [access, StateT.run_bind, StateT.run_get, pure_bind, h]
    rfl

end FileTree

/-! ## Jobs -/

namespace Job

/-- What is seen of a computation on a file tree: its result and the tree after it. -/
def observe (x : StateM FileTree Outcome) (tree : FileTree) :
    Except JobError Product × FileTree :=
  ((x.run tree).1.1, (x.run tree).2)

/-- What a job comes to on a file tree, and the tree after it. -/
def runOn (job : Job) (formatter : Code.Formatter) (config : Config) (tree : FileTree) :
    Except JobError Product × FileTree :=
  observe (job.compile FileTree.access formatter config) tree

/-- The code that a job comes to on a file tree. -/
def code (job : Job) (formatter : Code.Formatter) (config : Config) (tree : FileTree) :
    Except JobError String :=
  match tree.read job.input with
  | .error fault => .error (.read job.input fault)
  | .ok bytes =>
    match job.input.definitionName? with
    | none => .error (.name job.input)
    | some name => (config.generate formatter (job.request name bytes)).mapError .generate

/-- What becomes of generated code. -/
def stored (job : Job) (tree : FileTree) (code : String) : Except JobError Product × FileTree :=
  if job.dryRun then (.ok ⟨job.outputPath, code, false⟩, tree)
  else
    match tree.write job.outputPath (Text.Utf8.encode code) with
    | .error fault => (.error (.write job.outputPath fault), tree)
    | .ok after => (.ok ⟨job.outputPath, code, true⟩, after)

variable {job : Job} {formatter : Code.Formatter} {config : Config} {tree : FileTree}

theorem observe_bind {α : Type} (x : StateM FileTree α) (next : α → StateM FileTree Outcome)
    (tree : FileTree) :
    observe (x >>= next) tree = observe (next (x.run tree).1) (x.run tree).2 := rfl

theorem observe_store (job : Job) (code : String) (notices : List Notice) (tree : FileTree) :
    observe (job.store FileTree.access code notices) tree = job.stored tree code := by
  rw [store, stored]
  cases job.dryRun with
  | true => rfl
  | false =>
    rw [if_neg Bool.false_ne_true, if_neg Bool.false_ne_true, observe_bind, FileTree.access_write]
    cases tree.write job.outputPath (Text.Utf8.encode code) <;> rfl

theorem runOn_eq (job : Job) (formatter : Code.Formatter) (config : Config) (tree : FileTree) :
    job.runOn formatter config tree =
      match job.code formatter config tree with
      | .error e => (.error e, tree)
      | .ok code => job.stored tree code := by
  rw [runOn, compile, code, observe_bind, FileTree.access_read]
  cases tree.read job.input with
  | error fault => rfl
  | ok bytes =>
    dsimp only
    cases job.input.definitionName? with
    | none => rfl
    | some name =>
      dsimp only
      cases config.generate formatter (job.request name bytes) with
      | error e => rfl
      | ok code => exact observe_store job code _ tree

/-- What a job's code is made of: the content of the input, with the stem of its file name, which
must be a text, for a name. -/
def Makes (job : Job) (formatter : Code.Formatter) (config : Config) (tree : FileTree)
    (code : String) : Prop :=
  ∃ bytes file name, tree.read job.input = .ok bytes ∧ job.input.fileName? = some file ∧
    Text.Utf8.decode (Path.stem file) = .ok name ∧ name ≠ "" ∧
    config.generate formatter
      ⟨job.kind, job.packageName, name, Text.Utf8.decodeLossy file, bytes⟩ = .ok code

/-- A path names a definition if the stem of its file name is a text, and not an empty one. -/
theorem definitionName?_eq_some_iff {path : Path} {name : String} :
    path.definitionName? = some name ↔ ∃ file, path.fileName? = some file ∧
      Text.Utf8.decode (Path.stem file) = .ok name ∧ name ≠ "" := by
  rw [Path.definitionName?, Option.bind_eq_some_iff]
  refine exists_congr fun file => and_congr_right fun _ => ?_
  rw [Option.filter_eq_some_iff]
  cases Text.Utf8.decode (Path.stem file) with
  | error e => exact ⟨fun h => (nomatch h.1), fun h => (nomatch h.1)⟩
  | ok text => simp [Except.toOption]

theorem code_eq_ok_iff {code : String} :
    job.code formatter config tree = .ok code ↔ job.Makes formatter config tree code := by
  have hrequest {file : Bytes} (hfile : job.input.fileName? = some file) (name : String)
      (bytes : Bytes) : job.request name bytes
        = ⟨job.kind, job.packageName, name, Text.Utf8.decodeLossy file, bytes⟩ := by
    rw [request, sourceName, hfile]
  rw [Job.code, Makes]
  cases tree.read job.input with
  | error fault => exact ⟨nofun, fun ⟨_, _, _, h, _⟩ => (nomatch h)⟩
  | ok bytes =>
    dsimp only
    constructor
    · intro h
      split at h
      · cases h
      · rename_i name hname
        obtain ⟨file, hfile, hstem, hne⟩ := definitionName?_eq_some_iff.1 hname
        rw [Except.mapError_eq_ok_iff, hrequest hfile] at h
        exact ⟨bytes, file, name, rfl, hfile, hstem, hne, h⟩
    · rintro ⟨_, file, name, hbytes, hfile, hstem, hne, h⟩
      cases hbytes
      rw [definitionName?_eq_some_iff.2 ⟨file, hfile, hstem, hne⟩]
      dsimp only
      rw [Except.mapError_eq_ok_iff, hrequest hfile]
      exact h

/-- All ways in which a job can end. -/
theorem runOn_cases {result : Except JobError Product} {after : FileTree}
    (h : job.runOn formatter config tree = (result, after)) :
    (∃ e, result = .error e ∧ after = tree) ∨
      ∃ code, job.code formatter config tree = .ok code ∧
        ((job.dryRun = true ∧ result = .ok ⟨job.outputPath, code, false⟩ ∧ after = tree) ∨
          job.dryRun = false ∧ result = .ok ⟨job.outputPath, code, true⟩ ∧
            tree.write job.outputPath (Text.Utf8.encode code) = .ok after) := by
  rw [runOn_eq] at h
  cases hcode : job.code formatter config tree with
  | error e =>
    rw [hcode] at h
    cases h
    exact .inl ⟨e, rfl, rfl⟩
  | ok code =>
    rw [hcode] at h
    dsimp only at h
    rw [stored] at h
    cases hdry : job.dryRun with
    | true =>
      rw [hdry, if_pos rfl] at h
      cases h
      exact .inr ⟨code, rfl, .inl ⟨rfl, rfl, rfl⟩⟩
    | false =>
      rw [hdry, if_neg Bool.false_ne_true] at h
      cases hwrite : tree.write job.outputPath (Text.Utf8.encode code) with
      | error fault =>
        rw [hwrite] at h
        cases h
        exact .inl ⟨_, rfl, rfl⟩
      | ok written =>
        rw [hwrite] at h
        cases h
        exact .inr ⟨code, rfl, .inr ⟨rfl, rfl, hwrite⟩⟩

/-- Whether a job is to write makes a difference at the very end only. -/
theorem runOn_dry (formatter : Code.Formatter) (config : Config) (job : Job) (tree : FileTree) :
    (∃ e, runOn { job with dryRun := true } formatter config tree = (.error e, tree) ∧
      runOn { job with dryRun := false } formatter config tree = (.error e, tree)) ∨
    ∃ code, runOn { job with dryRun := true } formatter config tree
        = (.ok ⟨job.outputPath, code, false⟩, tree) ∧
      ((∃ after, runOn { job with dryRun := false } formatter config tree
          = (.ok ⟨job.outputPath, code, true⟩, after)) ∨
        ∃ fault, runOn { job with dryRun := false } formatter config tree
          = (.error (.write job.outputPath fault), tree)) := by
  have hcode : ∀ dry, code { job with dryRun := dry } formatter config tree
      = job.code formatter config tree :=
    fun _ => rfl
  simp only [runOn_eq, hcode]
  cases job.code formatter config tree with
  | error e => exact .inl ⟨e, rfl, rfl⟩
  | ok code =>
    refine .inr ⟨code, rfl, ?_⟩
    dsimp only
    rw [stored, if_neg Bool.false_ne_true]
    have hpath : outputPath { job with dryRun := false } = job.outputPath := rfl
    rw [hpath]
    cases tree.write job.outputPath (Text.Utf8.encode code) with
    | error fault => exact .inr ⟨fault, rfl⟩
    | ok after => exact .inl ⟨after, rfl⟩

/-- **Jobs change their output or nothing.**  A job that fails changes nothing, and neither does one
that is not to write.  Otherwise, the code is what is generated from the content of the input, with
the stem of its file name for a name, and the tree differs in the one place to which the path of the
output leads and in no other: there is a file with the code then, and it is read from that path.  A
job that is not to write comes to the same code for the same path as one that is, or to the same
error, except that nothing can go wrong with a write.  All paths are meant, those from the root and
those from the working directory, whether they are texts or not. -/
theorem changes_only_output (formatter : Code.Formatter) (config : Config) (job : Job)
    (tree : FileTree) :
    (∀ e after, job.runOn formatter config tree = (.error e, after) → after = tree) ∧
    (∀ product after, job.runOn formatter config tree = (.ok product, after) →
      product.path = job.output.getD (job.input.extend ".rs") ∧ product.written = !job.dryRun ∧
      job.Makes formatter config tree product.code ∧
      (job.dryRun = true → after = tree) ∧
      (job.dryRun = false →
        ∃ location, tree.locate product.path = .ok location ∧ after.working = tree.working ∧
          (∀ other, other ≠ location.place → after.node? other = tree.node? other) ∧
          after.node? location.place = some (.file (Text.Utf8.encode product.code)) ∧
          after.read product.path = .ok (Text.Utf8.encode product.code))) ∧
    ((∃ e, runOn { job with dryRun := true } formatter config tree = (.error e, tree) ∧
        runOn { job with dryRun := false } formatter config tree = (.error e, tree)) ∨
      ∃ code, runOn { job with dryRun := true } formatter config tree
          = (.ok ⟨job.outputPath, code, false⟩, tree) ∧
        ((∃ after, runOn { job with dryRun := false } formatter config tree
            = (.ok ⟨job.outputPath, code, true⟩, after)) ∨
          ∃ fault, runOn { job with dryRun := false } formatter config tree
            = (.error (.write job.outputPath fault), tree))) := by
  refine ⟨fun e after h => ?_, fun product after h => ?_, runOn_dry formatter config job tree⟩
  · rcases runOn_cases h with ⟨_, -, hafter⟩ | ⟨_, -, ⟨-, h, -⟩ | ⟨-, h, -⟩⟩
    · exact hafter
    · cases h
    · cases h
  · rcases runOn_cases h with ⟨_, h, -⟩ | ⟨code, hcode, ⟨hdry, h, hafter⟩ | ⟨hdry, h, hwrite⟩⟩
    · cases h
    · cases h
      refine ⟨rfl, ?_, code_eq_ok_iff.1 hcode, fun _ => hafter, fun hnot => ?_⟩
      · rw [hdry]
        rfl
      · rw [hdry] at hnot
        cases hnot
    · cases h
      refine ⟨rfl, ?_, code_eq_ok_iff.1 hcode, fun hnot => ?_, fun _ => ?_⟩
      · rw [hdry]
        rfl
      · rw [hdry] at hnot
        cases hnot
      · obtain ⟨location, hlocate, hnode, -, -, hafter⟩ := FileTree.write_eq_ok_iff.1 hwrite
        refine ⟨location, hlocate, ?_, fun other hne => ?_, ?_, FileTree.read_of_write hwrite⟩
        · rw [hafter]
          rfl
        · rw [hafter, FileTree.node?_put hnode, if_neg hne]
        · rw [hafter, FileTree.node?_put hnode, if_pos rfl]

end Job

/-! ## Files with a shed -/

namespace Garden

/-- A file name as the system has it. -/
def fileName (text : String) : Bytes :=
  Text.Utf8.encode text

/-- A file name that is no text: `S` and a byte that no character has. -/
def brokenName : Bytes :=
  [0x53, 0xFF]

/-- The definition of a shed, in a directory at the root, under its name and under a broken one. -/
def definitions : FileTree :=
  ((FileTree.empty [fileName "home"]).put [fileName "defs"] .directory
    |>.put [fileName "defs", fileName "Shed.msg"] (.file (Text.Utf8.encode shedText))).put
      [fileName "defs", brokenName] (.file (Text.Utf8.encode shedText))

/-- A job with the path of its input from the root, and that of its output from the working
directory. -/
def shedJob : Job :=
  ⟨.message, .ofText "/defs/Shed.msg", some (.ofText "shed.rs"), some "garden", false⟩

def shedCode : String :=
  banner "Shed.msg" ++ shedFile.formatted

theorem generate_shed :
    Config.standard.generate .boxes
      ⟨.message, "garden", "Shed", "Shed.msg", Text.Utf8.encode shedText⟩ = .ok shedCode :=
  Config.generate_message readMessage_shed emitMessage_shed

theorem locate_input :
    definitions.locate shedJob.input
      = .ok ⟨[fileName "defs", fileName "Shed.msg"], false, false⟩ :=
  rfl

theorem locate_output :
    definitions.locate shedJob.outputPath
      = .ok ⟨[fileName "home", fileName "shed.rs"], false, false⟩ :=
  rfl

theorem read_definitions :
    definitions.read shedJob.input = .ok (Text.Utf8.encode shedText) := by
  rw [FileTree.read, locate_input]
  rfl

theorem runOn_shed : shedJob.runOn .boxes Config.standard definitions
    = (.ok ⟨shedJob.outputPath, shedCode, true⟩,
      definitions.put [fileName "home", fileName "shed.rs"]
        (.file (Text.Utf8.encode shedCode))) := by
  have hstem : Path.stem (fileName "Shed.msg") = Text.Utf8.encode "Shed" := by
    decide
  have hname : Text.Utf8.decode (Path.stem (fileName "Shed.msg")) = .ok "Shed" := by
    rw [hstem, Text.Utf8.decode_encode]
  have hfile : shedJob.input.fileName? = some (fileName "Shed.msg") := by
    decide
  have hsource : Text.Utf8.decodeLossy (fileName "Shed.msg") = "Shed.msg" :=
    Text.Utf8.decodeLossy_encode _
  have hcode : shedJob.code .boxes Config.standard definitions = .ok shedCode := by
    refine Job.code_eq_ok_iff.2 ⟨_, _, _, read_definitions, hfile, hname, by decide, ?_⟩
    rw [hsource]
    exact generate_shed
  have hwrite : definitions.write shedJob.outputPath (Text.Utf8.encode shedCode)
      = .ok (definitions.put [fileName "home", fileName "shed.rs"]
        (.file (Text.Utf8.encode shedCode))) :=
    FileTree.write_eq_ok_iff.2 ⟨_, locate_output, by decide, rfl, rfl, rfl⟩
  rw [Job.runOn_eq, hcode]
  dsimp only
  rw [Job.stored, if_neg (by decide), hwrite]

/-- A job for the file whose name is no text. -/
def brokenJob : Job :=
  ⟨.message, ⟨(Path.ofText "/defs/").bytes ++ brokenName⟩, none, none, false⟩

theorem code_broken : brokenJob.code .boxes Config.standard definitions
    = .error (.name brokenJob.input) := by
  have hlocate : definitions.locate brokenJob.input
      = .ok ⟨[fileName "defs", brokenName], false, false⟩ :=
    rfl
  have hread : definitions.read brokenJob.input = .ok (Text.Utf8.encode shedText) := by
    rw [FileTree.read, hlocate]
    rfl
  have hname : brokenJob.input.definitionName? = none := by
    decide
  rw [Job.code, hread]
  dsimp only
  rw [hname]

/-- A job that has no file to read. -/
def lostJob : Job :=
  ⟨.message, .ofText "/defs/Pot.msg", none, none, false⟩

theorem code_lost : lostJob.code .boxes Config.standard definitions
    = .error (.read lostJob.input .notFound) := by
  have hlocate : definitions.locate lostJob.input
      = .ok ⟨[fileName "defs", fileName "Pot.msg"], false, false⟩ :=
    rfl
  have hread : definitions.read lostJob.input = .error .notFound := by
    rw [FileTree.read, hlocate]
    rfl
  rw [Job.code, hread]

/-- What the job for the shed changes, that the dry run comes to the same code, and that a job
without a file and one without a name change nothing. -/
theorem changes_only_output_shed :
    (∃ after, shedJob.runOn .boxes Config.standard definitions
        = (.ok ⟨.ofText "shed.rs", shedCode, true⟩, after) ∧
      after.read (.ofText "shed.rs") = .ok (Text.Utf8.encode shedCode) ∧
      after.node? [fileName "defs", fileName "Shed.msg"]
        = some (.file (Text.Utf8.encode shedText))) ∧
    Job.runOn { shedJob with dryRun := true } .boxes Config.standard definitions
      = (.ok ⟨.ofText "shed.rs", shedCode, false⟩, definitions) ∧
    brokenJob.runOn .boxes Config.standard definitions
      = (.error (.name brokenJob.input), definitions) ∧
    lostJob.runOn .boxes Config.standard definitions
      = (.error (.read lostJob.input .notFound), definitions) := by
  obtain ⟨-, hok, hdry⟩ := Job.changes_only_output .boxes Config.standard shedJob definitions
  obtain ⟨hbroken, -, -⟩ := Job.changes_only_output .boxes Config.standard brokenJob definitions
  obtain ⟨hlost, -, -⟩ := Job.changes_only_output .boxes Config.standard lostJob definitions
  obtain ⟨-, -, -, -, hwritten⟩ := hok _ _ runOn_shed
  obtain ⟨location, hlocate, -, hothers, -, hread⟩ := hwritten rfl
  cases locate_output.symm.trans hlocate
  refine ⟨⟨_, runOn_shed, hread, ?_⟩, ?_, ?_, ?_⟩
  · rw [hothers _ (by decide)]
    rfl
  · rcases hdry with ⟨e, -, herror⟩ | ⟨code, hdry, ⟨after, hcode⟩ | ⟨fault, herror⟩⟩
    · cases runOn_shed.symm.trans herror
    · cases runOn_shed.symm.trans hcode
      exact hdry
    · cases runOn_shed.symm.trans herror
  · have herror : (brokenJob.runOn .boxes Config.standard definitions).1
        = .error (.name brokenJob.input) := by
      rw [Job.runOn_eq, code_broken]
    exact Prod.ext herror (hbroken _ _ (Prod.ext herror rfl))
  · have herror : (lostJob.runOn .boxes Config.standard definitions).1
        = .error (.read lostJob.input .notFound) := by
      rw [Job.runOn_eq, code_lost]
    exact Prod.ext herror (hlost _ _ (Prod.ext herror rfl))

end Garden

end Missive
