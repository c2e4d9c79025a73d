import ScriptPlugins.Proofs.CommandLine.Operations

/-!
# One list of scripts

A pass is driven by others: they call its operations in any order and at any time, ask the scripts
that have been found, and change the files in between. Its source may answer each search as it
likes. Whatever comes, there is one search after another until one has succeeded, and none after that.
From then on every operation works with the scripts of that answer, in that order.

A script reads its file when its namespace first matters, so wrappers and plugins may come from files
that have been edited in between. But the namespace in them is the same, because both are told by what
the script knows in the end.
-/

namespace ScriptPlugins

open Text

namespace Build

/-- What can happen while a pass is in use. -/
inductive Step where
  | operation (operation : Operation)
  /-- A question to a script that has been found, by where it is on the list. -/
  | question (index : Nat) (question : Script.Question)
  /-- What others do: to the files, and to whatever else is not the pass. -/
  | meanwhile (schedule : Schedule) (compiler : Compiler) (catalog : Catalog) (tree : Tree)

def ask (build : Build) (index : Nat) (question : Script.Question) : Build :=
  let answered (script : Script) : Script := (script.answer build.tree question).2
  let scripts := build.pass.scripts.map (·.modify index answered)
  { build with pass := { build.pass with scripts } }

def step (build : Build) : Step → Build
  | .operation operation => (build.operate operation).state
  | .question index question => build.ask index question
  | .meanwhile schedule compiler catalog tree => { build with schedule, compiler, catalog, tree }

def follow (build : Build) (steps : List Step) : Build :=
  steps.foldl step build

/-- What the source has answered in a step, if it has been searched. -/
def heardIn (build : Build) (step : Step) : Option (Except Failure (List Path)) :=
  if (build.step step).pass.searches = build.pass.searches then none else some build.query

/-- What the source has answered in all steps. -/
def heard (build : Build) : List Step → List (Except Failure (List Path))
  | [] => []
  | step :: rest => (build.heardIn step).toList ++ (build.step step).heard rest

variable {build : Build} {scripts laters : List Script} {answers : List (Except Failure (List Path))}

theorem follow_append (build : Build) (steps more : List Step) :
    build.follow (steps ++ more) = (build.follow steps).follow more :=
  List.foldl_append

theorem heard_append (build : Build) (steps more : List Step) :
    build.heard (steps ++ more) = build.heard steps ++ (build.follow steps).heard more := by
  induction steps generalizing build with
  | nil => rfl
  | cons step rest ih =>
      rw [List.cons_append, heard, heard, ih, List.append_assoc]
      rfl

theorem Keeps.trans {middle after : Build} {lasts : List Script}
    (h : build.Keeps scripts laters middle) (h' : middle.Keeps laters lasts after) :
    build.Keeps scripts lasts after :=
  ⟨h'.found, Script.forall₂_trans (fun _ _ _ h h' => h.trans h') h.becomes h'.becomes,
    h'.searches.trans h.searches⟩

theorem Keeps.consistent {after : Build} (h : build.Keeps scripts laters after) :
    ∀ later ∈ laters, later.Consistent :=
  Script.consistent_of_forall₂_kept (h.becomes.imp fun _ _ h => h.kept)

theorem Keeps.paths {after : Build} (h : build.Keeps scripts laters after) :
    laters.map Script.path = scripts.map Script.path :=
  Script.map_path_of_forall₂_kept (h.becomes.imp fun _ _ h => h.kept)

theorem forall₂_modify {act : Script → Script} (index : Nat)
    (hscripts : ∀ script ∈ scripts, script.Consistent)
    (hact : ∀ script, script.Consistent → Script.Becomes script (act script)) :
    List.Forall₂ Script.Becomes scripts (scripts.modify index act) := by
  induction scripts generalizing index with
  | nil =>
      rw [List.modify_nil]
      exact .nil
  | cons script rest ih =>
      have hrest : ∀ other ∈ rest, other.Consistent := fun other hother =>
        hscripts other (List.mem_cons_of_mem _ hother)
      have hscript := hscripts script List.mem_cons_self
      cases index with
      | zero =>
          rw [List.modify_zero_cons]
          refine .cons (hact script hscript) (List.forall₂_same.2 ?_)
          exact fun other hother => (hrest other hother).becomes
      | succ index =>
          rw [List.modify_succ_cons]
          exact .cons hscript.becomes (ih index hrest)

theorem step_found (hfound : build.pass.scripts = some scripts)
    (hscripts : ∀ script ∈ scripts, script.Consistent) (step : Step) :
    ∃ laters, build.Keeps scripts laters (build.step step) := by
  cases step with
  | operation operation =>
      obtain ⟨laters, hkeeps, -⟩ := operate_found hfound hscripts operation
      exact ⟨laters, hkeeps⟩
  | question index question =>
      refine ⟨_, congrArg (Option.map _) hfound, ?_, rfl⟩
      exact forall₂_modify index hscripts fun script hscript =>
        Script.becomes_answer hscript build.tree question
  | meanwhile schedule compiler catalog tree =>
      exact ⟨scripts, hfound, (keeps_refl hfound hscripts).becomes, rfl⟩

theorem follow_found (hfound : build.pass.scripts = some scripts)
    (hscripts : ∀ script ∈ scripts, script.Consistent) (steps : List Step) :
    ∃ laters, build.Keeps scripts laters (build.follow steps) := by
  induction steps generalizing build scripts with
  | nil => exact ⟨scripts, keeps_refl hfound hscripts⟩
  | cons step rest ih =>
      obtain ⟨laters, hlaters⟩ := step_found hfound hscripts step
      obtain ⟨lasts, hlasts⟩ := ih hlaters.found hlaters.consistent
      exact ⟨lasts, hlaters.trans hlasts⟩

theorem heardIn_found (hfound : build.pass.scripts = some scripts)
    (hscripts : ∀ script ∈ scripts, script.Consistent) (step : Step) :
    build.heardIn step = none := by
  obtain ⟨laters, hkeeps⟩ := step_found hfound hscripts step
  exact if_pos hkeeps.searches

/-- What can come of a step before the scripts are found. -/
inductive Unfound (build : Build) (step : Step) : Prop where
  /-- The source is not searched. -/
  | idle (heard : build.heardIn step = none) (scripts : (build.step step).pass.scripts = none)
  | refused {failure : Failure} (heard : build.heardIn step = some (.error failure))
      (scripts : (build.step step).pass.scripts = none)
  | found {paths : List Path} {laters : List Script}
      (heard : build.heardIn step = some (.ok paths))
      (keeps : build.searched.Keeps (paths.map build.pass.layout.scriptAt) laters (build.step step))

theorem heardIn_of_searches {step : Step}
    (h : (build.step step).pass.searches = build.pass.searches + 1) :
    build.heardIn step = some build.query := by
  rw [heardIn, h, if_neg (Nat.succ_ne_self _)]

theorem step_unfound (hunfound : build.pass.scripts = none) (step : Step) : build.Unfound step := by
  cases step with
  | operation operation =>
      have hnone : ∀ scripts, build.pass.scripts = some scripts →
          ∀ script ∈ scripts, script.Consistent := by
        intro scripts hsome
        cases hunfound.symm.trans hsome
      cases operated hnone operation with
      | known hfound => cases hunfound.symm.trans hfound
      | idle _ _ hscripts hsearches => exact .idle (if_pos hsearches) hscripts
      | refused _ _ hquery hfails =>
          have hstate : build.step (.operation operation) = build.searched := hfails.state
          have hheard := heardIn_of_searches (congrArg (·.pass.searches) hstate)
          refine .refused (hheard.trans (congrArg some hquery)) ?_
          rw [hstate]
          exact hunfound
      | found _ _ hquery hkeeps =>
          have hheard := @heardIn_of_searches build (.operation operation) hkeeps.searches
          exact .found (hheard.trans (congrArg some hquery)) hkeeps
  | question index question =>
      refine .idle (if_pos rfl) ?_
      exact congrArg (Option.map _) hunfound
  | meanwhile schedule compiler catalog tree => exact .idle (if_pos rfl) hunfound

/-- A build has the scripts of the paths that its source has answered, if it has answered any. -/
structure Snapshot (build : Build) (answers : List (Except Failure (List Path))) : Prop where
  consistent : ∀ scripts, build.pass.scripts = some scripts → ∀ script ∈ scripts, script.Consistent
  mem_iff : ∀ paths, .ok paths ∈ answers ↔
    build.pass.scripts.map (List.map Script.path) = some paths

theorem Snapshot.of_unfound (hunfound : build.pass.scripts = none)
    (hnone : ∀ paths, .ok paths ∉ answers) : build.Snapshot answers := by
  constructor
  · intro scripts hfound
    cases hunfound.symm.trans hfound
  · intro paths
    rw [hunfound]
    exact ⟨fun hmem => absurd hmem (hnone paths), nofun⟩

theorem Snapshot.of_found (hfound : build.pass.scripts = some scripts)
    (hscripts : ∀ script ∈ scripts, script.Consistent)
    (hanswers : ∀ paths, .ok paths ∈ answers ↔ scripts.map Script.path = paths) :
    build.Snapshot answers := by
  constructor
  · intro others hothers
    obtain rfl := Option.some.inj (hfound.symm.trans hothers)
    exact hscripts
  · intro paths
    rw [hanswers, hfound, Option.map_some, Option.some.injEq]

theorem Snapshot.step (h : build.Snapshot answers) (step : Step) :
    (build.step step).Snapshot (answers ++ (build.heardIn step).toList) := by
  cases hfound : build.pass.scripts with
  | some scripts =>
      have hscripts := h.consistent scripts hfound
      obtain ⟨laters, hkeeps⟩ := step_found hfound hscripts step
      rw [heardIn_found hfound hscripts, Option.toList_none, List.append_nil]
      refine .of_found hkeeps.found hkeeps.consistent ?_
      intro paths
      rw [h.mem_iff, hfound, Option.map_some, Option.some.injEq, hkeeps.paths]
  | none =>
      have hnone : ∀ paths, .ok paths ∉ answers := by
        intro paths hmem
        rw [h.mem_iff, hfound] at hmem
        cases hmem
      cases step_unfound hfound step with
      | idle hheard hscripts =>
          rw [hheard, Option.toList_none, List.append_nil]
          exact .of_unfound hscripts hnone
      | refused hheard hscripts =>
          rw [hheard, Option.toList_some]
          refine .of_unfound hscripts ?_
          intro paths hmem
          rcases List.mem_append.1 hmem with hmem | hmem
          · exact hnone paths hmem
          · cases List.mem_singleton.1 hmem
      | @found paths laters hheard hkeeps =>
          have hpaths : laters.map Script.path = paths := by
            rw [hkeeps.paths, List.map_map]
            exact List.map_id paths
          rw [hheard, Option.toList_some]
          refine .of_found hkeeps.found hkeeps.consistent ?_
          intro others
          rw [hpaths, List.mem_append, List.mem_singleton]
          simp [hnone others, eq_comm]

theorem Snapshot.follow (h : build.Snapshot answers) (steps : List Step) :
    (build.follow steps).Snapshot (answers ++ build.heard steps) := by
  induction steps generalizing build answers with
  | nil => rwa [heard, List.append_nil]
  | cons step rest ih =>
      rw [heard, ← List.append_assoc]
      exact ih (h.step step)

theorem snapshot_new (layout : Layout) (host : Host) (source : ScriptSource) (schedule : Schedule)
    (compiler : Compiler) (catalog : Catalog) (tree : Tree) :
    Snapshot ⟨.new layout host source, schedule, compiler, catalog, tree⟩ [] :=
  ⟨nofun, fun _ => ⟨nofun, nofun⟩⟩

theorem Snapshot.any_isOk (h : build.Snapshot answers) :
    answers.any Except.isOk = build.pass.scripts.isSome := by
  rw [Bool.eq_iff_iff, List.any_eq_true, Option.isSome_iff_exists]
  constructor
  · rintro ⟨answer, hmem, hok⟩
    cases answer with
    | error failure => cases hok
    | ok paths =>
        obtain ⟨scripts, hscripts, -⟩ := Option.map_eq_some_iff.1 ((h.mem_iff paths).1 hmem)
        exact ⟨scripts, hscripts⟩
  · rintro ⟨scripts, hscripts⟩
    refine ⟨.ok (scripts.map Script.path), (h.mem_iff _).2 ?_, rfl⟩
    rw [hscripts, Option.map_some]

variable {operation : Operation} {failure : Failure}

/-- The source is searched if the scripts are needed and no search has succeeded. -/
theorem Snapshot.searches_operate (h : build.Snapshot answers) (operation : Operation) :
    (build.operate operation).state.pass.searches = build.pass.searches +
      if build.needsScripts operation && !answers.any Except.isOk then 1 else 0 := by
  rw [h.any_isOk]
  cases operated h.consistent operation with
  | known hfound hkeeps =>
      rw [hkeeps.searches, hfound, Option.isSome_some, Bool.not_true, Bool.and_false]
      rfl
  | idle hunfound hneeds _ hsearches =>
      rw [hsearches, hneeds, Bool.false_and]
      rfl
  | refused hunfound hneeds _ hfails =>
      rw [hfails.state, hneeds, hunfound]
      rfl
  | found hunfound hneeds _ hkeeps =>
      rw [hkeeps.searches, hneeds, hunfound]
      rfl

/-- An operation whose search is refused says why, and has done nothing else. -/
theorem Snapshot.fails_of_heardIn (h : build.Snapshot answers)
    (hheard : build.heardIn (.operation operation) = some (.error failure)) :
    (build.operate operation).Fails failure build.searched := by
  have hquery : build.query = .error failure := by
    rw [heardIn] at hheard
    split_ifs at hheard
    exact Option.some.inj hheard
  have hsearches : (build.operate operation).state.pass.searches ≠ build.pass.searches := by
    intro hsame
    have hnone : build.heardIn (.operation operation) = none := if_pos hsame
    cases hnone.symm.trans hheard
  cases operated h.consistent operation with
  | known _ hkeeps => exact absurd hkeeps.searches hsearches
  | idle _ _ _ hsame => exact absurd hsame hsearches
  | refused _ _ hrefused hfails =>
      obtain rfl := Except.error.inj (hrefused.symm.trans hquery)
      exact hfails
  | found _ _ hfound => cases hfound.symm.trans hquery

theorem Snapshot.accords_operate (h : build.Snapshot answers)
    (hlaters : (build.operate operation).state.pass.scripts = some laters) :
    build.Accords laters (build.operate operation).answer (build.operate operation).state
      operation := by
  cases operated h.consistent operation with
  | known _ hkeeps haccords =>
      obtain rfl := Option.some.inj (hkeeps.found.symm.trans hlaters)
      exact haccords
  | idle _ _ hscripts => cases hscripts.symm.trans hlaters
  | refused hunfound _ _ hfails =>
      rw [hfails.state] at hlaters
      cases hunfound.symm.trans hlaters
  | found _ _ _ hkeeps haccords =>
      obtain rfl := Option.some.inj (hkeeps.found.symm.trans hlaters)
      exact haccords

/-- **One list for a whole pass.** An operation searches if it needs the scripts and no search has
succeeded. If its search is refused, it fails for that reason and nothing else has changed. And once a
search has succeeded, operations accord with the scripts of that answer as they are in the end: so
the plugin of a script and its wrapper are for one namespace, whenever they were made. -/
theorem operate_with_one_list (layout : Layout) (host : Host) (source : ScriptSource)
    (schedule : Schedule) (compiler : Compiler) (catalog : Catalog) (tree : Tree)
    (earlier later : List Step) (operation : Operation) :
    let start : Build := ⟨.new layout host source, schedule, compiler, catalog, tree⟩
    let before := start.follow earlier
    let outcome := before.operate operation
    let last := start.follow (earlier ++ .operation operation :: later)
    outcome.state.pass.searches = before.pass.searches +
        (if before.needsScripts operation && !(start.heard earlier).any Except.isOk then 1 else 0) ∧
      (∀ failure, before.heardIn (.operation operation) = some (.error failure) →
        outcome.Fails failure before.searched) ∧
      ∀ paths, .ok paths ∈ start.heard (earlier ++ [.operation operation]) →
        ∃ scripts, last.pass.scripts = some scripts ∧ scripts.map Script.path = paths ∧
          before.Accords scripts outcome.answer outcome.state operation ∧
          ∀ script ∈ scripts, ∃ space,
            script.knownPlugin.id = Script.qualify space script.stem ∧
            (before.pass.writer.fileOf script).2 = Utf8.ofString
              (before.pass.writer.template.render (Naming.wrapperClass script.stem)
                (Script.qualify space (Naming.compiledClass script.fileName))) := by
  intro start before outcome last
  have hbefore : before.Snapshot (start.heard earlier) :=
    (snapshot_new layout host source schedule compiler catalog tree).follow earlier
  refine ⟨hbefore.searches_operate operation, fun _ => hbefore.fails_of_heardIn, ?_⟩
  intro paths hpaths
  have hafter : outcome.state.Snapshot (start.heard (earlier ++ [.operation operation])) := by
    have hnext := hbefore.step (.operation operation)
    rw [heard_append, heard, heard, List.append_nil]
    exact hnext
  obtain ⟨laters, hlaters, hlaterPaths⟩ := Option.map_eq_some_iff.1 ((hafter.mem_iff paths).1 hpaths)
  have hconsistent := hafter.consistent laters hlaters
  obtain ⟨scripts, hkeeps⟩ := follow_found hlaters hconsistent later
  have hlast : last = outcome.state.follow later := follow_append start earlier _
  rw [hlast]
  refine ⟨scripts, hkeeps.found, hkeeps.paths.trans hlaterPaths, ?_, ?_⟩
  · exact (hbefore.accords_operate hlaters).later hconsistent hkeeps.becomes
  · exact fun script _ => before.pass.writer.exists_space script

/-- A project with one script, in this namespace. -/
def projectIn (space : String) : Tree :=
  let home := Utf8.ofString "home"
  let source := Utf8.ofString "src"
  { entries := [([home], .directory), ([home, source], .directory),
      ([home, source, Utf8.ofString "tool.gradle.kts"],
        .file (Utf8.ofString ("package " ++ space ++ "\n")))]
    home := [home] }

/-- A source that cannot be searched at first, and later answers something else each time. -/
def moody : ScriptSource := fun search root _ _ =>
  match search with
  | 0 => (.error (.files root .permissionDenied), [])
  | 1 => (.ok [.ofString "src/tool.gradle.kts"], [])
  | _ => (.ok [], [])

def overMoody : Build :=
  { pass := .new { Layout.default with
        sourceRoot := .ofString "src", generatedDirectory := .ofString "out" } (.ofImports []) moody
    schedule := .ofTasks []
    compiler := .new none
    catalog := .empty
    tree := projectIn "before" }

/-- One search is refused and the next succeeds; then the script is edited. -/
def eventful : List Step :=
  [.operation .scripts, .operation .generate,
    .meanwhile (.ofTasks []) (.new none) .empty (projectIn "after")]

/-- The plugin that is registered after the edit is in the namespace of the wrapper, which was written
before. -/
theorem operate_with_one_list_edited :
    let before := overMoody.follow eventful
    let outcome := before.operate .declare
    overMoody.heard (eventful ++ [.operation .declare]) =
        [.error (.files (.ofString "src") .permissionDenied), .ok [.ofString "src/tool.gradle.kts"]] ∧
      outcome.state.pass.searches = before.pass.searches ∧
      outcome.state.catalog.plugins = [⟨"before.tool", "Tool"⟩] ∧
      ∃ scripts, outcome.state.pass.scripts = some scripts ∧
        scripts.map Script.path = [.ofString "src/tool.gradle.kts"] ∧
        before.Accords scripts outcome.answer outcome.state .declare := by
  intro before outcome
  have hheard : overMoody.heard (eventful ++ [.operation .declare]) =
      [.error (.files (.ofString "src") .permissionDenied),
        .ok [.ofString "src/tool.gradle.kts"]] := by
    decide +kernel
  have hany : (overMoody.heard eventful).any Except.isOk = true := by decide +kernel
  have hplugins : outcome.state.catalog.plugins = [⟨"before.tool", "Tool"⟩] := by decide +kernel
  obtain ⟨hsearches, -, hlist⟩ := operate_with_one_list overMoody.pass.layout (.ofImports []) moody
    (.ofTasks []) (.new none) .empty (projectIn "before") eventful [] .declare
  refine ⟨hheard, ?_, hplugins, ?_⟩
  · change outcome.state.pass.searches = before.pass.searches +
      (if true && !(overMoody.heard eventful).any Except.isOk then 1 else 0) at hsearches
    rw [hsearches, hany]
    rfl
  · obtain ⟨scripts, hfound, hpaths, haccords, -⟩ := hlist [.ofString "src/tool.gradle.kts"]
      (hheard.symm ▸ List.mem_cons_of_mem _ List.mem_cons_self)
    exact ⟨scripts, hfound, hpaths, haccords⟩

end Build

end ScriptPlugins
