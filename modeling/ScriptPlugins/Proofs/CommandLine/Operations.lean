import ScriptPlugins.Proofs.CommandLine.Configuring
import ScriptPlugins.Proofs.Plugins.Settling

/-!
# Operations of a pass

Whoever drives a build may call for the operations of its pass in any order. Those that need the
scripts search for them before they do anything else, and go on with what the search has answered. So
such an operation is a search and then the same operation with the scripts found.
-/

namespace ScriptPlugins

namespace Outcome

variable {σ ε α β : Type}

/-- The outcome with its answer in other words. -/
def onAnswer (outcome : Outcome σ ε α) (f : α → β) : Outcome σ ε β :=
  ⟨outcome.answer.map f, outcome.state, outcome.events⟩

theorem Fails.onAnswer {outcome : Outcome σ ε α} {failure : ε} {state : σ}
    (h : outcome.Fails failure state) (f : α → β) : (outcome.onAnswer f).Fails failure state := by
  refine ⟨?_, h.state⟩
  rw [Outcome.onAnswer, h.answer]
  rfl

theorem Agrees.onAnswer {outcome other : Outcome σ ε α} (h : outcome.Agrees other) (f : α → β) :
    (outcome.onAnswer f).Agrees (other.onAnswer f) :=
  ⟨congrArg (Except.map f) h.answer, h.state⟩

theorem answer_onAnswer_onAnswer {γ : Type} (outcome : Outcome σ ε α) (f : α → β) (g : β → γ) :
    ((outcome.onAnswer f).onAnswer g).answer = (outcome.onAnswer fun a => g (f a)).answer := by
  rw [Outcome.onAnswer, Outcome.onAnswer, Outcome.onAnswer]
  cases outcome.answer <;> rfl

theorem andThen_agrees (outcome : Outcome σ ε α) (f : α → β) (events : List Event) :
    (outcome.andThen fun a state => .ok (f a) state events).Agrees (outcome.onAnswer f) :=
  ⟨(outcome.andThen_ok f events).1, (outcome.andThen_ok f events).2⟩

theorem answer_onAnswer_eq_ok_iff {outcome : Outcome σ ε α} {f : α → β} {b : β} :
    (outcome.onAnswer f).answer = .ok b ↔ ∃ a, outcome.answer = .ok a ∧ f a = b := by
  rw [Outcome.onAnswer]
  cases outcome.answer with
  | error failure => simp [Except.map]
  | ok a => simp [Except.map]

end Outcome

namespace Build

inductive Operation where
  | configure
  | finalize
  | execute (task : String)
  | generate
  | declare
  | scripts
  | plugins
  | wrapperPaths
  deriving Repr, DecidableEq

inductive Reply where
  | configured
  | arguments (arguments : CompilerArguments)
  | taken (taken : Bool)
  | written (paths : List Path)
  | declared (count : Nat)
  | scripts (scripts : List Script)
  | plugins (plugins : List Plugin)
  | wrappers (paths : List Path)
  deriving Repr, DecidableEq

def search (build : Build) : Outcome Build Failure (List Script) :=
  (build.pass.find build.tree).onState ({ build with pass := · })

def operate (build : Build) : Operation → Outcome Build Failure Reply
  | .configure => build.configure.onAnswer fun _ => .configured
  | .finalize => build.finalize.onAnswer .arguments
  | .execute task => (build.execute task).onAnswer .taken
  | .generate =>
    ((build.pass.generate build.tree).onState fun (pass, tree) => { build with pass, tree }).onAnswer
      .written
  | .declare =>
    ((build.pass.declare build.catalog build.tree).onState
      fun (pass, catalog) => { build with pass, catalog }).onAnswer .declared
  | .scripts => build.search.onAnswer .scripts
  | .plugins =>
    ((build.pass.plugins build.tree).onState ({ build with pass := · })).onAnswer .plugins
  | .wrapperPaths =>
    ((build.pass.wrapperPaths build.tree).onState ({ build with pass := · })).onAnswer .wrappers

/-- Whether an operation cannot go on without scripts. One that comes at the wrong time or is for a
task of others has no use for them. -/
def needsScripts (build : Build) : Operation → Bool
  | .configure => decide (build.pass.phase = .created)
  | .finalize => false
  | .execute task =>
    decide (task = build.pass.layout.tasks.generate ∨ task = build.pass.layout.tasks.declare)
  | .generate | .declare | .scripts | .plugins | .wrapperPaths => true

variable {build : Build} {operation : Operation} {failure : Failure} {scripts : List Script}

/-- An operation whose search fails has done nothing but search. -/
theorem operate_of_search_eq_error (hneeds : build.needsScripts operation = true)
    (h : build.search.answer = .error failure) :
    (build.operate operation).Fails failure build.search.state := by
  have hfind : (build.pass.find build.tree).Fails failure (build.pass.find build.tree).state :=
    ⟨h, rfl⟩
  cases operation with
  | configure =>
      have hphase : ¬ build.pass.phase ≠ .created := not_not_intro (of_decide_eq_true hneeds)
      rw [operate, configure, Pass.configure, if_neg hphase]
      exact (((hfind.onState _).andThen _).onState _).onAnswer _
  | finalize => cases hneeds
  | execute task =>
      have htask := of_decide_eq_true hneeds
      rw [operate, execute, Pass.execute]
      split_ifs with hgenerate hdeclare
      · exact (((((hfind.onState _).andThen _).onState _).andThen _).onState _).onAnswer _
      · exact ((((((hfind.onState _).andThen _).andThen _).onState _).andThen _).onState _).onAnswer _
      · exact absurd htask (not_or.2 ⟨hgenerate, hdeclare⟩)
  | generate => exact (((hfind.onState _).andThen _).onState _).onAnswer _
  | declare => exact ((((hfind.onState _).andThen _).andThen _).onState _).onAnswer _
  | scripts => exact (hfind.onState _).onAnswer _
  | plugins => exact ((((hfind.onState _).andThen _).onState _).onState _).onAnswer _
  | wrapperPaths => exact ((hfind.andThen _).onState _).onAnswer _

/-- An operation whose search succeeds goes on as if the scripts had been there. -/
theorem operate_of_search_eq_ok (hneeds : build.needsScripts operation = true)
    (h : build.search.answer = .ok scripts) :
    (build.operate operation).Agrees (build.search.state.operate operation) := by
  have hagain : (build.pass.find build.tree).Agrees
      ((build.pass.find build.tree).state.find build.tree) := by
    rw [Pass.find_of_scripts (Pass.scripts_find h)]
    exact ⟨h, rfl⟩
  cases operation with
  | configure =>
      have hphase : ¬ build.pass.phase ≠ .created := not_not_intro (of_decide_eq_true hneeds)
      have hphase' : ¬ build.search.state.pass.phase ≠ .created := by
        rwa [search, Outcome.state_onState, Pass.phase_find]
      rw [operate, operate, configure, configure, Pass.configure, Pass.configure, if_neg hphase,
        if_neg hphase']
      exact (((hagain.onState _).andThen _).onState _).onAnswer _
  | finalize => cases hneeds
  | execute task =>
      have htask := of_decide_eq_true hneeds
      have hlayout : build.search.state.pass.layout = build.pass.layout :=
        Pass.layout_find build.pass build.tree
      rw [operate, operate, execute, execute, Pass.execute, Pass.execute, hlayout]
      split_ifs with hgenerate hdeclare
      · exact (((((hagain.onState _).andThen _).onState _).andThen _).onState _).onAnswer _
      · exact ((((((hagain.onState _).andThen _).andThen _).onState _).andThen _).onState _).onAnswer _
      · exact absurd htask (not_or.2 ⟨hgenerate, hdeclare⟩)
  | generate => exact (((hagain.onState _).andThen _).onState _).onAnswer _
  | declare => exact ((((hagain.onState _).andThen _).andThen _).onState _).onAnswer _
  | scripts => exact (hagain.onState _).onAnswer _
  | plugins => exact ((((hagain.onState _).andThen _).onState _).onState _).onAnswer _
  | wrapperPaths => exact ((hagain.andThen _).onState _).onAnswer _

/-- The wrappers of before are removed, and then those of the first of these scripts are written in
order. If the operation succeeds, they are those of all. -/
def Generates (build : Build) (scripts : List Script) (answer : Except Failure Reply) (after : Build)
    (reply : Reply) : Prop :=
  ∃ count, (∀ script ∈ scripts.take count, script.Settled) ∧
    after.tree = ((scripts.take count).map build.pass.writer.fileOf).foldl build.pass.writer.leave
      (build.pass.writer.clean build.tree).state ∧
    after.catalog = build.catalog ∧
    ∀ given, answer = .ok given → count = scripts.length ∧ given = reply

/-- The plugins of the first of these scripts are registered in order. If the operation succeeds, they
are those of all. -/
def Declares (build : Build) (scripts : List Script) (answer : Except Failure Reply) (after : Build)
    (reply : Reply) : Prop :=
  ∃ count, (∀ script ∈ scripts.take count, script.Settled) ∧
    after.catalog.plugins = build.catalog.plugins ++ (scripts.take count).map Script.knownPlugin ∧
    after.tree = build.tree ∧
    ∀ given, answer = .ok given → count = scripts.length ∧ given = reply

/-- What an operation answers and leaves is told by these scripts, in their order. -/
def Accords (build : Build) (scripts : List Script) (answer : Except Failure Reply)
    (after : Build) : Operation → Prop
  | .configure => build.pass.phase = .created →
    match Pass.objection? build.pass.layout scripts build.schedule with
    | some failure => answer = .error failure ∧ after.schedule = build.schedule ∧
      after.compiler = build.compiler
    | none => answer = .ok .configured ∧
      after.schedule =
        (Pass.wire build.pass.layout (scripts.map Script.path) build.schedule).state ∧
      after.compiler = build.compiler.addRoot build.pass.layout.generatedDirectory
  | .finalize => True
  | .execute task =>
    if task = build.pass.layout.tasks.generate then
      build.Generates scripts answer after (.taken true)
    else task = build.pass.layout.tasks.declare →
      build.Declares scripts answer after (.taken true)
  | .generate =>
    build.Generates scripts answer after (.written (scripts.map build.pass.writer.pathOf))
  | .declare => build.Declares scripts answer after (.declared scripts.length)
  | .scripts => ∃ found, answer = .ok (.scripts found) ∧ List.Forall₂ Script.Becomes found scripts
  | .plugins => ∀ given, answer = .ok given →
    (∀ script ∈ scripts, script.Settled) ∧ given = .plugins (scripts.map Script.knownPlugin)
  | .wrapperPaths => answer = .ok (.wrappers (scripts.map build.pass.writer.pathOf))

/-- The pass has the scripts that these have become, and has not searched. -/
structure Keeps (build : Build) (scripts laters : List Script) (after : Build) : Prop where
  found : after.pass.scripts = some laters
  becomes : List.Forall₂ Script.Becomes scripts laters
  searches : after.pass.searches = build.pass.searches

theorem keeps_refl (hfound : build.pass.scripts = some scripts)
    (hscripts : ∀ script ∈ scripts, script.Consistent) : build.Keeps scripts scripts build :=
  ⟨hfound, List.forall₂_same.2 fun script hscript => (hscripts script hscript).becomes, rfl⟩

theorem Keeps.of_pass {laters : List Script} {after : Build}
    (hpass : after.pass = { build.pass with scripts := some laters })
    (hbecomes : List.Forall₂ Script.Becomes scripts laters) : build.Keeps scripts laters after :=
  ⟨congrArg Pass.scripts hpass, hbecomes, by rw [hpass]⟩

theorem operate_configure_found (hfound : build.pass.scripts = some scripts)
    (hscripts : ∀ script ∈ scripts, script.Consistent) :
    let outcome := build.operate .configure
    build.Keeps scripts scripts outcome.state ∧
      build.Accords scripts outcome.answer outcome.state .configure := by
  intro outcome
  have hfind := Pass.find_of_scripts hfound build.tree
  have hkeeps := keeps_refl hfound hscripts
  by_cases hphase : build.pass.phase = .created
  · obtain ⟨hobjected, hconfigured⟩ := @Pass.configure_of_found build.pass build.schedule
      build.compiler build.tree scripts hphase (by rw [hfind]; rfl)
    rw [hfind] at hobjected hconfigured
    rw [Accords]
    cases hobjection : Pass.objection? build.pass.layout scripts build.schedule with
    | some failure =>
        obtain ⟨hanswer, hstate⟩ := hobjected failure hobjection
        have hfails : outcome.Fails failure build :=
          (Outcome.Fails.onState ⟨hanswer, hstate⟩ _).onAnswer _
        rw [hfails.state]
        exact ⟨hkeeps, fun _ => ⟨hfails.answer, rfl, rfl⟩⟩
    | none =>
        obtain ⟨hanswer, hstate⟩ := hconfigured hobjection
        have hafter : outcome.state = _ := state_configure hstate
        rw [hafter]
        refine ⟨⟨hfound, hkeeps.becomes, rfl⟩, fun _ => ⟨?_, rfl, rfl⟩⟩
        exact Outcome.answer_onAnswer_eq_ok_iff.2 ⟨(), hanswer, rfl⟩
  · have hstate : outcome.state = build := by
      simp only [outcome, operate, configure, Pass.configure, if_pos hphase]
      rfl
    rw [hstate]
    exact ⟨hkeeps, fun hcreated => absurd hcreated hphase⟩

theorem generates_of_generate {outcome : Outcome Build Failure Reply}
    (hfound : build.pass.scripts = some scripts)
    (hscripts : ∀ script ∈ scripts, script.Consistent) (reply : List Path → Reply)
    (h : outcome.Agrees (((build.pass.generate build.tree).onState
      fun (pass, tree) => { build with pass, tree }).onAnswer reply)) :
    ∃ laters, build.Keeps scripts laters outcome.state ∧
      build.Generates laters outcome.answer outcome.state
        (reply (laters.map build.pass.writer.pathOf)) := by
  obtain ⟨laters, count, hpass, hbecomes, hsettled, htree, hall⟩ :=
    Pass.generate_records hfound hscripts build.tree
  refine ⟨laters, .of_pass ?_ hbecomes, count, hsettled, ?_, ?_, ?_⟩
  · exact (congrArg Build.pass h.state).trans hpass
  · exact (congrArg Build.tree h.state).trans htree
  · rw [h.state]
    rfl
  · intro given hgiven
    obtain ⟨paths, hpaths, rfl⟩ :=
      Outcome.answer_onAnswer_eq_ok_iff.1 (h.answer.symm.trans hgiven)
    obtain ⟨hcount, rfl⟩ := hall paths hpaths
    exact ⟨hcount, rfl⟩

theorem declares_of_declare {outcome : Outcome Build Failure Reply}
    (hfound : build.pass.scripts = some scripts)
    (hscripts : ∀ script ∈ scripts, script.Consistent) (reply : Nat → Reply)
    (h : outcome.Agrees (((build.pass.declare build.catalog build.tree).onState
      fun (pass, catalog) => { build with pass, catalog }).onAnswer reply)) :
    ∃ laters, build.Keeps scripts laters outcome.state ∧
      build.Declares laters outcome.answer outcome.state (reply laters.length) := by
  obtain ⟨laters, count, hpass, hbecomes, hsettled, hplugins, hall⟩ :=
    Pass.declare_records hfound hscripts build.catalog build.tree
  refine ⟨laters, .of_pass ?_ hbecomes, count, hsettled, ?_, ?_, ?_⟩
  · exact (congrArg Build.pass h.state).trans hpass
  · exact (congrArg (Catalog.plugins ∘ Build.catalog) h.state).trans hplugins
  · rw [h.state]
    rfl
  · intro given hgiven
    obtain ⟨registered, hregistered, rfl⟩ :=
      Outcome.answer_onAnswer_eq_ok_iff.1 (h.answer.symm.trans hgiven)
    obtain ⟨hcount, rfl⟩ := hall registered hregistered
    exact ⟨hcount, rfl⟩

/-- A task of the pass is one of its operations, with another reply. -/
theorem execute_agrees (build : Build) (task : String) :
    (task = build.pass.layout.tasks.generate → (build.operate (.execute task)).Agrees
      (((build.pass.generate build.tree).onState
        fun (pass, tree) => { build with pass, tree }).onAnswer fun _ => .taken true)) ∧
    (task ≠ build.pass.layout.tasks.generate → task = build.pass.layout.tasks.declare →
      (build.operate (.execute task)).Agrees
        (((build.pass.declare build.catalog build.tree).onState
          fun (pass, catalog) => { build with pass, catalog }).onAnswer fun _ => .taken true)) := by
  constructor
  · intro hgenerate
    rw [operate, execute, Pass.execute, if_pos hgenerate]
    refine (((Outcome.andThen_agrees _ (fun _ => true) []).onState _).onAnswer _).trans ⟨?_, rfl⟩
    exact Outcome.answer_onAnswer_onAnswer _ _ _
  · intro hgenerate hdeclare
    rw [operate, execute, Pass.execute, if_neg hgenerate, if_pos hdeclare]
    refine (((Outcome.andThen_agrees _ (fun _ => true) []).onState _).onAnswer _).trans ⟨?_, rfl⟩
    exact Outcome.answer_onAnswer_onAnswer _ _ _

/-- With the scripts found, an operation accords with what they become, and does not search. -/
theorem operate_found (hfound : build.pass.scripts = some scripts)
    (hscripts : ∀ script ∈ scripts, script.Consistent) (operation : Operation) :
    ∃ laters, build.Keeps scripts laters (build.operate operation).state ∧
      build.Accords laters (build.operate operation).answer (build.operate operation).state
        operation := by
  have hkeeps := keeps_refl hfound hscripts
  cases operation with
  | configure => exact ⟨scripts, operate_configure_found hfound hscripts⟩
  | finalize =>
      refine ⟨scripts, ?_, trivial⟩
      rw [operate, finalize, Pass.finalize]
      cases build.pass.phase with
      | created => exact hkeeps
      | configured => exact ⟨hfound, hkeeps.becomes, rfl⟩
      | finalized => exact hkeeps
  | execute task =>
      obtain ⟨hgenerates, hdeclares⟩ := build.execute_agrees task
      by_cases hgenerate : task = build.pass.layout.tasks.generate
      · obtain ⟨laters, hlaters, haccords⟩ :=
          generates_of_generate hfound hscripts _ (hgenerates hgenerate)
        refine ⟨laters, hlaters, ?_⟩
        rw [Accords, if_pos hgenerate]
        exact haccords
      · by_cases hdeclare : task = build.pass.layout.tasks.declare
        · obtain ⟨laters, hlaters, haccords⟩ :=
            declares_of_declare hfound hscripts _ (hdeclares hgenerate hdeclare)
          refine ⟨laters, hlaters, ?_⟩
          rw [Accords, if_neg hgenerate]
          exact fun _ => haccords
        · refine ⟨scripts, ?_, ?_⟩
          · rw [operate, execute, Pass.execute_of_ne hgenerate hdeclare]
            exact hkeeps
          · rw [Accords, if_neg hgenerate]
            exact fun htask => absurd htask hdeclare
  | generate => exact generates_of_generate hfound hscripts .written ⟨rfl, rfl⟩
  | declare => exact declares_of_declare hfound hscripts .declared ⟨rfl, rfl⟩
  | scripts =>
      rw [operate, search, Pass.find_of_scripts hfound]
      exact ⟨scripts, hkeeps, scripts, rfl, hkeeps.becomes⟩
  | plugins =>
      obtain ⟨laters, hpass, hbecomes, hall⟩ := Pass.plugins_records hfound hscripts build.tree
      refine ⟨laters, .of_pass hpass hbecomes, ?_⟩
      intro given hgiven
      obtain ⟨plugins, hplugins, rfl⟩ := Outcome.answer_onAnswer_eq_ok_iff.1 hgiven
      obtain ⟨hsettled, rfl⟩ := hall plugins hplugins
      exact ⟨hsettled, rfl⟩
  | wrapperPaths =>
      rw [operate, Pass.wrapperPaths, Pass.find_of_scripts hfound]
      exact ⟨scripts, hkeeps, rfl⟩

variable {laters : List Script} {answer : Except Failure Reply} {after : Build} {reply : Reply}

theorem settled_take_of_becomes {count : Nat} (hbecomes : List.Forall₂ Script.Becomes scripts laters)
    (h : ∀ script ∈ scripts.take count, script.Settled) :
    ∀ later ∈ laters.take count, later.Settled := by
  intro later hlater
  obtain ⟨script, hscript, hsame⟩ := Script.exists_of_forall₂ (List.forall₂_take count hbecomes) hlater
  exact ((h script hscript).learnt hsame).settled

theorem Generates.later (h : build.Generates scripts answer after reply)
    (hbecomes : List.Forall₂ Script.Becomes scripts laters) :
    build.Generates laters answer after reply := by
  obtain ⟨count, hsettled, htree, hcatalog, hall⟩ := h
  refine ⟨count, settled_take_of_becomes hbecomes hsettled, ?_, hcatalog, ?_⟩
  · rw [htree, Script.map_of_forall₂_becomes (fun _ _ hscript hlater => hscript.fileOf_eq hlater)
      hsettled (List.forall₂_take count hbecomes)]
  · rw [← hbecomes.length_eq]
    exact hall

theorem Declares.later (h : build.Declares scripts answer after reply)
    (hbecomes : List.Forall₂ Script.Becomes scripts laters) :
    build.Declares laters answer after reply := by
  obtain ⟨count, hsettled, hplugins, htree, hall⟩ := h
  refine ⟨count, settled_take_of_becomes hbecomes hsettled, ?_, htree, ?_⟩
  · rw [hplugins, Script.map_of_forall₂_becomes
      (fun _ _ hscript hlater => hscript.knownPlugin_eq hlater) hsettled
      (List.forall₂_take count hbecomes)]
  · rw [← hbecomes.length_eq]
    exact hall

/-- What was told by the scripts as they were is told by the scripts as they have become. -/
theorem Accords.later (h : build.Accords scripts answer after operation)
    (hscripts : ∀ script ∈ scripts, script.Consistent)
    (hbecomes : List.Forall₂ Script.Becomes scripts laters) :
    build.Accords laters answer after operation := by
  have hkept : List.Forall₂ Script.Kept scripts laters := hbecomes.imp fun _ _ h => h.kept
  have hpaths := Script.map_path_of_forall₂_kept hkept
  have hwrappers := @WrapperWriter.map_pathOf_of_forall₂_kept build.pass.writer _ _ hscripts hkept
  cases operation with
  | configure =>
      rw [Accords, Pass.objection?_of_forall₂_kept hscripts hkept, hpaths]
      exact h
  | finalize => trivial
  | execute task =>
      rw [Accords] at h ⊢
      split_ifs at h ⊢ with hgenerate
      · exact h.later hbecomes
      · exact fun hdeclare => (h hdeclare).later hbecomes
  | generate =>
      rw [Accords, hwrappers]
      exact Generates.later h hbecomes
  | declare =>
      rw [Accords, ← hbecomes.length_eq]
      exact Declares.later h hbecomes
  | scripts =>
      obtain ⟨found, hfound, hscripts⟩ := h
      exact ⟨found, hfound, Script.forall₂_trans (fun _ _ _ h h' => h.trans h') hscripts hbecomes⟩
  | plugins =>
      intro given hgiven
      obtain ⟨hsettled, rfl⟩ := h given hgiven
      refine ⟨?_, ?_⟩
      · intro later hlater
        obtain ⟨script, hscript, hsame⟩ := Script.exists_of_forall₂ hbecomes hlater
        exact ((hsettled script hscript).learnt hsame).settled
      · rw [Script.map_of_forall₂_becomes (fun _ _ hscript hlater => hscript.knownPlugin_eq hlater)
          hsettled hbecomes]
  | wrapperPaths =>
      rw [Accords, hwrappers]
      exact h

/-- What the source answers if it is searched next. -/
def query (build : Build) : Except Failure (List Path) :=
  (build.pass.source build.pass.searches build.pass.layout.sourceRoot
    build.pass.layout.scriptPattern build.tree).1

/-- The build after one more search that has found nothing. -/
def searched (build : Build) : Build :=
  { build with pass := { build.pass with searches := build.pass.searches + 1 } }

theorem operate_of_query_eq_error (hunfound : build.pass.scripts = none)
    (hneeds : build.needsScripts operation = true) (h : build.query = .error failure) :
    (build.operate operation).Fails failure build.searched := by
  have hfind := Pass.find_of_unfound hunfound build.tree
  rw [query] at h
  rcases hquery : build.pass.source build.pass.searches build.pass.layout.sourceRoot
    build.pass.layout.scriptPattern build.tree with ⟨given, events⟩
  rw [hquery] at h hfind
  obtain rfl : given = .error failure := h
  have hsearch : build.search = .error failure build.searched events := by
    rw [search, hfind]
    rfl
  have hfails := operate_of_search_eq_error hneeds (by rw [hsearch]; rfl)
  rwa [hsearch] at hfails

theorem operate_of_query_eq_ok {paths : List Path} (hunfound : build.pass.scripts = none)
    (hneeds : build.needsScripts operation = true) (h : build.query = .ok paths) :
    ∃ laters, build.searched.Keeps (paths.map build.pass.layout.scriptAt) laters
        (build.operate operation).state ∧
      build.Accords laters (build.operate operation).answer (build.operate operation).state
        operation := by
  have hfind := Pass.find_of_unfound hunfound build.tree
  rw [query] at h
  rcases hquery : build.pass.source build.pass.searches build.pass.layout.sourceRoot
    build.pass.layout.scriptPattern build.tree with ⟨given, events⟩
  rw [hquery] at h hfind
  obtain rfl : given = .ok paths := h
  have hanswer : build.search.answer = .ok (paths.map build.pass.layout.scriptAt) := by
    rw [search, hfind]
    rfl
  have hstate : build.search.state = { build.searched with pass := { build.searched.pass with
      scripts := some (paths.map build.pass.layout.scriptAt) } } := by
    rw [search, hfind]
    rfl
  have hconsistent : ∀ script ∈ paths.map build.pass.layout.scriptAt, script.Consistent := by
    intro script hscript
    obtain ⟨path, -, rfl⟩ := List.mem_map.1 hscript
    exact build.pass.layout.consistent_scriptAt path
  obtain ⟨hsame, hsameState⟩ := operate_of_search_eq_ok hneeds hanswer
  obtain ⟨laters, hkeeps, haccords⟩ := @operate_found build.search.state _ (by rw [hstate])
    hconsistent operation
  rw [← hsame, ← hsameState, hstate] at haccords
  rw [← hsameState, hstate] at hkeeps
  refine ⟨laters, ⟨hkeeps.found, hkeeps.becomes, hkeeps.searches⟩, ?_⟩
  cases operation <;> exact haccords

theorem operate_of_not_needs (h : build.needsScripts operation = false) :
    (build.operate operation).state.pass.scripts = build.pass.scripts ∧
      (build.operate operation).state.pass.searches = build.pass.searches := by
  cases operation with
  | configure =>
      have hphase := of_decide_eq_false h
      rw [operate, configure, Pass.configure, if_pos hphase]
      exact ⟨rfl, rfl⟩
  | finalize =>
      rw [operate, finalize, Pass.finalize]
      cases build.pass.phase <;> exact ⟨rfl, rfl⟩
  | execute task =>
      obtain ⟨hgenerate, hdeclare⟩ := not_or.1 (of_decide_eq_false h)
      rw [operate, execute, Pass.execute_of_ne hgenerate hdeclare]
      exact ⟨rfl, rfl⟩
  | generate => cases h
  | declare => cases h
  | scripts => cases h
  | plugins => cases h
  | wrapperPaths => cases h

/-- All that an operation can come to. -/
inductive Operated (build : Build) (operation : Operation) : Prop where
  /-- The scripts have been found before. -/
  | known {scripts laters : List Script} (found : build.pass.scripts = some scripts)
      (keeps : build.Keeps scripts laters (build.operate operation).state)
      (accords : build.Accords laters (build.operate operation).answer
        (build.operate operation).state operation)
  /-- The operation has no use for the scripts. -/
  | idle (unfound : build.pass.scripts = none) (needs : build.needsScripts operation = false)
      (scripts : (build.operate operation).state.pass.scripts = none)
      (searches : (build.operate operation).state.pass.searches = build.pass.searches)
  /-- The search is refused. -/
  | refused {failure : Failure} (unfound : build.pass.scripts = none)
      (needs : build.needsScripts operation = true) (query : build.query = .error failure)
      (fails : (build.operate operation).Fails failure build.searched)
  /-- The search succeeds. -/
  | found {paths : List Path} {laters : List Script} (unfound : build.pass.scripts = none)
      (needs : build.needsScripts operation = true) (query : build.query = .ok paths)
      (keeps : build.searched.Keeps (paths.map build.pass.layout.scriptAt) laters
        (build.operate operation).state)
      (accords : build.Accords laters (build.operate operation).answer
        (build.operate operation).state operation)

theorem operated (hconsistent : ∀ scripts, build.pass.scripts = some scripts →
    ∀ script ∈ scripts, script.Consistent) (operation : Operation) : build.Operated operation := by
  cases hfound : build.pass.scripts with
  | some scripts =>
      obtain ⟨laters, hkeeps, haccords⟩ :=
        operate_found hfound (hconsistent scripts hfound) operation
      exact .known hfound hkeeps haccords
  | none =>
      cases hneeds : build.needsScripts operation with
      | false =>
          obtain ⟨hscripts, hsearches⟩ := operate_of_not_needs hneeds
          exact .idle hfound hneeds (hscripts.trans hfound) hsearches
      | true =>
          cases hquery : build.query with
          | error failure =>
              exact .refused hfound hneeds hquery (operate_of_query_eq_error hfound hneeds hquery)
          | ok paths =>
              obtain ⟨laters, hkeeps, haccords⟩ := operate_of_query_eq_ok hfound hneeds hquery
              exact .found hfound hneeds hquery hkeeps haccords

end Build

end ScriptPlugins
