import ScriptPlugins.Proofs.CommandLine.Session
import ScriptPlugins.Proofs.Plugins.Continuing

/-!
# The phases of a pass

Operations may come in any order and may fail, and the build around the pass may be another one each
time. Still a pass is configured once and finalized once, in this order. The phase itself is not to be
seen from outside, so it is told by the replies so far: `Recorded` says how. An operation can do one of
three things, `Moves`, and each keeps the record true of the history that is longer by its reply.
-/

namespace ScriptPlugins

namespace Build

/-- An operation and what it has answered. -/
abbrev Record := Operation × Except Failure Reply

def replyIn (build : Build) : Step → Option Record
  | .operation operation => some (operation, (build.operate operation).answer)
  | .question _ _ | .meanwhile _ _ _ _ => none

/-- What the operations among the steps have answered, in order. -/
def replies (build : Build) : List Step → List Record
  | [] => []
  | step :: rest => (build.replyIn step).toList ++ (build.step step).replies rest

def succeeded (operation : Operation) (record : Record) : Bool :=
  decide (record.1 = operation) && record.2.isOk

/-- What the compiler is to be given if the pass is finalized now. -/
def settles (build : Build) : CompilerArguments :=
  ⟨build.pass.host.scriptTemplates, build.pass.host.imports build.pass.importQueries⟩

/-- What a reply brings the compiler. -/
def brought : Record → List String
  | (.finalize, .ok (.arguments arguments)) => arguments.toList
  | _ => []

variable {build : Build} {operation : Operation} {history : List Record}

theorem operate_configure_again (h : build.pass.phase ≠ .created) :
    build.operate .configure = .error (.phase .configuredTwice) build [] := by
  rw [operate, configure, Pass.configure, if_pos h]
  rfl

theorem operate_finalize_early (h : build.pass.phase = .created) :
    build.operate .finalize = .error (.phase .finalizedFirst) build [] := by
  rw [operate, finalize, Pass.finalize, h]
  rfl

theorem operate_finalize_again (h : build.pass.phase = .finalized) :
    build.operate .finalize = .error (.phase .finalizedTwice) build [] := by
  rw [operate, finalize, Pass.finalize, h]
  rfl

theorem operate_finalize_in_turn (h : build.pass.phase = .configured) :
    build.operate .finalize = .ok (.arguments build.settles)
      { build with
          pass := { build.pass with
            phase := .finalized
            arguments := some build.settles
            importQueries := build.pass.importQueries + 1 }
          compiler := build.compiler.addArguments build.settles.toList }
      [Pass.event .debug "Compiler arguments finalized"] := by
  rw [operate, finalize, Pass.finalize, h]
  rfl

/-- All that an operation can do to the phase of a pass and to the compiler. -/
inductive Moves (build : Build) (operation : Operation) : Prop where
  | configured {found : Pass} (turn : operation = .configure)
      (phase : build.pass.phase = .created)
      (answer : (build.operate operation).answer = .ok .configured)
      (continues : build.pass.Continues found)
      (pass : (build.operate operation).state.pass = { found with phase := .configured })
      (arguments : (build.operate operation).state.compiler.arguments = build.compiler.arguments)
  | finalized {arguments : CompilerArguments} (turn : operation = .finalize)
      (phase : build.pass.phase = .configured)
      (answer : (build.operate operation).answer = .ok (.arguments arguments))
      (pass : (build.operate operation).state.pass = { build.pass with
        phase := .finalized
        arguments := some arguments
        importQueries := build.pass.importQueries + 1 })
      (compiler : (build.operate operation).state.compiler =
        build.compiler.addArguments arguments.toList)
  | stays (answer : operation = .configure ∨ operation = .finalize →
        ∃ failure, (build.operate operation).answer = .error failure)
      (continues : build.pass.Continues (build.operate operation).state.pass)
      (compiler : (build.operate operation).state.compiler = build.compiler)

theorem Moves.of_fails {failure : Failure} (h : build.pass.Consistent)
    (hfails : (build.operate operation).Fails failure build) : build.Moves operation := by
  refine .stays (fun _ => ⟨failure, hfails.answer⟩) ?_ ?_
  · rw [hfails.state]
    exact h.continues
  · rw [hfails.state]

theorem arguments_addRoot (compiler : Compiler) (directory : Path) :
    (compiler.addRoot directory).arguments = compiler.arguments := by
  rw [Compiler.addRoot]
  split_ifs <;> rfl

/-- A pass that does not let itself be configured has only searched for its scripts. -/
theorem Moves.of_refused {failure : Failure} (h : build.pass.Consistent)
    (hrefused : (build.pass.configure build.schedule build.compiler build.tree).Fails failure
      ((build.pass.find build.tree).state, build.schedule, build.compiler)) :
    build.Moves .configure := by
  have hafter : (build.operate .configure).state = _ := state_configure hrefused.state
  have hfails : (build.operate .configure).Fails failure _ := (hrefused.onState _).onAnswer _
  refine .stays (fun _ => ⟨failure, hfails.answer⟩) ?_ ?_
  · rw [hafter]
    exact h.find build.tree
  · rw [hafter]

theorem moves_configure (h : build.pass.Consistent) : build.Moves .configure := by
  by_cases hphase : build.pass.phase = .created
  · cases hfound : (build.pass.find build.tree).answer with
    | error failure =>
        obtain ⟨hanswer, hstate⟩ := @Pass.configure_of_search build.pass build.schedule
          build.compiler build.tree failure hphase hfound
        exact .of_refused h ⟨hanswer, hstate⟩
    | ok scripts =>
        obtain ⟨hobjected, hconfigured⟩ := @Pass.configure_of_found build.pass build.schedule
          build.compiler build.tree scripts hphase hfound
        cases hobjection : Pass.objection? build.pass.layout scripts build.schedule with
        | some failure =>
            obtain ⟨hanswer, hstate⟩ := hobjected failure hobjection
            exact .of_refused h ⟨hanswer, hstate⟩
        | none =>
            obtain ⟨hanswer, hstate⟩ := hconfigured hobjection
            have hafter : (build.operate .configure).state = _ := state_configure hstate
            refine .configured rfl hphase ?_ (h.find build.tree) ?_ ?_
            · exact Outcome.answer_onAnswer_eq_ok_iff.2 ⟨(), hanswer, rfl⟩
            · rw [hafter]
            · rw [hafter]
              exact arguments_addRoot _ _
  · refine @Moves.of_fails _ _ (.phase .configuredTwice) h ?_
    rw [operate_configure_again hphase]
    exact ⟨rfl, rfl⟩

theorem moves_finalize (h : build.pass.Consistent) : build.Moves .finalize := by
  cases hphase : build.pass.phase with
  | created =>
      refine @Moves.of_fails _ _ (.phase .finalizedFirst) h ?_
      rw [operate_finalize_early hphase]
      exact ⟨rfl, rfl⟩
  | finalized =>
      refine @Moves.of_fails _ _ (.phase .finalizedTwice) h ?_
      rw [operate_finalize_again hphase]
      exact ⟨rfl, rfl⟩
  | configured =>
      have hfinalizes := operate_finalize_in_turn hphase
      refine @Moves.finalized _ _ build.settles rfl hphase ?_ ?_ ?_
      · rw [hfinalizes]
        rfl
      · rw [hfinalizes]
        rfl
      · rw [hfinalizes]
        rfl

theorem moves (h : build.pass.Consistent) (operation : Operation) : build.Moves operation := by
  cases operation with
  | configure => exact moves_configure h
  | finalize => exact moves_finalize h
  | execute task => exact .stays (by simp) (h.execute task build.catalog build.tree) rfl
  | generate => exact .stays (by simp) (h.generate build.tree) rfl
  | declare => exact .stays (by simp) (h.declare build.catalog build.tree) rfl
  | scripts => exact .stays (by simp) (h.find build.tree) rfl
  | plugins => exact .stays (by simp) (h.plugins build.tree) rfl
  | wrapperPaths => exact .stays (by simp) (h.wrapperPaths build.tree) rfl

theorem brought_eq_nil {answer : Except Failure Reply}
    (h : operation = .finalize → ∃ failure, answer = .error failure) :
    brought (operation, answer) = [] := by
  cases operation with
  | finalize =>
      obtain ⟨failure, rfl⟩ := h rfl
      rfl
  | _ => rfl

/-- The compiler gets its arguments from nowhere else. -/
theorem arguments_operate (h : build.pass.Consistent) (operation : Operation) :
    (build.operate operation).state.compiler.arguments =
      build.compiler.arguments ++ brought (operation, (build.operate operation).answer) := by
  cases moves h operation with
  | configured hturn _ _ _ _ harguments =>
      rw [harguments, brought_eq_nil (by simp [hturn]), List.append_nil]
  | finalized hturn _ hanswer _ hcompiler =>
      rw [hcompiler, hanswer, hturn]
      rfl
  | stays hanswer _ hcompiler =>
      rw [hcompiler, brought_eq_nil fun hturn => hanswer (.inr hturn), List.append_nil]

/-- What the replies so far say about a pass. -/
structure Recorded (build : Build) (history : List Record) : Prop where
  consistent : build.pass.Consistent
  configured : history.countP (succeeded .configure) =
    if build.pass.phase = .created then 0 else 1
  finalized : history.countP (succeeded .finalize) =
    if build.pass.phase = .finalized then 1 else 0
  importQueries : build.pass.importQueries = history.countP (succeeded .finalize)
  unsettled : build.pass.phase ≠ .finalized → build.pass.arguments = none
  settled : ∀ reply, (.finalize, .ok reply) ∈ history →
    ∃ arguments, reply = .arguments arguments ∧ build.pass.arguments = some arguments

theorem recorded_new (layout : Layout) (host : Host) (source : ScriptSource) (schedule : Schedule)
    (compiler : Compiler) (catalog : Catalog) (tree : Tree) :
    Recorded ⟨.new layout host source, schedule, compiler, catalog, tree⟩ [] :=
  ⟨nofun, rfl, rfl, rfl, fun _ => rfl, nofun⟩

/-- Whether an operation has taken a pass from one phase to the next. -/
def Turns (record : Record) : Prop :=
  succeeded .configure record = true ∨ succeeded .finalize record = true

theorem not_turns {answer : Except Failure Reply}
    (h : operation = .configure ∨ operation = .finalize → ∃ failure, answer = .error failure) :
    ¬ Turns (operation, answer) := by
  rintro (hturn | hturn)
  · obtain ⟨hoperation, hok⟩ := Bool.and_eq_true_iff.1 hturn
    obtain ⟨failure, rfl⟩ := h (.inl (of_decide_eq_true hoperation))
    cases hok
  · obtain ⟨hoperation, hok⟩ := Bool.and_eq_true_iff.1 hturn
    obtain ⟨failure, rfl⟩ := h (.inr (of_decide_eq_true hoperation))
    cases hok

theorem Recorded.kept {after : Build} {more : List Record} (h : build.Recorded history)
    (hconsistent : after.pass.Consistent)
    (hpass : after.pass =
      { build.pass with scripts := after.pass.scripts, searches := after.pass.searches })
    (hmore : ∀ record ∈ more, ¬ Turns record) : after.Recorded (history ++ more) := by
  have hconfigure : more.countP (succeeded .configure) = 0 :=
    List.countP_eq_zero.2 fun record hrecord hturn => hmore record hrecord (.inl hturn)
  have hfinalize : more.countP (succeeded .finalize) = 0 :=
    List.countP_eq_zero.2 fun record hrecord hturn => hmore record hrecord (.inr hturn)
  have hphase : after.pass.phase = build.pass.phase := by rw [hpass]
  refine ⟨hconsistent, ?_, ?_, ?_, ?_, ?_⟩
  · rw [List.countP_append, hconfigure, h.configured, hphase]
    rfl
  · rw [List.countP_append, hfinalize, h.finalized, hphase]
    rfl
  · rw [List.countP_append, hfinalize, ← h.importQueries, hpass]
    rfl
  · rw [hpass]
    exact h.unsettled
  · intro reply hreply
    rw [hpass]
    rcases List.mem_append.1 hreply with hreply | hreply
    · exact h.settled reply hreply
    · exact absurd (.inr rfl) (hmore _ hreply)

theorem Recorded.operate (h : build.Recorded history) (operation : Operation) :
    (build.operate operation).state.Recorded
      (history ++ [(operation, (build.operate operation).answer)]) := by
  cases moves h.consistent operation with
  | configured hturn hphase hanswer hcontinues hpass =>
      subst hturn
      have hconfigured := h.configured
      have hfinalized := h.finalized
      have hqueries := h.importQueries
      have hunsettled := h.unsettled
      rw [hphase] at hconfigured hfinalized hunsettled
      refine ⟨?_, ?_, ?_, ?_, ?_, ?_⟩
      · rw [hpass]
        exact hcontinues.consistent
      · rw [List.countP_append, hconfigured, hanswer, hpass]
        rfl
      · rw [List.countP_append, hfinalized, hanswer, hpass]
        rfl
      · rw [List.countP_append, ← hqueries, hanswer, hpass, hcontinues.kept]
        rfl
      · intro _
        rw [hpass, hcontinues.kept]
        exact hunsettled nofun
      · intro reply hreply
        rw [hpass, hcontinues.kept]
        rcases List.mem_append.1 hreply with hreply | hreply
        · exact h.settled reply hreply
        · cases List.mem_singleton.1 hreply
  | @finalized arguments hturn hphase hanswer hpass =>
      subst hturn
      have hconfigured := h.configured
      have hfinalized := h.finalized
      rw [hphase] at hconfigured hfinalized
      refine ⟨?_, ?_, ?_, ?_, ?_, ?_⟩
      · rw [hpass]
        exact h.consistent
      · rw [List.countP_append, hconfigured, hanswer, hpass]
        rfl
      · rw [List.countP_append, hfinalized, hanswer, hpass]
        rfl
      · rw [List.countP_append, ← h.importQueries, hanswer, hpass]
        rfl
      · intro hother
        rw [hpass] at hother
        exact absurd rfl hother
      · intro reply hreply
        rw [hpass]
        rcases List.mem_append.1 hreply with hreply | hreply
        · -- No operation has finalized the pass before.
          exact absurd rfl (List.countP_eq_zero.1 hfinalized _ hreply)
        · rw [hanswer, List.mem_singleton, Prod.mk.injEq, Except.ok.injEq] at hreply
          exact ⟨arguments, hreply.2, rfl⟩
  | stays hanswer hcontinues _ =>
      refine h.kept hcontinues.consistent hcontinues.kept ?_
      intro record hrecord
      rw [List.mem_singleton.1 hrecord]
      exact not_turns hanswer

theorem Recorded.step (h : build.Recorded history) (step : Step) :
    (build.step step).Recorded (history ++ (build.replyIn step).toList) := by
  cases step with
  | operation operation => exact h.operate operation
  | question index question =>
      refine h.kept ?_ rfl nofun
      intro laters hlaters
      obtain ⟨scripts, hfound, rfl⟩ := Option.map_eq_some_iff.1 hlaters
      have hscripts := h.consistent scripts hfound
      have hbecomes := forall₂_modify index hscripts fun script hscript =>
        Script.becomes_answer hscript build.tree question
      exact Script.consistent_of_forall₂_kept (hbecomes.imp fun _ _ h => h.kept)
  | meanwhile schedule compiler catalog tree => exact h.kept h.consistent rfl nofun

theorem Recorded.follow (h : build.Recorded history) (steps : List Step) :
    (build.follow steps).Recorded (history ++ build.replies steps) := by
  induction steps generalizing build history with
  | nil => rwa [replies, List.append_nil]
  | cons step rest ih =>
      rw [replies, ← List.append_assoc]
      exact ih (h.step step)

theorem Recorded.created_of (h : build.Recorded history)
    (hconfigured : history.countP (succeeded .configure) = 0) : build.pass.phase = .created := by
  by_contra hphase
  have hrecorded := h.configured
  rw [if_neg hphase, hconfigured] at hrecorded
  omega

theorem Recorded.finalized_of (h : build.Recorded history)
    (hfinalized : history.countP (succeeded .finalize) = 1) : build.pass.phase = .finalized := by
  by_contra hphase
  have hrecorded := h.finalized
  rw [if_neg hphase, hfinalized] at hrecorded
  omega

theorem Recorded.configured_of (h : build.Recorded history)
    (hconfigured : history.countP (succeeded .configure) = 1)
    (hfinalized : history.countP (succeeded .finalize) = 0) : build.pass.phase = .configured := by
  have hcreated := h.configured
  have hlast := h.finalized
  rw [hconfigured] at hcreated
  rw [hfinalized] at hlast
  cases hphase : build.pass.phase with
  | configured => rfl
  | created =>
      rw [if_pos hphase] at hcreated
      omega
  | finalized =>
      rw [if_pos hphase] at hlast
      omega

/-- **One phase after the other.** Whatever the operations before were and however they ended, at most
one of them has configured the pass and at most one has finalized it. Finalizing succeeds if the first
has happened and the second has not; out of turn both are refused, and nothing has changed. The
imports have been asked for by the operation that has finalized the pass, the compiler is given its
arguments by that operation, and from then on the pass has these arguments. -/
theorem phases_in_order (layout : Layout) (host : Host) (source : ScriptSource)
    (schedule : Schedule) (compiler : Compiler) (catalog : Catalog) (tree : Tree)
    (earlier : List Step) :
    let start : Build := ⟨.new layout host source, schedule, compiler, catalog, tree⟩
    let before := start.follow earlier
    let history := start.replies earlier
    let configured := history.countP (succeeded .configure)
    let finalized := history.countP (succeeded .finalize)
    configured ≤ 1 ∧ finalized ≤ 1 ∧
      (configured = 0 → before.operate .finalize = .error (.phase .finalizedFirst) before []) ∧
      (configured = 1 → finalized = 0 →
        (before.operate .finalize).answer = .ok (.arguments before.settles)) ∧
      (finalized = 1 → before.operate .finalize = .error (.phase .finalizedTwice) before []) ∧
      (configured = 1 → before.operate .configure = .error (.phase .configuredTwice) before []) ∧
      before.pass.importQueries = finalized ∧
      (∀ operation, (before.operate operation).state.compiler.arguments =
        before.compiler.arguments ++ brought (operation, (before.operate operation).answer)) ∧
      (finalized = 0 → before.pass.arguments = none) ∧
      ∀ reply, (.finalize, .ok reply) ∈ history →
        ∃ arguments, reply = .arguments arguments ∧ before.pass.arguments = some arguments := by
  intro start before history configured finalized
  have hrecorded : before.Recorded history :=
    (recorded_new layout host source schedule compiler catalog tree).follow earlier
  have hconfigured : configured = if before.pass.phase = .created then 0 else 1 :=
    hrecorded.configured
  have hfinalized : finalized = if before.pass.phase = .finalized then 1 else 0 :=
    hrecorded.finalized
  refine ⟨?_, ?_, ?_, ?_, ?_, ?_, hrecorded.importQueries, arguments_operate hrecorded.consistent,
    ?_, hrecorded.settled⟩
  · rw [hconfigured]
    split_ifs <;> omega
  · rw [hfinalized]
    split_ifs <;> omega
  · intro hnone
    exact operate_finalize_early (hrecorded.created_of hnone)
  · intro hone hnone
    rw [operate_finalize_in_turn (hrecorded.configured_of hone hnone)]
    rfl
  · intro hone
    exact operate_finalize_again (hrecorded.finalized_of hone)
  · intro hone
    refine operate_configure_again fun hcreated => ?_
    rw [if_pos hcreated] at hconfigured
    omega
  · intro hnone
    refine hrecorded.unsettled fun hlast => ?_
    rw [if_pos hlast] at hfinalized
    omega

/-- Finalizing comes too early, then configuring fails twice, first for want of the scripts and then
for want of a task, before both succeed. -/
def retried : List Step :=
  [.operation .finalize, .operation .configure, .operation .configure,
    .meanwhile (.ofTasks ["compileKotlin", "pluginDescriptors"]) (.new none) .empty (projectIn "demo"),
    .operation .configure, .operation .finalize]

theorem phases_in_order_retried :
    let before := overMoody.follow retried
    overMoody.replies retried =
        [(.finalize, .error (.phase .finalizedFirst)),
          (.configure, .error (.files (.ofString "src") .permissionDenied)),
          (.configure, .error (.unknownTask "compileKotlin")),
          (.configure, .ok .configured),
          (.finalize, .ok (.arguments overMoody.settles))] ∧
      before.operate .finalize = .error (.phase .finalizedTwice) before [] ∧
      before.operate .configure = .error (.phase .configuredTwice) before [] ∧
      before.pass.importQueries = 1 ∧ before.pass.arguments = some overMoody.settles := by
  intro before
  have hreplies : overMoody.replies retried =
      [(.finalize, .error (.phase .finalizedFirst)),
        (.configure, .error (.files (.ofString "src") .permissionDenied)),
        (.configure, .error (.unknownTask "compileKotlin")),
        (.configure, .ok .configured),
        (.finalize, .ok (.arguments overMoody.settles))] := by
    decide +kernel
  have hconfigured : (overMoody.replies retried).countP (succeeded .configure) = 1 := by
    rw [hreplies]
    rfl
  have hfinalized : (overMoody.replies retried).countP (succeeded .finalize) = 1 := by
    rw [hreplies]
    rfl
  obtain ⟨-, -, -, -, hagain, hconfigure, hqueries, -, -, hsettled⟩ :=
    phases_in_order overMoody.pass.layout (.ofImports []) moody (.ofTasks []) (.new none) .empty
      (projectIn "before") retried
  obtain ⟨arguments, hreply, harguments⟩ :=
    hsettled (.arguments overMoody.settles) (hreplies.symm ▸ by simp)
  obtain rfl := Reply.arguments.inj hreply
  exact ⟨hreplies, hagain hfinalized, hconfigure hconfigured, hqueries.trans hfinalized, harguments⟩

end Build

end ScriptPlugins
