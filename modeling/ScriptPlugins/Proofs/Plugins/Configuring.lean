import ScriptPlugins.Proofs.Plugins.Arrangement
import ScriptPlugins.Proofs.Plugins.Discovered

/-!
# Configuring a pass

Everything that can go wrong is found out before anything is changed. `Refused` lists it. What comes
after, the wiring, has two steps that could fail for want of an anchor; but the anchors have been
seen in the schedule, and putting a task before another takes nobody out of it, even if the task is
itself the anchor of the second step.

If the four tasks have different names, the first step does not see the second: `declare` moves in
before `publish`, and that is not the second of the pair that the first step has put together.
-/

namespace ScriptPlugins.Pass

open Text

variable {pass : Pass} {layout : Layout} {schedule later : Schedule} {compiler : Compiler}
  {tree : Tree} {scripts : List Script} {inputs : List Path} {failure : Failure} {done : Unit}

theorem find_keeps (pass : Pass) (tree : Tree) : ∃ scripts searches,
    (pass.find tree).state = { pass with scripts, searches } := by
  cases hfound : pass.scripts with
  | some scripts =>
      rw [find_of_scripts hfound]
      exact ⟨pass.scripts, pass.searches, rfl⟩
  | none =>
      rw [find_of_unfound hfound]
      rcases pass.source pass.searches pass.layout.sourceRoot pass.layout.scriptPattern tree
        with ⟨answer, events⟩
      cases answer with
      | error failure => exact ⟨pass.scripts, pass.searches + 1, rfl⟩
      | ok paths => exact ⟨_, pass.searches + 1, rfl⟩

@[simp]
theorem layout_find (pass : Pass) (tree : Tree) : (pass.find tree).state.layout = pass.layout := by
  obtain ⟨scripts, searches, hstate⟩ := find_keeps pass tree
  rw [hstate]

@[simp]
theorem phase_find (pass : Pass) (tree : Tree) : (pass.find tree).state.phase = pass.phase := by
  obtain ⟨scripts, searches, hstate⟩ := find_keeps pass tree
  rw [hstate]

/-- A schedule in which a pass has taken its place. -/
structure Wired (layout : Layout) (inputs : List Path) (before after : Schedule) : Prop where
  nodup : after.order.Nodup
  generate : [layout.tasks.generate, layout.tasks.compile] <:+: after.order
  declare : [layout.tasks.declare, layout.tasks.publish] <:+: after.order
  others : after.order.filter (· ∉ [layout.tasks.generate, layout.tasks.declare]) =
    before.order.filter (· ∉ [layout.tasks.generate, layout.tasks.declare])
  generateFiles :
    let files := (before.files? layout.tasks.generate).getD .none
    after.files? layout.tasks.generate =
      some ⟨files.inputs ++ inputs, files.outputs ++ [layout.generatedDirectory]⟩
  declareFiles :
    let files := (before.files? layout.tasks.declare).getD .none
    after.files? layout.tasks.declare = some ⟨files.inputs ++ inputs, files.outputs⟩
  otherFiles : ∀ task, task ≠ layout.tasks.generate → task ≠ layout.tasks.declare →
    after.files? task = before.files? task

/-- The schedule between the two steps of the wiring. -/
theorem wire_yields_iff : (wire layout inputs schedule).Yields done later ↔
    ∃ middle, (((schedule.addInputs layout.tasks.generate inputs).addOutput layout.tasks.generate
        layout.generatedDirectory).putBefore layout.tasks.compile layout.tasks.generate).Yields ()
        middle ∧
      ((middle.addInputs layout.tasks.declare inputs).putBefore layout.tasks.publish
        layout.tasks.declare).Yields done later := by
  rw [wire, Outcome.yields_andThen_iff]
  constructor
  · rintro ⟨_, middle, hfirst, hsecond⟩
    exact ⟨middle, hfirst, hsecond⟩
  · rintro ⟨middle, hfirst, hsecond⟩
    exact ⟨(), middle, hfirst, hsecond⟩

/-- With both anchors in the schedule, neither step fails, whichever names are the same. -/
theorem answer_wire (layout : Layout) (inputs : List Path)
    (hcompile : layout.tasks.compile ∈ schedule.order)
    (hpublish : layout.tasks.publish ∈ schedule.order) :
    (wire layout inputs schedule).answer = .ok () := by
  let declared := (schedule.addInputs layout.tasks.generate inputs).addOutput layout.tasks.generate
    layout.generatedDirectory
  have horder : declared.order = schedule.order := by
    simp only [declared, Schedule.order_addOutput, Schedule.order_addInputs]
  have hfirst := Schedule.putBefore_yields (horder ▸ hcompile) layout.tasks.generate
  have hkept : layout.tasks.publish ∈
      (declared.putBefore layout.tasks.compile layout.tasks.generate).state.order := by
    rw [Schedule.mem_order_of_putBefore hfirst, horder]
    exact .inr hpublish
  have hsecond := @Schedule.putBefore_yields
    ((declared.putBefore layout.tasks.compile layout.tasks.generate).state.addInputs
      layout.tasks.declare inputs) layout.tasks.publish (by rwa [Schedule.order_addInputs])
    layout.tasks.declare
  exact (wire_yields_iff.2 ⟨_, hfirst, hsecond⟩).answer

/-- What the order of the tasks is after wiring, if the names are orderly. -/
structure Placed (tasks : TaskNames) (order : List String) : Prop where
  nodup : order.Nodup
  generate : tasks.generate ∈ order
  compile : tasks.compile ≠ tasks.generate → tasks.compile ≠ tasks.declare →
    [tasks.generate, tasks.compile] <:+: order
  publish : [tasks.declare, tasks.publish] <:+: order

theorem placed_of_wire (horderly : layout.tasks.Orderly) (hnodup : schedule.order.Nodup)
    (h : (wire layout inputs schedule).Yields done later) : Placed layout.tasks later.order := by
  obtain ⟨hgd, -, hpd, hpc⟩ := horderly
  obtain ⟨middle, hfirst, hsecond⟩ := wire_yields_iff.1 h
  have hmiddle : middle.order.Nodup := by
    apply Schedule.nodup_of_putBefore hfirst
    rwa [Schedule.order_addOutput, Schedule.order_addInputs]
  refine ⟨?_, ?_, ?_, Schedule.infix_of_putBefore hsecond hpd⟩
  · apply Schedule.nodup_of_putBefore hsecond
    rwa [Schedule.order_addInputs]
  · rw [Schedule.mem_order_of_putBefore hsecond, Schedule.order_addInputs,
      Schedule.mem_order_of_putBefore hfirst]
    exact .inr (.inl rfl)
  · intro hcg hcd
    apply Schedule.infix_order_of_putBefore hsecond _ hgd hcd (Ne.symm hpc)
    rw [Schedule.order_addInputs]
    exact Schedule.infix_of_putBefore hfirst hcg

theorem wired_of_wire (hdistinct : layout.tasks.Distinct) (hnodup : schedule.order.Nodup)
    (h : (wire layout inputs schedule).Yields done later) : Wired layout inputs schedule later := by
  obtain ⟨⟨hgd, hgc, -⟩, ⟨hdc, -⟩, -⟩ := hdistinct.ne
  have hplaced := placed_of_wire hdistinct.orderly hnodup h
  obtain ⟨middle, hfirst, hsecond⟩ := wire_yields_iff.1 h
  refine ⟨hplaced.nodup, hplaced.compile (Ne.symm hgc) (Ne.symm hdc), hplaced.publish, ?_, ?_, ?_,
    ?_⟩
  · have hgenerate : decide (layout.tasks.generate ∉ [layout.tasks.generate, layout.tasks.declare]) =
        false := by simp
    have hdeclare : decide (layout.tasks.declare ∉ [layout.tasks.generate, layout.tasks.declare]) =
        false := by simp
    rw [Schedule.filter_order_of_putBefore hsecond hdeclare, Schedule.order_addInputs,
      Schedule.filter_order_of_putBefore hfirst hgenerate, Schedule.order_addOutput,
      Schedule.order_addInputs]
  · intro files
    rw [Schedule.files?_of_putBefore hsecond, if_neg hgd, Schedule.files?_addInputs, if_neg hgd,
      Schedule.files?_of_putBefore hfirst, if_pos rfl, Schedule.files?_addOutput, if_pos rfl,
      Schedule.files?_addInputs, if_pos rfl]
    rfl
  · intro files
    have hkept : middle.files? layout.tasks.declare = schedule.files? layout.tasks.declare := by
      rw [Schedule.files?_of_putBefore hfirst, if_neg (Ne.symm hgd), Schedule.files?_addOutput,
        if_neg (Ne.symm hgd), Schedule.files?_addInputs, if_neg (Ne.symm hgd)]
    rw [Schedule.files?_of_putBefore hsecond, if_pos rfl, Schedule.files?_addInputs, if_pos rfl,
      hkept]
    rfl
  · intro task hgenerate hdeclare
    rw [Schedule.files?_of_putBefore hsecond, if_neg hdeclare, Schedule.files?_addInputs,
      if_neg hdeclare, Schedule.files?_of_putBefore hfirst, if_neg hgenerate,
      Schedule.files?_addOutput, if_neg hgenerate, Schedule.files?_addInputs, if_neg hgenerate]

theorem objection?_eq_none_iff : objection? layout scripts schedule = none ↔
    (∀ script ∈ scripts, Identifier.isTypeName script.wrapperClass = true) ∧
      layout.tasks.compile ∈ schedule.order ∧ layout.tasks.publish ∈ schedule.order := by
  rw [objection?]
  cases hbad : scripts.find? (!Identifier.isTypeName ·.wrapperClass) with
  | some script =>
      have hscript : Identifier.isTypeName script.wrapperClass = false := by
        simpa using List.find?_some hbad
      constructor
      · intro hnone
        cases hnone
      · rintro ⟨hnames, -⟩
        rw [hnames script (List.mem_of_find?_eq_some hbad)] at hscript
        cases hscript
  | none =>
      have hnames : ∀ script ∈ scripts, Identifier.isTypeName script.wrapperClass = true := by
        simpa using List.find?_eq_none.1 hbad
      cases hmissing : [layout.tasks.compile, layout.tasks.publish].find?
          (!schedule.isScheduled ·) with
      | some anchor =>
          have hanchor : schedule.isScheduled anchor = false := by
            simpa using List.find?_some hmissing
          constructor
          · intro hnone
            cases hnone
          · rintro ⟨-, hcompile, hpublish⟩
            have hmem := List.mem_of_find?_eq_some hmissing
            rw [List.mem_pair] at hmem
            rcases hmem with rfl | rfl
            · rw [Schedule.isScheduled_iff.2 hcompile] at hanchor
              cases hanchor
            · rw [Schedule.isScheduled_iff.2 hpublish] at hanchor
              cases hanchor
      | none =>
          have hanchors : ∀ anchor ∈ [layout.tasks.compile, layout.tasks.publish],
              schedule.isScheduled anchor = true := by
            simpa using List.find?_eq_none.1 hmissing
          refine ⟨fun _ => ⟨hnames, ?_, ?_⟩, fun _ => rfl⟩
          · exact Schedule.isScheduled_iff.1 (hanchors _ List.mem_cons_self)
          · exact Schedule.isScheduled_iff.1
              (hanchors _ (List.mem_cons_of_mem _ List.mem_cons_self))

/-- What scripts have learnt makes no difference to an objection. -/
theorem objection?_of_forall₂_kept {laters : List Script}
    (hscripts : ∀ script ∈ scripts, script.Consistent)
    (h : List.Forall₂ Script.Kept scripts laters) :
    objection? layout laters schedule = objection? layout scripts schedule := by
  induction h with
  | nil => rfl
  | @cons script later rest others hkept _ ih =>
      have hclass := hkept.wrapperClass (hscripts _ List.mem_cons_self)
      have hothers := ih fun other hother => hscripts other (List.mem_cons_of_mem _ hother)
      simp only [objection?, List.find?_cons, hclass] at hothers ⊢
      cases Identifier.isTypeName script.wrapperClass with
      | true => exact hothers
      | false => simp only [Bool.not_false, hkept.path, hclass]

/-- Why a pass does not let itself be configured. -/
inductive Refused (pass : Pass) (schedule : Schedule) (tree : Tree) : Failure → Prop where
  | phase (h : pass.phase ≠ .created) : Refused pass schedule tree (.phase .configuredTwice)
  | search {failure : Failure} (h : (pass.find tree).answer = .error failure) :
      Refused pass schedule tree failure
  | className {scripts : List Script} {script : Script}
      (hfind : (pass.find tree).answer = .ok scripts) (hscript : script ∈ scripts)
      (hname : Identifier.isTypeName script.wrapperClass = false) :
      Refused pass schedule tree (.invalidClassName script.path script.wrapperClass)
  | anchor {scripts : List Script} {anchor : String}
      (hfind : (pass.find tree).answer = .ok scripts)
      (hnames : ∀ script ∈ scripts, Identifier.isTypeName script.wrapperClass = true)
      (hanchor : anchor = pass.layout.tasks.compile ∨ anchor = pass.layout.tasks.publish)
      (hmissing : anchor ∉ schedule.order) : Refused pass schedule tree (.unknownTask anchor)

theorem refused_of_objection? (hfind : (pass.find tree).answer = .ok scripts)
    (h : objection? pass.layout scripts schedule = some failure) :
    Refused pass schedule tree failure := by
  rw [objection?] at h
  cases hbad : scripts.find? (!Identifier.isTypeName ·.wrapperClass) with
  | some script =>
      simp only [hbad, Option.some.injEq] at h
      subst h
      exact .className hfind (List.mem_of_find?_eq_some hbad) (by simpa using List.find?_some hbad)
  | none =>
      simp only [hbad] at h
      cases hmissing : [pass.layout.tasks.compile, pass.layout.tasks.publish].find?
          (!schedule.isScheduled ·) with
      | none => simp [hmissing] at h
      | some anchor =>
          simp only [hmissing, Option.some.injEq] at h
          subst h
          have hscheduled : schedule.isScheduled anchor = false := by
            simpa using List.find?_some hmissing
          refine .anchor hfind (by simpa using List.find?_eq_none.1 hbad)
            (List.mem_pair.1 (List.mem_of_find?_eq_some hmissing)) ?_
          intro hmem
          rw [Schedule.isScheduled_iff.2 hmem] at hscheduled
          cases hscheduled

theorem configure_of_search (hphase : pass.phase = .created)
    (hfind : (pass.find tree).answer = .error failure) :
    (pass.configure schedule compiler tree).answer = .error failure ∧
      (pass.configure schedule compiler tree).state =
        ((pass.find tree).state, schedule, compiler) := by
  have hanswer : ((pass.find tree).onState (·, schedule, compiler)).answer = .error failure := hfind
  rw [configure, if_neg (not_not_intro hphase)]
  exact Outcome.andThen_of_error hanswer

/-- Once the scripts are found, an objection is the last word. -/
theorem configure_of_found (hphase : pass.phase = .created)
    (hfind : (pass.find tree).answer = .ok scripts) :
    (∀ failure, objection? pass.layout scripts schedule = some failure →
      (pass.configure schedule compiler tree).answer = .error failure ∧
        (pass.configure schedule compiler tree).state =
          ((pass.find tree).state, schedule, compiler)) ∧
      (objection? pass.layout scripts schedule = none →
        (pass.configure schedule compiler tree).answer = .ok () ∧
          (pass.configure schedule compiler tree).state =
            ({ (pass.find tree).state with phase := .configured },
              (wire pass.layout (scripts.map Script.path) schedule).state,
              compiler.addRoot pass.layout.generatedDirectory)) := by
  have hanswer : ((pass.find tree).onState (·, schedule, compiler)).answer = .ok scripts := hfind
  rw [configure, if_neg (not_not_intro hphase), (Outcome.andThen_of_ok hanswer).1,
    (Outcome.andThen_of_ok hanswer).2]
  simp only [Outcome.state_onState, layout_find]
  constructor
  · intro failure hobjection
    simp only [hobjection]
    exact ⟨rfl, rfl⟩
  · intro hobjection
    obtain ⟨-, hcompile, hpublish⟩ := objection?_eq_none_iff.1 hobjection
    have hwired : ((wire pass.layout (scripts.map Script.path) schedule).onState
        ((pass.find tree).state, ·, compiler)).answer = .ok () :=
      answer_wire pass.layout (scripts.map Script.path) hcompile hpublish
    simp only [hobjection, (Outcome.andThen_of_ok hwired).1, (Outcome.andThen_of_ok hwired).2,
      Outcome.answer_ok, Outcome.state_ok, Outcome.state_onState, layout_find, and_self]

/-- A pass that is refused has at most searched for its scripts. -/
theorem refused_of_configure
    (h : (pass.configure schedule compiler tree).answer = .error failure) :
    Refused pass schedule tree failure ∧ ∃ scripts searches,
      (pass.configure schedule compiler tree).state =
        ({ pass with scripts, searches }, schedule, compiler) := by
  by_cases hphase : pass.phase = .created
  · obtain ⟨found, searches, hstate⟩ := find_keeps pass tree
    cases hfind : (pass.find tree).answer with
    | error failed =>
        obtain ⟨hanswer, hafter⟩ := @configure_of_search pass schedule compiler tree _ hphase hfind
        obtain rfl := Except.error.inj (hanswer.symm.trans h)
        exact ⟨.search hfind, found, searches, by rw [hafter, hstate]⟩
    | ok scripts =>
        obtain ⟨hobjected, hconfigured⟩ :=
          @configure_of_found pass schedule compiler tree _ hphase hfind
        cases hobjection : objection? pass.layout scripts schedule with
        | some failed =>
            obtain ⟨hanswer, hafter⟩ := hobjected failed hobjection
            obtain rfl := Except.error.inj (hanswer.symm.trans h)
            exact ⟨refused_of_objection? hfind hobjection, found, searches, by rw [hafter, hstate]⟩
        | none => cases (hconfigured hobjection).1.symm.trans h
  · rw [configure, if_pos hphase] at h ⊢
    obtain rfl := Except.error.inj h
    exact ⟨.phase hphase, pass.scripts, pass.searches, rfl⟩

/-- If only an anchor is missing, the scripts have been found and their names are as they should be. -/
theorem configure_of_missing {anchor : String}
    (h : (pass.configure schedule compiler tree).answer = .error (.unknownTask anchor))
    (hfind : (pass.find tree).answer = .ok scripts) :
    pass.phase = .created ∧
      (∀ script ∈ scripts, Identifier.isTypeName script.wrapperClass = true) ∧
      (pass.configure schedule compiler tree).state =
        ((pass.find tree).state, schedule, compiler) := by
  have hphase : pass.phase = .created := by
    by_contra hphase
    rw [configure, if_pos hphase] at h
    cases h
  have hnames : ∀ script ∈ scripts, Identifier.isTypeName script.wrapperClass = true := by
    cases (refused_of_configure h).1 with
    | search herror => cases hfind.symm.trans herror
    | anchor hfound hnames => rwa [Except.ok.inj (hfind.symm.trans hfound)]
  obtain ⟨hobjected, hconfigured⟩ :=
    @configure_of_found pass schedule compiler tree _ hphase hfind
  refine ⟨hphase, hnames, ?_⟩
  cases hobjection : objection? pass.layout scripts schedule with
  | some failure => exact (hobjected failure hobjection).2
  | none => cases h.symm.trans (hconfigured hobjection).1

theorem configure_of_anchors (hphase : pass.phase = .created)
    (hfind : (pass.find tree).answer = .ok scripts)
    (hnames : ∀ script ∈ scripts, Identifier.isTypeName script.wrapperClass = true)
    (hcompile : pass.layout.tasks.compile ∈ schedule.order)
    (hpublish : pass.layout.tasks.publish ∈ schedule.order) :
    (pass.configure schedule compiler tree).answer = .ok () ∧
      (pass.configure schedule compiler tree).state =
        ({ (pass.find tree).state with phase := .configured },
          (wire pass.layout (scripts.map Script.path) schedule).state,
          compiler.addRoot pass.layout.generatedDirectory) :=
  (configure_of_found hphase hfind).2 (objection?_eq_none_iff.2 ⟨hnames, hcompile, hpublish⟩)

theorem answer_find_new {host : Host} {source : ScriptSource} {paths : List Path}
    (h : (source 0 layout.sourceRoot layout.scriptPattern tree).1 = .ok paths) :
    ((new layout host source).find tree).answer = .ok (paths.map layout.scriptAt) := by
  rcases hanswer : source 0 layout.sourceRoot layout.scriptPattern tree with ⟨answer, events⟩
  rw [hanswer] at h
  obtain rfl : answer = .ok paths := h
  simp only [find, new, hanswer, Outcome.answer_ok]

/-- What a pass has learnt of its scripts makes no difference to where it is wired. -/
theorem configure_again (hsound : pass.Sound) (hphase : pass.phase = .created)
    (hfound : pass.scripts = some scripts)
    (hnames : ∀ script ∈ scripts, Identifier.isTypeName script.wrapperClass = true)
    (host : Host) (source : ScriptSource)
    (hsource : (source 0 pass.layout.sourceRoot pass.layout.scriptPattern tree).1 =
      .ok (scripts.map Script.path))
    (hcompile : pass.layout.tasks.compile ∈ schedule.order)
    (hpublish : pass.layout.tasks.publish ∈ schedule.order) :
    let fresh := (new pass.layout host source).configure schedule compiler tree
    (pass.configure schedule compiler tree).answer = .ok () ∧ fresh.answer = .ok () ∧
      (pass.configure schedule compiler tree).state.2 = fresh.state.2 := by
  intro fresh
  have hfind : (pass.find tree).answer = .ok scripts := by
    rw [find_of_scripts hfound]
    rfl
  have hnew := @answer_find_new pass.layout tree host source _ hsource
  have hnewNames : ∀ script ∈ (scripts.map Script.path).map pass.layout.scriptAt,
      Identifier.isTypeName script.wrapperClass = true := by
    intro script hscript
    obtain ⟨path, hpath, rfl⟩ := List.mem_map.1 hscript
    obtain ⟨known, hknown, rfl⟩ := List.mem_map.1 hpath
    have hkept := hsound.kept hfound known hknown
    rw [← hkept.wrapperClass (pass.layout.consistent_scriptAt known.path)]
    exact hnames known hknown
  have hpaths : ((scripts.map Script.path).map pass.layout.scriptAt).map Script.path =
      scripts.map Script.path := by
    rw [List.map_map]
    exact List.map_id _
  obtain ⟨hanswer, hstate⟩ :=
    @configure_of_anchors pass schedule compiler tree _ hphase hfind hnames hcompile hpublish
  obtain ⟨hfresh, hother⟩ := @configure_of_anchors (new pass.layout host source) schedule compiler
    tree _ rfl hnew hnewNames hcompile hpublish
  refine ⟨hanswer, hfresh, ?_⟩
  calc (pass.configure schedule compiler tree).state.2
      = ((wire pass.layout (scripts.map Script.path) schedule).state,
          compiler.addRoot pass.layout.generatedDirectory) := by rw [hstate]
    _ = ((wire pass.layout (((scripts.map Script.path).map pass.layout.scriptAt).map Script.path)
          schedule).state, compiler.addRoot pass.layout.generatedDirectory) := by rw [hpaths]
    _ = fresh.state.2 := by
        rw [hother]
        rfl

theorem configure_yields_iff {after : Pass × Schedule × Compiler} :
    (pass.configure schedule compiler tree).Yields done after ↔
      pass.phase = .created ∧ ∃ scripts, (pass.find tree).answer = .ok scripts ∧
        objection? pass.layout scripts schedule = none ∧
        after = ({ (pass.find tree).state with phase := .configured },
          (wire pass.layout (scripts.map Script.path) schedule).state,
          compiler.addRoot pass.layout.generatedDirectory) := by
  constructor
  · intro h
    have hphase : pass.phase = .created := by
      by_contra hphase
      rw [configure, if_pos hphase] at h
      cases h.answer
    cases hfind : (pass.find tree).answer with
    | error failure => cases h.answer.symm.trans (configure_of_search hphase hfind).1
    | ok scripts =>
        obtain ⟨hobjected, hconfigured⟩ :=
          @configure_of_found pass schedule compiler tree _ hphase hfind
        refine ⟨hphase, scripts, rfl, ?_⟩
        cases hobjection : objection? pass.layout scripts schedule with
        | some failure => cases h.answer.symm.trans (hobjected failure hobjection).1
        | none => exact ⟨rfl, h.state.symm.trans (hconfigured hobjection).2⟩
  · rintro ⟨hphase, scripts, hfind, hobjection, rfl⟩
    obtain ⟨hanswer, hstate⟩ := (configure_of_found hphase hfind).2 hobjection
    exact ⟨hanswer, hstate⟩

theorem configure_keeps (pass : Pass) (schedule : Schedule) (compiler : Compiler) (tree : Tree) :
    ∃ scripts searches phase, (pass.configure schedule compiler tree).state.1 =
      { pass with scripts, searches, phase } := by
  cases hanswer : (pass.configure schedule compiler tree).answer with
  | error failure =>
      obtain ⟨-, scripts, searches, hstate⟩ := refused_of_configure hanswer
      exact ⟨scripts, searches, pass.phase, congrArg Prod.fst hstate⟩
  | ok done =>
      obtain ⟨-, _, -, -, hstate⟩ := configure_yields_iff.1 ⟨hanswer, rfl⟩
      obtain ⟨scripts, searches, hfind⟩ := find_keeps pass tree
      refine ⟨scripts, searches, .configured, ?_⟩
      rw [hstate, hfind]

/-- A pass that has been configured stands right before its anchors, wherever its tasks were before.
Apart from them the order is as it was, and only their files are new: the discovered scripts for
both, the directory of the wrappers for one. -/
theorem configure_wires (hpass : pass.Reached) (hschedule : schedule.Reached)
    (hdistinct : pass.layout.tasks.Distinct)
    (h : (pass.configure schedule compiler tree).answer = .ok done) :
    let after := (pass.configure schedule compiler tree).state
    let directory := pass.layout.generatedDirectory
    ∃ scripts search seen, after.1.scripts = some scripts ∧
      (pass.find tree).answer = .ok scripts ∧
      (pass.source search pass.layout.sourceRoot pass.layout.scriptPattern seen).1 =
        .ok (scripts.map Script.path) ∧
      Wired pass.layout (scripts.map Script.path) schedule after.2.1 ∧
      after.2.2.command = compiler.command ∧ after.2.2.arguments = compiler.arguments ∧
      after.2.2.roots =
        if compiler.roots.any (·.same directory) then compiler.roots
        else compiler.roots ++ [directory] := by
  intro after directory
  have hyields := Outcome.yields_of_answer h
  obtain ⟨-, scripts, hfind, hobjection, hafter⟩ := configure_yields_iff.1 hyields
  obtain ⟨-, hcompile, hpublish⟩ := objection?_eq_none_iff.1 hobjection
  have hwired := Outcome.yields_of_answer
    (answer_wire pass.layout (scripts.map Script.path) hcompile hpublish)
  have hscripts := scripts_find hfind
  obtain ⟨search, seen, hanswer⟩ := (hpass.find tree).sound.paths hscripts
  obtain ⟨found, searches, hstate⟩ := find_keeps pass tree
  rw [hstate] at hanswer
  have hafter : after = _ := hafter
  rw [hafter]
  refine ⟨scripts, search, seen, hscripts, hfind, hanswer, ?_, ?_⟩
  · exact wired_of_wire hdistinct hschedule.nodup hwired
  · rw [Compiler.addRoot]
    by_cases hroot : compiler.roots.any (Path.same · directory)
    · rw [if_pos hroot, if_pos hroot]
      exact ⟨rfl, rfl, rfl⟩
    · rw [if_neg hroot, if_neg hroot]
      exact ⟨rfl, rfl, rfl⟩

/-- A schedule in which the tasks of a pass stand after their anchors and the wrong way round. -/
def disarranged : Schedule :=
  .ofTasks ["pluginDescriptors", "generateScriptPluginAdapters", "declareScriptPlugins",
    "compileKotlin"]

/-- A pass over one script. -/
def single : Pass :=
  new .default (.ofImports []) fun _ _ _ _ => (.ok [.ofString "tool.gradle.kts"], [])

theorem configure_wires_disarranged :
    let outcome := single.configure disarranged (.new none) .empty
    single.Reached ∧ disarranged.Reached ∧ single.layout.tasks.Distinct ∧
      outcome.answer = .ok () ∧
      outcome.state.2.1.order = ["declareScriptPlugins", "pluginDescriptors",
        "generateScriptPluginAdapters", "compileKotlin"] ∧
      Wired single.layout [.ofString "tool.gradle.kts"] disarranged
        outcome.state.2.1 := by
  intro outcome
  have hpass : single.Reached := .new ..
  have hschedule : disarranged.Reached := Schedule.reached_ofTasks _
  have hdistinct : single.layout.tasks.Distinct := by decide
  have hanswer : outcome.answer = .ok () := by decide +kernel
  obtain ⟨scripts, search, seen, -, -, hpaths, hwired, -⟩ :=
    configure_wires hpass hschedule hdistinct hanswer
  have hinputs : [.ofString "tool.gradle.kts"] = scripts.map Script.path := Except.ok.inj hpaths
  rw [← hinputs] at hwired
  exact ⟨hpass, hschedule, hdistinct, hanswer, by decide +kernel, hwired⟩

end ScriptPlugins.Pass
