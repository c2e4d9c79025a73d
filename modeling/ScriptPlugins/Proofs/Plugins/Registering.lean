import ScriptPlugins.Proofs.Plugins.Continuing
import ScriptPlugins.Proofs.Plugins.Noting
import ScriptPlugins.Proofs.Plugins.Publishing

/-!
# Registering as far as it goes

Declaring goes through the scripts in their order and stops at the first that is barred: its id cannot
be told, or it is an id that is registered already. What has been registered by then are the plugins of
the scripts before it, so whether a script is barred can be told from the catalog at the start and from
the scripts in front of it.

A second run comes no further than the first script. If its plugin got into the catalog, it is taken
now, and the script knows its id whatever has become of its file.
-/

namespace ScriptPlugins

open Text

namespace Script

variable {σ α : Type} {act : Script → σ → Outcome (Script × σ) Failure α} {state : σ}
  {script later : Script} {scripts front rest : List Script} {answers : List α} {tree : Tree}
  {failure : Failure} {plugins : List Plugin}

theorem each_of_error (h : (act script state).answer = .error failure) :
    (each act (script :: rest) state).answer = .error failure ∧
      (each act (script :: rest) state).state =
        ((act script state).state.1 :: rest, (act script state).state.2) := by
  rw [each]
  simp only [h, Outcome.answer_error, Outcome.state_error, and_self]

/-- A run that gets through some scripts goes on with the others. -/
theorem each_append_of_ok (h : (each act front state).answer = .ok answers) :
    (each act (front ++ rest) state).answer =
        (each act rest (each act front state).state.2).answer.map (answers ++ ·) ∧
      (each act (front ++ rest) state).state.2 =
        (each act rest (each act front state).state.2).state.2 := by
  induction front generalizing state answers with
  | nil =>
      obtain rfl := Except.ok.inj h
      refine ⟨?_, rfl⟩
      change (each act rest state).answer = (each act rest state).answer.map fun others => others
      cases (each act rest state).answer <;> rfl
  | cons script front ih =>
      obtain ⟨answer, others, hfirst, hothers, rfl⟩ := each_cons_eq_ok_iff.1 h
      obtain ⟨hanswer, hstate⟩ := ih hothers
      rw [List.cons_append, state_each_cons hfirst, state_each_cons hfirst]
      refine ⟨?_, hstate⟩
      rw [each]
      simp only [hfirst, hanswer]
      cases (each act rest (each act front (act script state).state.2).state.2).answer <;> rfl

/-- The first script has its turn, however the run ends. -/
theorem exists_state_each_cons (act : Script → σ → Outcome (Script × σ) Failure α) (script : Script)
    (rest : List Script) (state : σ) :
    ∃ laters, (each act (script :: rest) state).state.1 = (act script state).state.1 :: laters := by
  cases hanswer : (act script state).answer with
  | error failure => exact ⟨rest, by rw [(each_of_error hanswer).2]⟩
  | ok answer => exact ⟨_, by rw [state_each_cons hanswer]⟩

theorem spaceIn_eq_error_iff : script.spaceIn tree = .error failure ↔
    script.declared = none ∧ script.load tree = .error failure := by
  rw [spaceIn]
  cases script.declared with
  | some found => simp
  | none =>
      cases script.load tree with
      | error fault => simp [Except.map]
      | ok text => simp [Except.map]

theorem load_eq_error (h : script.load tree = .error failure) :
    ∃ fault, tree.readText script.path = .error fault ∧ failure = .files script.path fault := by
  rw [load] at h
  cases htext : script.text with
  | some text =>
      rw [htext] at h
      cases h
  | none =>
      rw [htext] at h
      cases hread : tree.readText script.path with
      | ok text =>
          rw [hread] at h
          cases h
      | error fault =>
          rw [hread] at h
          exact ⟨fault, rfl, (Except.error.inj h).symm⟩

/-- An id that a script answers is the id of the plugin that it means. -/
theorem Consistent.exists_id_iff (h : script.Consistent) {id : String} :
    (∃ later, script.id tree = .ok (id, later)) ↔
      ∃ plugin, script.Means tree plugin ∧ plugin.id = id := by
  cases hspace : script.spaceIn tree with
  | error failure =>
      rw [h.id_eq_error hspace]
      constructor
      · rintro ⟨later, hlater⟩
        cases hlater
      · rintro ⟨plugin, ⟨space, hfound, -⟩, -⟩
        cases hspace.symm.trans hfound
  | ok space =>
      obtain ⟨later, hid, -⟩ := h.id_eq_ok hspace
      rw [hid]
      constructor
      · rintro ⟨last, hlast⟩
        obtain ⟨rfl, -⟩ := Prod.mk.inj (Except.ok.inj hlast)
        exact ⟨script.pluginIn space, ⟨space, hspace, rfl⟩, rfl⟩
      · rintro ⟨plugin, ⟨found, hfound, rfl⟩, rfl⟩
        obtain rfl := Except.ok.inj (hspace.symm.trans hfound)
        exact ⟨later, rfl⟩

theorem mem_ids_iff (hscripts : ∀ script ∈ scripts, script.Consistent)
    (hplugins : List.Forall₂ (Means tree) scripts plugins) {id : String} :
    id ∈ plugins.map Plugin.id ↔ ∃ script ∈ scripts, ∃ later, script.id tree = .ok (id, later) := by
  rw [List.mem_map]
  constructor
  · rintro ⟨plugin, hplugin, rfl⟩
    obtain ⟨script, hscript, hmeans⟩ := exists_means_of_mem hplugins hplugin
    exact ⟨script, hscript, (hscripts script hscript).exists_id_iff.2 ⟨plugin, hmeans, rfl⟩⟩
  · rintro ⟨script, hscript, hid⟩
    obtain ⟨plugin, hmeans, rfl⟩ := (hscripts script hscript).exists_id_iff.1 hid
    exact ⟨plugin, mem_of_means hplugins hscript hmeans, rfl⟩

/-- To ask for the plugins is to get those that the scripts mean. -/
theorem each_ask_of_means (hscripts : ∀ script ∈ scripts, script.Consistent)
    (hplugins : List.Forall₂ (Means tree) scripts plugins) (state : σ) :
    (each (ask (·.plugin tree)) scripts state).answer = .ok plugins := by
  induction hplugins generalizing state with
  | nil => rfl
  | @cons script plugin rest plugins hmeans _ ih =>
      obtain ⟨space, hspace, rfl⟩ := hmeans
      have hfirst : (ask (·.plugin tree) script state).answer = .ok (script.pluginIn space) := by
        rw [ask, (hscripts script List.mem_cons_self).plugin_notes hspace]
        rfl
      rw [each_cons_eq_ok_iff]
      exact ⟨_, plugins, hfirst,
        ih (fun other hother => hscripts other (List.mem_cons_of_mem _ hother)) _, rfl⟩

end Script

namespace Catalog

variable {catalog registered : Catalog} {script : Script} {scripts front back : List Script}
  {tree : Tree} {plugin taken : Plugin} {plugins : List Plugin} {failure : Failure}

/-- What keeps a script from being registered after those in front of it. -/
inductive Barred (tree : Tree) (catalog : Catalog) (front : List Script) (script : Script) : Prop where
  | untold {failure : Failure} (h : script.id tree = .error failure) : Barred tree catalog front script
  | taken {id : String} {later : Script} (h : script.id tree = .ok (id, later))
      (hid : id ∈ catalog.plugins.map Plugin.id) : Barred tree catalog front script
  | repeated {id : String} {later other known : Script} (h : script.id tree = .ok (id, later))
      (hother : other ∈ front) (hid : other.id tree = .ok (id, known)) :
      Barred tree catalog front script

/-- No script is barred by the catalog or by those in front of it. -/
def Free (tree : Tree) (catalog : Catalog) (scripts : List Script) : Prop :=
  ∀ front script back, scripts = front ++ script :: back → ¬Barred tree catalog front script

/-- What a script is refused with: its file cannot be read, or its id is that of a plugin that came
first. -/
inductive Refused (tree : Tree) (registered : Catalog) (script : Script) : Failure → Prop where
  | file {fault : Fault} (hdeclared : script.declared = none)
      (hread : tree.readText script.path = .error fault) :
      Refused tree registered script (.files script.path fault)
  | duplicate {id : String} {later : Script} {taken : Plugin} (hid : script.id tree = .ok (id, later))
      (htaken : registered.find? id = some taken) :
      Refused tree registered script (.duplicateId id taken.implementationClass)

theorem barred_iff (hscript : script.Consistent) (hfront : ∀ other ∈ front, other.Consistent)
    (hplugins : List.Forall₂ (Script.Means tree) front plugins) (hmeans : script.Means tree plugin) :
    Barred tree catalog front script ↔ plugin.id ∈ (catalog.plugins ++ plugins).map Plugin.id := by
  obtain ⟨later, hlater⟩ := hscript.exists_id_iff.2 ⟨plugin, hmeans, rfl⟩
  rw [List.map_append, List.mem_append, Script.mem_ids_iff hfront hplugins]
  constructor
  · intro h
    cases h with
    | untold h => cases hlater.symm.trans h
    | taken h hid =>
        obtain ⟨rfl, -⟩ := Prod.mk.inj (Except.ok.inj (hlater.symm.trans h))
        exact .inl hid
    | repeated h hother hid =>
        obtain ⟨rfl, -⟩ := Prod.mk.inj (Except.ok.inj (hlater.symm.trans h))
        exact .inr ⟨_, hother, _, hid⟩
  · rintro (hid | ⟨other, hother, known, hid⟩)
    · exact .taken hlater hid
    · exact .repeated hlater hother hid

theorem exists_means_of_not_barred (hscript : script.Consistent)
    (h : ¬Barred tree catalog front script) : ∃ plugin, script.Means tree plugin := by
  cases hspace : script.spaceIn tree with
  | error failure => exact absurd (.untold (hscript.id_eq_error hspace)) h
  | ok space => exact ⟨script.pluginIn space, space, hspace, rfl⟩

theorem exists_find?_of_mem {id : String} (h : id ∈ catalog.plugins.map Plugin.id) :
    ∃ taken, catalog.find? id = some taken := by
  rw [← Option.ne_none_iff_exists', Ne, find?_eq_none_iff]
  exact not_not_intro h

theorem declareScript_of_untold (hscript : script.Consistent)
    (h : script.spaceIn tree = .error failure) :
    (Pass.declareScript tree script catalog).Fails failure (script, catalog) := by
  rw [Pass.declareScript, hscript.plugin_eq_error h]
  exact ⟨rfl, rfl⟩

theorem declareScript_of_taken (hscript : script.Consistent) (hmeans : script.Means tree plugin)
    (h : catalog.find? plugin.id = some taken) :
    (Pass.declareScript tree script catalog).answer =
        .error (.duplicateId plugin.id taken.implementationClass) ∧
      (Pass.declareScript tree script catalog).state.2 = catalog := by
  obtain ⟨space, hspace, rfl⟩ := hmeans
  obtain ⟨hanswer, hstate⟩ := Pass.declareScript_notes hscript hspace catalog
  obtain ⟨hrefused, hkept⟩ := register_of_find?_eq_some h
  exact ⟨hanswer.trans hrefused, (congrArg Prod.snd hstate).trans hkept⟩

theorem declareScript_of_fresh (hscript : script.Consistent) (hmeans : script.Means tree plugin)
    (h : plugin.id ∉ catalog.plugins.map Plugin.id) :
    (Pass.declareScript tree script catalog).answer = .ok () ∧
      (Pass.declareScript tree script catalog).state.2 = ⟨catalog.plugins ++ [plugin]⟩ := by
  obtain ⟨space, hspace, rfl⟩ := hmeans
  obtain ⟨hanswer, hstate⟩ := Pass.declareScript_notes hscript hspace catalog
  obtain ⟨haccepted, hadded⟩ := register_of_find?_eq_none (find?_eq_none_iff.2 h)
  exact ⟨hanswer.trans haccepted, (congrArg Prod.snd hstate).trans hadded⟩

theorem free_nil : Free tree catalog [] := by
  intro front script back heq
  cases front <;> cases heq

theorem free_concat_iff : Free tree catalog (front ++ [script]) ↔
    Free tree catalog front ∧ ¬Barred tree catalog front script := by
  constructor
  · intro h
    refine ⟨?_, h front script [] rfl⟩
    rintro early other late rfl
    exact h early other (late ++ [script]) (by simp)
  · rintro ⟨hfront, hscript⟩ early other late heq
    rcases List.eq_nil_or_concat late with rfl | ⟨late, last, rfl⟩
    · obtain ⟨rfl, hlast⟩ := List.append_inj' heq rfl
      obtain rfl := List.singleton_inj.1 hlast
      exact hscript
    · rw [List.concat_eq_append, ← List.cons_append, ← List.append_assoc] at heq
      exact hfront early other late (List.append_inj' heq rfl).1

/-- A run over scripts of which none is barred registers all of them. -/
theorem each_declareScript_of_free (hscripts : ∀ script ∈ scripts, script.Consistent)
    (hfree : Free tree catalog scripts) : ∃ plugins,
      List.Forall₂ (Script.Means tree) scripts plugins ∧
      (Script.each (Pass.declareScript tree) scripts catalog).answer =
        .ok (List.replicate scripts.length ()) ∧
      (Script.each (Pass.declareScript tree) scripts catalog).state.2 =
        ⟨catalog.plugins ++ plugins⟩ := by
  induction scripts using List.reverseRecOn with
  | nil => exact ⟨[], .nil, rfl, by rw [List.append_nil]; rfl⟩
  | append_singleton front script ih =>
      have hscript := hscripts script (List.mem_append_right _ List.mem_cons_self)
      have hfront : ∀ other ∈ front, other.Consistent := fun other hother =>
        hscripts other (List.mem_append_left _ hother)
      obtain ⟨hfree, hbarred⟩ := free_concat_iff.1 hfree
      obtain ⟨plugins, hplugins, hanswer, hstate⟩ := ih hfront hfree
      obtain ⟨plugin, hmeans⟩ := exists_means_of_not_barred hscript hbarred
      rw [barred_iff hscript hfront hplugins hmeans] at hbarred
      obtain ⟨hlast, hafter⟩ :=
        @declareScript_of_fresh ⟨catalog.plugins ++ plugins⟩ script tree plugin hscript hmeans hbarred
      obtain ⟨hrun, hend⟩ := @Script.each_append_of_ok _ _ _ _ _ [script] _ hanswer
      rw [hstate] at hrun hend
      refine ⟨plugins ++ [plugin], List.rel_append hplugins (.cons hmeans .nil), ?_, ?_⟩
      · have hsingle : (Script.each (Pass.declareScript tree) [script]
            ⟨catalog.plugins ++ plugins⟩).answer = .ok [()] :=
          Script.each_cons_eq_ok_iff.2 ⟨(), [], hlast, rfl, rfl⟩
        rw [hrun, hsingle, List.length_append, List.length_singleton, ← List.replicate_append_replicate]
        rfl
      · rw [hend, Script.state_each_cons hlast, hafter, List.append_assoc]
        rfl

/-- A run stops at the first script that is barred: at its file, or at the plugin that was registered
first with its id. -/
theorem each_declareScript_of_barred (hscripts : ∀ other ∈ front ++ script :: back, other.Consistent)
    (hfree : Free tree catalog front) (hbarred : Barred tree catalog front script) :
    let outcome := Script.each (Pass.declareScript tree) (front ++ script :: back) catalog
    ∃ plugins failure, List.Forall₂ (Script.Means tree) front plugins ∧
      outcome.state.2 = ⟨catalog.plugins ++ plugins⟩ ∧ outcome.answer = .error failure ∧
      Refused tree outcome.state.2 script failure := by
  intro outcome
  have hscript := hscripts script (List.mem_append_right _ List.mem_cons_self)
  have hfront : ∀ other ∈ front, other.Consistent := fun other hother =>
    hscripts other (List.mem_append_left _ hother)
  obtain ⟨plugins, hplugins, hanswer, hstate⟩ := each_declareScript_of_free hfront hfree
  obtain ⟨hrun, hend⟩ := @Script.each_append_of_ok _ _ _ _ _ (script :: back) _ hanswer
  rw [hstate] at hrun hend
  cases hspace : script.spaceIn tree with
  | error failure =>
      obtain ⟨hfails, hsame⟩ :=
        @declareScript_of_untold ⟨catalog.plugins ++ plugins⟩ script tree failure hscript hspace
      obtain ⟨hfirst, hstops⟩ := @Script.each_of_error _ _ _ _ _ back _ hfails
      obtain ⟨hdeclared, hload⟩ := Script.spaceIn_eq_error_iff.1 hspace
      obtain ⟨fault, hread, rfl⟩ := Script.load_eq_error hload
      refine ⟨plugins, _, hplugins, ?_, ?_, .file hdeclared hread⟩
      · exact hend.trans (by rw [hstops, hsame])
      · exact hrun.trans (by rw [hfirst]; rfl)
  | ok space =>
      have hmeans : script.Means tree (script.pluginIn space) := ⟨space, hspace, rfl⟩
      obtain ⟨later, hid⟩ := hscript.exists_id_iff.2 ⟨_, hmeans, rfl⟩
      rw [barred_iff hscript hfront hplugins hmeans] at hbarred
      obtain ⟨taken, htaken⟩ := @exists_find?_of_mem ⟨catalog.plugins ++ plugins⟩ _ hbarred
      obtain ⟨hfails, hsame⟩ := declareScript_of_taken hscript hmeans htaken
      obtain ⟨hfirst, hstops⟩ := @Script.each_of_error _ _ _ _ _ back _ hfails
      have hafter : outcome.state.2 = ⟨catalog.plugins ++ plugins⟩ :=
        hend.trans (by rw [hstops, hsame])
      refine ⟨plugins, _, hplugins, hafter, ?_, .duplicate hid (hafter ▸ htaken)⟩
      exact hrun.trans (by rw [hfirst]; rfl)

/-- What has been registered once stays registered. -/
theorem mem_ids_each {id : String} (hscripts : ∀ script ∈ scripts, script.Consistent)
    (h : id ∈ catalog.plugins.map Plugin.id) : id ∈
      (Script.each (Pass.declareScript tree) scripts catalog).state.2.plugins.map Plugin.id := by
  refine @Script.each_keeps _ _ _ _ _ (fun catalog : Catalog => id ∈ catalog.plugins.map Plugin.id) h ?_
  intro script hscript catalog hid
  have hconsistent := hscripts script hscript
  cases hspace : script.spaceIn tree with
  | error failure => rwa [(declareScript_of_untold hconsistent hspace).state]
  | ok space =>
      have hmeans : script.Means tree (script.pluginIn space) := ⟨space, hspace, rfl⟩
      cases hfind : catalog.find? (script.pluginIn space).id with
      | some taken => rwa [(declareScript_of_taken hconsistent hmeans hfind).2]
      | none =>
          rw [(declareScript_of_fresh hconsistent hmeans (find?_eq_none_iff.1 hfind)).2,
            List.map_append, List.mem_append]
          exact .inl hid

end Catalog

namespace Pass

variable {pass : Pass} {script : Script} {scripts rest : List Script} {catalog : Catalog} {tree : Tree}
  {plugin : Plugin} {failure : Failure}

theorem plugins_of_find (hscripts : ∀ script ∈ scripts, script.Consistent)
    (hfind : (pass.find tree).answer = .ok scripts) {plugins : List Plugin}
    (hplugins : List.Forall₂ (Script.Means tree) scripts plugins) :
    (pass.plugins tree).answer = .ok plugins := by
  obtain ⟨hanswer, -⟩ := each_of_find hfind (Script.ask (·.plugin tree)) ()
  exact hanswer.trans (Script.each_ask_of_means hscripts hplugins ())

/-- A script that has been declared means its plugin in every tree. -/
theorem means_declareScript (hscript : script.Consistent) (hmeans : script.Means tree plugin)
    (catalog : Catalog) (now : Tree) :
    (declareScript tree script catalog).state.1.Consistent ∧
      (declareScript tree script catalog).state.1.Means now plugin := by
  obtain ⟨space, hspace, rfl⟩ := hmeans
  have hlearnt := hscript.learnt_notePlugin hspace
  rw [(declareScript_notes hscript hspace catalog).2]
  exact ⟨hlearnt.consistent, space, hlearnt.spaceIn now, rfl⟩

/-- Declared once more, the first plugin is taken. -/
theorem declare_again_of_means (hscripts : ∀ other ∈ script :: rest, other.Consistent)
    (hfind : (pass.find tree).answer = .ok (script :: rest)) (hmeans : script.Means tree plugin)
    (catalog : Catalog) (now : Tree) :
    let first := (pass.declare catalog tree).state
    ∃ taken, first.2.find? plugin.id = some taken ∧
      (first.1.declare first.2 now).answer =
        .error (.duplicateId plugin.id taken.implementationClass) ∧
      (first.1.declare first.2 now).state.2 = first.2 := by
  intro first
  have hscript := hscripts script List.mem_cons_self
  obtain ⟨-, hfirst⟩ := declare_of_find hfind catalog
  obtain ⟨laters, hlaters⟩ := Script.exists_state_each_cons (declareScript tree) script rest catalog
  have hfound : first.1.scripts = some ((declareScript tree script catalog).state.1 :: laters) := by
    rw [← hlaters]
    exact congrArg (fun state => state.1.scripts) hfirst
  have hid : plugin.id ∈ first.2.plugins.map Plugin.id := by
    rw [show first.2 = _ from congrArg Prod.snd hfirst]
    by_cases htaken : plugin.id ∈ catalog.plugins.map Plugin.id
    · exact Catalog.mem_ids_each hscripts htaken
    · obtain ⟨hanswer, hstate⟩ := Catalog.declareScript_of_fresh hscript hmeans htaken
      rw [Script.state_each_cons hanswer, hstate]
      apply Catalog.mem_ids_each fun other hother => hscripts other (List.mem_cons_of_mem _ hother)
      rw [List.map_append, List.mem_append]
      exact .inr (List.mem_singleton_self _)
  obtain ⟨taken, htaken⟩ := Catalog.exists_find?_of_mem hid
  obtain ⟨hlater, hsame⟩ := means_declareScript hscript hmeans catalog now
  obtain ⟨hanswer, hstate⟩ := Catalog.declareScript_of_taken hlater hsame htaken
  obtain ⟨hrun, hend⟩ := @Script.each_of_error _ _ _ _ _ laters _ hanswer
  obtain ⟨hagain, hafter⟩ := declare_of_find (answer_find_of_scripts hfound now) first.2
  exact ⟨taken, htaken, by rw [hagain, hrun]; rfl, by rw [hafter, hend, hstate]⟩

/-- As long as the first id cannot be told, declaring does nothing. -/
theorem declare_of_untold (hscripts : ∀ other ∈ script :: rest, other.Consistent)
    (hfind : (pass.find tree).answer = .ok (script :: rest))
    (h : script.id tree = .error failure) (catalog : Catalog) :
    (pass.declare catalog tree).answer = .error failure ∧
      (pass.declare catalog tree).state.2 = catalog ∧
      ((pass.declare catalog tree).state.1.find tree).answer = .ok (script :: rest) := by
  have hscript := hscripts script List.mem_cons_self
  have hspace : script.spaceIn tree = .error failure := by
    cases hspace : script.spaceIn tree with
    | error failed => rw [← Except.error.inj ((hscript.id_eq_error hspace).symm.trans h)]
    | ok space =>
        obtain ⟨later, hid, -⟩ := hscript.id_eq_ok hspace
        cases hid.symm.trans h
  have hfails := @Catalog.declareScript_of_untold catalog script tree failure hscript hspace
  obtain ⟨hrun, hend⟩ := @Script.each_of_error _ _ _ _ _ rest _ hfails.answer
  obtain ⟨hanswer, hstate⟩ := declare_of_find hfind catalog
  rw [hend, hfails.state] at hstate
  refine ⟨by rw [hanswer, hrun]; rfl, by rw [hstate], ?_⟩
  rw [hstate]
  exact answer_find_of_scripts rfl tree

/-- **Declaring registers a prefix.** If no script is barred, all their plugins are registered behind
those of the catalog, in order, and they are what the pass answers when it is asked for its plugins.
Otherwise it is the plugins of the scripts before the first that is barred, and the answer is why it is
refused. Declaring again fails at the first script and leaves the catalog as it is: with its id if that
could be told, in whatever tree, and else with the same failure in the same tree. -/
theorem declare_registers_until_barred (hpass : pass.Reached)
    (hfind : (pass.find tree).answer = .ok scripts) (catalog : Catalog) :
    let outcome := pass.declare catalog tree
    let later := outcome.state.1
    let registered := outcome.state.2
    (Catalog.Free tree catalog scripts → ∃ plugins, List.Forall₂ (Script.Means tree) scripts plugins ∧
      outcome.answer = .ok scripts.length ∧ registered = ⟨catalog.plugins ++ plugins⟩ ∧
      (pass.plugins tree).answer = .ok plugins) ∧
    (∀ front script back, scripts = front ++ script :: back → Catalog.Free tree catalog front →
      Catalog.Barred tree catalog front script → ∃ plugins failure,
        List.Forall₂ (Script.Means tree) front plugins ∧
        registered = ⟨catalog.plugins ++ plugins⟩ ∧ outcome.answer = .error failure ∧
        Catalog.Refused tree registered script failure) ∧
    ∀ script rest, scripts = script :: rest →
      (∀ plugin, script.Means tree plugin → ∀ now, ∃ taken, registered.find? plugin.id = some taken ∧
        (later.declare registered now).answer =
          .error (.duplicateId plugin.id taken.implementationClass) ∧
        (later.declare registered now).state.2 = registered) ∧
      ∀ failure, script.id tree = .error failure →
        (later.declare registered tree).answer = .error failure ∧
        (later.declare registered tree).state.2 = registered := by
  intro outcome later registered
  have hscripts := (hpass.find tree).sound.consistent (scripts_find hfind)
  obtain ⟨hanswer, hstate⟩ := declare_of_find hfind catalog
  have hregistered : registered = _ := congrArg Prod.snd hstate
  refine ⟨?_, ?_, ?_⟩
  · intro hfree
    obtain ⟨plugins, hplugins, hrun, hafter⟩ := Catalog.each_declareScript_of_free hscripts hfree
    refine ⟨plugins, hplugins, ?_, hregistered.trans hafter, plugins_of_find hscripts hfind hplugins⟩
    rw [hanswer, hrun, Except.map, List.length_replicate]
  · rintro front script back rfl hfree hbarred
    obtain ⟨plugins, failure, hplugins, hafter, hrun, hrefused⟩ :=
      Catalog.each_declareScript_of_barred hscripts hfree hbarred
    rw [hregistered]
    exact ⟨plugins, failure, hplugins, hafter, by rw [hanswer, hrun]; rfl, hrefused⟩
  · rintro script rest rfl
    refine ⟨fun plugin hmeans now => declare_again_of_means hscripts hfind hmeans catalog now, ?_⟩
    intro failure huntold
    obtain ⟨-, hsame, hfindAgain⟩ := declare_of_untold hscripts hfind huntold catalog
    obtain ⟨hagain, hafter, -⟩ := declare_of_untold hscripts hfindAgain huntold registered
    exact ⟨hagain, hafter⟩

/-- Three scripts of which the last two have one id: *c* in the namespace *a.b*, and *b.c* in *a*. -/
def split : Pass :=
  new .default (.ofImports []) fun _ _ _ _ =>
    (.ok (["tool.gradle.kts", "b.c.gradle.kts", "c.gradle.kts"].map Path.ofString), [])

def splitFiles : Tree :=
  ((Tree.empty.put [Utf8.ofString "home", Utf8.ofString "tool.gradle.kts"] (.file [])).put
    [Utf8.ofString "home", Utf8.ofString "b.c.gradle.kts"] (.file (Utf8.ofString "package a\n"))).put
    [Utf8.ofString "home", Utf8.ofString "c.gradle.kts"] (.file (Utf8.ofString "package a.b\n"))

theorem declare_registers_until_barred_split :
    let outcome := split.declare .empty splitFiles
    split.Reached ∧ outcome.state.2 = ⟨[⟨"tool", "Tool"⟩, ⟨"a.b.c", "BC"⟩]⟩ ∧
      outcome.answer = .error (.duplicateId "a.b.c" "BC") ∧
      ∀ now, (outcome.state.1.declare outcome.state.2 now).answer =
          .error (.duplicateId "tool" "Tool") ∧
        (outcome.state.1.declare outcome.state.2 now).state.2 = outcome.state.2 := by
  intro outcome
  let scriptAt := fun name => split.layout.scriptAt (.ofString name)
  let tool := scriptAt "tool.gradle.kts"
  let first := scriptAt "b.c.gradle.kts"
  let second := scriptAt "c.gradle.kts"
  have hpass : split.Reached := .new ..
  have hfind : (split.find splitFiles).answer = .ok [tool, first, second] := rfl
  have hconsistent : ∀ name, (scriptAt name).Consistent := fun name =>
    split.layout.consistent_scriptAt (.ofString name)
  have htool : tool.Means splitFiles ⟨"tool", "Tool"⟩ :=
    ⟨none, by decide +kernel, by decide +kernel⟩
  have hfirst : first.Means splitFiles ⟨"a.b.c", "BC"⟩ :=
    ⟨some "a", by decide +kernel, by decide +kernel⟩
  have hsecond : second.Means splitFiles ⟨"a.b.c", "C"⟩ :=
    ⟨some "a.b", by decide +kernel, by decide +kernel⟩
  have hfront : ∀ other ∈ [tool, first], other.Consistent := by
    rw [List.forall_mem_cons, List.forall_mem_singleton]
    exact ⟨hconsistent _, hconsistent _⟩
  have hfreeTool : Catalog.Free splitFiles .empty [tool] := by
    refine (@Catalog.free_concat_iff .empty tool [] splitFiles).2 ⟨Catalog.free_nil, ?_⟩
    rw [Catalog.barred_iff (hconsistent _) (List.forall_mem_nil _) .nil htool]
    decide
  have hfree : Catalog.Free splitFiles .empty [tool, first] := by
    refine (@Catalog.free_concat_iff .empty first [tool] splitFiles).2 ⟨hfreeTool, ?_⟩
    rw [Catalog.barred_iff (hconsistent _) (List.forall_mem_singleton.2 (hconsistent _))
      (.cons htool .nil) hfirst]
    decide
  have hbarred : Catalog.Barred splitFiles .empty [tool, first] second := by
    rw [Catalog.barred_iff (hconsistent _) hfront (.cons htool (.cons hfirst .nil)) hsecond]
    decide
  obtain ⟨-, hstops, hagain⟩ := declare_registers_until_barred hpass hfind .empty
  obtain ⟨plugins, failure, hplugins, hregistered, hanswer, hrefused⟩ :=
    hstops [tool, first] second [] rfl hfree hbarred
  obtain - | ⟨hmeansTool, - | ⟨hmeansFirst, - | -⟩⟩ := hplugins
  rw [hmeansTool.unique htool, hmeansFirst.unique hfirst] at hregistered
  refine ⟨hpass, hregistered, ?_, fun now => ?_⟩
  · rw [hregistered] at hrefused
    cases hrefused with
    | file hdeclared hread =>
        have htext : splitFiles.readText second.path = .ok "package a.b\n" := by decide +kernel
        cases htext.symm.trans hread
    | @duplicate id later taken hid htaken =>
        obtain ⟨plugin, hmeans, rfl⟩ := (hconsistent _).exists_id_iff.1 ⟨later, hid⟩
        rw [hmeans.unique hsecond] at hanswer htaken
        have hfound : Catalog.find? ⟨[⟨"tool", "Tool"⟩, ⟨"a.b.c", "BC"⟩]⟩ "a.b.c" =
            some ⟨"a.b.c", "BC"⟩ := by decide
        obtain rfl := Option.some.inj (hfound.symm.trans htaken)
        exact hanswer
  · obtain ⟨taken, htaken, hlast⟩ := (hagain tool [first, second] rfl).1 _ htool now
    rw [hregistered] at htaken
    have hfound : Catalog.find? ⟨[⟨"tool", "Tool"⟩, ⟨"a.b.c", "BC"⟩]⟩ "tool" =
        some ⟨"tool", "Tool"⟩ := by decide
    obtain rfl := Option.some.inj (hfound.symm.trans htaken)
    exact hlast

end Pass

end ScriptPlugins
