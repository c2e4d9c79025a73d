import ScriptPlugins.Proofs.Plugins.Configuring

/-!
# Operations between the phases

Configuring and finalizing take a pass from one phase to the next. All its other operations search for
the scripts, if that has not been done, and read them. So a pass goes on as `Continues` says: its
phase and what came of it stay, scripts that have been found stay found, and a script comes to declare
only what it would have been found to declare.
-/

namespace ScriptPlugins

namespace Script

variable {σ : Type} {script later last : Script} {tree : Tree} {space : Option String}

/-- What a script can become by being read. -/
structure Reads (script later : Script) : Prop where
  kept : Kept script later
  declared : later.declared = script.declared ∨
    ∃ tree space, script.spaceIn tree = .ok space ∧ later.declared = some space

theorem Consistent.reads (h : script.Consistent) : Reads script script :=
  ⟨h.kept, .inl rfl⟩

theorem Learnt.reads (h : script.Learnt space later) (hspace : script.spaceIn tree = .ok space) :
    Reads script later :=
  ⟨h.kept, .inr ⟨tree, space, hspace, h.declared⟩⟩

theorem Reads.trans (h : Reads script later) (h' : Reads later last) : Reads script last := by
  refine ⟨h.kept.trans h'.kept, ?_⟩
  rcases h'.declared with hsame | ⟨tree, space, hspace, hlast⟩
  · rw [hsame]
    exact h.declared
  · right
    rcases h.declared with hsame | ⟨seen, known, hknown, hlater⟩
    · exact ⟨tree, space, (spaceIn_congr hsame h.kept.forget tree).symm.trans hspace, hlast⟩
    · have hspaces : known = space :=
        Except.ok.inj ((spaceIn_of_declared hlater tree).symm.trans hspace)
      exact ⟨seen, known, hknown, by rw [hlast, hspaces]⟩

theorem Consulted.reads (h : Consulted tree script later) (hscript : script.Consistent) :
    Reads script later := by
  cases h with
  | untold => exact hscript.reads
  | told hspace hlearnt => exact hlearnt.reads hspace

theorem reads_answer (hscript : script.Consistent) (tree : Tree) (question : Question) :
    Reads script (script.answer tree question).2 := by
  obtain ⟨hconsistent, hforget⟩ := hscript.answer tree question
  refine ⟨⟨hconsistent, hforget⟩, ?_⟩
  by_cases hneeds : question.needsText = true
  · rw [declared_answer_of_needsText hscript hneeds]
    cases hspace : script.spaceIn tree with
    | error failure => exact .inl (hscript.known_eq_none hspace).1.symm
    | ok space => exact .inr ⟨tree, space, hspace, rfl⟩
  · left
    rw [declared_answer hscript, firstText_singleton, if_neg hneeds, Option.map_none,
      Option.or_none]

end Script

namespace Pass

variable {pass later last : Pass} {tree : Tree} {scripts : List Script}

/-- The scripts of a pass agree with themselves, if they have been found. -/
def Consistent (pass : Pass) : Prop :=
  ∀ scripts, pass.scripts = some scripts → ∀ script ∈ scripts, script.Consistent

/-- A pass and what it is after operations that belong to no phase. -/
structure Continues (pass later : Pass) : Prop where
  kept : later = { pass with scripts := later.scripts, searches := later.searches }
  known : ∀ scripts, pass.scripts = some scripts →
    ∃ laters, later.scripts = some laters ∧ List.Forall₂ Script.Reads scripts laters
  found : ∀ laters, pass.scripts = none → later.scripts = some laters →
    ∃ paths : List Path, List.Forall₂ Script.Reads (paths.map pass.layout.scriptAt) laters

theorem Consistent.forall₂_reads (h : pass.Consistent) (hfound : pass.scripts = some scripts) :
    List.Forall₂ Script.Reads scripts scripts :=
  List.forall₂_same.2 fun script hscript => (h scripts hfound script hscript).reads

theorem Consistent.continues (h : pass.Consistent) : pass.Continues pass := by
  refine ⟨rfl, fun scripts hfound => ⟨scripts, hfound, h.forall₂_reads hfound⟩, ?_⟩
  intro laters hunfound hfound
  cases hunfound.symm.trans hfound

theorem Continues.trans (h : pass.Continues later) (h' : later.Continues last) :
    pass.Continues last := by
  have hlayout : later.layout = pass.layout := by rw [h.kept]
  refine ⟨?_, ?_, ?_⟩
  · rw [h'.kept, h.kept]
  · intro scripts hfound
    obtain ⟨laters, hlaters, hreads⟩ := h.known scripts hfound
    obtain ⟨lasts, hlasts, hreads'⟩ := h'.known laters hlaters
    exact ⟨lasts, hlasts, Script.forall₂_trans (fun _ _ _ h h' => h.trans h') hreads hreads'⟩
  · intro lasts hunfound hlasts
    cases hlaters : later.scripts with
    | none =>
        rw [← hlayout]
        exact h'.found lasts hlaters hlasts
    | some laters =>
        obtain ⟨paths, hreads⟩ := h.found laters hunfound hlaters
        obtain ⟨others, hothers, hreads'⟩ := h'.known laters hlaters
        obtain rfl := Option.some.inj (hothers.symm.trans hlasts)
        exact ⟨paths, Script.forall₂_trans (fun _ _ _ h h' => h.trans h') hreads hreads'⟩

theorem Continues.consistent (h : pass.Continues later) : later.Consistent := by
  intro laters hlaters script hscript
  cases hfound : pass.scripts with
  | some scripts =>
      obtain ⟨others, hothers, hreads⟩ := h.known scripts hfound
      obtain rfl := Option.some.inj (hothers.symm.trans hlaters)
      obtain ⟨_, -, hread⟩ := Script.exists_of_forall₂ hreads hscript
      exact hread.kept.consistent
  | none =>
      obtain ⟨paths, hreads⟩ := h.found laters hfound hlaters
      obtain ⟨_, -, hread⟩ := Script.exists_of_forall₂ hreads hscript
      exact hread.kept.consistent

/-- Scripts that have been found may be read. -/
theorem Consistent.continues_of_reads (hfound : pass.scripts = some scripts)
    {laters : List Script} (hreads : List.Forall₂ Script.Reads scripts laters) :
    pass.Continues { pass with scripts := some laters } := by
  refine ⟨rfl, ?_, ?_⟩
  · intro others hothers
    obtain rfl := Option.some.inj (hfound.symm.trans hothers)
    exact ⟨laters, rfl, hreads⟩
  · intro others hunfound
    cases hunfound.symm.trans hfound

theorem Consistent.find (h : pass.Consistent) (tree : Tree) :
    pass.Continues (pass.find tree).state := by
  cases hfound : pass.scripts with
  | some scripts =>
      rw [find_of_scripts hfound]
      exact h.continues
  | none =>
      rw [find_of_unfound hfound]
      rcases pass.source pass.searches pass.layout.sourceRoot pass.layout.scriptPattern tree
        with ⟨answer, events⟩
      cases answer with
      | error failure =>
          refine ⟨rfl, fun scripts hscripts => ?_, fun laters _ hlaters => ?_⟩
          · cases hfound.symm.trans hscripts
          · cases hfound.symm.trans hlaters
      | ok paths =>
          refine ⟨rfl, fun scripts hscripts => ?_, ?_⟩
          · cases hfound.symm.trans hscripts
          · rintro _ - ⟨⟩
            refine ⟨paths, List.forall₂_same.2 ?_⟩
            intro script hscript
            obtain ⟨path, -, rfl⟩ := List.mem_map.1 hscript
            exact (pass.layout.consistent_scriptAt path).reads

variable {σ α β : Type}

/-- An action that goes on after another continues if both do. -/
theorem continues_andThen {outcome : Outcome (Pass × σ) Failure α}
    {next : α → Pass × σ → Outcome (Pass × σ) Failure β} (h : pass.Continues outcome.state.1)
    (hnext : ∀ (a : α) (state : Pass × σ), state.1.Consistent →
      state.1.Continues (next a state).state.1) :
    pass.Continues (outcome.andThen next).state.1 :=
  @Outcome.andThen_keeps _ _ _ _ (fun state : Pass × σ => pass.Continues state.1) _ _ h
    fun a state hstate => hstate.trans (hnext a state hstate.consistent)

theorem Consistent.each {act : Script → σ → Outcome (Script × σ) Failure α} (h : pass.Consistent)
    (hact : ∀ script state, script.Consistent → Script.Reads script (act script state).state.1)
    (tree : Tree) (state : σ) : pass.Continues (pass.each act tree state).state.1 := by
  have hfind := h.find tree
  rw [Pass.each]
  cases hanswer : ((pass.find tree).onState (·, state)).answer with
  | error failure =>
      rw [(Outcome.andThen_of_error hanswer).2]
      exact hfind
  | ok scripts =>
      have hscripts := scripts_find hanswer
      rw [(Outcome.andThen_of_ok hanswer).2]
      exact hfind.trans (Consistent.continues_of_reads hscripts (Script.forall₂_each
        (fun _ => Script.Consistent.reads) hact (hfind.consistent scripts hscripts) state))

theorem Consistent.plugins (h : pass.Consistent) (tree : Tree) :
    pass.Continues (pass.plugins tree).state :=
  h.each (fun _ state hscript => (Script.consulted_ask_plugin hscript tree state).reads hscript) tree ()

theorem Consistent.wrapperPaths (h : pass.Consistent) (tree : Tree) :
    pass.Continues (pass.wrapperPaths tree).state :=
  Outcome.andThen_keeps (h.find tree) fun _ _ hpass => hpass

theorem Consistent.generate (h : pass.Consistent) (tree : Tree) :
    pass.Continues (pass.generate tree).state.1 := by
  refine continues_andThen (h.find tree) ?_
  intro _ state hfound
  refine continues_andThen hfound.continues ?_
  rintro _ ⟨cleared, tree⟩ hcleared
  refine continues_andThen (hcleared.each ?_ tree tree) fun _ _ hlater => hlater.continues
  exact fun _ tree hscript => (Script.consulted_writeWrapper _ hscript tree).reads hscript

theorem Consistent.declare (h : pass.Consistent) (catalog : Catalog) (tree : Tree) :
    pass.Continues (pass.declare catalog tree).state.1 := by
  refine continues_andThen (h.each ?_ tree catalog) fun _ _ hlater => hlater.continues
  exact fun _ catalog hscript => (Script.consulted_declareScript hscript tree catalog).reads hscript

theorem Consistent.execute (h : pass.Consistent) (task : String) (catalog : Catalog)
    (tree : Tree) : pass.Continues (pass.execute task catalog tree).state.1 := by
  rw [Pass.execute]
  by_cases hgenerate : task = pass.layout.tasks.generate
  · rw [if_pos hgenerate]
    exact continues_andThen (h.generate tree) fun _ _ hlater => hlater.continues
  · rw [if_neg hgenerate]
    by_cases hdeclare : task = pass.layout.tasks.declare
    · rw [if_pos hdeclare]
      exact continues_andThen (h.declare catalog tree) fun _ _ hlater => hlater.continues
    · rw [if_neg hdeclare]
      exact h.continues

end Pass

end ScriptPlugins
