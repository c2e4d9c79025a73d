import Mathlib.Data.List.Forall2
import ScriptPlugins.Proofs.Log.Outcome
import ScriptPlugins.Proofs.Plugins.Memory

/-!
# Going through the scripts

An action on each script succeeds if it succeeds on every one, in the state that the scripts before
have left. What one action keeps, all of them keep, whether they succeed or not.

Every pass through the scripts of a project comes to the same plugins: those that the namespaces say
which the scripts have in one tree. So two passes need not be compared with one another, only each
of them with `Means`.
-/

namespace ScriptPlugins.Script

variable {σ α : Type} {act : Script → σ → Outcome (Script × σ) Failure α}
  {script later : Script} {scripts rest : List Script} {state : σ} {answers : List α}
  {tree : Tree} {space : Option String}

theorem each_cons_eq_ok_iff :
    (each act (script :: rest) state).answer = .ok answers ↔
      ∃ answer others, (act script state).answer = .ok answer ∧
        (each act rest (act script state).state.2).answer = .ok others ∧
        answers = answer :: others := by
  rw [each]
  cases hfirst : (act script state).answer with
  | error failure => simp
  | ok answer =>
      cases hrest : (each act rest (act script state).state.2).answer with
      | error failure => simp [hrest, Except.map]
      | ok others => simp [hrest, Except.map, eq_comm]

theorem state_each_cons {answer : α} (h : (act script state).answer = .ok answer) :
    (each act (script :: rest) state).state =
      ((act script state).state.1 :: (each act rest (act script state).state.2).state.1,
        (each act rest (act script state).state.2).state.2) := by
  simp [each, h]

/-- What comes out of one list element by element comes from an element of the other. -/
theorem exists_of_forall₂ {β γ : Type} {related : β → γ → Prop} {sources : List β}
    {results : List γ} {result : γ} (h : List.Forall₂ related sources results)
    (hresult : result ∈ results) : ∃ source ∈ sources, related source result := by
  induction h with
  | nil => cases hresult
  | cons hfirst _ ih =>
      rcases List.mem_cons.1 hresult with rfl | hresult
      · exact ⟨_, List.mem_cons_self, hfirst⟩
      · obtain ⟨source, hsource, hother⟩ := ih hresult
        exact ⟨source, List.mem_cons_of_mem _ hsource, hother⟩

/-- A run keeps what every action keeps. -/
theorem each_keeps {P : σ → Prop} (hstate : P state)
    (hact : ∀ script ∈ scripts, ∀ state, P state → P (act script state).state.2) :
    P (each act scripts state).state.2 := by
  induction scripts generalizing state with
  | nil => exact hstate
  | cons script rest ih =>
      have hfirst := hact script List.mem_cons_self state hstate
      rw [each]
      cases hanswer : (act script state).answer with
      | error failure => exact hfirst
      | ok answer =>
          exact ih hfirst fun other hother => hact other (List.mem_cons_of_mem _ hother)

/-- A run gets through all scripts, or it stops at one: those before it are done, and those after it
are as they were. -/
theorem each_cases (act : Script → σ → Outcome (Script × σ) Failure α) (scripts : List Script)
    (state : σ) : (∃ answers, (each act scripts state).answer = .ok answers) ∨
      ∃ front script back answers failure, scripts = front ++ script :: back ∧
        (each act front state).answer = .ok answers ∧
        (act script (each act front state).state.2).answer = .error failure ∧
        (each act scripts state).answer = .error failure ∧
        (each act scripts state).state =
          ((each act front state).state.1 ++
              (act script (each act front state).state.2).state.1 :: back,
            (act script (each act front state).state.2).state.2) := by
  induction scripts generalizing state with
  | nil => exact .inl ⟨[], rfl⟩
  | cons script rest ih =>
      cases hfirst : (act script state).answer with
      | error failure =>
          have hstops : each act (script :: rest) state = .error failure
              ((act script state).state.1 :: rest, (act script state).state.2)
              (act script state).events := by
            rw [each]
            simp only [hfirst]
          rw [hstops]
          exact .inr ⟨[], script, rest, [], failure, rfl, rfl, hfirst, rfl, rfl⟩
      | ok answer =>
          rcases ih (act script state).state.2 with ⟨answers, hrest⟩ | ⟨front, other, back, answers,
            failure, rfl, hfront, hother, hanswer, hstate⟩
          · exact .inl ⟨answer :: answers, each_cons_eq_ok_iff.2 ⟨answer, answers, hfirst, hrest, rfl⟩⟩
          · refine .inr ⟨script :: front, other, back, answer :: answers, failure, rfl,
              each_cons_eq_ok_iff.2 ⟨answer, answers, hfirst, hfront, rfl⟩, ?_⟩
            rw [state_each_cons hfirst, state_each_cons hfirst, hstate]
            refine ⟨hother, ?_, rfl⟩
            rw [each]
            simp only [hfirst, hanswer, Except.map]

def pluginIn (script : Script) (space : Option String) : Plugin :=
  ⟨qualify space script.stem, Naming.wrapperClass script.stem⟩

/-- Which plugin a script in a tree means. -/
def Means (tree : Tree) (script : Script) (plugin : Plugin) : Prop :=
  ∃ space, script.spaceIn tree = .ok space ∧ plugin = script.pluginIn space

theorem exists_means_of_mem {plugin : Plugin} {plugins : List Plugin}
    (h : List.Forall₂ (Means tree) scripts plugins) (hplugin : plugin ∈ plugins) :
    ∃ script ∈ scripts, script.Means tree plugin :=
  exists_of_forall₂ h hplugin

theorem Means.unique {plugin other : Plugin} (h : script.Means tree plugin)
    (h' : script.Means tree other) : plugin = other := by
  obtain ⟨space, hspace, rfl⟩ := h
  obtain ⟨found, hfound, rfl⟩ := h'
  rw [Except.ok.inj (hspace.symm.trans hfound)]

theorem mem_of_means {plugin : Plugin} {plugins : List Plugin}
    (h : List.Forall₂ (Means tree) scripts plugins) (hscript : script ∈ scripts)
    (hmeans : script.Means tree plugin) : plugin ∈ plugins := by
  obtain ⟨found, hfound, hsame⟩ := exists_of_forall₂ h.flip hscript
  rwa [hmeans.unique hsame]

/-- Scripts whose plugins all have ids of their own do not share one. -/
theorem id_ne_of_means {first second : Script} {plugin other : Plugin} {plugins : List Plugin}
    (h : List.Forall₂ (Means tree) scripts plugins) (hnodup : (plugins.map Plugin.id).Nodup)
    (hscripts : [first, second].Sublist scripts) (hfirst : first.Means tree plugin)
    (hsecond : second.Means tree other) : plugin.id ≠ other.id := by
  induction h with
  | nil => cases hscripts
  | cons hmeans hrest ih =>
      obtain ⟨hfresh, hnodup⟩ := List.nodup_cons.1 hnodup
      cases hscripts with
      | cons _ hscripts => exact ih hnodup hscripts
      | cons_cons _ hscripts =>
          have hmem := mem_of_means hrest (List.singleton_sublist.1 hscripts) hsecond
          rw [hfirst.unique hmeans]
          intro hid
          exact hfresh (hid ▸ List.mem_map_of_mem hmem)

/-- A script that has found out its namespace means one plugin from then on. -/
theorem Learnt.means (h : script.Learnt space later) {plugin : Plugin}
    (hmeans : later.Means tree plugin) : plugin = script.pluginIn space := by
  obtain ⟨found, hfound, rfl⟩ := hmeans
  obtain rfl : space = found := Except.ok.inj ((h.spaceIn tree).symm.trans hfound)
  rw [pluginIn, pluginIn, (forget_eq_iff.1 h.forget).2.2.1]

end ScriptPlugins.Script
