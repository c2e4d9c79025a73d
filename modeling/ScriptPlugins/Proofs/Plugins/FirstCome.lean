import ScriptPlugins.Proofs.Plugins.Containment

/-!
# First come, first served

A catalog is filled by one registration after another, and one that is refused does not keep the
next from being made. Whatever ids come in whatever order, the first plugin that is registered under
an id has it for good. A look-up finds this plugin, and every later registration under the id is
refused with its class. The induction is over catalogs that have plugins already: these have come
before all others.
-/

namespace ScriptPlugins.Catalog

variable {catalog : Catalog}

/-- One registration after another, with the answer to each of them. -/
def registerAll (catalog : Catalog) : List Plugin → List (Except Failure Unit) × Catalog
  | [] => ([], catalog)
  | plugin :: rest =>
    let outcome := catalog.register plugin
    let others := outcome.state.registerAll rest
    (outcome.answer :: others.1, others.2)

/-- The plugins whose registration has been answered with a success. -/
def accepted (plugins : List Plugin) (answers : List (Except Failure Unit)) : List Plugin :=
  ((plugins.zip answers).filter (·.2.isOk)).map Prod.fst

/-- An id that has a plugin keeps it, and only the id of the new plugin can get one. -/
theorem find?_register (catalog : Catalog) (plugin : Plugin) (id : String) :
    (catalog.register plugin).state.find? id =
      (catalog.find? id).or ([plugin].find? (·.id == id)) := by
  cases hfind : catalog.find? plugin.id with
  | none =>
      rw [(register_of_find?_eq_none hfind).state]
      exact List.find?_append
  | some taken =>
      rw [(register_of_find?_eq_some hfind).state]
      by_cases hid : plugin.id = id
      · rw [← hid, hfind, Option.some_or]
      · rw [List.find?_singleton, if_neg (by rwa [beq_iff_eq]), Option.or_none]

theorem registerAll_append (catalog : Catalog) (plugins more : List Plugin) :
    catalog.registerAll (plugins ++ more) =
      ((catalog.registerAll plugins).1 ++ ((catalog.registerAll plugins).2.registerAll more).1,
        ((catalog.registerAll plugins).2.registerAll more).2) := by
  induction plugins generalizing catalog with
  | nil => rfl
  | cons plugin rest ih =>
      rw [List.cons_append, registerAll, registerAll, ih]
      rfl

theorem length_registerAll (catalog : Catalog) (plugins : List Plugin) :
    (catalog.registerAll plugins).1.length = plugins.length := by
  induction plugins generalizing catalog with
  | nil => rfl
  | cons plugin rest ih => rw [registerAll, List.length_cons, List.length_cons, ih]

theorem Reached.registerAll (h : catalog.Reached) (plugins : List Plugin) :
    (catalog.registerAll plugins).2.Reached := by
  induction plugins generalizing catalog with
  | nil => exact h
  | cons plugin rest ih => exact ih (h.register plugin)

theorem find?_registerAll (catalog : Catalog) (plugins : List Plugin) (id : String) :
    (catalog.registerAll plugins).2.find? id =
      (catalog.find? id).or (plugins.find? (·.id == id)) := by
  induction plugins generalizing catalog with
  | nil => exact Option.or_none.symm
  | cons plugin rest ih =>
      rw [registerAll, ih, find?_register, Option.or_assoc, ← List.find?_append,
        List.singleton_append]

theorem find?_registerAll_empty (plugins : List Plugin) (id : String) :
    (empty.registerAll plugins).2.find? id = plugins.find? (·.id == id) :=
  find?_registerAll empty plugins id

theorem plugins_registerAll (catalog : Catalog) (plugins : List Plugin) :
    (catalog.registerAll plugins).2.plugins =
      catalog.plugins ++ accepted plugins (catalog.registerAll plugins).1 := by
  induction plugins generalizing catalog with
  | nil => exact (List.append_nil _).symm
  | cons plugin rest ih =>
      rw [registerAll, ih]
      cases hfind : catalog.find? plugin.id with
      | none =>
          obtain ⟨hanswer, hstate⟩ := register_of_find?_eq_none hfind
          rw [hanswer, hstate, List.append_assoc]
          rfl
      | some taken =>
          obtain ⟨hanswer, hstate⟩ := register_of_find?_eq_some hfind
          rw [hanswer, hstate]
          rfl

/-- What comes of a registration can be told from those before it, whatever came of them. -/
theorem register_after (front : List Plugin) (plugin : Plugin) :
    let before := (empty.registerAll front).2
    let outcome := before.register plugin
    (outcome.answer = .ok () ↔ ∀ earlier ∈ front, earlier.id ≠ plugin.id) ∧
      (outcome.answer ≠ .ok () → ∃ first, front.find? (·.id == plugin.id) = some first ∧
        outcome.Fails (.duplicateId plugin.id first.implementationClass) before) := by
  intro before outcome
  have hfound : before.find? plugin.id = front.find? (·.id == plugin.id) :=
    find?_registerAll_empty front plugin.id
  cases hfirst : front.find? (·.id == plugin.id) with
  | none =>
      have hyields := register_of_find?_eq_none (hfound.trans hfirst)
      have hfresh : ∀ earlier ∈ front, earlier.id ≠ plugin.id := by
        simpa using hfirst
      exact ⟨iff_of_true hyields.answer hfresh, fun hrefused => absurd hyields.answer hrefused⟩
  | some first =>
      have hfails := register_of_find?_eq_some (hfound.trans hfirst)
      have hrefused : outcome.answer ≠ .ok () := by
        rw [hfails.answer]
        nofun
      have hid : (first.id == plugin.id) = true :=
        List.find?_some (p := fun earlier : Plugin => earlier.id == plugin.id) hfirst
      refine ⟨iff_of_false hrefused fun hfresh => ?_, fun _ => ⟨first, rfl, hfails⟩⟩
      exact hfresh first (List.mem_of_find?_eq_some hfirst) (beq_iff_eq.1 hid)

theorem getElem?_registerAll (front : List Plugin) (plugin : Plugin) (back : List Plugin) :
    (empty.registerAll (front ++ plugin :: back)).1[front.length]? =
      some ((empty.registerAll front).2.register plugin).answer := by
  have hanswers := congrArg Prod.fst (registerAll_append empty front (plugin :: back))
  rw [hanswers, List.getElem?_append_right (length_registerAll ..).le, length_registerAll,
    Nat.sub_self]
  rfl

/-- **First come, first served.** Of any run of registrations, those succeed whose id has not come
before. The catalog holds their plugins in this order, no id twice, and finds the first plugin of
each id. Every other registration is refused with the class of the first, and changes nothing. -/
theorem registerAll_serves_first (plugins : List Plugin) :
    let run := empty.registerAll plugins
    (∀ front plugin back, plugins = front ++ plugin :: back →
        let before := (empty.registerAll front).2
        let outcome := before.register plugin
        run.1[front.length]? = some outcome.answer ∧
          (outcome.answer = .ok () ↔ ∀ earlier ∈ front, earlier.id ≠ plugin.id) ∧
          (outcome.answer ≠ .ok () → ∃ first, front.find? (·.id == plugin.id) = some first ∧
            outcome.Fails (.duplicateId plugin.id first.implementationClass) before)) ∧
      run.1.length = plugins.length ∧
      run.2.plugins = accepted plugins run.1 ∧
      (run.2.plugins.map Plugin.id).Nodup ∧
      ∀ id, run.2.find? id = plugins.find? (·.id == id) := by
  intro run
  refine ⟨?_, length_registerAll .., plugins_registerAll .., ?_, find?_registerAll_empty plugins⟩
  · rintro front plugin back rfl
    exact ⟨getElem?_registerAll front plugin back, register_after front plugin⟩
  · exact (Reached.empty.registerAll plugins).nodup

/-- An id that comes again with another class, and a class that comes again with another id. -/
theorem registerAll_serves_first_again :
    let plugins : List Plugin := [⟨"a", "A"⟩, ⟨"b", "B"⟩, ⟨"a", "Other"⟩, ⟨"c", "A"⟩]
    let run := empty.registerAll plugins
    run.1[2]? = some (.error (.duplicateId "a" "A")) ∧
      run.2.plugins = [⟨"a", "A"⟩, ⟨"b", "B"⟩, ⟨"c", "A"⟩] ∧
      run.2.find? "a" = some ⟨"a", "A"⟩ := by
  intro plugins run
  obtain ⟨heach, -, hplugins, -, hfind⟩ := registerAll_serves_first plugins
  obtain ⟨hanswer, -, hrefused⟩ := heach [⟨"a", "A"⟩, ⟨"b", "B"⟩] ⟨"a", "Other"⟩ [⟨"c", "A"⟩] rfl
  obtain ⟨first, hfirst, hfails⟩ := hrefused nofun
  obtain rfl : (⟨"a", "A"⟩ : Plugin) = first := Option.some.inj hfirst
  refine ⟨?_, hplugins.trans (by decide), (hfind "a").trans (by decide)⟩
  rw [← hfails.answer]
  exact hanswer

end ScriptPlugins.Catalog
