import Mathlib.Data.List.Nodup
import ScriptPlugins.Proofs.Plugins.Wiring

/-!
# Arranging tasks

Putting a task before another splits the order in two and puts the task in between. From that one
fact follow all others: who is scheduled, that nobody is scheduled twice, that the rest of the order
stays, and that a pair of neighbours stays together unless the second of them is the anchor. A task
that is moved leaves its old place first, so the split is one of the order without it.

Where tasks stand and what they read and write are separate matters: an operation changes the files
of one task only.
-/

namespace ScriptPlugins

namespace Schedule

variable {schedule later : Schedule} {task anchor name first second : String}
  {order : List String} {done : Unit}

/-- The schedules that there can be. -/
inductive Reached : Schedule → Prop where
  | empty : Reached empty
  | push {schedule : Schedule} (h : Reached schedule) (task : String) :
      Reached (schedule.push task)
  | addInputs {schedule : Schedule} (h : Reached schedule) (task : String) (paths : List Path) :
      Reached (schedule.addInputs task paths)
  | addOutput {schedule : Schedule} (h : Reached schedule) (task : String) (directory : Path) :
      Reached (schedule.addOutput task directory)
  | putBefore {schedule : Schedule} (h : Reached schedule) (anchor task : String) :
      Reached (schedule.putBefore anchor task).state

theorem isScheduled_iff : schedule.isScheduled task = true ↔ task ∈ schedule.order :=
  List.contains_iff_mem

@[simp]
theorem order_addInputs (schedule : Schedule) (task : String) (paths : List Path) :
    (schedule.addInputs task paths).order = schedule.order :=
  order_update ..

@[simp]
theorem order_addOutput (schedule : Schedule) (task : String) (directory : Path) :
    (schedule.addOutput task directory).order = schedule.order :=
  order_update ..

/-- The task goes between two parts of the order, and the second starts with the anchor. -/
theorem exists_insertBefore (anchor task : String) (order : List String) :
    ∃ front back, order = front ++ back ∧ insertBefore anchor task order = front ++ task :: back ∧
      (∀ next ∈ back.head?, next = anchor) ∧ (anchor ∈ order → back.head? = some anchor) := by
  induction order with
  | nil => exact ⟨[], [], rfl, rfl, nofun, nofun⟩
  | cons name rest ih =>
      by_cases heq : name = anchor
      · subst heq
        refine ⟨[], name :: rest, rfl, ?_, ?_, fun _ => rfl⟩
        · rw [insertBefore, if_pos rfl, List.nil_append]
        · intro next hnext
          exact (Option.some.inj hnext).symm
      · obtain ⟨front, back, rfl, hinsert, hnext, hanchor⟩ := ih
        refine ⟨name :: front, back, rfl, ?_, hnext, ?_⟩
        · rw [insertBefore, if_neg heq, hinsert, List.cons_append]
        · intro hmem
          exact hanchor ((List.mem_cons.1 hmem).resolve_left (Ne.symm heq))

theorem mem_insertBefore : name ∈ insertBefore anchor task order ↔ name = task ∨ name ∈ order := by
  obtain ⟨front, back, rfl, hinsert, -, -⟩ := exists_insertBefore anchor task order
  rw [hinsert, List.mem_append, List.mem_cons, List.mem_append]
  exact or_left_comm

theorem nodup_insertBefore (h : order.Nodup) (htask : task ∉ order) :
    (insertBefore anchor task order).Nodup := by
  obtain ⟨front, back, rfl, hinsert, -, -⟩ := exists_insertBefore anchor task order
  rw [hinsert, List.nodup_middle]
  exact List.nodup_cons.2 ⟨htask, h⟩

theorem filter_insertBefore {keeps : String → Bool} (h : keeps task = false) :
    (insertBefore anchor task order).filter keeps = order.filter keeps := by
  obtain ⟨front, back, rfl, hinsert, -, -⟩ := exists_insertBefore anchor task order
  rw [hinsert, List.filter_append, List.filter_append,
    List.filter_cons_of_neg (by rw [h]; exact Bool.false_ne_true)]

theorem infix_insertBefore (h : anchor ∈ order) :
    [task, anchor] <:+: insertBefore anchor task order := by
  obtain ⟨front, back, rfl, hinsert, -, hanchor⟩ := exists_insertBefore anchor task order
  obtain ⟨rest, rfl⟩ := List.head?_eq_some_iff.1 (hanchor h)
  exact ⟨front, rest, by rw [hinsert, List.append_assoc]; rfl⟩

/-- Neighbours stay neighbours unless the second of them is the anchor. -/
theorem infix_insertBefore_of_ne (h : [first, second] <:+: order) (hne : second ≠ anchor) :
    [first, second] <:+: insertBefore anchor task order := by
  obtain ⟨front, back, rfl, hinsert, hnext, -⟩ := exists_insertBefore anchor task order
  have hfront : front <:+: front ++ task :: back := (List.prefix_append _ _).isInfix
  have hback : back <:+: front ++ task :: back :=
    ((List.suffix_cons task back).trans (List.suffix_append front _)).isInfix
  rw [hinsert]
  rcases List.infix_append_iff.1 h with hpair | hpair | ⟨left, right, hpair, hleft, hright⟩
  · exact hpair.trans hfront
  · exact hpair.trans hback
  · match left, right with
    | [], _ =>
        rw [hpair]
        exact hright.isInfix.trans hback
    | [_], [] => simp at hpair
    | [_], next :: _ =>
        -- only here would the pair be torn apart
        obtain ⟨rest, rfl⟩ := hright
        obtain ⟨-, rfl, -⟩ : first = _ ∧ second = next ∧ _ := by simpa using hpair
        exact absurd (hnext second rfl) hne
    | [left, other], _ =>
        obtain ⟨rfl, rfl, -⟩ : first = left ∧ second = other ∧ _ := by simpa using hpair
        exact hleft.isInfix.trans hfront
    | _ :: _ :: _ :: _, _ => simp at hpair

theorem infix_filter_of_ne (h : [first, second] <:+: order) (hfirst : first ≠ task)
    (hsecond : second ≠ task) : [first, second] <:+: order.filter (· != task) := by
  have hpair : [first, second].filter (· != task) = [first, second] := by
    simp [hfirst, hsecond]
  rw [← hpair]
  exact h.filter _

theorem mem_filter_ne : name ∈ order.filter (· != task) ↔ name ∈ order ∧ name ≠ task := by
  rw [List.mem_filter, bne_iff_ne]

theorem lookup_map_update (files : List (String × TaskFiles)) (task name : String)
    (change : TaskFiles → TaskFiles) :
    (files.map fun (name, files) => (name, if name = task then change files else files)).lookup name =
      (files.lookup name).map fun files => if name = task then change files else files := by
  induction files with
  | nil => rfl
  | cons item rest ih =>
      obtain ⟨key, kept⟩ := item
      rw [List.map_cons, List.lookup_cons, List.lookup_cons]
      by_cases hkey : name = key
      · subst hkey
        rw [beq_self_eq_true]
        rfl
      · rw [beq_false_of_ne hkey]
        exact ih

theorem files?_update (schedule : Schedule) (task : String) (change : TaskFiles → TaskFiles)
    (name : String) :
    (schedule.update task change).files? name =
      if name = task then some (change ((schedule.files? task).getD .none))
      else schedule.files? name := by
  rw [update]
  cases hkept : schedule.files? task with
  | none =>
      have hlookup : schedule.files.lookup task = none := hkept
      simp only [files?, List.lookup_append]
      by_cases heq : name = task
      · rw [if_pos heq, heq, hlookup]
        simp
      · rw [if_neg heq]
        simp [List.lookup_cons, beq_false_of_ne heq]
  | some kept =>
      have hlookup : schedule.files.lookup task = some kept := hkept
      simp only [files?]
      rw [lookup_map_update]
      by_cases heq : name = task
      · rw [if_pos heq, heq, hlookup]
        simp
      · simp [if_neg heq]

theorem files?_addInputs (schedule : Schedule) (task : String) (paths : List Path)
    (name : String) :
    (schedule.addInputs task paths).files? name =
      if name = task then
        let files := (schedule.files? task).getD .none
        some { files with inputs := files.inputs ++ paths }
      else schedule.files? name :=
  files?_update ..

theorem files?_addOutput (schedule : Schedule) (task : String) (directory : Path)
    (name : String) :
    (schedule.addOutput task directory).files? name =
      if name = task then
        let files := (schedule.files? task).getD .none
        some { files with outputs := files.outputs ++ [directory] }
      else schedule.files? name :=
  files?_update ..

theorem putBefore_yields_iff : (schedule.putBefore anchor task).Yields done later ↔
    anchor ∈ schedule.order ∧ later =
      { schedule.update task id with
        order := insertBefore anchor task (schedule.order.filter (· != task)) } := by
  rw [putBefore]
  by_cases hanchor : schedule.isScheduled anchor = true
  · rw [if_pos hanchor]
    constructor
    · rintro ⟨-, rfl⟩
      exact ⟨isScheduled_iff.1 hanchor, rfl⟩
    · rintro ⟨-, rfl⟩
      exact ⟨rfl, rfl⟩
  · rw [if_neg hanchor]
    constructor
    · rintro ⟨hanswer, -⟩
      cases hanswer
    · rintro ⟨hmem, -⟩
      exact absurd (isScheduled_iff.2 hmem) hanchor

theorem putBefore_yields (h : anchor ∈ schedule.order) (task : String) :
    (schedule.putBefore anchor task).Yields () (schedule.putBefore anchor task).state := by
  refine ⟨?_, rfl⟩
  exact (putBefore_yields_iff.2 ⟨h, rfl⟩).answer

theorem putBefore_of_notMem (h : anchor ∉ schedule.order) (task : String) :
    schedule.putBefore anchor task = .error (.unknownTask anchor) schedule [] := by
  rw [putBefore, if_neg fun hscheduled => h (isScheduled_iff.1 hscheduled)]

/-- Nothing leaves the order, whatever is moved and wherever it is moved to. -/
theorem mem_order_of_putBefore (h : (schedule.putBefore anchor task).Yields done later) :
    name ∈ later.order ↔ name = task ∨ name ∈ schedule.order := by
  obtain ⟨-, rfl⟩ := putBefore_yields_iff.1 h
  rw [mem_insertBefore, mem_filter_ne]
  constructor
  · rintro (htask | ⟨hname, -⟩)
    · exact .inl htask
    · exact .inr hname
  · rintro (htask | hname)
    · exact .inl htask
    · by_cases htask : name = task
      · exact .inl htask
      · exact .inr ⟨hname, htask⟩

theorem files?_of_putBefore (h : (schedule.putBefore anchor task).Yields done later)
    (name : String) :
    later.files? name =
      if name = task then some ((schedule.files? task).getD .none) else schedule.files? name := by
  obtain ⟨-, rfl⟩ := putBefore_yields_iff.1 h
  exact files?_update schedule task id name

theorem nodup_of_putBefore (h : (schedule.putBefore anchor task).Yields done later)
    (hnodup : schedule.order.Nodup) : later.order.Nodup := by
  obtain ⟨-, rfl⟩ := putBefore_yields_iff.1 h
  refine nodup_insertBefore (hnodup.filter _) ?_
  rw [mem_filter_ne]
  exact fun ⟨_, hne⟩ => hne rfl

theorem infix_of_putBefore (h : (schedule.putBefore anchor task).Yields done later)
    (hne : anchor ≠ task) : [task, anchor] <:+: later.order := by
  obtain ⟨hanchor, rfl⟩ := putBefore_yields_iff.1 h
  exact infix_insertBefore (mem_filter_ne.2 ⟨hanchor, hne⟩)

theorem infix_order_of_putBefore (h : (schedule.putBefore anchor task).Yields done later)
    (hpair : [first, second] <:+: schedule.order) (hfirst : first ≠ task)
    (hsecond : second ≠ task) (hne : second ≠ anchor) : [first, second] <:+: later.order := by
  obtain ⟨-, rfl⟩ := putBefore_yields_iff.1 h
  exact infix_insertBefore_of_ne (infix_filter_of_ne hpair hfirst hsecond) hne

/-- A task that is moved passes the others by. -/
theorem filter_order_of_putBefore {keeps : String → Bool}
    (h : (schedule.putBefore anchor task).Yields done later) (hkeeps : keeps task = false) :
    later.order.filter keeps = schedule.order.filter keeps := by
  obtain ⟨-, rfl⟩ := putBefore_yields_iff.1 h
  rw [filter_insertBefore hkeeps, List.filter_filter]
  apply List.filter_congr
  intro name _
  by_cases hname : name = task
  · rw [hname, hkeeps, Bool.false_and]
  · rw [bne_iff_ne.2 hname, Bool.and_true]

theorem Reached.nodup (h : schedule.Reached) : schedule.order.Nodup := by
  induction h with
  | empty => exact List.nodup_nil
  | @push schedule _ task ih =>
      have hnotMem : task ∉ schedule.order.filter (· != task) :=
        fun hmem => (mem_filter_ne.1 hmem).2 rfl
      exact List.nodup_append.2 ⟨ih.filter _, List.nodup_singleton task, by
        rintro name hname other hother rfl
        rw [List.mem_singleton] at hother
        exact hnotMem (hother ▸ hname)⟩
  | addInputs _ task paths ih => rwa [order_addInputs]
  | addOutput _ task directory ih => rwa [order_addOutput]
  | @putBefore schedule _ anchor task ih =>
      by_cases hanchor : anchor ∈ schedule.order
      · exact nodup_of_putBefore (putBefore_yields hanchor task) ih
      · rwa [putBefore_of_notMem hanchor task]

theorem reached_foldl_push (h : schedule.Reached) (tasks : List String) :
    (tasks.foldl push schedule).Reached := by
  induction tasks generalizing schedule with
  | nil => exact h
  | cons task rest ih => exact ih (h.push task)

theorem reached_ofTasks (tasks : List String) : (ofTasks tasks).Reached :=
  reached_foldl_push .empty tasks

theorem perm_order_of_putBefore (h : (schedule.putBefore anchor task).Yields done later)
    (hnodup : schedule.order.Nodup) (htask : task ∈ schedule.order) :
    later.order.Perm schedule.order := by
  apply (List.perm_ext_iff_of_nodup (nodup_of_putBefore h hnodup) hnodup).2
  intro name
  rw [mem_order_of_putBefore h]
  constructor
  · rintro (rfl | hname)
    · exact htask
    · exact hname
  · exact .inr

theorem files?_eq_some_of_putBefore (h : (schedule.putBefore anchor task).Yields done later)
    {files : TaskFiles} (hfiles : schedule.files? name = some files) :
    later.files? name = some files := by
  rw [files?_of_putBefore h]
  split
  next heq => rw [← heq, hfiles, Option.getD_some]
  next => exact hfiles

/-- **Moving keeps its contract.** It fails for want of an anchor only, and then nothing has
changed. Otherwise the task stands right before the anchor, and the others as before. A task that is
its own anchor is still scheduled, with the others as before. Nothing is forgotten about files. -/
theorem putBefore_contract (h : schedule.Reached) (anchor task : String) :
    let outcome := schedule.putBefore anchor task
    let later := outcome.state
    ((∃ failure, outcome.answer = .error failure) ↔ anchor ∉ schedule.order) ∧
      (anchor ∉ schedule.order →
        outcome.answer = .error (.unknownTask anchor) ∧ later = schedule) ∧
      (anchor ∈ schedule.order →
        outcome.answer = .ok () ∧ later.order.Nodup ∧
          (task ≠ anchor → [task, anchor] <:+: later.order) ∧
          (task = anchor → later.order.Perm schedule.order) ∧
          later.order.filter (· != task) = schedule.order.filter (· != task) ∧
          (∀ name files, schedule.files? name = some files → later.files? name = some files) ∧
          ∀ name, schedule.files? name = none →
            later.files? name = if name = task then some .none else none) := by
  intro outcome later
  have hfails : anchor ∉ schedule.order →
      outcome.answer = .error (.unknownTask anchor) ∧ later = schedule := by
    intro hanchor
    have hrefused : outcome = .error (.unknownTask anchor) schedule [] :=
      putBefore_of_notMem hanchor task
    exact ⟨congrArg Outcome.answer hrefused, congrArg Outcome.state hrefused⟩
  have hyields : anchor ∈ schedule.order → outcome.Yields () later :=
    fun hanchor => putBefore_yields hanchor task
  refine ⟨⟨?_, fun hanchor => ⟨_, (hfails hanchor).1⟩⟩, hfails, fun hanchor => ?_⟩
  · rintro ⟨failure, hfailure⟩ hanchor
    cases (hyields hanchor).answer.symm.trans hfailure
  · have hmoved := hyields hanchor
    refine ⟨hmoved.answer, nodup_of_putBefore hmoved h.nodup, ?_, ?_, ?_, ?_, ?_⟩
    · exact fun hne => infix_of_putBefore hmoved (Ne.symm hne)
    · rintro rfl
      exact perm_order_of_putBefore hmoved h.nodup hanchor
    · exact filter_order_of_putBefore hmoved (bne_self_eq_false task)
    · exact fun name files => files?_eq_some_of_putBefore hmoved
    · intro name hname
      rw [files?_of_putBefore hmoved, hname]
      split
      next heq => rw [← heq, hname, Option.getD_none]
      next => rfl

/-- The last task goes to the front, the first is put before itself, and a task that has files but
no place is no anchor. -/
theorem putBefore_contract_places :
    let schedule := (ofTasks ["a", "b", "c"]).addOutput "d" (.ofString "out")
    schedule.Reached ∧
      (["c", "a"] <:+: (schedule.putBefore "a" "c").state.order ∧
        (schedule.putBefore "a" "c").state.order.filter (· != "c") = ["a", "b"]) ∧
      (schedule.putBefore "a" "a").state.order.Perm ["a", "b", "c"] ∧
      (schedule.putBefore "d" "a").answer = .error (.unknownTask "d") ∧
      (schedule.putBefore "a" "d").state.files? "d" = some ⟨[], [.ofString "out"]⟩ := by
  intro schedule
  have hreached : schedule.Reached := (reached_ofTasks ["a", "b", "c"]).addOutput ..
  have hanchor : "a" ∈ schedule.order := by decide
  obtain ⟨-, -, hforward⟩ := putBefore_contract hreached "a" "c"
  obtain ⟨-, -, hitself⟩ := putBefore_contract hreached "a" "a"
  obtain ⟨-, hrefused, -⟩ := putBefore_contract hreached "d" "a"
  obtain ⟨-, -, hplaced⟩ := putBefore_contract hreached "a" "d"
  obtain ⟨-, -, hpair, -, hothers, -, -⟩ := hforward hanchor
  obtain ⟨-, -, -, hperm, -, -, -⟩ := hitself hanchor
  obtain ⟨-, -, -, -, -, hfiles, -⟩ := hplaced hanchor
  refine ⟨hreached, ⟨hpair (by decide), hothers.trans (by decide)⟩, hperm rfl, ?_, ?_⟩
  · exact (hrefused (by decide)).1
  · exact hfiles "d" _ (by decide)

end Schedule

end ScriptPlugins
