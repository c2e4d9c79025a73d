import ScriptPlugins.Proofs.Plugins.Memory

/-!
# Questions in any order

A script can be asked anything at any time, while its file comes, goes and changes. Each question
meets the file tree of its moment, and these trees need have nothing to do with each other. The first
question that can read the text decides every later answer, whatever was asked before and however
often that failed.
-/

namespace ScriptPlugins.Script

open Text

inductive Question where
  | space
  | id
  | implementationClass
  | compiledType
  | plugin
  deriving Repr, DecidableEq

inductive Answer where
  | space (found : Option String)
  | id (name : String)
  | implementationClass (name : String)
  | compiledType (name : String)
  | plugin (plugin : Plugin)
  deriving Repr, DecidableEq

/-- Whether the namespace matters to a question. -/
def Question.needsText : Question → Bool
  | .implementationClass => false
  | .space | .id | .compiledType | .plugin => true

/-- What comes of a question that can fail; the script stays as it is if it does. -/
def settle {α : Type} (script : Script) (wrap : α → Answer) :
    Except Failure (α × Script) → Except Failure Answer × Script
  | .ok (value, later) => (.ok (wrap value), later)
  | .error failure => (.error failure, script)

def answer (script : Script) (tree : Tree) : Question → Except Failure Answer × Script
  | .space => script.settle .space (script.namespace? tree)
  | .id => script.settle .id (script.id tree)
  | .implementationClass =>
    (.ok (.implementationClass script.implementationClass.1), script.implementationClass.2)
  | .compiledType => script.settle .compiledType (script.compiledType tree)
  | .plugin => script.settle .plugin (script.plugin tree)

abbrev Call := Tree × Question

def after (script : Script) : List Call → Script
  | [] => script
  | (tree, question) :: calls => (script.answer tree question).2.after calls

/-- The first text that questions can read. -/
def firstText (script : Script) (calls : List Call) : Option String :=
  calls.findSome? fun (tree, question) =>
    if question.needsText then (script.load tree).toOption else none

def answerIn (script : Script) (space : Option String) : Question → Answer
  | .space => .space space
  | .id => .id (qualify space script.stem)
  | .implementationClass => .implementationClass (Naming.wrapperClass script.stem)
  | .compiledType => .compiledType (qualify space (Naming.compiledClass script.fileName))
  | .plugin => .plugin ⟨qualify space script.stem, Naming.wrapperClass script.stem⟩

/-- The answer that a text stands for. -/
def answerOf (script : Script) (text : String) : Question → Answer :=
  script.answerIn (Namespace.declaredIn text script.keywords)

/-- The scripts that there can be. -/
inductive Reached : Script → Prop where
  | ofPath (path : Path) (suffix : String) : Reached (ofPath path suffix)
  | ofText (path : Path) (suffix text : String) : Reached (ofText path suffix text)
  | asked {script : Script} (h : Reached script) (tree : Tree) (question : Question) :
      Reached (script.answer tree question).2
  | withKeywords {script : Script} (h : Reached script) (keywords : List String) :
      Reached (script.withKeywords keywords)

variable {script later : Script} {tree : Tree} {question : Question} {space : Option String}
  {failure : Failure}

theorem answer_of_spaceIn_eq_error (hscript : script.Consistent)
    (h : script.spaceIn tree = .error failure) (hneeds : question.needsText = true) :
    script.answer tree question = (.error failure, script) := by
  cases question with
  | space => rw [answer, namespace?_eq_error h, settle]
  | id => rw [answer, hscript.id_eq_error h, settle]
  | implementationClass => exact Bool.noConfusion hneeds
  | compiledType => rw [answer, hscript.compiledType_eq_error h, settle]
  | plugin => rw [answer, hscript.plugin_eq_error h, settle]

theorem answer_of_spaceIn_eq_ok (hscript : script.Consistent)
    (h : script.spaceIn tree = .ok space) (hneeds : question.needsText = true) :
    ∃ later, script.answer tree question = (.ok (script.answerIn space question), later) ∧
      script.Learnt space later := by
  cases question with
  | space =>
      obtain ⟨later, hanswer, hlearnt⟩ := hscript.namespace?_eq_ok h
      exact ⟨later, by rw [answer, hanswer, settle, answerIn], hlearnt⟩
  | id =>
      obtain ⟨later, hanswer, hlearnt⟩ := hscript.id_eq_ok h
      exact ⟨later, by rw [answer, hanswer, settle, answerIn], hlearnt⟩
  | implementationClass => exact Bool.noConfusion hneeds
  | compiledType =>
      obtain ⟨later, hanswer, hlearnt⟩ := hscript.compiledType_eq_ok h
      exact ⟨later, by rw [answer, hanswer, settle, answerIn], hlearnt⟩
  | plugin =>
      obtain ⟨later, hanswer, hlearnt⟩ := hscript.plugin_eq_ok h
      exact ⟨later, by rw [answer, hanswer, settle, answerIn], hlearnt⟩

/-- Every question keeps what is kept in agreement, and the script the same but for what it
remembers. -/
theorem Consistent.answer (hscript : script.Consistent) (tree : Tree) (question : Question) :
    (script.answer tree question).2.Consistent ∧
      (script.answer tree question).2.forget = script.forget := by
  by_cases hneeds : question.needsText = true
  · cases hspace : script.spaceIn tree with
    | error failure =>
        rw [answer_of_spaceIn_eq_error hscript hspace hneeds]
        exact ⟨hscript, rfl⟩
    | ok space =>
        obtain ⟨later, hanswer, hlearnt⟩ := answer_of_spaceIn_eq_ok hscript hspace hneeds
        rw [hanswer]
        exact ⟨hlearnt.consistent, hlearnt.forget⟩
  · cases question with
    | implementationClass =>
        exact ⟨hscript.implementationClass_snd, forget_implementationClass script⟩
    | _ => exact absurd rfl hneeds

theorem Reached.consistent (h : Reached script) : script.Consistent := by
  induction h with
  | ofPath path suffix => exact consistent_ofPath path suffix
  | ofText path suffix text => exact consistent_ofText path suffix text
  | asked _ tree question ih => exact (ih.answer tree question).1
  | withKeywords _ keywords ih => exact ih.withKeywords keywords

/-- A question that needs the namespace leaves it known if it can be found out. -/
theorem declared_answer_of_needsText (hscript : script.Consistent)
    (hneeds : question.needsText = true) :
    (script.answer tree question).2.declared = (script.spaceIn tree).toOption := by
  cases hspace : script.spaceIn tree with
  | error failure =>
      rw [answer_of_spaceIn_eq_error hscript hspace hneeds]
      exact (hscript.known_eq_none hspace).1
  | ok space =>
      obtain ⟨later, hanswer, hlearnt⟩ := answer_of_spaceIn_eq_ok hscript hspace hneeds
      rw [hanswer]
      exact hlearnt.declared

theorem firstText_append (script : Script) (calls more : List Call) :
    script.firstText (calls ++ more) = (script.firstText calls).or (script.firstText more) :=
  List.findSome?_append

theorem firstText_singleton (script : Script) (tree : Tree) (question : Question) :
    script.firstText [(tree, question)] =
      if question.needsText then (script.load tree).toOption else none := by
  simp only [firstText, List.findSome?_singleton]

theorem firstText_of_forget (h : later.forget = script.forget) (calls : List Call) :
    later.firstText calls = script.firstText calls := by
  simp only [firstText, load_of_forget h]

theorem declared_answer (hscript : script.Consistent) (tree : Tree) (question : Question) :
    (script.answer tree question).2.declared =
      script.declared.or ((script.firstText [(tree, question)]).map
        (Namespace.declaredIn · script.keywords)) := by
  by_cases hneeds : question.needsText = true
  · rw [declared_answer_of_needsText hscript hneeds, toOption_spaceIn, firstText_singleton,
      if_pos hneeds]
  · cases question with
    | implementationClass =>
        rw [answer, declared_implementationClass, firstText_singleton, if_neg hneeds,
          Option.map_none, Option.or_none]
    | _ => exact absurd rfl hneeds

/-- After any questions a script knows the namespace of the first text that one could read. -/
theorem after_eq (hscript : script.Consistent) (calls : List Call) :
    (script.after calls).Consistent ∧ (script.after calls).forget = script.forget ∧
      (script.after calls).declared =
        script.declared.or ((script.firstText calls).map
          (Namespace.declaredIn · script.keywords)) := by
  induction calls generalizing script with
  | nil => exact ⟨hscript, rfl, by simp [after, firstText]⟩
  | cons call calls ih =>
      obtain ⟨tree, question⟩ := call
      obtain ⟨hconsistent, hforget⟩ := hscript.answer tree question
      obtain ⟨hlater, hlaterForget, hdeclared⟩ := ih hconsistent
      refine ⟨hlater, hlaterForget.trans hforget, ?_⟩
      have hsplit := script.firstText_append [(tree, question)] calls
      rw [List.singleton_append] at hsplit
      rw [after, hdeclared, declared_answer hscript, firstText_of_forget hforget,
        (forget_eq_iff.1 hforget).2.2.2.1, hsplit, Option.map_or, Option.or_assoc]

/-- The namespace that a question finds after others is that of the first text that they or the
question itself can read. -/
theorem toOption_spaceIn_after (hscript : script.Consistent) (hunread : script.declared = none)
    (calls : List Call) (hneeds : question.needsText = true) :
    ((script.after calls).spaceIn tree).toOption =
      (script.firstText (calls ++ [(tree, question)])).map
        (Namespace.declaredIn · script.keywords) := by
  obtain ⟨-, hforget, hdeclared⟩ := after_eq hscript calls
  rw [toOption_spaceIn, hdeclared, hunread, Option.none_or, load_of_forget hforget,
    (forget_eq_iff.1 hforget).2.2.2.1, firstText_append, firstText_singleton, if_pos hneeds,
    Option.map_or]

theorem answerIn_of_forget (h : later.forget = script.forget) (space : Option String)
    (question : Question) : later.answerIn space question = script.answerIn space question := by
  obtain ⟨-, hfile, hstem, -, -⟩ := forget_eq_iff.1 h
  cases question <;> simp only [answerIn, hfile, hstem]

theorem answer_after_of_not_needsText (hscript : script.Consistent) (calls : List Call)
    (tree : Tree) (space : Option String) (hneeds : ¬ question.needsText = true) :
    ((script.after calls).answer tree question).1 = .ok (script.answerIn space question) := by
  obtain ⟨hconsistent, hforget, -⟩ := after_eq hscript calls
  cases question with
  | implementationClass =>
      rw [answer, hconsistent.implementationClass_eq, (forget_eq_iff.1 hforget).2.2.1, answerIn]
  | _ => exact absurd rfl hneeds

theorem answer_after_of_firstText (hscript : script.Consistent) (hunread : script.declared = none)
    {calls : List Call} {text : String}
    (htext : script.firstText (calls ++ [(tree, question)]) = some text) :
    ((script.after calls).answer tree question).1 = .ok (script.answerOf text question) := by
  obtain ⟨hconsistent, hforget, -⟩ := after_eq hscript calls
  by_cases hneeds : question.needsText = true
  · have hspace : ((script.after calls).spaceIn tree).toOption =
        some (Namespace.declaredIn text script.keywords) := by
      rw [toOption_spaceIn_after hscript hunread calls hneeds, htext, Option.map_some]
    cases hfound : (script.after calls).spaceIn tree with
    | error failure => simp [hfound, Except.toOption] at hspace
    | ok space =>
        obtain rfl : space = Namespace.declaredIn text script.keywords := by
          simpa [hfound, Except.toOption] using hspace
        obtain ⟨later, hanswer, -⟩ := answer_of_spaceIn_eq_ok hconsistent hfound hneeds
        rw [hanswer, answerIn_of_forget hforget, answerOf]
  · exact answer_after_of_not_needsText hscript calls tree _ hneeds

/-- A script that came with its text never meets another. -/
theorem firstText_of_text {text : String} (htext : script.text = some text) (calls : List Call) :
    script.firstText calls = none ∨ script.firstText calls = some text := by
  have hload : ∀ tree, script.load tree = .ok text := fun tree => by rw [load, htext]
  induction calls with
  | nil => exact Or.inl rfl
  | cons call calls ih =>
      obtain ⟨tree, question⟩ := call
      have hsplit := script.firstText_append [(tree, question)] calls
      rw [List.singleton_append, firstText_singleton, hload] at hsplit
      rw [hsplit]
      by_cases hneeds : question.needsText = true
      · rw [if_pos hneeds]
        exact Or.inr rfl
      · rw [if_neg hneeds, Option.none_or]
        exact ih

theorem answer_after_of_text (hscript : script.Consistent) (hunread : script.declared = none)
    {text : String} (htext : script.text = some text) (calls : List Call) :
    ((script.after calls).answer tree question).1 = .ok (script.answerOf text question) := by
  by_cases hneeds : question.needsText = true
  · apply answer_after_of_firstText hscript hunread
    rw [firstText_append, firstText_singleton, if_pos hneeds, load, htext]
    rcases firstText_of_text htext calls with hfirst | hfirst
    · rw [hfirst]
      rfl
    · rw [hfirst]
      rfl
  · exact answer_after_of_not_needsText hscript calls tree _ hneeds

theorem answer_after_of_firstText_eq_none (hscript : script.Consistent)
    (hunread : script.declared = none) {calls : List Call}
    (htext : script.firstText (calls ++ [(tree, question)]) = none)
    (hneeds : question.needsText = true) :
    script.text = none ∧ ∃ fault, tree.readText script.path = .error fault ∧
      (script.after calls).answer tree question =
        (.error (.files script.path fault), script.after calls) := by
  obtain ⟨hconsistent, hforget, hdeclared⟩ := after_eq hscript calls
  rw [firstText_append, firstText_singleton, if_pos hneeds, Option.or_eq_none_iff] at htext
  obtain ⟨hbefore, hload⟩ := htext
  rw [hunread, hbefore] at hdeclared
  cases htext : script.text with
  | some text => simp [load, htext, Except.toOption] at hload
  | none =>
      cases hread : tree.readText script.path with
      | ok text => simp [load, htext, hread, Except.toOption] at hload
      | error fault =>
          have hload : script.load tree = .error (.files script.path fault) := by
            simp only [load, htext, hread]
          have hspace : (script.after calls).spaceIn tree = .error (.files script.path fault) := by
            rw [spaceIn, hdeclared, Option.map_none, Option.or_none, load_of_forget hforget]
            simp only [hload, Except.map]
          exact ⟨rfl, fault, rfl, answer_of_spaceIn_eq_error hconsistent hspace hneeds⟩

/-- **One reading decides.** Of a script that does not know its namespace yet, whatever has been
asked and however its file has changed in between: the class can always be told; once a question
that needs the namespace has met a text, every answer is the one which that text stands for; before
that, such a question fails with the fault of the file and leaves nothing behind; and a script that
came with its text has all its answers from the start. -/
theorem answer_after (hreached : Reached script) (hunread : script.declared = none)
    (calls : List Call) (tree : Tree) (question : Question) :
    ((script.after calls).answer tree .implementationClass).1 =
        .ok (.implementationClass (Naming.wrapperClass script.stem)) ∧
      (∀ text, script.firstText (calls ++ [(tree, question)]) = some text →
        ((script.after calls).answer tree question).1 = .ok (script.answerOf text question)) ∧
      (script.firstText (calls ++ [(tree, question)]) = none → question.needsText = true →
        script.text = none ∧ ∃ fault, tree.readText script.path = .error fault ∧
          (script.after calls).answer tree question =
            (.error (.files script.path fault), script.after calls) ∧
          (script.after calls).declared = none ∧ (script.after calls).knownId = none ∧
          (script.after calls).knownType = none) ∧
      (∀ text, script.text = some text →
        ((script.after calls).answer tree question).1 = .ok (script.answerOf text question)) := by
  have hscript := hreached.consistent
  refine ⟨?_, ?_, ?_, ?_⟩
  · exact answer_after_of_not_needsText hscript calls tree none Bool.false_ne_true
  · intro text htext
    exact answer_after_of_firstText hscript hunread htext
  · intro hnone hneeds
    obtain ⟨htext, fault, hread, hanswer⟩ :=
      answer_after_of_firstText_eq_none hscript hunread hnone hneeds
    obtain ⟨hconsistent, -, -⟩ := after_eq hscript calls
    have hspace : ((script.after calls).spaceIn tree).toOption = none := by
      rw [toOption_spaceIn_after hscript hunread calls hneeds, hnone, Option.map_none]
    cases hfound : (script.after calls).spaceIn tree with
    | ok space => simp [hfound, Except.toOption] at hspace
    | error failure =>
        exact ⟨htext, fault, hread, hanswer, hconsistent.known_eq_none hfound⟩
  · intro text htext
    exact answer_after_of_text hscript hunread htext calls

/-- The file is missing, then declares one namespace, then another and then a third. The class does
not read it, so the second is found. -/
theorem answer_after_edits :
    let script := ofPath (.ofString "x.gradle.kts") ".gradle.kts"
    let saying (text : String) : Tree := Tree.empty.put
      [Utf8.ofString "home", Utf8.ofString "x.gradle.kts"] (.file (Utf8.ofString text))
    let calls : List Call := [(Tree.empty, .id), (saying "package a", .implementationClass),
      (saying "package b", .compiledType)]
    ((script.after calls).answer (saying "package c") .id).1 = .ok (.id "b.x") := by
  intro script saying calls
  have hfirst : script.firstText (calls ++ [(saying "package c", .id)]) = some "package b" := by
    decide +kernel
  have hmeaning : script.answerOf "package b" .id = .id "b.x" := by
    decide +kernel
  obtain ⟨-, hread, -, -⟩ :=
    answer_after (.ofPath _ _) rfl calls (saying "package c") Question.id
  rw [hread _ hfirst, hmeaning]

end ScriptPlugins.Script
