import ScriptPlugins.Log.Event

/-!
# One action after another

An action that goes on after another succeeds only if both do, and what it leaves is what the second
leaves. If it fails, one of the two has failed, and it leaves what that one leaves.
-/

namespace ScriptPlugins

theorem bind_eq_ok_iff {ε α β : Type} {answer : Except ε α} {next : α → Except ε β} {b : β} :
    answer >>= next = .ok b ↔ ∃ a, answer = .ok a ∧ next a = .ok b := by
  cases answer <;> simp [bind, Except.bind]

namespace Outcome

variable {σ τ ε δ α β : Type}

@[simp]
theorem answer_ok (answer : α) (state : σ) (events : List Event) :
    (ok answer state events : Outcome σ ε α).answer = .ok answer :=
  rfl

@[simp]
theorem state_ok (answer : α) (state : σ) (events : List Event) :
    (ok answer state events : Outcome σ ε α).state = state :=
  rfl

@[simp]
theorem answer_error (failure : ε) (state : σ) (events : List Event) :
    (error failure state events : Outcome σ ε α).answer = .error failure :=
  rfl

@[simp]
theorem state_error (failure : ε) (state : σ) (events : List Event) :
    (error failure state events : Outcome σ ε α).state = state :=
  rfl

@[simp]
theorem answer_onState (outcome : Outcome σ ε α) (f : σ → τ) :
    (outcome.onState f).answer = outcome.answer :=
  rfl

@[simp]
theorem state_onState (outcome : Outcome σ ε α) (f : σ → τ) :
    (outcome.onState f).state = f outcome.state :=
  rfl

@[simp]
theorem state_onError (outcome : Outcome σ ε α) (f : ε → δ) :
    (outcome.onError f).state = outcome.state :=
  rfl

theorem answer_onError_eq_ok_iff {outcome : Outcome σ ε α} {f : ε → δ} {a : α} :
    (outcome.onError f).answer = .ok a ↔ outcome.answer = .ok a := by
  change outcome.answer.mapError f = .ok a ↔ outcome.answer = .ok a
  cases outcome.answer with
  | error failure => exact ⟨nofun, nofun⟩
  | ok answer =>
      change Except.ok answer = .ok a ↔ Except.ok answer = .ok a
      rw [Except.ok.injEq, Except.ok.injEq]

theorem answer_onError_of_error {outcome : Outcome σ ε α} {f : ε → δ} {failure : ε}
    (h : outcome.answer = .error failure) : (outcome.onError f).answer = .error (f failure) := by
  change outcome.answer.mapError f = .error (f failure)
  rw [h]
  rfl

theorem andThen_of_ok {outcome : Outcome σ ε α} {next : α → σ → Outcome σ ε β} {a : α}
    (h : outcome.answer = .ok a) :
    (outcome.andThen next).answer = (next a outcome.state).answer ∧
      (outcome.andThen next).state = (next a outcome.state).state := by
  simp [andThen, h]

theorem andThen_of_error {outcome : Outcome σ ε α} {next : α → σ → Outcome σ ε β} {failure : ε}
    (h : outcome.answer = .error failure) :
    (outcome.andThen next).answer = .error failure ∧
      (outcome.andThen next).state = outcome.state := by
  simp [andThen, h]

/-- To add a remark to a success and say it in another way changes nothing else. -/
theorem andThen_ok (outcome : Outcome σ ε α) (f : α → β) (events : List Event) :
    (outcome.andThen fun a state => .ok (f a) state events).answer = outcome.answer.map f ∧
      (outcome.andThen fun a state => .ok (f a) state events).state = outcome.state := by
  cases h : outcome.answer with
  | error failure => exact andThen_of_error h
  | ok a => exact andThen_of_ok h

/-- What is only said after a success is of no matter for how the action ends. -/
theorem andThen_said {outcome : Outcome σ ε α} {next : α → σ → Outcome σ ε β}
    (hnext : ∀ a state, ∃ b events, next a state = .ok b state events) :
    (outcome.andThen next).answer.map (fun _ => ()) = outcome.answer.map (fun _ => ()) ∧
      (outcome.andThen next).state = outcome.state := by
  cases h : outcome.answer with
  | error failure =>
      obtain ⟨hanswer, hstate⟩ := @andThen_of_error _ _ _ _ outcome next failure h
      exact ⟨congrArg _ hanswer, hstate⟩
  | ok a =>
      obtain ⟨hanswer, hstate⟩ := @andThen_of_ok _ _ _ _ outcome next a h
      obtain ⟨b, events, hsaid⟩ := hnext a outcome.state
      rw [hanswer, hstate, hsaid]
      exact ⟨rfl, rfl⟩

theorem andThen_eq_ok_iff {outcome : Outcome σ ε α} {next : α → σ → Outcome σ ε β} {b : β} :
    (outcome.andThen next).answer = .ok b ↔
      ∃ a, outcome.answer = .ok a ∧ (next a outcome.state).answer = .ok b := by
  cases h : outcome.answer <;> simp [andThen, h]

/-- What both actions keep is kept, however they end. -/
theorem andThen_keeps {P : σ → Prop} {outcome : Outcome σ ε α} {next : α → σ → Outcome σ ε β}
    (hfirst : P outcome.state) (hnext : ∀ a state, P state → P (next a state).state) :
    P (outcome.andThen next).state := by
  cases h : outcome.answer with
  | error failure =>
      rw [(andThen_of_error h).2]
      exact hfirst
  | ok a =>
      rw [(andThen_of_ok h).2]
      exact hnext a outcome.state hfirst

/-- The action succeeds, and this is how it leaves things. -/
structure Yields (outcome : Outcome σ ε α) (a : α) (state : σ) : Prop where
  answer : outcome.answer = .ok a
  state : outcome.state = state

theorem yields_of_answer {outcome : Outcome σ ε α} {a : α} (h : outcome.answer = .ok a) :
    outcome.Yields a outcome.state :=
  ⟨h, rfl⟩

theorem yields_onState_iff {outcome : Outcome σ ε α} {f : σ → τ} {a : α} {state : τ} :
    (outcome.onState f).Yields a state ↔ ∃ before, outcome.Yields a before ∧ f before = state := by
  constructor
  · rintro ⟨hanswer, hstate⟩
    exact ⟨outcome.state, ⟨hanswer, rfl⟩, hstate⟩
  · rintro ⟨before, ⟨hanswer, rfl⟩, hstate⟩
    exact ⟨hanswer, hstate⟩

theorem yields_onError_iff {outcome : Outcome σ ε α} {f : ε → δ} {a : α} {state : σ} :
    (outcome.onError f).Yields a state ↔ outcome.Yields a state := by
  constructor
  · rintro ⟨hanswer, hstate⟩
    exact ⟨answer_onError_eq_ok_iff.1 hanswer, hstate⟩
  · rintro ⟨hanswer, hstate⟩
    exact ⟨answer_onError_eq_ok_iff.2 hanswer, hstate⟩

theorem yields_andThen_iff {outcome : Outcome σ ε α} {next : α → σ → Outcome σ ε β} {b : β}
    {state : σ} :
    (outcome.andThen next).Yields b state ↔
      ∃ a middle, outcome.Yields a middle ∧ (next a middle).Yields b state := by
  constructor
  · rintro ⟨hanswer, hstate⟩
    obtain ⟨a, hfirst, hnext⟩ := andThen_eq_ok_iff.1 hanswer
    rw [(andThen_of_ok hfirst).2] at hstate
    exact ⟨a, outcome.state, ⟨hfirst, rfl⟩, ⟨hnext, hstate⟩⟩
  · rintro ⟨a, middle, ⟨hfirst, rfl⟩, ⟨hnext, hstate⟩⟩
    exact ⟨andThen_eq_ok_iff.2 ⟨a, hfirst, hnext⟩, (andThen_of_ok hfirst).2.trans hstate⟩

/-- The action fails, and this is how it leaves things. -/
structure Fails (outcome : Outcome σ ε α) (failure : ε) (state : σ) : Prop where
  answer : outcome.answer = .error failure
  state : outcome.state = state

theorem Fails.onState {outcome : Outcome σ ε α} {failure : ε} {state : σ}
    (h : outcome.Fails failure state) (f : σ → τ) : (outcome.onState f).Fails failure (f state) :=
  ⟨h.answer, congrArg f h.state⟩

theorem Fails.andThen {outcome : Outcome σ ε α} {failure : ε} {state : σ}
    (h : outcome.Fails failure state) (next : α → σ → Outcome σ ε β) :
    (outcome.andThen next).Fails failure state :=
  ⟨(andThen_of_error h.answer).1, (andThen_of_error h.answer).2.trans h.state⟩

theorem Fails.onError {outcome : Outcome σ ε α} {failure : ε} {state : σ}
    (h : outcome.Fails failure state) (f : ε → δ) : (outcome.onError f).Fails (f failure) state :=
  ⟨answer_onError_of_error h.answer, h.state⟩

theorem fails_andThen_iff {outcome : Outcome σ ε α} {next : α → σ → Outcome σ ε β} {failure : ε}
    {state : σ} :
    (outcome.andThen next).Fails failure state ↔ outcome.Fails failure state ∨
      ∃ a middle, outcome.Yields a middle ∧ (next a middle).Fails failure state := by
  cases hanswer : outcome.answer with
  | error other =>
      have hfails := Fails.andThen ⟨hanswer, rfl⟩ next
      constructor
      · rintro ⟨hfailure, hstate⟩
        obtain rfl := Except.error.inj (hfails.answer.symm.trans hfailure)
        exact .inl ⟨hanswer, hfails.state.symm.trans hstate⟩
      · rintro (hfirst | ⟨a, middle, hfirst, -⟩)
        · exact hfirst.andThen next
        · cases hanswer.symm.trans hfirst.answer
  | ok a =>
      obtain ⟨hsame, hend⟩ := @andThen_of_ok _ _ _ _ outcome next a hanswer
      constructor
      · rintro ⟨hfailure, hstate⟩
        exact .inr ⟨a, outcome.state, ⟨hanswer, rfl⟩, hsame.symm.trans hfailure,
          hend.symm.trans hstate⟩
      · rintro (hfirst | ⟨other, middle, hfirst, hnext⟩)
        · cases hanswer.symm.trans hfirst.answer
        · obtain rfl := Except.ok.inj (hanswer.symm.trans hfirst.answer)
          obtain rfl := hfirst.state
          exact ⟨hsame.trans hnext.answer, hend.trans hnext.state⟩

/-- The outcomes differ at most in what there is to log. -/
structure Agrees (outcome other : Outcome σ ε α) : Prop where
  answer : outcome.answer = other.answer
  state : outcome.state = other.state

theorem Agrees.trans {outcome other last : Outcome σ ε α} (h : outcome.Agrees other)
    (h' : other.Agrees last) : outcome.Agrees last :=
  ⟨h.answer.trans h'.answer, h.state.trans h'.state⟩

theorem Yields.andThen {outcome : Outcome σ ε α} {a : α} {state : σ} (h : outcome.Yields a state)
    (next : α → σ → Outcome σ ε β) : (outcome.andThen next).Agrees (next a state) := by
  obtain ⟨hanswer, hstate⟩ := @andThen_of_ok _ _ _ _ outcome next a h.answer
  rw [h.state] at hanswer hstate
  exact ⟨hanswer, hstate⟩

theorem Agrees.onState {outcome other : Outcome σ ε α} (h : outcome.Agrees other) (f : σ → τ) :
    (outcome.onState f).Agrees (other.onState f) :=
  ⟨h.answer, congrArg f h.state⟩

theorem Agrees.andThen {outcome other : Outcome σ ε α} (h : outcome.Agrees other)
    (next : α → σ → Outcome σ ε β) : (outcome.andThen next).Agrees (other.andThen next) := by
  cases hanswer : outcome.answer with
  | error failure =>
      obtain ⟨hfirst, hstate⟩ := @andThen_of_error _ _ _ _ _ next _ hanswer
      obtain ⟨hfirst', hstate'⟩ := @andThen_of_error _ _ _ _ _ next _ (h.answer.symm.trans hanswer)
      exact ⟨hfirst.trans hfirst'.symm, hstate.trans (h.state.trans hstate'.symm)⟩
  | ok a =>
      obtain ⟨hfirst, hstate⟩ := @andThen_of_ok _ _ _ _ _ next _ hanswer
      obtain ⟨hfirst', hstate'⟩ := @andThen_of_ok _ _ _ _ _ next _ (h.answer.symm.trans hanswer)
      rw [← h.state] at hfirst' hstate'
      exact ⟨hfirst.trans hfirst'.symm, hstate.trans hstate'.symm⟩

end Outcome

end ScriptPlugins
