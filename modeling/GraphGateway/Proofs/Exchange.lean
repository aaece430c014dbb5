/-
Actions told by what they give and which statements they execute.

The journal is threaded through every action, but all that an action sees of it are the statements
executed before, and all that it does to it is to add to its end. `Session.Gives` says this together
with the value and the statements, so that a longer action is told from the shorter ones it is made
of (`Gives.bind`) and the journal itself is looked at here only. An action that may fail and one
that keeps counters are told the same way.
-/
import GraphGateway.Protocol.Server

namespace GraphGateway

variable {α β : Type}

/-! ## Actions over the journal -/

namespace Session

/-- After the statements `earlier`, and whatever else the journal holds, the action gives `a` and
executes `statements`. -/
def Gives (x : Session α) (earlier : List String) (a : α) (statements : List String) : Prop :=
  ∀ j : Journal, j.statements = earlier →
    ∃ k : Journal, x.run j = (a, j ++ k) ∧ k.statements = statements

namespace Gives

variable {earlier ss ts : List String} {a : α} {b : β}

theorem pure (a : α) (earlier : List String) : Gives (Pure.pure a) earlier a [] := by
  intro j _
  refine ⟨[], ?_, rfl⟩
  rw [List.append_nil]
  rfl

theorem bind {x : Session α} {f : α → Session β} (hx : Gives x earlier a ss)
    (hf : Gives (f a) (earlier ++ ss) b ts) : Gives (x >>= f) earlier b (ss ++ ts) := by
  intro j hj
  obtain ⟨k, hk, hks⟩ := hx j hj
  obtain ⟨l, hl, hls⟩ := hf (j ++ k) (by rw [Journal.statements_append, hj, hks])
  refine ⟨k ++ l, ?_, by rw [Journal.statements_append, hks, hls]⟩
  rw [StateT.run_bind, hk]
  show (f a).run (j ++ k) = _
  rw [hl, List.append_assoc]

/-- Behind what executes nothing. -/
theorem after {x : Session α} {f : α → Session β} (hx : Gives x earlier a [])
    (hf : Gives (f a) earlier b ts) : Gives (x >>= f) earlier b ts := by
  have hf' : Gives (f a) (earlier ++ []) b ts := by rwa [List.append_nil]
  exact hx.bind hf'

/-- In front of what executes nothing. -/
theorem before {x : Session α} {f : α → Session β} (hx : Gives x earlier a ss)
    (hf : Gives (f a) (earlier ++ ss) b []) : Gives (x >>= f) earlier b ss := by
  have h := hx.bind hf
  rwa [List.append_nil] at h

/-- Logging comes in between without being seen. -/
theorem log (notice : Notice) (earlier : List String) : Gives (Session.log notice) earlier () [] :=
  fun _ _ => ⟨[.logged notice], rfl, rfl⟩

theorem after_log {notice : Notice} {x : Session α} (h : Gives x earlier a ss) :
    Gives (do Session.log notice; x) earlier a ss := (log notice earlier).after h

theorem map {x : Session α} (f : α → β) (h : Gives x earlier a ss) :
    Gives (f <$> x) earlier (f a) ss :=
  h.before (f := fun a => Pure.pure (f a)) (Gives.pure (f a) (earlier ++ ss))

end Gives

end Session

/-! ## Actions that may fail -/

namespace Attempt

/-- What an action that may fail gives on a given journal. -/
def result (x : Attempt α) (j : Journal) : Except Failure α := (x.run.run j).1

/-- The journal after an action that may fail. -/
def journal (x : Attempt α) (j : Journal) : Journal := (x.run.run j).2

/-- An action that may fail, told by its result and the statements it executes. -/
abbrev Gives (x : Attempt α) (earlier : List String) (result : Except Failure α)
    (statements : List String) : Prop := Session.Gives x.run earlier result statements

namespace Gives

variable {earlier ss ts : List String}

theorem pure (a : α) (earlier : List String) : Gives (Pure.pure a) earlier (.ok a) [] :=
  Session.Gives.pure (α := Except Failure α) (.ok a) earlier

theorem throw (f : Failure) (earlier : List String) :
    Gives (MonadExcept.throw f : Attempt α) earlier (.error f) [] :=
  Session.Gives.pure (α := Except Failure α) (.error f) earlier

theorem ofResult (r : Except Failure α) (earlier : List String) :
    Gives (Attempt.ofResult r) earlier r [] :=
  Session.Gives.pure r earlier

theorem lift {x : Session α} {a : α} (h : Session.Gives x earlier a ss) :
    Gives (ExceptT.lift x) earlier (.ok a) ss :=
  h.map Except.ok

theorem bind {x : Attempt α} {f : α → Attempt β} {a : α} {r : Except Failure β}
    (hx : Gives x earlier (.ok a) ss) (hf : Gives (f a) (earlier ++ ss) r ts) :
    Gives (x >>= f) earlier r (ss ++ ts) := by
  rw [Gives, ExceptT.run_bind]
  exact Session.Gives.bind hx hf

theorem bind_error {x : Attempt α} {f : α → Attempt β} {e : Failure}
    (hx : Gives x earlier (.error e) ss) : Gives (x >>= f) earlier (.error e) ss := by
  rw [Gives, ExceptT.run_bind]
  exact Session.Gives.before hx (Session.Gives.pure _ _)

/-- Behind what executes nothing. -/
theorem after {x : Attempt α} {f : α → Attempt β} {a : α} {r : Except Failure β}
    (hx : Gives x earlier (.ok a) []) (hf : Gives (f a) earlier r ts) :
    Gives (x >>= f) earlier r ts := by
  rw [Gives, ExceptT.run_bind]
  exact Session.Gives.after hx hf

/-- In front of what executes nothing. -/
theorem before {x : Attempt α} {f : α → Attempt β} {a : α} {r : Except Failure β}
    (hx : Gives x earlier (.ok a) ss) (hf : Gives (f a) (earlier ++ ss) r []) :
    Gives (x >>= f) earlier r ss := by
  rw [Gives, ExceptT.run_bind]
  exact Session.Gives.before hx hf

/-- Behind whatever the first action gives: what follows is told for each value that it may give. -/
theorem bind_result {x : Attempt α} {f : α → Attempt β} {r : Except Failure α}
    {g : α → Except Failure β} {u : α → List String} (hx : Gives x earlier r ss)
    (hf : ∀ a, r = .ok a → Gives (f a) (earlier ++ ss) (g a) (u a)) :
    Gives (x >>= f) earlier (r >>= g) (ss ++ r.toOption.elim [] u) := by
  cases r with
  | error e =>
    rw [Except.toOption, Option.elim_none, List.append_nil]
    exact hx.bind_error
  | ok a => exact hx.bind (hf a rfl)

/-- Behind a result that is already known. -/
theorem ofResult_bind {f : α → Attempt β} {r : Except Failure α} {g : α → Except Failure β}
    {u : α → List String} (hf : ∀ a, r = .ok a → Gives (f a) earlier (g a) (u a)) :
    Gives (Attempt.ofResult r >>= f) earlier (r >>= g) (r.toOption.elim [] u) := by
  refine (ofResult r earlier).bind_result fun a ha => ?_
  rw [List.append_nil]
  exact hf a ha

/-- In front of a value made of what the first action gives. -/
theorem bind_pure {x : Attempt α} {r : Except Failure α} (f : α → β) (hx : Gives x earlier r ss) :
    Gives (x >>= fun a => Pure.pure (f a)) earlier (r.map f) ss := by
  cases r with
  | error e => exact hx.bind_error
  | ok a => exact hx.before (pure (f a) _)

theorem result_eq {x : Attempt α} {r : Except Failure α} {j : Journal}
    (h : Gives x j.statements r ss) : x.result j = r := by
  obtain ⟨k, hk, -⟩ := h j rfl
  rw [result, hk]

theorem statements_eq {x : Attempt α} {r : Except Failure α} {j : Journal}
    (h : Gives x j.statements r ss) : (x.journal j).statements = j.statements ++ ss := by
  obtain ⟨k, hk, hks⟩ := h j rfl
  rw [journal, hk, Journal.statements_append, hks]

end Gives

end Attempt

/-! ## Actions that keep counters -/

namespace Protocol

namespace Stats

/-- Counters of one action and of another. -/
instance : Add Stats where
  add s t := ⟨s.totalRequests + t.totalRequests, s.toolCalls + t.toolCalls,
    s.toolErrors + t.toolErrors, s.transportErrors + t.transportErrors⟩

theorem add_def (s t : Stats) : s + t = ⟨s.totalRequests + t.totalRequests,
    s.toolCalls + t.toolCalls, s.toolErrors + t.toolErrors,
    s.transportErrors + t.transportErrors⟩ := rfl

theorem add_assoc (s t u : Stats) : s + t + u = s + (t + u) := by
  simp only [add_def, UInt64.add_assoc]

@[simp] theorem add_zero (s : Stats) : s + {} = s := by
  simp only [add_def, UInt64.add_zero]

@[simp] theorem zero_add (s : Stats) : ({} : Stats) + s = s := by
  simp only [add_def, UInt64.zero_add]

end Stats

namespace Serving

/-- What an action gives on given counters and journal. -/
def value (x : Serving α) (stats : Stats) (j : Journal) : α := ((x.run stats).run j).1.1

/-- The counters after an action. -/
def counters (x : Serving α) (stats : Stats) (j : Journal) : Stats := ((x.run stats).run j).1.2

/-- The journal after an action. -/
def journal (x : Serving α) (stats : Stats) (j : Journal) : Journal := ((x.run stats).run j).2

/-- An action that keeps counters: what it gives, how much it counts, whatever the counters were,
and the statements it executes. -/
def Gives (x : Serving α) (earlier : List String) (a : α) (counted : Stats)
    (statements : List String) : Prop :=
  ∀ stats : Stats, Session.Gives (x.run stats) earlier (a, stats + counted) statements

namespace Gives

variable {earlier ss ts : List String} {c d : Stats}

theorem pure (a : α) (earlier : List String) : Gives (Pure.pure a) earlier a {} [] := by
  intro stats
  rw [Stats.add_zero]
  exact Session.Gives.pure (a, stats) earlier

theorem bind {x : Serving α} {f : α → Serving β} {a : α} {b : β} (hx : Gives x earlier a c ss)
    (hf : Gives (f a) (earlier ++ ss) b d ts) : Gives (x >>= f) earlier b (c + d) (ss ++ ts) := by
  intro stats
  rw [StateT.run_bind, ← Stats.add_assoc]
  exact Session.Gives.bind (hx stats) (hf (stats + c))

theorem of_eq {x : Serving α} {a : α} (hc : c = d) (h : Gives x earlier a c ss) :
    Gives x earlier a d ss := by rwa [← hc]

/-- Behind an action that executes nothing. -/
theorem behind {x : Serving α} {f : α → Serving β} {a : α} {b : β} (hx : Gives x earlier a c [])
    (hf : Gives (f a) earlier b d ts) : Gives (x >>= f) earlier b (c + d) ts := by
  have hf' : Gives (f a) (earlier ++ []) b d ts := by rwa [List.append_nil]
  exact hx.bind hf'

/-- Behind an action that executes and counts nothing. -/
theorem after {x : Serving α} {f : α → Serving β} {a : α} {b : β} (hx : Gives x earlier a {} [])
    (hf : Gives (f a) earlier b d ts) : Gives (x >>= f) earlier b d ts := by
  have h := hx.behind hf
  rwa [Stats.zero_add] at h

/-- In front of an action that executes nothing. -/
theorem before {x : Serving α} {f : α → Serving β} {a : α} {b : β} (hx : Gives x earlier a c ss)
    (hf : Gives (f a) (earlier ++ ss) b d []) : Gives (x >>= f) earlier b (c + d) ss := by
  have h := hx.bind hf
  rwa [List.append_nil] at h

theorem lift {x : Session α} {a : α} (h : Session.Gives x earlier a ss) :
    Gives (StateT.lift x) earlier a {} ss := by
  intro stats
  rw [Stats.add_zero]
  exact h.map fun a => (a, stats)

theorem log (notice : Notice) (earlier : List String) : Gives (Serving.log notice) earlier () {} [] :=
  lift (Session.Gives.log notice earlier)

/-- Counting is adding to one counter. -/
theorem count {f : Stats → Stats} (hf : ∀ s, f s = s + c) (earlier : List String) :
    Gives (modify f) earlier () c [] := by
  intro stats
  rw [← hf stats]
  exact Session.Gives.pure ((), f stats) earlier

theorem value_eq {x : Serving α} {a : α} {j : Journal} (h : Gives x j.statements a c ss)
    (stats : Stats) : x.value stats j = a := by
  obtain ⟨k, hk, -⟩ := h stats j rfl
  rw [value, hk]

theorem counters_eq {x : Serving α} {a : α} {j : Journal} (h : Gives x j.statements a c ss)
    (stats : Stats) : x.counters stats j = stats + c := by
  obtain ⟨k, hk, -⟩ := h stats j rfl
  rw [counters, hk]

theorem statements_eq {x : Serving α} {a : α} {j : Journal} (h : Gives x j.statements a c ss)
    (stats : Stats) : (x.journal stats j).statements = j.statements ++ ss := by
  obtain ⟨k, hk, hks⟩ := h stats j rfl
  rw [journal, hk, Journal.statements_append, hks]

end Gives

end Serving

end Protocol

end GraphGateway
