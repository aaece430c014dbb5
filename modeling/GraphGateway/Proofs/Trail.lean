/-
What an action leaves in the journal.

An action can do nothing to the journal but add to its end. `Session.Leaves` says this together with
a condition on what the action gives and what it adds, so that a longer action is told from the
shorter ones it is made of (`Leaves.bind`), whatever the journal held before.

Almost every action of the program adds nothing but log messages and the trails of statements that
were run to their end (`Journal.Whole`). An action that does is said to settle, and settling is all
that has to be known of it where only statements, cursors and openings are looked at.
-/
import GraphGateway.Query

namespace GraphGateway

variable {α β : Type}

namespace Session

variable {P P' : α → Journal → Prop} {Q : β → Journal → Prop}

/-- Whatever the journal holds, the action adds to its end, and what it gives and what it adds are
as the condition asks. -/
def Leaves (x : Session α) (P : α → Journal → Prop) : Prop :=
  ∀ j : Journal, ∃ a k, x.run j = (a, j ++ k) ∧ P a k

namespace Leaves

theorem pure {a : α} (h : P a []) : Leaves (Pure.pure a) P := fun j =>
  ⟨a, [], by rw [List.append_nil]; rfl, h⟩

theorem mono {x : Session α} (hx : Leaves x P) (h : ∀ a k, P a k → P' a k) : Leaves x P' :=
  fun j =>
    let ⟨a, k, hk, hp⟩ := hx j
    ⟨a, k, hk, h a k hp⟩

/-- The second of two actions is told from what the first one gave and left. -/
theorem bind {x : Session α} {f : α → Session β} (hx : Leaves x P)
    (hf : ∀ a k, P a k → Leaves (f a) fun b l => Q b (k ++ l)) : Leaves (x >>= f) Q := by
  intro j
  obtain ⟨a, k, hk, hp⟩ := hx j
  obtain ⟨b, l, hl, hq⟩ := hf a k hp (j ++ k)
  refine ⟨b, k ++ l, ?_, hq⟩
  rw [StateT.run_bind, hk]
  show (f a).run (j ++ k) = _
  rw [hl, List.append_assoc]

/-- An action adds what it adds with another value put in place of its own. -/
theorem of_map {x : Session α} {f : α → β} (hx : Leaves (f <$> x) Q)
    (h : ∀ a k, Q (f a) k → P a k) : Leaves x P := by
  intro j
  obtain ⟨b, k, hk, hq⟩ := hx j
  rw [StateT.run_map] at hk
  cases hk' : x.run j with
  | mk a l =>
    rw [hk'] at hk
    obtain ⟨rfl, rfl⟩ := Prod.mk.inj hk
    exact ⟨a, k, rfl, h a k hq⟩

theorem record {event : Event} {R : Unit → Journal → Prop} (h : R () [event]) :
    Leaves (Session.record event) R := fun _ => ⟨(), [event], rfl, h⟩

/-- Behind an event. -/
theorem after {event : Event} {x : Session β} (h : Leaves x fun b l => Q b (event :: l)) :
    Leaves (do Session.record event; x) Q :=
  (record (R := fun _ k => k = [event]) rfl).bind fun _ _ hk => by
    subst hk
    exact h

/-- What an action gives and adds on a given journal. -/
theorem on {x : Session α} (hx : Leaves x P) (j : Journal) :
    (x.run j).2 = j ++ (x.run j).2.drop j.length ∧
      P (x.run j).1 ((x.run j).2.drop j.length) := by
  obtain ⟨a, k, hk, hp⟩ := hx j
  rw [hk, List.drop_left]
  exact ⟨rfl, hp⟩

end Leaves

end Session

/-! ## Statements run to their end -/

/-- Made of log messages and of the trails of statements. -/
inductive Journal.Whole : Journal → Prop
  | nil : Whole []
  | log (notice : Notice) {k : Journal} (h : Whole k) : Whole (.logged notice :: k)
  | statement (e : Engine) (earlier : List String) (statement : String) {k : Journal}
      (h : Whole k) : Whole (e.trail earlier statement ++ k)

namespace Journal.Whole

variable {k l : Journal}

theorem append (hk : Whole k) (hl : Whole l) : Whole (k ++ l) := by
  induction hk with
  | nil => exact hl
  | log notice _ ih => exact .log notice ih
  | statement e earlier statement _ ih =>
    rw [List.append_assoc]
    exact .statement e earlier statement ih

theorem trail (e : Engine) (earlier : List String) (statement : String) :
    Whole (e.trail earlier statement) := by
  have h := Whole.statement e earlier statement .nil
  rwa [List.append_nil] at h

end Journal.Whole

/-- Adds log messages and trails of statements only. -/
abbrev Session.Settles (x : Session α) : Prop := x.Leaves fun _ k => k.Whole

namespace Session.Settles

theorem pure (a : α) : Settles (Pure.pure a) := Leaves.pure .nil

theorem bind {x : Session α} {f : α → Session β} (hx : Settles x) (hf : ∀ a, Settles (f a)) :
    Settles (x >>= f) :=
  Leaves.bind hx fun a _ hk => (hf a).mono fun _ _ hl => hk.append hl

theorem log (notice : Notice) : Settles (Session.log notice) := Leaves.record (.log notice .nil)

/-- Behind a log message. -/
theorem after_log {notice : Notice} {x : Session α} (hx : Settles x) :
    Settles (do Session.log notice; x) :=
  (log notice).bind fun _ => hx

/-- A statement that is run to its end leaves its trail. -/
theorem query (e : Engine) (statement : String) : Settles (e.query statement).run := fun j =>
  ⟨_, _, e.query_run statement j, .trail e j.statements statement⟩

end Session.Settles

end GraphGateway
