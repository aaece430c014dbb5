/-
Lines handled one after another.

What comes of lines is what comes of each, put together: responses are written in order, counters
add up, and the engine sees the statements of one line after those of the line before
(`answerLines_has`). If the engine's answers do not depend on earlier statements, nothing of this
depends on them, so every line is handled as if it were the first (`lineEffect_of_forgetful`).
-/
import GraphGateway.Protocol.Stream
import GraphGateway.Proofs.Catalog.Completeness
import GraphGateway.Proofs.Protocol.Reply

namespace GraphGateway

namespace Protocol

/-! ## One line after another -/

/-- What comes of two stretches of lines, the bytes of one being written after those of the other. -/
instance : Append (Effect (List UInt8)) where
  append a b :=
    { value := a.value ++ b.value
      counted := a.counted + b.counted
      statements := a.statements ++ b.statements }

theorem Effect.append_def (a b : Effect (List UInt8)) : a ++ b =
    { value := a.value ++ b.value
      counted := a.counted + b.counted
      statements := a.statements ++ b.statements } := rfl

theorem Effect.append_assoc (a b c : Effect (List UInt8)) : a ++ b ++ c = a ++ (b ++ c) := by
  simp only [append_def, List.append_assoc, Stats.add_assoc]

theorem Effect.nil_append (a : Effect (List UInt8)) : ({ value := [] } : Effect (List UInt8)) ++ a = a := by
  simp only [append_def, List.nil_append, Stats.zero_add]

/-- The bytes that a line is answered with: its response on a line of its own, if there is one. -/
def frame : Option Response → List UInt8
  | none => []
  | some response => Text.Utf8.encode response.text ++ [newline]

namespace Server

variable (service : Service) (now : Calendar.Moment) (earlier : List String)

/-- What comes of a line if its response is written. -/
def framedEffect (line : List UInt8) : Effect (List UInt8) where
  value := frame (lineEffect service now earlier line).value
  counted := (lineEffect service now earlier line).counted
  statements := (lineEffect service now earlier line).statements

/-- What comes of lines as they arrive, if all responses are written. -/
def linesEffect : List String → List Arrival → Effect (List UInt8)
  | _, [] => { value := [] }
  | earlier, (now, line) :: arrivals =>
    framedEffect service now earlier line ++
      linesEffect (earlier ++ (lineEffect service now earlier line).statements) arrivals

/-- Into a sink that takes everything, all lines are answered. -/
theorem answerLines_has (atEnd : Option Failure) (arrivals : List Arrival) :
    (answerLines service atEnd none arrivals).Has earlier
      { value := ⟨(linesEffect service earlier arrivals).value, atEnd⟩
        counted := (linesEffect service earlier arrivals).counted
        statements := (linesEffect service earlier arrivals).statements } := by
  induction arrivals generalizing earlier with
  | nil => exact Serving.Gives.pure _ earlier
  | cons arrival arrivals ih =>
    obtain ⟨now, line⟩ := arrival
    have hline := handleBytes_has service now earlier line
    have hrest := ih (earlier ++ (lineEffect service now earlier line).statements)
    unfold answerLines
    cases hvalue : (lineEffect service now earlier line).value with
    | none =>
      simp only [Serving.Has, hvalue] at hline
      simp only [linesEffect, Effect.append_def, framedEffect, hvalue, frame, List.nil_append]
      exact hline.bind hrest
    | some response =>
      simp only [Serving.Has, hvalue] at hline
      simp only [linesEffect, Effect.append_def, framedEffect, hvalue, frame]
      exact hline.bind (.of_eq (Stats.add_zero _) (hrest.before (Serving.Gives.pure _ _)))

variable (clock : Clock)

/-- What comes of a source that does not fail, served into a sink that takes everything. -/
def streamEffect (bytes : List UInt8) : Effect Delivery where
  value := ⟨(linesEffect service earlier (clock.arrivals (linesOf bytes))).value, none⟩
  counted := (linesEffect service earlier (clock.arrivals (linesOf bytes))).counted
  statements := (linesEffect service earlier (clock.arrivals (linesOf bytes))).statements

theorem serve_has (bytes : List UInt8) :
    (serve service clock ⟨bytes, none⟩ none).Has earlier
      (streamEffect service earlier clock bytes) := by
  unfold serve
  refine (Serving.Gives.log _ earlier).after ?_
  refine .of_eq (Stats.add_zero _) ((answerLines_has service earlier none _).before ?_)
  exact (Serving.Gives.log _ _).after (Serving.Gives.pure _ _)

end Server

end Protocol

/-! ## Engines that forget -/

namespace Catalog

theorem inquiriesAbout_of_forgetful {e : Engine} (he : e.Forgetful) (earlier : List String)
    (table : String × TableKind) : inquiriesAbout e earlier table = inquiriesAbout e [] table := by
  obtain ⟨name, kind⟩ := table
  cases kind with
  | entity => rfl
  | relationship => simp only [inquiriesAbout, he.result_eq earlier]

theorem inquiries_of_forgetful {e : Engine} (he : e.Forgetful) (earlier : List String)
    (rows : List Row) :
    inquiries e earlier rows =
      rows.flatMap fun row => (tableOf? row).elim [] (inquiriesAbout e []) := by
  induction rows generalizing earlier with
  | nil => rfl
  | cons row rows ih =>
    rw [inquiries, List.flatMap_cons]
    cases tableOf? row with
    | none => exact ih earlier
    | some table =>
      simp only [ih]
      rw [inquiriesAbout_of_forgetful he earlier]
      rfl

end Catalog

namespace Engine.Forgetful

variable {e : Engine} (he : e.Forgetful) (earlier : List String)
include he

theorem reflection_eq : e.reflection earlier = e.reflection [] := by
  rw [Catalog.reflection_of_forgetful he, Catalog.reflection_of_forgetful he]

theorem reflectionStatements_eq : e.reflectionStatements earlier = e.reflectionStatements [] := by
  unfold reflectionStatements
  rw [he.result_eq earlier]
  cases e.result [] Catalog.showTables with
  | error f => rfl
  | ok rows => simp only [Catalog.inquiries_of_forgetful he]

end Engine.Forgetful

namespace Protocol

section Forgetful

variable {service : Service} (he : service.engine.Forgetful) (now : Calendar.Moment)
  (earlier : List String) (members : Members)
include he

theorem Tool.outcome_of_forgetful (t : Tool) :
    t.outcome service now earlier members = t.outcome service now [] members := by
  have hanswer : t.answer service now earlier members = t.answer service now [] members := by
    cases t with
    | graphQuery =>
      unfold answer
      simp only [he.result_eq earlier]
    | getSchema => rw [answer, answer, he.reflection_eq earlier]
    | healthCheck => rw [answer, answer, he.result_eq earlier]
    | generateCypher => rfl
  rw [outcome, outcome, hanswer]

theorem Tool.statements_of_forgetful (t : Tool) :
    t.statements service.engine earlier members = t.statements service.engine [] members := by
  have hinquiries : t.inquiries service.engine earlier members =
      t.inquiries service.engine [] members := by
    cases t with
    | getSchema => rw [inquiries, inquiries, he.reflectionStatements_eq earlier]
    | graphQuery | healthCheck | generateCypher => rfl
  rw [statements, statements, hinquiries]

theorem Prompt.answer_of_forgetful (p : Prompt) :
    p.answer service.engine earlier members = p.answer service.engine [] members := by
  cases p with
  | generateCypher => rw [answer, answer, he.reflection_eq earlier]

namespace Server

theorem methodEffect_of_forgetful (params : Json) (m : Method) :
    methodEffect service now earlier params m = methodEffect service now [] params m := by
  cases m with
  | handshake | ping | listTools | listPrompts => rfl
  | callTool =>
    unfold methodEffect toolEffect
    simp only [Tool.outcome_of_forgetful he now earlier, Tool.statements_of_forgetful he earlier]
  | getPrompt =>
    unfold methodEffect promptEffect
    simp only [Prompt.answer_of_forgetful he earlier, he.reflectionStatements_eq earlier]

/-- Every line is handled as if it were the first. -/
theorem lineEffect_of_forgetful (line : List UInt8) :
    lineEffect service now earlier line = lineEffect service now [] line := by
  unfold lineEffect textEffect requestEffect callEffect
  simp only [methodEffect_of_forgetful he now earlier]

theorem linesEffect_of_forgetful (arrivals : List Arrival) :
    linesEffect service earlier arrivals = linesEffect service [] arrivals := by
  induction arrivals generalizing earlier with
  | nil => rfl
  | cons arrival arrivals ih =>
    obtain ⟨now, line⟩ := arrival
    rw [linesEffect, linesEffect, ih, ih ([] ++ _), framedEffect, framedEffect,
      lineEffect_of_forgetful he now earlier]

theorem linesEffect_cons (line : List UInt8) (arrivals : List Arrival) :
    linesEffect service [] ((now, line) :: arrivals) =
      framedEffect service now [] line ++ linesEffect service [] arrivals := by
  rw [linesEffect, linesEffect_of_forgetful he ([] ++ _)]

theorem linesEffect_append (arrivals others : List Arrival) :
    linesEffect service [] (arrivals ++ others) =
      linesEffect service [] arrivals ++ linesEffect service [] others := by
  induction arrivals with
  | nil => exact (Effect.nil_append _).symm
  | cons arrival arrivals ih =>
    rw [List.cons_append, linesEffect_cons he, linesEffect_cons he, ih, Effect.append_assoc]

/-- The bytes written are those of each line in turn. -/
theorem linesEffect_value (arrivals : List Arrival) :
    (linesEffect service [] arrivals).value =
      arrivals.flatMap fun (now, line) => frame (lineEffect service now [] line).value := by
  induction arrivals with
  | nil => rfl
  | cons arrival arrivals ih =>
    rw [linesEffect_cons he, List.flatMap_cons, ← ih]
    rfl

end Server

end Forgetful

end Protocol

end GraphGateway
