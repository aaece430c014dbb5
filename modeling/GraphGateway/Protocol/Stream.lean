/-
Serving a stream of lines.

Input is cut behind each newline, and the responses are written one to a line, in order. The next
line is handled only when the response to the one before has been written, so a sink that takes no
more ends the loop there. A source may fail where its input ends; what has not been ended by a
newline is then lost. Time passes while a stream is served: every line arrives at a time of its own,
and that is the time a health check is told which it asks for.
-/
import GraphGateway.Protocol.Server

namespace GraphGateway.Protocol

/-- The byte that ends a line. -/
def newline : UInt8 := 0x0A

/-- The lines of a byte sequence, each with the newline that ends it; the last may have none. -/
def linesOf : List UInt8 → List (List UInt8)
  | [] => []
  | b :: bytes =>
    if b = newline then [b] :: linesOf bytes
    else
      match linesOf bytes with
      | [] => [[b]]
      | line :: lines => (b :: line) :: lines

/-- Nothing is lost by cutting. -/
theorem flatten_linesOf (bytes : List UInt8) : (linesOf bytes).flatten = bytes := by
  induction bytes with
  | nil => rfl
  | cons b bytes ih =>
    unfold linesOf
    split
    · simp [ih]
    · split <;> simp_all

/-- Where input comes from: its bytes, and why reading fails behind them, if it does. -/
structure Source where
  bytes : List UInt8
  fault : Option String := none

namespace Source

/-- The lines that are read before the input ends or fails. -/
def lines (s : Source) : List (List UInt8) :=
  match s.fault with
  | none => linesOf s.bytes
  | some _ => (linesOf s.bytes).filter (·.getLast? == some newline)

end Source

/-! ## Arrivals -/

/-- A line, and what time it is when it is handled. -/
abbrev Arrival := Calendar.Moment × List UInt8

/-- What time it is when each line of a stream is handled. -/
abbrev Clock := Nat → Calendar.Moment

namespace Clock

/-- The clock behind so many lines. -/
def after (clock : Clock) (n : Nat) : Clock := fun i => clock (n + i)

/-- Lines as they arrive by a clock. -/
def arrivals : Clock → List (List UInt8) → List Arrival
  | _, [] => []
  | clock, line :: lines => (clock 0, line) :: arrivals (clock.after 1) lines

variable (clock : Clock)

@[simp] theorem after_zero : clock.after 0 = clock := by
  funext i
  simp only [after, Nat.zero_add]

theorem after_after (m n : Nat) : (clock.after m).after n = clock.after (m + n) := by
  funext i
  simp only [after, Nat.add_assoc]

/-- The lines that follow others arrive by the clock behind those. -/
theorem arrivals_append (lines others : List (List UInt8)) :
    clock.arrivals (lines ++ others) =
      clock.arrivals lines ++ (clock.after lines.length).arrivals others := by
  induction lines generalizing clock with
  | nil => simp only [List.nil_append, List.length_nil, arrivals, after_zero]
  | cons line lines ih =>
    simp only [List.cons_append, arrivals, ih, after_after, List.length_cons, Nat.add_comm 1]

end Clock

/-! ## Serving -/

/-- What came of serving a stream: the bytes that the sink has taken, and why serving ended early,
if it did. -/
structure Delivery where
  written : List UInt8
  failure : Option Failure
deriving DecidableEq, Repr

/-- Why a sink that is full fails. -/
def sinkFull : String := "sink is full"

namespace Server

/-- Answers lines as they arrive into a sink that takes so many bytes more, or any number. What
follows the last response written is the reason of the end. -/
def answerLines (service : Service) (atEnd : Option Failure) :
    Option Nat → List Arrival → Serving Delivery
  | _, [] => pure ⟨[], atEnd⟩
  | room, (now, line) :: arrivals => do
    match ← handleBytes service now line with
    | none => answerLines service atEnd room arrivals
    | some response =>
      let bytes := Text.Utf8.encode response.text ++ [newline]
      if room.all (bytes.length ≤ ·) then
        let rest ← answerLines service atEnd (room.map (· - bytes.length)) arrivals
        pure ⟨bytes ++ rest.written, rest.failure⟩
      else pure ⟨bytes.take (room.getD 0), some (.io sinkFull)⟩

/-- Serves a source until it ends, or until it or the sink fails. -/
def serve (service : Service) (clock : Clock) (source : Source) (room : Option Nat) :
    Serving Delivery := do
  Serving.log .serverReady
  let delivery ← answerLines service (source.fault.map .io) room (clock.arrivals source.lines)
  if delivery.failure.isNone then Serving.log .serverClosed
  pure delivery

end Server

end GraphGateway.Protocol
